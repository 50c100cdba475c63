import Mathlib.Algebra.Order.Floor.Ring
import NodeNexus.Lib.Recency
import NodeNexus.Lib.SlidingWindow

/-!
# The rate limiter

`RateLimitMiddleware` keeps, for each client, the times of the requests it has let through, and
drops the times that have left the window when the client comes back.  Its table of clients is
bounded: the client seen longest ago makes room.

* `dispatch` — one request, as the middleware answers it; nothing in it awaits between reading
  the clock and recording the time, so requests are answered one after the other.
* `dispatch_cases` — everything a counted request can do; whatever is proved of the middleware
  goes through it.

Times are elements of an ordered field; the rounding of the machine's floats is not modelled.
-/

namespace NodeNexus
namespace RateLimit

open Recency SlidingWindow

/-! ## Requests and answers -/

/-- `EXCLUDED_PATHS`. -/
def excludedPaths : List String := ["/health", "/ready", "/metrics"]

/-- What the middleware reads of a request. -/
structure Request (K : Type) where
  path : String
  /-- `request.client.host`, where the request has a client. -/
  clientHost : Option String
  /-- `request.state.request_id`. -/
  requestId : Option String
  /-- `time.monotonic()` when the request is dispatched. -/
  now : K

/-- `client_ip`. -/
def Request.clientIp {K : Type} (request : Request K) : String :=
  request.clientHost.getD "unknown"

/-- The path is not limited. -/
def Request.excluded {K : Type} (request : Request K) : Bool :=
  excludedPaths.contains request.path

/-- `problem_content(...)`. -/
structure Problem where
  type : String
  title : String
  status : Nat
  detail : String
  code : String
  message : String
  requestId : Option String
  /-- `instance`: the path of the request. -/
  instancePath : String
  deriving DecidableEq

/-- What a refusal is made of. -/
structure Refusal where
  limit : Nat
  /-- `max(1, retry_after)`, in seconds. -/
  retryAfter : Int
  requestId : Option String
  path : String
  deriving DecidableEq

/-- The headers of a refusal. -/
def Refusal.headers (r : Refusal) : List (String × String) :=
  [("X-RateLimit-Limit", toString r.limit), ("X-RateLimit-Remaining", "0"),
    ("Retry-After", toString r.retryAfter)] ++
    (r.requestId.map fun id => ("X-Request-ID", id)).toList

/-- The body of a refusal, sent with status 429. -/
def Refusal.content (r : Refusal) : Problem where
  type := "https://nodenexusdev.github.io/node_nexus_api/en/errors/http-429"
  title := "Too Many Requests"
  status := 429
  detail := "Rate limit exceeded"
  code := "HTTP_429"
  message := "Rate limit exceeded"
  requestId := r.requestId
  instancePath := r.path

/-- How `dispatch` ends. -/
inductive Reply where
  /-- The response of the application, as it is. -/
  | passed
  /-- The response of the application with the headers `X-RateLimit-Limit` and
  `X-RateLimit-Remaining` set. -/
  | forwarded (limit remaining : Nat)
  /-- A response of the middleware's own. -/
  | limited (refusal : Refusal)
  /-- `popitem` on an empty table raises `KeyError`. -/
  | keyError
  /-- The first entry of an empty deque raises `IndexError`. -/
  | indexError
  deriving DecidableEq

/-! ## The middleware -/

/-- `RateLimitMiddleware.__init__`. -/
structure RateLimitMiddleware where
  requests : Nat := 100
  window : Nat := 60
  maxClients : Nat := 10000

/-- `_ip_counts`. -/
abbrev IpCounts (K : Type) := Recency String (List K)

/-- The times kept for a client, none where it has no entry. -/
def deque {K : Type} (counts : IpCounts K) (ip : String) : List K := (counts.get? ip).getD []

/-- The client is new and the table is full. -/
def full {K : Type} (m : RateLimitMiddleware) (counts : IpCounts K) (ip : String) : Bool :=
  decide (ip ∉ counts.keys) && decide (m.maxClients ≤ counts.size)

variable {K : Type}

/-- The table after room has been made for a client. -/
def roomFor (m : RateLimitMiddleware) (counts : IpCounts K) (ip : String) : IpCounts K :=
  if full m counts ip then counts.popFirst else counts

theorem full_iff {m : RateLimitMiddleware} {counts : IpCounts K} {ip : String} :
    full m counts ip = true ↔ ip ∉ counts.keys ∧ m.maxClients ≤ counts.size := by
  simp [full]

theorem deque_of_not_mem {counts : IpCounts K} {ip : String} (h : ip ∉ counts.keys) :
    deque counts ip = [] := by
  rw [deque, get?_eq_none.mpr h]
  rfl

/-- An entry of the table is the deque of its client. -/
theorem deque_of_mem {counts : IpCounts K} {entry : String × List K} (h : entry ∈ counts.entries) :
    deque counts entry.1 = entry.2 := by
  rw [deque, get?_eq_some.mpr h]
  rfl

/-- Making room for a client does not touch the client's own deque. -/
theorem deque_roomFor_self (m : RateLimitMiddleware) (counts : IpCounts K) (ip : String) :
    deque (roomFor m counts ip) ip = deque counts ip := by
  unfold roomFor
  by_cases hfull : full m counts ip = true
  · have hnew := (full_iff.mp hfull).1
    have hnew' : ip ∉ counts.popFirst.keys := by
      rw [keys_popFirst]
      exact fun h => hnew (List.mem_of_mem_tail h)
    rw [if_pos hfull, deque_of_not_mem hnew, deque_of_not_mem hnew']
  · rw [if_neg hfull]

theorem deque_touch_self (counts : IpCounts K) (ip : String) (times : List K) :
    deque (counts.touch ip times) ip = times := by
  rw [deque, get?_touch_self]
  rfl

theorem deque_touch_of_ne {counts : IpCounts K} {ip client : String} (times : List K)
    (h : client ≠ ip) : deque (counts.touch ip times) client = deque counts client := by
  rw [deque, get?_touch_of_ne times h]
  rfl

variable [Field K] [LinearOrder K]

/-- `_cleanup_old_entries`. -/
def cleanupOldEntries (m : RateLimitMiddleware) (counts : IpCounts K) (ip : String) (now : K) :
    IpCounts K :=
  counts.assign ip (expire (m.window : K) now (deque counts ip))

/-- `int(x)`: the fraction is cut off. -/
def truncate [FloorRing K] (x : K) : Int := if 0 ≤ x then ⌊x⌋ else ⌈x⌉

/-- `retry_after`, at least one second. -/
def retryAfter [FloorRing K] (m : RateLimitMiddleware) (now oldest : K) : Int :=
  max 1 (truncate ((m.window : K) - (now - oldest)))

/-- `dispatch`. -/
def dispatch [FloorRing K] (m : RateLimitMiddleware) (counts : IpCounts K) (request : Request K) :
    IpCounts K × Reply :=
  if request.excluded then (counts, .passed)
  else
    let ip := request.clientIp
    if full m counts ip && counts.size == 0 then (counts, .keyError)
    else
      let counts := if full m counts ip then counts.popFirst else counts
      let counts := (cleanupOldEntries m counts ip request.now).moveToEnd ip
      let currentCount := (deque counts ip).length
      let remaining := m.requests - currentCount - 1
      if m.requests ≤ currentCount then
        match deque counts ip with
        | [] => (counts, .indexError)
        | oldest :: _ =>
            (counts, .limited
              { limit := m.requests
                retryAfter := retryAfter m request.now oldest
                requestId := request.requestId.filter (· ≠ "")
                path := request.path })
      else (counts.assign ip (deque counts ip ++ [request.now]), .forwarded m.requests remaining)

/-! ## What a request does -/

/-- The deque of a client after the clean-up. -/
def kept (m : RateLimitMiddleware) (counts : IpCounts K) (ip : String) (now : K) : List K :=
  expire (m.window : K) now (deque counts ip)

variable [FloorRing K]

/-- A request for an excluded path is neither counted nor recorded. -/
theorem dispatch_of_excluded (m : RateLimitMiddleware) (counts : IpCounts K) {request : Request K}
    (h : request.excluded = true) : dispatch m counts request = (counts, .passed) := by
  rw [dispatch, if_pos h]

/-- Without room for any client every counted request fails. -/
theorem dispatch_of_no_room {m : RateLimitMiddleware} {counts : IpCounts K} {request : Request K}
    (h : request.excluded = false) (hmax : m.maxClients = 0) (hsize : counts.size = 0) :
    dispatch m counts request = (counts, .keyError) := by
  have hnone : request.clientIp ∉ counts.keys := by
    rw [List.eq_nil_of_length_eq_zero ((length_keys counts).trans hsize)]
    exact List.not_mem_nil
  have hfull : full m counts request.clientIp = true := full_iff.mpr ⟨hnone, by omega⟩
  rw [dispatch, if_neg (by simp [h]), if_pos (by simp [hfull, hsize])]

/-- **What a counted request can do.**  It is admitted below the limit and refused at it; the
middleware fails only where no request is allowed at all. -/
theorem dispatch_cases {m : RateLimitMiddleware} (counts : IpCounts K) {request : Request K}
    (h : request.excluded = false) (hmax : 1 ≤ m.maxClients) :
    (m.requests = 0 ∧ dispatch m counts request =
        ((roomFor m counts request.clientIp).touch request.clientIp
          (kept m counts request.clientIp request.now), .indexError)) ∨
    ((kept m counts request.clientIp request.now).length < m.requests ∧
      dispatch m counts request =
        ((roomFor m counts request.clientIp).touch request.clientIp
          (kept m counts request.clientIp request.now ++ [request.now]),
        .forwarded m.requests
          (m.requests - (kept m counts request.clientIp request.now).length - 1))) ∨
    (∃ oldest rest, kept m counts request.clientIp request.now = oldest :: rest ∧
      m.requests ≤ (kept m counts request.clientIp request.now).length ∧
      dispatch m counts request =
        ((roomFor m counts request.clientIp).touch request.clientIp
          (kept m counts request.clientIp request.now),
        .limited ⟨m.requests, retryAfter m request.now oldest, request.requestId.filter (· ≠ ""),
          request.path⟩)) := by
  have hroom : ¬(full m counts request.clientIp && counts.size == 0) = true := by
    rw [Bool.and_eq_true, full_iff, beq_iff_eq]
    omega
  have htouch : (cleanupOldEntries m (roomFor m counts request.clientIp) request.clientIp
      request.now).moveToEnd request.clientIp =
      (roomFor m counts request.clientIp).touch request.clientIp
        (kept m counts request.clientIp request.now) := by
    rw [cleanupOldEntries, moveToEnd_assign, deque_roomFor_self, kept]
  have heq : dispatch m counts request =
      if m.requests ≤ (kept m counts request.clientIp request.now).length then
        match kept m counts request.clientIp request.now with
        | [] => ((roomFor m counts request.clientIp).touch request.clientIp
            (kept m counts request.clientIp request.now), .indexError)
        | oldest :: _ => ((roomFor m counts request.clientIp).touch request.clientIp
            (kept m counts request.clientIp request.now), .limited
            ⟨m.requests, retryAfter m request.now oldest, request.requestId.filter (· ≠ ""),
              request.path⟩)
      else ((roomFor m counts request.clientIp).touch request.clientIp
          (kept m counts request.clientIp request.now ++ [request.now]),
        .forwarded m.requests
          (m.requests - (kept m counts request.clientIp request.now).length - 1)) := by
    rw [dispatch, if_neg (by simp [h]), if_neg hroom]
    simp only [← roomFor.eq_def, htouch, deque_touch_self, assign_touch]
  by_cases hcount : m.requests ≤ (kept m counts request.clientIp request.now).length
  · rw [if_pos hcount] at heq
    cases hkept : kept m counts request.clientIp request.now with
    | nil =>
        left
        rw [hkept] at hcount heq
        exact ⟨by simpa using hcount, heq⟩
    | cons oldest rest =>
        right
        right
        rw [hkept] at hcount heq
        exact ⟨oldest, rest, rfl, hcount, heq⟩
  · rw [if_neg hcount] at heq
    right
    left
    exact ⟨not_le.mp hcount, heq⟩

end RateLimit
end NodeNexus
