import Mathlib.Tactic.Linarith
import NodeNexus.Api.RateHistory

/-!
# Is the Retry-After of a refusal enough?

A refused client is told in whole seconds when to come back, while its oldest entry leaves the
window at a moment of its own.

* `timeLeft` — how long it takes, at a refusal, until the oldest entry leaves the window.
* `ComesBack` — a client is refused, stays away, keeps its entry, and comes back when it was told.
* `retry_after_iff` — it is then admitted exactly when the time left was at most one second or a
  whole number of seconds: `int` rounds the time left down, and the bound of one second makes good
  only what lies below it.
-/

namespace NodeNexus
namespace RateLimit

open Recency SlidingWindow

variable {K : Type} [Field K] [LinearOrder K]

/-- How long the oldest entry of the client that is inside the window will stay there. -/
def timeLeft (m : RateLimitMiddleware) (counts : IpCounts K) (client : String) (now : K) :
    Option K :=
  ((deque counts client).find? fun t => now - m.window < t).map fun oldest =>
    m.window - (now - oldest)

/-- The time left is at most a second or a whole number of seconds. -/
def WholeSecondsLeft (m : RateLimitMiddleware) (counts : IpCounts K) (client : String) (now : K) :
    Prop :=
  ∃ left, timeLeft m counts client now = some left ∧ (left ≤ 1 ∨ ∃ seconds : Int, left = seconds)

/-- In a log a client is refused, sends nothing that counts and is not evicted, and comes back
exactly after the seconds it was told. -/
structure ComesBack (log past : List (Event K)) (refused : Event K) (refusal : Refusal)
    (between : List (Event K)) (again : Event K) (future : List (Event K)) : Prop where
  log_eq : log = past ++ refused :: (between ++ again :: future)
  told : refused.reply = .limited refusal
  silent : ∀ e ∈ between, e.client ≠ refused.client
  stays : ∀ e ∈ between, e.evicts refused.client = false
  client_eq : again.client = refused.client
  now_eq : again.request.now = refused.request.now + refusal.retryAfter

/-! ## The two roundings -/

variable [FloorRing K] [IsStrictOrderedRing K]

omit [IsStrictOrderedRing K] in
theorem truncate_of_nonneg {x : K} (h : 0 ≤ x) : truncate x = ⌊x⌋ := if_pos h

/-- **A number is covered by its own floor, or by one, when it is whole or at most one.** -/
theorem le_max_floor_iff {left : K} :
    left ≤ ((max 1 ⌊left⌋ : Int) : K) ↔ left ≤ 1 ∨ ∃ seconds : Int, left = seconds := by
  rw [Int.cast_max, Int.cast_one, le_max_iff]
  constructor
  · rintro (h | h)
    · exact Or.inl h
    · exact Or.inr ⟨⌊left⌋, le_antisymm h (Int.floor_le left)⟩
  · rintro (h | ⟨seconds, rfl⟩)
    · exact Or.inl h
    · right
      rw [Int.floor_intCast]

/-- The oldest entry has left the window after the time told exactly when the time left was at
most a second or whole. -/
theorem expired_after_iff {m : RateLimitMiddleware} {now oldest : K}
    (hin : now - m.window < oldest) :
    oldest ≤ now + (retryAfter m now oldest : Int) - m.window ↔
      m.window - (now - oldest) ≤ 1 ∨ ∃ seconds : Int, m.window - (now - oldest) = seconds := by
  have hleft : 0 ≤ (m.window : K) - (now - oldest) := by linarith
  rw [retryAfter, truncate_of_nonneg hleft, ← le_max_floor_iff]
  constructor
  · intro h
    linarith
  · intro h
    linarith

/-! ## While the client stays away -/

omit [Field K] [LinearOrder K] [FloorRing K] [IsStrictOrderedRing K] in
/-- **Other requests leave a history alone** that they do not end. -/
theorem admittedTimes_append {client : String} {events : List (Event K)} (past : List (Event K))
    (hstays : ∀ e ∈ events, e.evicts client = false)
    (hother : ∀ e ∈ events, ¬(e.client = client ∧ e.admitted = true)) :
    admittedTimes client (past ++ events) = admittedTimes client past := by
  induction events generalizing past with
  | nil => rw [List.append_nil]
  | cons e events ih =>
      rw [show past ++ e :: events = (past ++ [e]) ++ events by simp,
        ih (past ++ [e]) (fun x hx => hstays x (List.mem_cons_of_mem _ hx))
          fun x hx => hother x (List.mem_cons_of_mem _ hx)]
      exact admittedTimes_of_other past (hstays e (List.mem_cons_self ..))
        (hother e (List.mem_cons_self ..))

omit [IsStrictOrderedRing K] in
/-- What a refusal says of the table: the client's deque is full, and its oldest entry sets the
time. -/
theorem kept_of_refused {m : RateLimitMiddleware} {past : List (Event K)} {counts : IpCounts K}
    {request : Request K} {refusal : Refusal} (ht : Tracks m past counts)
    (hcounted : request.excluded = false)
    (htold : (eventOf m counts request).reply = .limited refusal) :
    1 ≤ m.maxClients ∧ (eventOf m counts request).evicts request.clientIp = false ∧
      ∃ oldest rest, kept m counts request.clientIp request.now = oldest :: rest ∧
        (oldest :: rest).length = m.requests ∧
        refusal.retryAfter = retryAfter m request.now oldest := by
  by_cases hmax : m.maxClients = 0
  · have hsize : counts.size = 0 := Nat.le_zero.mp (hmax ▸ ht.bounded)
    simp [eventOf, dispatch_of_no_room hcounted hmax hsize] at htold
  have hone : 1 ≤ m.maxClients := Nat.pos_of_ne_zero hmax
  refine ⟨hone, ?_, ?_⟩
  · rcases dispatch_touches counts hcounted hone with ⟨_, hafter, _⟩
    exact not_evicts_self hafter
  rcases dispatch_cases counts hcounted hone with ⟨_, h⟩ | ⟨_, h⟩ | ⟨oldest, rest, hkept, hle, h⟩
  · simp [eventOf, h] at htold
  · simp [eventOf, h] at htold
  · refine ⟨oldest, rest, hkept, ?_, ?_⟩
    · rw [← hkept]
      refine le_antisymm ?_ hle
      exact (expire_length_le _ _ _).trans (ht.short request.clientIp)
    · rw [eventOf, h] at htold
      have hrefusal := Reply.limited.inj htold
      rw [← hrefusal]

omit [FloorRing K] [IsStrictOrderedRing K] in
/-- The oldest entry kept is the first one inside the window. -/
theorem timeLeft_of_kept {m : RateLimitMiddleware} {past : List (Event K)} {counts : IpCounts K}
    (ht : Tracks m past counts) {client : String} {now oldest : K} {rest : List K}
    (hkept : kept m counts client now = oldest :: rest) :
    timeLeft m counts client now = some (m.window - (now - oldest)) := by
  rw [kept, expire_eq_recent (ht.sorted client)] at hkept
  rw [timeLeft, ← List.head?_filter, ← recent.eq_def, hkept]
  rfl

/-- **When the Retry-After of a refusal is enough.** -/
theorem retry_after_iff (m : RateLimitMiddleware) (requests : List (Request K))
    (horder : requests.Pairwise fun r r' => r.now ≤ r'.now)
    {past between future : List (Event K)} {refused again : Event K} {refusal : Refusal}
    (h : ComesBack (log m Recency.empty requests) past refused refusal between again future) :
    again.admitted = true ↔
      WholeSecondsLeft m refused.before refused.client refused.request.now := by
  have hlog := h.log_eq
  rcases tracks_at (tracks_empty m) (by simp) horder hlog with ⟨ht, htime, hcounted, heq⟩
  rw [show past ++ refused :: (between ++ again :: future) =
    (past ++ refused :: between) ++ again :: future by simp] at hlog
  rcases tracks_at (tracks_empty m) (by simp) horder hlog with ⟨ht', htime', hcounted', heq'⟩
  rw [List.nil_append] at ht htime ht' htime'
  have htold := h.told
  rw [heq] at htold
  rcases kept_of_refused ht hcounted htold with ⟨hone, hself, oldest, rest, hkept, hlen, hretry⟩
  have hsorted : (oldest :: rest).Pairwise (· ≤ ·) := by
    rw [← hkept]
    exact expire_pairwise (ht.sorted _)
  have hin : refused.request.now - m.window < oldest := by
    have hmem : oldest ∈ kept m refused.before refused.request.clientIp refused.request.now := by
      rw [hkept]
      exact List.mem_cons_self ..
    rw [kept, expire_eq_recent (ht.sorted _)] at hmem
    exact (mem_recent.mp hmem).2
  -- the history of the client is the same at its return as at its refusal
  have hhistory : admittedTimes refused.client (past ++ refused :: between) =
      admittedTimes refused.client past := by
    refine admittedTimes_append past ?_ ?_
    · intro e he
      rcases List.mem_cons.mp he with rfl | he
      · rw [heq]
        exact hself
      · exact h.stays e he
    · rintro e he ⟨hclient, hadmitted⟩
      rcases List.mem_cons.mp he with rfl | he
      · simp [Event.admitted, h.told] at hadmitted
      · exact h.silent e he hclient
  have hlater : refused.request.now ≤ again.request.now := htime' refused (by simp)
  have hkept' : kept m again.before again.client again.request.now =
      recent (m.window : K) again.request.now (oldest :: rest) := by
    rw [ht'.kept_eq _ htime', h.client_eq, hhistory, ← hkept]
    rw [show refused.request.clientIp = refused.client from rfl, ht.kept_eq _ htime,
      recent_recent hlater]
  have hadmitted : again.admitted = true ↔
      (kept m again.before again.client again.request.now).length < m.requests := by
    rcases dispatch_touches again.before hcounted' hone with ⟨_, _, htimes⟩
    rw [← heq'] at htimes
    rcases htimes with ⟨hyes, hlt, _⟩ | ⟨hno, hle, _⟩
    · exact ⟨fun _ => hlt, fun _ => hyes⟩
    · exact ⟨fun hyes => absurd hyes (by simp [hno]), fun hlt => absurd hlt (not_lt.mpr hle)⟩
  rw [hadmitted, hkept', ← hlen, head_expired_iff hsorted, h.now_eq, hretry,
    expired_after_iff hin]
  constructor
  · intro hwhole
    exact ⟨_, timeLeft_of_kept ht hkept, hwhole⟩
  · rintro ⟨left, hleft, hwhole⟩
    rw [show refused.client = refused.request.clientIp from rfl, timeLeft_of_kept ht hkept] at hleft
    rw [Option.some.inj hleft]
    exact hwhole

/-! ## Two clients that come back -/

/-- A request of one client for a path that counts. -/
def scriptsAt (now : ℚ) : Request ℚ := ⟨"/scripts", some "10.0.0.1", none, now⟩

/-- One request a minute. -/
def oneAMinute : RateLimitMiddleware := { requests := 1, window := 60 }

/-- The table after one request at the start. -/
def afterFirst : IpCounts ℚ := (dispatch oneAMinute Recency.empty (scriptsAt 0)).1

theorem client_eventOf (m : RateLimitMiddleware) (counts : IpCounts ℚ) (request : Request ℚ) :
    (eventOf m counts request).client = request.clientIp :=
  rfl

/-- A client that is refused at `now` and comes back at `later`, in the log of its requests. -/
theorem comesBack_of_told {now later : ℚ} (refusal : Refusal)
    (htold : (dispatch oneAMinute afterFirst (scriptsAt now)).2 = .limited refusal)
    (hlater : later = now + refusal.retryAfter) :
    ComesBack (log oneAMinute Recency.empty [scriptsAt 0, scriptsAt now, scriptsAt later])
      [eventOf oneAMinute Recency.empty (scriptsAt 0)]
      (eventOf oneAMinute afterFirst (scriptsAt now)) refusal []
      (eventOf oneAMinute (dispatch oneAMinute afterFirst (scriptsAt now)).1 (scriptsAt later)) []
    where
  log_eq := rfl
  told := htold
  silent := fun _ he => absurd he List.not_mem_nil
  stays := fun _ he => absurd he List.not_mem_nil
  client_eq := by
    rw [client_eventOf, client_eventOf]
    rfl
  now_eq := hlater

/-- A second after its request the client is told to wait 59 seconds, and then it is admitted. -/
theorem retry_after_iff_whole :
    (eventOf oneAMinute (dispatch oneAMinute afterFirst (scriptsAt 1)).1 (scriptsAt 60)).admitted =
      true := by
  have hiff := retry_after_iff oneAMinute [scriptsAt 0, scriptsAt 1, scriptsAt 60]
    (by decide)
    (comesBack_of_told ⟨1, 59, none, "/scripts"⟩ (by decide +kernel) (by decide +kernel))
  exact hiff.2 ⟨59, by decide +kernel, .inr ⟨59, by decide +kernel⟩⟩

/-- A client that comes back when it was told is admitted. -/
def RetryAfterSuffices : Prop :=
  ∀ m : RateLimitMiddleware, 1 ≤ m.requests → 1 ≤ m.window →
    ∀ requests : List (Request ℚ), requests.Pairwise (fun r r' => r.now ≤ r'.now) →
      ∀ past refused refusal between again future,
        ComesBack (log m Recency.empty requests) past refused refusal between again future →
          again.admitted = true

/-- Half a second after its request the client is told to wait 59 seconds, and its entry leaves
the window after 59 and a half. -/
theorem not_retryAfterSuffices : ¬RetryAfterSuffices := by
  intro h
  have hagain := h oneAMinute (by decide) (by decide) [scriptsAt 0, scriptsAt (1 / 2),
    scriptsAt (119 / 2)] (by decide +kernel) _ _ _ _ _ _
    (comesBack_of_told ⟨1, 59, none, "/scripts"⟩ (by decide +kernel) (by decide +kernel))
  revert hagain
  decide +kernel

end RateLimit
end NodeNexus
