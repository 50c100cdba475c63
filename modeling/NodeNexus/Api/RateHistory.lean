import Mathlib.Data.List.DropRight
import Mathlib.Data.Rat.Floor
import NodeNexus.Api.RateLimit

/-!
# The history behind the rate limiter

What the rate limiter has in its table, told by the requests it has answered.

* `log` — what a sequence of requests does to an empty limiter, request by request.
* `admittedTimes` — the history: when a client was let through since it was last evicted.
* `Tracks` — the invariant: every deque holds the part of the history that can still count, and
  the table stands in the order of use.
* `SlidingWindowLimit` — what the limiter is for, said of a log and without the table.
* `rate_limit_window` — every log of requests in order of time keeps to it.
-/

namespace NodeNexus
namespace RateLimit

open Recency SlidingWindow

variable {K : Type}

/-! ## Logs -/

/-- A counted request with its answer, and the table before and after it. -/
structure Event (K : Type) where
  request : Request K
  before : IpCounts K
  after : IpCounts K
  reply : Reply

/-- The client of the request. -/
def Event.client (e : Event K) : String := e.request.clientIp

/-- The request was passed on to the application. -/
def Event.admitted (e : Event K) : Bool :=
  match e.reply with
  | .forwarded _ _ => true
  | _ => false

/-- The client had an entry, and has none any more. -/
def Event.evicts (e : Event K) (client : String) : Bool :=
  decide (client ∈ e.before.keys) && decide (client ∉ e.after.keys)

theorem Event.evicts_iff {e : Event K} {client : String} :
    e.evicts client = true ↔ client ∈ e.before.keys ∧ client ∉ e.after.keys := by
  simp [Event.evicts]

/-- When a client was let through since it was last evicted. -/
def admittedTimes (client : String) (past : List (Event K)) : List K :=
  ((past.rtakeWhile fun e => !e.evicts client).filter fun e =>
    e.client = client ∧ e.admitted = true).map fun e => e.request.now

/-! ## One more request in the history -/

@[simp] theorem admittedTimes_nil (client : String) :
    admittedTimes client ([] : List (Event K)) = [] := rfl

/-- An eviction ends the history of a client. -/
theorem admittedTimes_of_evicts {client : String} {e : Event K} (past : List (Event K))
    (h : e.evicts client = true) : admittedTimes client (past ++ [e]) = [] := by
  rw [admittedTimes, List.rtakeWhile_concat, if_neg (by simp [h])]
  rfl

/-- An admission of the client is added to its history. -/
theorem admittedTimes_of_admitted {client : String} {e : Event K} (past : List (Event K))
    (hkeep : e.evicts client = false) (hclient : e.client = client) (h : e.admitted = true) :
    admittedTimes client (past ++ [e]) = admittedTimes client past ++ [e.request.now] := by
  rw [admittedTimes, List.rtakeWhile_concat, if_pos (by simp [hkeep]), List.filter_append,
    List.map_append, admittedTimes]
  simp [hclient, h]

/-- Any other request leaves the history of the client as it is. -/
theorem admittedTimes_of_other {client : String} {e : Event K} (past : List (Event K))
    (hkeep : e.evicts client = false) (h : ¬(e.client = client ∧ e.admitted = true)) :
    admittedTimes client (past ++ [e]) = admittedTimes client past := by
  rw [admittedTimes, List.rtakeWhile_concat, if_pos (by simp [hkeep]), List.filter_append,
    List.map_append, admittedTimes]
  simp [h]

theorem exists_of_mem_admittedTimes {client : String} {t : K} {past : List (Event K)}
    (h : t ∈ admittedTimes client past) : ∃ e ∈ past, e.request.now = t := by
  rcases List.mem_map.mp h with ⟨e, he, ht⟩
  exact ⟨e, (List.rtakeWhile_suffix _ _).subset (List.mem_filter.mp he).1, ht⟩

/-! ## Who is evicted -/

/-- **A client is evicted exactly from the front of a full table**, for a new client. -/
theorem evicts_touch_iff {m : RateLimitMiddleware} {request : Request K} {counts : IpCounts K}
    {times : List K} {reply : Reply} {client : String} :
    (Event.mk request counts
      ((roomFor m counts request.clientIp).touch request.clientIp times) reply).evicts client = true ↔
      full m counts request.clientIp = true ∧ counts.keys.head? = some client := by
  rw [Event.evicts_iff, mem_keys_touch, not_or]
  unfold roomFor
  constructor
  · rintro ⟨hmem, hgone, hne⟩
    by_cases hfull : full m counts request.clientIp = true
    · rw [if_pos hfull, keys_popFirst] at hgone
      refine ⟨hfull, ?_⟩
      cases hkeys : counts.keys with
      | nil => simp [hkeys] at hmem
      | cons first others =>
          rw [hkeys] at hmem hgone
          rcases List.mem_cons.mp hmem with rfl | hmem
          · rfl
          · exact absurd hmem hgone
    · rw [if_neg hfull] at hgone
      exact absurd hmem hgone
  · rintro ⟨hfull, hhead⟩
    have hmem : client ∈ counts.keys := List.mem_of_mem_head? hhead
    rw [if_pos hfull]
    refine ⟨hmem, head_not_mem_popFirst hhead, ?_⟩
    rintro rfl
    exact (full_iff.mp hfull).1 hmem

/-- Who is not evicted keeps its deque when room is made. -/
theorem deque_roomFor {m : RateLimitMiddleware} {counts : IpCounts K} {ip client : String}
    (h : ¬(full m counts ip = true ∧ counts.keys.head? = some client)) :
    deque (roomFor m counts ip) client = deque counts client := by
  unfold roomFor
  by_cases hfull : full m counts ip = true
  · rw [if_pos hfull, deque, get?_popFirst fun hhead => h ⟨hfull, hhead⟩]
    rfl
  · rw [if_neg hfull]

/-- Who is evicted has no deque any more. -/
theorem deque_roomFor_of_head {m : RateLimitMiddleware} {counts : IpCounts K} {ip client : String}
    (hfull : full m counts ip = true) (hhead : counts.keys.head? = some client) :
    deque (roomFor m counts ip) client = [] := by
  refine deque_of_not_mem ?_
  rw [roomFor, if_pos hfull]
  exact head_not_mem_popFirst hhead

/-- Making room keeps the order of the clients, and drops none but the first. -/
theorem keys_roomFor (m : RateLimitMiddleware) (counts : IpCounts K) (ip : String) :
    (roomFor m counts ip).keys.Sublist counts.keys := by
  unfold roomFor
  by_cases hfull : full m counts ip = true
  · rw [if_pos hfull, keys_popFirst]
    exact List.tail_sublist _
  · rw [if_neg hfull]

/-- **The table stays inside its bound.** -/
theorem size_touch_roomFor_le {m : RateLimitMiddleware} {counts : IpCounts K} (ip : String)
    (times : List K) (hmax : 1 ≤ m.maxClients) (hsize : counts.size ≤ m.maxClients) :
    ((roomFor m counts ip).touch ip times).size ≤ m.maxClients := by
  rw [size_touch]
  unfold roomFor
  by_cases hfull : full m counts ip = true
  · have hpop : counts.popFirst.size = counts.size - 1 := by
      rw [← length_keys, keys_popFirst, List.length_tail, length_keys]
    rw [if_pos hfull, hpop]
    split_ifs
    · omega
    · omega
  · rw [if_neg hfull]
    rw [full_iff] at hfull
    by_cases hmem : ip ∈ counts.keys
    · rw [if_pos hmem]
      exact hsize
    · rw [if_neg hmem]
      have hlt : ¬m.maxClients ≤ counts.size := fun hle => hfull ⟨hmem, hle⟩
      omega

/-! ## The invariant -/

variable [Field K] [LinearOrder K]

/-- What the table of the limiter has to do with the requests so far. -/
structure Tracks (m : RateLimitMiddleware) (past : List (Event K)) (counts : IpCounts K) :
    Prop where
  /-- From now on, a deque counts as the history does. -/
  counts_history : ∀ client later, (∀ e ∈ past, e.request.now ≤ later) →
    recent (m.window : K) later (deque counts client) =
      recent (m.window : K) later (admittedTimes client past)
  sorted : ∀ client, (deque counts client).Pairwise (· ≤ ·)
  short : ∀ client, (deque counts client).length ≤ m.requests
  /-- The times are times of requests. -/
  seen : ∀ client, ∀ t ∈ deque counts client, ∃ e ∈ past, e.request.now = t
  /-- The clients stand in the order of their last requests. -/
  order : counts.keys.Pairwise (UsedSince (past.map Event.client))
  used : ∀ client ∈ counts.keys, client ∈ past.map Event.client
  bounded : counts.size ≤ m.maxClients

theorem tracks_empty (m : RateLimitMiddleware) : Tracks m ([] : List (Event K)) Recency.empty where
  counts_history := fun _ _ _ => rfl
  sorted := fun _ => List.Pairwise.nil
  short := fun _ => Nat.zero_le _
  seen := fun _ _ h => absurd h List.not_mem_nil
  order := List.Pairwise.nil
  used := fun _ h => absurd h List.not_mem_nil
  bounded := Nat.zero_le _

/-! ## One step -/

variable [FloorRing K]

/-- The event of a request at a table. -/
def eventOf (m : RateLimitMiddleware) (counts : IpCounts K) (request : Request K) : Event K :=
  ⟨request, counts, (dispatch m counts request).1, (dispatch m counts request).2⟩

/-- The requests that count, each with what it does to the table the ones before it leave. -/
def log (m : RateLimitMiddleware) (counts : IpCounts K) : List (Request K) → List (Event K)
  | [] => []
  | request :: requests =>
      let answer := dispatch m counts request
      if request.excluded then log m answer.1 requests
      else eventOf m counts request :: log m answer.1 requests

variable {m : RateLimitMiddleware} {request : Request K}

/-- A counted request leaves its client with what the clean-up kept, and with its own time when
it is admitted. -/
theorem dispatch_touches (counts : IpCounts K) (h : request.excluded = false) (hmax : 1 ≤ m.maxClients) :
    ∃ times, (dispatch m counts request).1 =
        (roomFor m counts request.clientIp).touch request.clientIp times ∧
      ((eventOf m counts request).admitted = true ∧
          (kept m counts request.clientIp request.now).length < m.requests ∧
          times = kept m counts request.clientIp request.now ++ [request.now] ∨
        (eventOf m counts request).admitted = false ∧
          m.requests ≤ (kept m counts request.clientIp request.now).length ∧
          times = kept m counts request.clientIp request.now) := by
  rcases dispatch_cases counts h hmax with ⟨hzero, heq⟩ | ⟨hlt, heq⟩ | ⟨_, _, _, hle, heq⟩
  · refine ⟨_, by rw [heq], Or.inr ⟨?_, by omega, rfl⟩⟩
    simp [eventOf, Event.admitted, heq]
  · refine ⟨_, by rw [heq], Or.inl ⟨?_, hlt, rfl⟩⟩
    simp [eventOf, Event.admitted, heq]
  · refine ⟨_, by rw [heq], Or.inr ⟨?_, hle, rfl⟩⟩
    simp [eventOf, Event.admitted, heq]

variable {counts : IpCounts K} {past : List (Event K)}

omit [FloorRing K] in
/-- What the clean-up keeps is the part of the history inside the window. -/
theorem Tracks.kept_eq (ht : Tracks m past counts) (client : String) {now : K}
    (htime : ∀ e ∈ past, e.request.now ≤ now) :
    kept m counts client now = recent (m.window : K) now (admittedTimes client past) := by
  rw [kept, expire_eq_recent (ht.sorted client), ht.counts_history client now htime]

/-- Where there is no room for any client the table stays empty. -/
theorem Tracks.no_room (ht : Tracks m past counts) (hmax : m.maxClients = 0)
    (h : request.excluded = false) :
    Tracks m (past ++ [eventOf m counts request]) (dispatch m counts request).1 := by
  have hsize : counts.size = 0 := Nat.le_zero.mp (hmax ▸ ht.bounded)
  have hkeys : counts.keys = [] := List.eq_nil_of_length_eq_zero ((length_keys counts).trans hsize)
  have heq := dispatch_of_no_room h hmax hsize
  have hkeep : ∀ client, (eventOf m counts request).evicts client = false := by
    intro client
    simp [Event.evicts, eventOf, hkeys]
  have hrefused : (eventOf m counts request).admitted = false := by
    simp [Event.admitted, eventOf, heq]
  have hhistory : ∀ client, admittedTimes client (past ++ [eventOf m counts request]) =
      admittedTimes client past := fun client =>
    admittedTimes_of_other past (hkeep client) (by simp [hrefused])
  rw [heq]
  refine ⟨?_, ht.sorted, ht.short, ?_, ?_, ?_, ht.bounded⟩
  · intro client later hlater
    rw [hhistory client]
    exact ht.counts_history client later fun e he => hlater e (List.mem_append_left _ he)
  · intro client t hmem
    rcases ht.seen client t hmem with ⟨e, he, hnow⟩
    exact ⟨e, List.mem_append_left _ he, hnow⟩
  · rw [hkeys]
    exact List.Pairwise.nil
  · rw [hkeys]
    exact fun _ hmem => absurd hmem List.not_mem_nil

/-- The deque of every client after a request. -/
theorem deque_after {times : List K} (client : String)
    (hafter : (dispatch m counts request).1 =
      (roomFor m counts request.clientIp).touch request.clientIp times) :
    deque (dispatch m counts request).1 client =
      if client = request.clientIp then times
      else if (eventOf m counts request).evicts client = true then [] else deque counts client := by
  have hevicts : (eventOf m counts request).evicts client = true ↔
      full m counts request.clientIp = true ∧ counts.keys.head? = some client := by
    rw [eventOf, hafter]
    exact evicts_touch_iff
  rw [hafter]
  by_cases hself : client = request.clientIp
  · rw [if_pos hself, hself, deque_touch_self]
  · rw [if_neg hself, deque_touch_of_ne times hself]
    by_cases hout : (eventOf m counts request).evicts client = true
    · rw [if_pos hout, deque_roomFor_of_head (hevicts.mp hout).1 (hevicts.mp hout).2]
    · rw [if_neg hout, deque_roomFor fun hfront => hout (hevicts.mpr hfront)]

/-- The client of a request is not evicted by it. -/
theorem not_evicts_self {times : List K}
    (hafter : (dispatch m counts request).1 =
      (roomFor m counts request.clientIp).touch request.clientIp times) :
    (eventOf m counts request).evicts request.clientIp = false := by
  rw [Bool.eq_false_iff, Ne, Event.evicts_iff]
  rintro ⟨_, hgone⟩
  refine hgone ?_
  simp only [eventOf, hafter]
  exact mem_keys_touch.mpr (Or.inr rfl)

variable [IsStrictOrderedRing K]

/-- The deque of the request's client goes on counting as its history does. -/
theorem Tracks.counts_own {times : List K} (ht : Tracks m past counts)
    (htime : ∀ e ∈ past, e.request.now ≤ request.now)
    (hafter : (dispatch m counts request).1 =
      (roomFor m counts request.clientIp).touch request.clientIp times)
    (htimes : (eventOf m counts request).admitted = true ∧
        times = kept m counts request.clientIp request.now ++ [request.now] ∨
      (eventOf m counts request).admitted = false ∧
        times = kept m counts request.clientIp request.now)
    {later : K} (hlater : request.now ≤ later) :
    recent (m.window : K) later times = recent (m.window : K) later
      (admittedTimes request.clientIp (past ++ [eventOf m counts request])) := by
  have hkept : recent (m.window : K) later (kept m counts request.clientIp request.now) =
      recent (m.window : K) later (admittedTimes request.clientIp past) := by
    rw [kept, recent_expire hlater (ht.sorted _)]
    exact ht.counts_history _ later fun e he => (htime e he).trans hlater
  rcases htimes with ⟨hadmitted, rfl⟩ | ⟨hrefused, rfl⟩
  · rw [admittedTimes_of_admitted past (not_evicts_self hafter) rfl hadmitted, recent_append, hkept,
      recent_append]
    rfl
  · rw [admittedTimes_of_other past (not_evicts_self hafter) (by simp [hrefused]), hkept]

/-- **A request keeps the table in step with the history.** -/
theorem tracks_step (ht : Tracks m past counts) (h : request.excluded = false)
    (htime : ∀ e ∈ past, e.request.now ≤ request.now) :
    Tracks m (past ++ [eventOf m counts request]) (dispatch m counts request).1 := by
  by_cases hmax : m.maxClients = 0
  · exact ht.no_room hmax h
  have hone : 1 ≤ m.maxClients := Nat.pos_of_ne_zero hmax
  rcases dispatch_touches counts h hone with ⟨times, hafter, htimes⟩
  have hkeptSorted : (kept m counts request.clientIp request.now).Pairwise (· ≤ ·) :=
    expire_pairwise (ht.sorted request.clientIp)
  have hkeptSeen : ∀ t ∈ kept m counts request.clientIp request.now,
      ∃ e ∈ past, e.request.now = t := fun t hmem => ht.seen _ t (mem_of_mem_expire hmem)
  -- the deque of the request's client is in order, and inside the limit
  have htimesSorted : times.Pairwise (· ≤ ·) := by
    rcases htimes with ⟨_, _, rfl⟩ | ⟨_, _, rfl⟩
    · rw [List.pairwise_append]
      refine ⟨hkeptSorted, List.pairwise_singleton _ _, ?_⟩
      intro t hmem t' hmem'
      rcases hkeptSeen t hmem with ⟨e, he, rfl⟩
      rw [List.mem_singleton.mp hmem']
      exact htime e he
    · exact hkeptSorted
  have htimesShort : times.length ≤ m.requests := by
    rcases htimes with ⟨_, hlt, rfl⟩ | ⟨_, _, rfl⟩
    · rw [List.length_append, List.length_singleton]
      exact hlt
    · exact (expire_length_le _ _ _).trans (ht.short _)
  have htimesSeen : ∀ t ∈ times, ∃ e ∈ past ++ [eventOf m counts request], e.request.now = t := by
    intro t hmem
    rcases htimes with ⟨_, _, rfl⟩ | ⟨_, _, rfl⟩
    · rcases List.mem_append.mp hmem with hmem | hmem
      · rcases hkeptSeen t hmem with ⟨e, he, hnow⟩
        exact ⟨e, List.mem_append_left _ he, hnow⟩
      · rw [List.mem_singleton.mp hmem]
        exact ⟨eventOf m counts request, by simp, rfl⟩
    · rcases hkeptSeen t hmem with ⟨e, he, hnow⟩
      exact ⟨e, List.mem_append_left _ he, hnow⟩
  refine ⟨?_, ?_, ?_, ?_, ?_, ?_, ?_⟩
  · intro client later hlater
    have hpast : ∀ e ∈ past, e.request.now ≤ later := fun e he =>
      hlater e (List.mem_append_left _ he)
    have hnow : request.now ≤ later := hlater (eventOf m counts request) (by simp)
    rw [deque_after client hafter]
    by_cases hself : client = request.clientIp
    · rw [if_pos hself, hself]
      refine ht.counts_own htime hafter ?_ hnow
      rcases htimes with ⟨ha, _, ht⟩ | ⟨ha, _, ht⟩
      · exact Or.inl ⟨ha, ht⟩
      · exact Or.inr ⟨ha, ht⟩
    · rw [if_neg hself]
      by_cases hout : (eventOf m counts request).evicts client = true
      · rw [if_pos hout, admittedTimes_of_evicts past hout]
      · rw [if_neg hout, admittedTimes_of_other past (by simpa using hout)
          (fun hown => hself hown.1.symm)]
        exact ht.counts_history client later hpast
  · intro client
    rw [deque_after client hafter]
    split_ifs
    · exact htimesSorted
    · exact List.Pairwise.nil
    · exact ht.sorted client
  · intro client
    rw [deque_after client hafter]
    split_ifs
    · exact htimesShort
    · exact Nat.zero_le _
    · exact ht.short client
  · intro client t hmem
    rw [deque_after client hafter] at hmem
    split_ifs at hmem
    · exact htimesSeen t hmem
    · exact absurd hmem List.not_mem_nil
    · rcases ht.seen client t hmem with ⟨e, he, hnow⟩
      exact ⟨e, List.mem_append_left _ he, hnow⟩
  · rw [hafter, List.map_append]
    exact pairwise_touch _ times (ht.order.sublist (keys_roomFor m counts _))
  · intro client hmem
    rw [hafter] at hmem
    rw [List.map_append, List.mem_append]
    rcases mem_keys_touch.mp hmem with hmem | rfl
    · exact Or.inl (ht.used client ((keys_roomFor m counts _).subset hmem))
    · exact Or.inr (by simp [Event.client, eventOf])
  · rw [hafter]
    exact size_touch_roomFor_le _ times hone ht.bounded

/-! ## Whole runs -/

/-- **Every request of a run meets a table in step with the history**, and is answered from it. -/
theorem tracks_at {requests : List (Request K)} {past : List (Event K)} {counts : IpCounts K}
    (ht : Tracks m past counts) (hpast : ∀ e ∈ past, ∀ r ∈ requests, e.request.now ≤ r.now)
    (horder : requests.Pairwise fun r r' => r.now ≤ r'.now) {before after : List (Event K)}
    {e : Event K} (hlog : log m counts requests = before ++ e :: after) :
    Tracks m (past ++ before) e.before ∧ (∀ x ∈ past ++ before, x.request.now ≤ e.request.now) ∧
      e.request.excluded = false ∧ e = eventOf m e.before e.request := by
  induction requests generalizing past counts before with
  | nil => simp [log] at hlog
  | cons request requests ih =>
      rw [List.pairwise_cons] at horder
      by_cases hexcl : request.excluded = true
      · -- an excluded request is not in the log and leaves the table alone
        rw [log, dispatch_of_excluded m counts hexcl, if_pos hexcl] at hlog
        exact ih ht (fun x hx r hr => hpast x hx r (List.mem_cons_of_mem _ hr)) horder.2 hlog
      · have hcounted : request.excluded = false := by simpa using hexcl
        have htime : ∀ x ∈ past, x.request.now ≤ request.now := fun x hx =>
          hpast x hx request (List.mem_cons_self ..)
        rw [log, if_neg hexcl] at hlog
        cases before with
        | nil =>
            have he : eventOf m counts request = e := (List.cons.inj hlog).1
            rw [← he, List.append_nil]
            exact ⟨ht, htime, hcounted, rfl⟩
        | cons first before =>
            rcases List.cons.inj hlog with ⟨hfirst, hlog⟩
            have hstep := tracks_step ht hcounted htime
            rw [← hfirst, show past ++ eventOf m counts request :: before =
              (past ++ [eventOf m counts request]) ++ before by simp]
            refine ih hstep ?_ horder.2 hlog
            intro x hx r hr
            rcases List.mem_append.mp hx with hx | hx
            · exact hpast x hx r (List.mem_cons_of_mem _ hr)
            · rw [List.mem_singleton.mp hx]
              exact horder.1 r hr

/-! ## The sliding-window law -/

/-- What the rate limiter is for, said of a log of requests. -/
structure SlidingWindowLimit (m : RateLimitMiddleware) (log : List (Event K)) : Prop where
  /-- A request is admitted exactly when fewer requests of its client than the limit were admitted
  in the window that ends with it, since the client was last evicted. -/
  admits : ∀ (past : List (Event K)) (e : Event K) (future : List (Event K)),
    log = past ++ e :: future → (e.admitted = true ↔
      ((admittedTimes e.client past).filter fun t =>
        e.request.now - m.window < t ∧ t ≤ e.request.now).length < m.requests)
  /-- A request that is not admitted is refused with an answer; the middleware does not fail. -/
  answers : ∀ e ∈ log, e.admitted = true ∨ ∃ refusal, e.reply = .limited refusal
  bounded : ∀ e ∈ log, e.after.size ≤ m.maxClients
  /-- A client is evicted only for a new client at a full table, and it is the one whose last
  request is oldest: each other client in the table has come back after it. -/
  evicts : ∀ (past : List (Event K)) (e : Event K) (future : List (Event K)),
    log = past ++ e :: future → ∀ client, e.evicts client = true →
    e.client ∉ e.before.keys ∧ e.before.size = m.maxClients ∧
      client ∈ past.map Event.client ∧
      ∀ other ∈ e.before.keys, other ≠ client → UsedSince (past.map Event.client) client other
  deques : ∀ e ∈ log, ∀ entry ∈ e.after.entries,
    entry.2.Pairwise (· ≤ ·) ∧ entry.2.length ≤ m.requests

omit [FloorRing K] [IsStrictOrderedRing K] in
/-- Nothing of the history lies after the request. -/
theorem filter_window_eq {past : List (Event K)} {now : K} (m : RateLimitMiddleware)
    (client : String) (htime : ∀ e ∈ past, e.request.now ≤ now) :
    ((admittedTimes client past).filter fun t => now - m.window < t ∧ t ≤ now) =
      recent (m.window : K) now (admittedTimes client past) := by
  unfold recent
  refine List.filter_congr ?_
  intro t hmem
  rcases exists_of_mem_admittedTimes hmem with ⟨e, he, rfl⟩
  simp [htime e he]

omit [IsStrictOrderedRing K] in
theorem eventOf_eta {e : Event K} (h : e = eventOf m e.before e.request) :
    e.after = (dispatch m e.before e.request).1 ∧ e.reply = (dispatch m e.before e.request).2 := by
  constructor
  · exact congrArg Event.after h
  · exact congrArg Event.reply h

/-- **The rate limiter keeps the sliding-window law.** -/
theorem rate_limit_window (m : RateLimitMiddleware) (hrequests : 1 ≤ m.requests)
    (hclients : 1 ≤ m.maxClients) (requests : List (Request K))
    (horder : requests.Pairwise fun r r' => r.now ≤ r'.now) :
    SlidingWindowLimit m (log m Recency.empty requests) := by
  have hat : ∀ past e future, log m Recency.empty requests = past ++ e :: future →
      Tracks m past e.before ∧ (∀ x ∈ past, x.request.now ≤ e.request.now) ∧
        e.request.excluded = false ∧ e = eventOf m e.before e.request := by
    intro past e future hlog
    have := tracks_at (tracks_empty m) (by simp) horder hlog
    simpa using this
  have hstep : ∀ e ∈ log m Recency.empty requests, ∃ past,
      Tracks m (past ++ [e]) e.after := by
    intro e he
    rcases List.append_of_mem he with ⟨past, future, hlog⟩
    rcases hat past e future hlog with ⟨ht, htime, hcounted, heq⟩
    refine ⟨past, ?_⟩
    rw [(eventOf_eta heq).1]
    conv => arg 2; rw [heq]
    exact tracks_step ht hcounted htime
  refine ⟨?_, ?_, ?_, ?_, ?_⟩
  · intro past e future hlog
    rcases hat past e future hlog with ⟨ht, htime, hcounted, heq⟩
    rw [filter_window_eq m _ htime, ← ht.kept_eq _ htime]
    rcases dispatch_touches e.before hcounted hclients with ⟨_, _, htimes⟩
    rw [← heq] at htimes
    rcases htimes with ⟨hadmitted, hlt, _⟩ | ⟨hrefused, hle, _⟩
    · exact ⟨fun _ => hlt, fun _ => hadmitted⟩
    · rw [hrefused]
      exact ⟨fun h => absurd h (by simp), fun h => absurd h (not_lt.mpr hle)⟩
  · intro e he
    rcases List.append_of_mem he with ⟨past, future, hlog⟩
    rcases hat past e future hlog with ⟨_, _, hcounted, heq⟩
    rw [Event.admitted, (eventOf_eta heq).2]
    rcases dispatch_cases e.before hcounted hclients with ⟨hzero, _⟩ | ⟨_, h⟩ | ⟨_, _, _, _, h⟩
    · omega
    · exact Or.inl (by rw [h])
    · exact Or.inr ⟨_, by rw [h]⟩
  · intro e he
    rcases hstep e he with ⟨_, ht⟩
    exact ht.bounded
  · intro past e future hlog client hout
    rcases hat past e future hlog with ⟨ht, _, hcounted, heq⟩
    rcases dispatch_touches e.before hcounted hclients with ⟨times, hafter, _⟩
    rw [heq, eventOf, hafter, evicts_touch_iff, full_iff] at hout
    rcases hout with ⟨⟨hnew, hfull⟩, hhead⟩
    have hmem : client ∈ e.before.keys := List.mem_of_mem_head? hhead
    refine ⟨hnew, le_antisymm ht.bounded hfull, ht.used client hmem, ?_⟩
    intro other hother hne
    have horder := ht.order
    cases hkeys : e.before.keys with
    | nil => simp [hkeys] at hother
    | cons first others =>
        rw [hkeys] at hhead hother horder
        have hfirst : first = client := by simpa using hhead
        rcases List.mem_cons.mp hother with rfl | hother
        · exact absurd hfirst hne
        · rw [← hfirst]
          exact (List.pairwise_cons.mp horder).1 other hother
  · intro e he entry hentry
    rcases hstep e he with ⟨_, ht⟩
    rw [← deque_of_mem hentry]
    exact ⟨ht.sorted _, ht.short _⟩

/-- Three clients at a table for two, one of them back within the minute. -/
def crowd : List (Request ℚ) :=
  [⟨"/scripts", some "10.0.0.1", none, 0⟩, ⟨"/scripts", some "10.0.0.2", none, 1⟩,
    ⟨"/scripts", some "10.0.0.1", none, 2⟩, ⟨"/scripts", some "10.0.0.3", none, 3⟩,
    ⟨"/health", some "10.0.0.2", none, 4⟩, ⟨"/scripts", some "10.0.0.1", none, 60⟩]

theorem rate_limit_window_crowd :
    SlidingWindowLimit ⟨1, 60, 2⟩ (log ⟨1, 60, 2⟩ Recency.empty crowd) ∧
      (log ⟨1, 60, 2⟩ Recency.empty crowd).map Event.admitted = [true, true, false, true, true] ∧
      (log ⟨1, 60, 2⟩ Recency.empty crowd).map (fun e => e.evicts "10.0.0.2") =
        [false, false, false, true, false] :=
  ⟨rate_limit_window ⟨1, 60, 2⟩ (by decide) (by decide) crowd (by decide),
    by decide +kernel, by decide +kernel⟩

end RateLimit
end NodeNexus
