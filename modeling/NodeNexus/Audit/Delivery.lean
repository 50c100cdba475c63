import NodeNexus.Lib.Traverse
import NodeNexus.Audit.Outbox

/-!
# The audit outbox delivers at most once

Whether an event is delivered is written down twice: its log is inserted in a
savepoint, its status is set in the transaction around it.  Both are committed
together or not at all, and a row lock keeps the event from other workers until
then.

* `EventOk` is what holds of a committed event, or of one that a transaction has
  tried; `PassOk` is what holds of an open transaction.
* `OutboxInv` — the two, for all events and all workers, whose locks are
  disjoint; `OutboxInv.step` keeps it.
* `delivered_at_most_once` — the result, for every reachable state.
-/

namespace NodeNexus
namespace Audit

open Content

variable {parseUuid : String → Option Uuid} {maxAttempts : Nat}

/-! ## One event -/

/-- What holds of an event by its status. -/
def EventOk (maxAttempts : Nat) (e : OutboxEvent) : Prop :=
  match e.status with
  | .pending => e.attempts < maxAttempts ∧
      ∀ t, e.lastAttempt = some t → e.nextAttemptAt ≤ t + 300
  | .processing => False
  | .completed => True
  | .failed => e.attempts = maxAttempts

theorem toAuditLog_id {nodeExists : Uuid → Bool} {now : Time} {eventId : Uuid} {payload : Json}
    {log : AuditLog} (h : toAuditLog parseUuid nodeExists now eventId payload = .ok log) :
    log.id = eventId := by
  unfold toAuditLog at h
  split at h
  · split at h
    · cases h
    · obtain ⟨parsed, -, h⟩ := bind_eq_ok.1 h
      split at h
      · cases h
        rfl
      · cases h
  · cases h

/-- When there is no log yet, a savepoint that does not raise inserts one. -/
theorem insertLog_eq_ok {nodeExists : Uuid → Bool} {database : Option String} {now : Time}
    {event : OutboxEvent} {r : Option AuditLog}
    (h : insertLog parseUuid nodeExists database now false event = .ok r) :
    ∃ log, r = some log ∧ log.id = event.id := by
  simp only [insertLog, Bool.false_eq_true, if_false] at h
  split at h
  · cases h
  · rename_i log hlog
    split at h
    · cases h
    · cases h
      exact ⟨log, rfl, toAuditLog_id hlog⟩

@[simp] theorem settle_id (maxAttempts : Nat) (now : Time) (event : OutboxEvent)
    (r : Except String (Option AuditLog)) : (settle maxAttempts now event r).id = event.id := by
  cases r with
  | ok log => rfl
  | error e =>
      simp only [settle]
      split <;> rfl

/-- A pending event that is tried is settled well, and is completed exactly when
its savepoint did not raise. -/
theorem eventOk_settle {now : Time} {event : OutboxEvent} (hpending : event.status = .pending)
    (hok : EventOk maxAttempts event) (r : Except String (Option AuditLog)) :
    EventOk maxAttempts (settle maxAttempts now event r) ∧
      ((settle maxAttempts now event r).status = .completed ↔ ∃ log, r = .ok log) := by
  cases r with
  | ok log => exact ⟨trivial, iff_of_true rfl ⟨log, rfl⟩⟩
  | error e =>
      simp only [EventOk, hpending] at hok
      simp only [settle]
      split
      · rename_i hge
        refine ⟨?_, iff_of_false (by simp) (by simp)⟩
        simp only [EventOk]
        omega
      · rename_i hlt
        refine ⟨?_, iff_of_false (by simp [hpending]) (by simp)⟩
        simp only [EventOk, hpending]
        refine ⟨by omega, ?_⟩
        intro t ht
        cases ht
        exact Nat.add_le_add_left (Nat.min_le_left _ _) _

/-! ## One pass -/

/-- What holds of an open transaction, with the committed events. -/
structure PassOk (maxAttempts : Nat) (events : List OutboxEvent) (p : Pass) : Prop where
  /-- What is left of the batch is as it was claimed. -/
  claimed : ∀ e ∈ p.todo, e ∈ events ∧ e.status = .pending
  nodup : ((p.todo ++ p.tried).map (·.id)).Nodup
  /-- An event that was tried is still pending for the others, -/
  tried : ∀ d ∈ p.tried, EventOk maxAttempts d ∧ ∃ e ∈ events, e.id = d.id ∧ e.status = .pending
  /-- and is completed exactly when its log is inserted. -/
  completed : ∀ d ∈ p.tried, d.status = .completed ↔ d.id ∈ p.logs.map (·.id)
  logs : ∀ l ∈ p.logs, ∃ d ∈ p.tried, d.id = l.id
  logsNodup : (p.logs.map (·.id)).Nodup

theorem Pass.locks_iff {p : Pass} {id : Uuid} :
    p.locks id = true ↔ id ∈ (p.todo ++ p.tried).map (·.id) := by
  simp only [Pass.locks, Bool.or_eq_true, List.any_eq_true, decide_eq_true_eq, List.map_append,
    List.mem_append, List.mem_map]

/-- The events that a transaction has locked are all it depends on. -/
theorem PassOk.transfer {events events' : List OutboxEvent} {p : Pass}
    (h : PassOk maxAttempts events p)
    (hkeep : ∀ e ∈ events, p.locks e.id = true → e ∈ events') :
    PassOk maxAttempts events' p where
  claimed e he := by
    obtain ⟨hmem, hpending⟩ := h.claimed e he
    refine ⟨hkeep e hmem (Pass.locks_iff.2 ?_), hpending⟩
    exact List.mem_map_of_mem (List.mem_append_left _ he)
  nodup := h.nodup
  tried d hd := by
    obtain ⟨hok, e, he, hid, hpending⟩ := h.tried d hd
    refine ⟨hok, e, hkeep e he (Pass.locks_iff.2 ?_), hid, hpending⟩
    rw [hid]
    exact List.mem_map_of_mem (List.mem_append_right _ hd)
  completed := h.completed
  logs := h.logs
  logsNodup := h.logsNodup

/-! ## The invariant -/

/-- **The invariant of the outbox.** -/
structure OutboxInv (maxAttempts : Nat) (s : OutboxState) : Prop where
  events : ∀ e ∈ s.events.rows, EventOk maxAttempts e ∧ (e.status = .completed ↔ e.id ∈ s.inserted)
  drawn : ∀ e ∈ s.events.rows, e.id < s.nextId
  nodup : s.inserted.Nodup
  known : ∀ id ∈ s.inserted, ∃ e ∈ s.events.rows, e.id = id
  logs : ∀ l ∈ s.logs.rows, l.id ∈ s.inserted
  passes : ∀ (i : Nat) (p : Pass), s.workers[i]? = some (some p) →
    PassOk maxAttempts s.events.rows p
  /-- No event is locked by two workers. -/
  locks : ∀ (i j : Nat) (p q : Pass) (id : Uuid), s.workers[i]? = some (some p) →
    s.workers[j]? = some (some q) → p.locks id = true → q.locks id = true → i = j

/-- A committed event that is locked is pending and has no log. -/
theorem OutboxInv.not_inserted {s : OutboxState} (h : OutboxInv maxAttempts s) {e : OutboxEvent}
    (he : e ∈ s.events.rows) (hpending : e.status = .pending) : e.id ∉ s.inserted := by
  rw [← (h.events e he).2, hpending]
  simp

theorem outboxInv_init {s : OutboxState} (h : (outboxSystem parseUuid maxAttempts).init s) :
    OutboxInv maxAttempts s := by
  obtain ⟨hevents, hlogs, hinserted, hworkers⟩ := h
  have hidle : ∀ (i : Nat) (p : Pass), s.workers[i]? ≠ some (some p) := fun i p hi => by
    cases hworkers _ (List.mem_of_getElem? hi)
  exact
    { events := by simp [hevents, Table.empty]
      drawn := by simp [hevents, Table.empty]
      nodup := by simp [hinserted]
      known := by simp [hinserted]
      logs := by simp [hlogs, Table.empty]
      passes := fun i p hi => absurd hi (hidle i p)
      locks := fun i j p q id hi => absurd hi (hidle i p) }

/-- A worker goes on, or ends, while the committed rows stay as they are. -/
theorem OutboxInv.setWorker {s : OutboxState} (h : OutboxInv maxAttempts s) {i : Nat}
    {w w' : Option Pass} (hi : s.workers[i]? = some w)
    (hpass : ∀ p, w' = some p → PassOk maxAttempts s.events.rows p)
    (hlocks : ∀ p, w' = some p → ∀ id, p.locks id = true →
      ∀ (j : Nat) (q : Pass), j ≠ i → s.workers[j]? = some (some q) → q.locks id = false) :
    OutboxInv maxAttempts { s with workers := s.workers.set i w' } where
  events := h.events
  drawn := h.drawn
  nodup := h.nodup
  known := h.known
  logs := h.logs
  passes j p hj := by
    rw [getElem?_set_of_some hi] at hj
    split at hj
    · cases hj
      exact hpass p rfl
    · exact h.passes j p hj
  locks j k p q id hj hk hp hq := by
    rw [getElem?_set_of_some hi] at hj hk
    split at hj
    · rename_i hij
      cases hj
      split at hk
      · rename_i hik
        rw [← hij, ← hik]
      · rename_i hik
        rw [hlocks p rfl id hp k q (Ne.symm hik) hk] at hq
        cases hq
    · rename_i hij
      split at hk
      · cases hk
        rw [hlocks q rfl id hq j p (Ne.symm hij) hj] at hp
        cases hp
      · exact h.locks j k p q id hj hk hp hq

/-! ## The steps of a worker -/

/-- What is claimed: events that are pending and not locked. -/
theorem mem_claim {s : OutboxState} {now : Time} {batchSize : Nat} {e : OutboxEvent}
    (h : e ∈ s.claim now batchSize) :
    e ∈ s.events.rows ∧ e.status = .pending ∧
      ∀ (j : Nat) (q : Pass), s.workers[j]? = some (some q) → q.locks e.id = false := by
  have hmem := List.mem_of_mem_take h
  rw [List.mem_insertionSort, List.mem_filter] at hmem
  obtain ⟨he, hcond⟩ := hmem
  simp only [Bool.and_eq_true, decide_eq_true_eq, Bool.not_eq_true', List.any_eq_false] at hcond
  refine ⟨he, hcond.1.1, fun j q hj => ?_⟩
  have hnot := hcond.2 _ (List.mem_of_getElem? hj)
  simpa using hnot

theorem nodup_claim (s : OutboxState) (now : Time) (batchSize : Nat) :
    ((s.claim now batchSize).map (·.id)).Nodup := by
  unfold OutboxState.claim
  refine List.Nodup.sublist (List.Sublist.map _ (List.take_sublist _ _)) ?_
  refine ((List.perm_insertionSort _ _).map _).nodup_iff.2 ?_
  exact List.Nodup.sublist (List.Sublist.map _ List.filter_sublist) s.events.nodup

theorem OutboxInv.claim {s : OutboxState} (h : OutboxInv maxAttempts s) {i : Nat}
    (hi : s.workers[i]? = some none) (now : Time) (batchSize : Nat) :
    OutboxInv maxAttempts
      { s with workers := s.workers.set i (some ⟨now, s.claim now batchSize, [], []⟩) } := by
  refine h.setWorker hi ?_ ?_
  · rintro p hp
    cases hp
    exact
      { claimed := fun e he => ⟨(mem_claim he).1, (mem_claim he).2.1⟩
        nodup := by
          rw [List.append_nil]
          exact nodup_claim s now batchSize
        tried := by simp
        completed := by simp
        logs := by simp
        logsNodup := by simp }
  · rintro p hp id hlock j q - hj
    cases hp
    rw [Pass.locks_iff, List.append_nil] at hlock
    obtain ⟨e, he, rfl⟩ := List.mem_map.1 hlock
    exact (mem_claim he).2.2 j q hj

/-- **One delivery.**  There is no log of the event yet, so the savepoint inserts
one or raises, and the status says which. -/
theorem PassOk.deliver {s : OutboxState} (h : OutboxInv maxAttempts s) {p : Pass}
    (hp : PassOk maxAttempts s.events.rows p) {event : OutboxEvent} {rest : List OutboxEvent}
    (htodo : p.todo = event :: rest) (nodeExists : Uuid → Bool) (database : Option String)
    (now : Time) :
    PassOk maxAttempts s.events.rows
      (s.deliver parseUuid maxAttempts p event rest nodeExists database now) := by
  obtain ⟨hevent, hpending⟩ := hp.claimed event (htodo ▸ List.mem_cons_self ..)
  have hnodup := hp.nodup
  rw [htodo, List.cons_append, List.map_cons, List.nodup_cons] at hnodup
  obtain ⟨hnew, hnodup⟩ := hnodup
  have hnotTried : ∀ d ∈ p.tried, d.id ≠ event.id := fun d hd hid =>
    hnew (hid ▸ List.mem_map_of_mem (List.mem_append_right _ hd))
  have hnotLogs : ∀ l ∈ p.logs, l.id ≠ event.id := fun l hl hid => by
    obtain ⟨d, hd, hdl⟩ := hp.logs l hl
    exact hnotTried d hd (hdl.trans hid)
  have hexisting : ((s.logs.find? event.id).isSome || p.logs.any fun l => l.id = event.id) =
      false := by
    rw [Bool.or_eq_false_iff]
    constructor
    · rw [Option.isSome_eq_false_iff, Option.isNone_iff_eq_none, Table.find?_eq_none]
      intro l hl hid
      exact h.not_inserted hevent hpending (hid ▸ h.logs l hl)
    · rw [List.any_eq_false]
      intro l hl
      simpa using hnotLogs l hl
  unfold OutboxState.deliver
  simp only [hexisting]
  have hok := (h.events event hevent).1
  obtain ⟨hsettled, hcompleted⟩ := @eventOk_settle _ p.now _ hpending hok
    (insertLog parseUuid nodeExists database now false event)
  have hclaimed : ∀ e ∈ rest, e ∈ s.events.rows ∧ e.status = .pending := fun e he =>
    hp.claimed e (htodo ▸ List.mem_cons_of_mem _ he)
  have hids : ((rest ++ settle maxAttempts p.now event
      (insertLog parseUuid nodeExists database now false event) :: p.tried).map (·.id)).Nodup := by
    rw [List.map_append, List.map_cons, settle_id, List.nodup_middle, ← List.map_append,
      List.nodup_cons]
    exact ⟨hnew, hnodup⟩
  have htried : ∀ d ∈ settle maxAttempts p.now event
      (insertLog parseUuid nodeExists database now false event) :: p.tried,
      EventOk maxAttempts d ∧ ∃ e ∈ s.events.rows, e.id = d.id ∧ e.status = .pending := by
    intro d hd
    rcases List.mem_cons.1 hd with rfl | hd
    · exact ⟨hsettled, event, hevent, (settle_id ..).symm, hpending⟩
    · exact hp.tried d hd
  cases hresult : insertLog parseUuid nodeExists database now false event with
  | error e =>
      rw [hresult] at hids htried hcompleted
      exact
        { claimed := hclaimed
          nodup := hids
          tried := htried
          completed := by
            intro d hd
            rcases List.mem_cons.1 hd with rfl | hd
            · rw [hcompleted, settle_id]
              refine iff_of_false (by simp) fun hmem => ?_
              obtain ⟨l, hl, hid⟩ := List.mem_map.1 hmem
              exact hnotLogs l hl hid
            · exact hp.completed d hd
          logs := fun l hl => by
            obtain ⟨d, hd, hid⟩ := hp.logs l hl
            exact ⟨d, List.mem_cons_of_mem _ hd, hid⟩
          logsNodup := hp.logsNodup }
  | ok r =>
      obtain ⟨log, rfl, hlog⟩ := insertLog_eq_ok hresult
      rw [hresult] at hids htried hcompleted
      exact
        { claimed := hclaimed
          nodup := hids
          tried := htried
          completed := by
            intro d hd
            rw [List.map_cons, List.mem_cons, hlog]
            rcases List.mem_cons.1 hd with rfl | hd
            · exact iff_of_true (hcompleted.2 ⟨_, rfl⟩) (.inl (settle_id ..))
            · rw [hp.completed d hd, or_iff_right (hnotTried d hd)]
          logs := by
            intro l hl
            rcases List.mem_cons.1 hl with rfl | hl
            · exact ⟨_, List.mem_cons_self .., (settle_id ..).trans hlog.symm⟩
            · obtain ⟨d, hd, hid⟩ := hp.logs l hl
              exact ⟨d, List.mem_cons_of_mem _ hd, hid⟩
          logsNodup := by
            rw [List.map_cons, List.nodup_cons, hlog]
            refine ⟨fun hmem => ?_, hp.logsNodup⟩
            obtain ⟨l, hl, hid⟩ := List.mem_map.1 hmem
            exact hnotLogs l hl hid }

/-- A delivery keeps the locks of the transaction. -/
theorem locks_deliver {s : OutboxState} {p : Pass} {event : OutboxEvent}
    {rest : List OutboxEvent} (htodo : p.todo = event :: rest) (nodeExists : Uuid → Bool)
    (database : Option String) (now : Time) (id : Uuid) :
    (s.deliver parseUuid maxAttempts p event rest nodeExists database now).locks id =
      p.locks id := by
  rw [Bool.eq_iff_iff, Pass.locks_iff, Pass.locks_iff, htodo]
  simp only [OutboxState.deliver, List.map_append, List.map_cons, settle_id, List.mem_append,
    List.mem_cons]
  tauto

/-! ## Commit -/

/-- Rows after some were inserted are old ones or inserted ones. -/
theorem mem_or_of_mem_putAll {ρ κ : Type} [DecidableEq κ] {key : ρ → κ} {t : Table key}
    {rs : List ρ} {x : ρ} (h : x ∈ (t.putAll rs).rows) : x ∈ t.rows ∨ x ∈ rs := by
  induction rs generalizing t with
  | nil => exact .inl h
  | cons r rs ih =>
      rcases @ih (t.put r) h with h | h
      · rcases Table.mem_put.1 h with rfl | h
        · exact .inr (List.mem_cons_self ..)
        · exact .inl h.1
      · exact .inr (List.mem_cons_of_mem _ h)

/-- An event after a commit is as the transaction has left it, or as before. -/
theorem updated_cases (p : Pass) (e : OutboxEvent) :
    (∃ d ∈ p.tried, d.id = e.id ∧ p.updated e = d) ∨
      e.id ∉ p.tried.map (·.id) ∧ p.updated e = e := by
  unfold Pass.updated
  split
  · rename_i d hd
    exact .inl ⟨d, List.mem_of_find?_eq_some hd, by simpa using List.find?_some hd, rfl⟩
  · rename_i hnone
    refine .inr ⟨fun hmem => ?_, rfl⟩
    obtain ⟨d, hd, hid⟩ := List.mem_map.1 hmem
    simpa [hid] using List.find?_eq_none.1 hnone d hd

theorem mem_commit_events {s : OutboxState} {p : Pass} {x : OutboxEvent} :
    x ∈ (s.commit p).events.rows ↔ ∃ e ∈ s.events.rows, p.updated e = x :=
  List.mem_map

/-- **A commit keeps the invariant**: the statuses and the logs become visible
together. -/
theorem OutboxInv.commit {s : OutboxState} (h : OutboxInv maxAttempts s) {i : Nat} {p : Pass}
    (hi : s.workers[i]? = some (some p)) :
    OutboxInv maxAttempts { s.commit p with workers := s.workers.set i none } := by
  have hp := h.passes i p hi
  have hrows : ∀ e ∈ s.events.rows, p.updated e ∈ (s.commit p).events.rows := fun e he =>
    mem_commit_events.2 ⟨e, he, rfl⟩
  -- the logs are those of events that had none
  have hfresh : ∀ id ∈ p.logs.map (·.id), id ∉ s.inserted := by
    intro id hid
    obtain ⟨l, hl, rfl⟩ := List.mem_map.1 hid
    obtain ⟨d, hd, hdl⟩ := hp.logs l hl
    obtain ⟨-, e, he, hed, hpending⟩ := hp.tried d hd
    rw [← hdl, ← hed]
    exact h.not_inserted he hpending
  have hothers : ∀ (j : Nat) (q : Pass), j ≠ i → s.workers[j]? = some (some q) →
      ∀ e, q.locks e.id = true → p.updated e = e := by
    intro j q hne hj e hlock
    rcases updated_cases p e with ⟨d, hd, hid, -⟩ | ⟨-, heq⟩
    · have hplock : p.locks e.id = true := by
        rw [Pass.locks_iff, ← hid]
        exact List.mem_map_of_mem (List.mem_append_right _ hd)
      exact absurd (h.locks j i q p e.id hj hi hlock hplock) hne
    · exact heq
  exact
    { events := by
        intro x hx
        obtain ⟨e, he, rfl⟩ := mem_commit_events.1 hx
        simp only [OutboxState.commit, List.mem_append]
        rcases updated_cases p e with ⟨d, hd, hid, heq⟩ | ⟨hnot, heq⟩
        · rw [heq]
          refine ⟨(hp.tried d hd).1, ?_⟩
          rw [hp.completed d hd, or_iff_right]
          obtain ⟨-, e', he', hid', hpending⟩ := hp.tried d hd
          rw [← hid']
          exact h.not_inserted he' hpending
        · rw [heq]
          refine ⟨(h.events e he).1, ?_⟩
          rw [(h.events e he).2, or_iff_left]
          intro hmem
          obtain ⟨l, hl, hle⟩ := List.mem_map.1 hmem
          obtain ⟨d, hd, hdl⟩ := hp.logs l hl
          exact hnot (hdl.trans hle ▸ List.mem_map_of_mem hd)
      drawn := by
        intro x hx
        obtain ⟨e, he, rfl⟩ := mem_commit_events.1 hx
        rw [p.updated_id]
        exact h.drawn e he
      nodup := by
        refine List.nodup_append.2 ⟨h.nodup, hp.logsNodup, ?_⟩
        rintro id hid id' hid' rfl
        exact hfresh id hid' hid
      known := by
        intro id hid
        have hold : ∃ e ∈ s.events.rows, e.id = id := by
          rcases List.mem_append.1 hid with hid | hid
          · exact h.known id hid
          · obtain ⟨l, hl, rfl⟩ := List.mem_map.1 hid
            obtain ⟨d, hd, hdl⟩ := hp.logs l hl
            obtain ⟨-, e, he, hed, -⟩ := hp.tried d hd
            exact ⟨e, he, hed.trans hdl⟩
        obtain ⟨e, he, rfl⟩ := hold
        exact ⟨p.updated e, hrows e he, p.updated_id e⟩
      logs := by
        intro l hl
        rcases mem_or_of_mem_putAll hl with hl | hl
        · exact List.mem_append_left _ (h.logs l hl)
        · exact List.mem_append_right _ (List.mem_map_of_mem hl)
      passes := by
        intro j q hj
        dsimp only at hj
        rw [getElem?_set_of_some hi] at hj
        split at hj
        · cases hj
        · rename_i hne
          refine (h.passes j q hj).transfer fun e he hlock => ?_
          rw [← hothers j q (Ne.symm hne) hj e hlock]
          exact hrows e he
      locks := by
        intro j k q q' id hj hk hq hq'
        dsimp only at hj hk
        rw [getElem?_set_of_some hi] at hj hk
        split at hj
        · cases hj
        · split at hk
          · cases hk
          · exact h.locks j k q q' id hj hk hq hq' }

/-! ## Every run -/

/-- A new event is pending and has no log. -/
theorem OutboxInv.enqueue (hmax : 1 ≤ maxAttempts) {s : OutboxState}
    (h : OutboxInv maxAttempts s) (now : Time) (payload : Json) :
    OutboxInv maxAttempts { s with
      events := s.events.put ⟨s.nextId, payload, .pending, 0, none, now, now, none, none⟩
      nextId := s.nextId + 1 } := by
  have hne : ∀ e ∈ s.events.rows, e.id ≠ s.nextId := fun e he => Nat.ne_of_lt (h.drawn e he)
  have hnot : s.nextId ∉ s.inserted := fun hmem => by
    obtain ⟨e, he, hid⟩ := h.known _ hmem
    exact hne e he hid
  have hkeep : ∀ e ∈ s.events.rows, e ∈ (s.events.put
      ⟨s.nextId, payload, .pending, 0, none, now, now, none, none⟩).rows := fun e he =>
    Table.mem_put.2 (.inr ⟨he, hne e he⟩)
  exact
    { events := by
        intro e he
        rcases Table.mem_put.1 he with rfl | ⟨he, -⟩
        · refine ⟨⟨hmax, by simp⟩, iff_of_false (by simp) hnot⟩
        · exact h.events e he
      drawn := by
        intro e he
        rcases Table.mem_put.1 he with rfl | ⟨he, -⟩
        · exact Nat.lt_succ_self _
        · exact Nat.lt_succ_of_lt (h.drawn e he)
      nodup := h.nodup
      known := fun id hid => by
        obtain ⟨e, he, heq⟩ := h.known id hid
        exact ⟨e, hkeep e he, heq⟩
      logs := h.logs
      passes := fun i p hi => (h.passes i p hi).transfer fun e he _ => hkeep e he
      locks := h.locks }

/-- **Every step keeps the invariant.** -/
theorem OutboxInv.step (hmax : 1 ≤ maxAttempts) {s s' : OutboxState} {e : Event}
    (h : OutboxInv maxAttempts s)
    (hstep : (outboxSystem parseUuid maxAttempts).step s e = some s') :
    OutboxInv maxAttempts s' := by
  cases outboxStep_of_step hstep with
  | enqueue now payload => exact h.enqueue hmax now payload
  | deleteBefore cutoff =>
      exact { h with logs := fun l hl => h.logs l (Table.mem_keep.1 hl).1 }
  | deleteNode nodeId hfree =>
      refine { h with logs := fun l hl => ?_ }
      obtain ⟨l₀, hl₀, rfl⟩ := List.mem_map.1 hl
      exact h.logs l₀ hl₀
  | claim hi now batchSize => exact h.claim hi now batchSize
  | @deliver i p event rest hi htodo nodeExists database now =>
      refine h.setWorker hi ?_ ?_
      · rintro q hq
        cases hq
        exact (h.passes i p hi).deliver h htodo _ _ _
      · rintro q hq id hlock j q' hne hj
        cases hq
        rw [locks_deliver htodo] at hlock
        rw [Bool.eq_false_iff]
        exact fun hlock' => hne (h.locks j i q' p id hj hi hlock' hlock)
  | commit hi htodo => exact h.commit hi
  | die hi => exact h.setWorker hi (by simp) (by simp)

theorem outboxInv_of_reachable (hmax : 1 ≤ maxAttempts) {s : OutboxState}
    (h : (outboxSystem parseUuid maxAttempts).Reachable s) : OutboxInv maxAttempts s :=
  h.invariant (fun _ => outboxInv_init) fun _ _ _ hs _ hstep => hs.step hmax hstep

/-- An event that is completed or failed stays as it is. -/
theorem settled_step {s s' : OutboxState} (h : OutboxInv maxAttempts s) {e : OutboxEvent}
    (he : e ∈ s.events.rows) (hsettled : e.status ≠ .pending) {event : Event}
    (hstep : (outboxSystem parseUuid maxAttempts).step s event = some s') :
    e ∈ s'.events.rows := by
  cases outboxStep_of_step hstep with
  | enqueue now payload => exact Table.mem_put.2 (.inr ⟨he, Nat.ne_of_lt (h.drawn e he)⟩)
  | deleteBefore cutoff => exact he
  | deleteNode nodeId hfree => exact he
  | claim hi now batchSize => exact he
  | deliver hi htodo nodeExists database now => exact he
  | @commit i p hi htodo =>
      refine mem_commit_events.2 ⟨e, he, ?_⟩
      -- only events that are still pending were tried
      rcases updated_cases p e with ⟨d, hd, hid, -⟩ | ⟨-, heq⟩
      · obtain ⟨-, e', he', hid', hpending⟩ := (h.passes i p hi).tried d hd
        have heq : e' = e := s.events.eq_of_key_eq he' he (hid'.trans hid)
        rw [heq] at hpending
        exact absurd hpending hsettled
      · exact heq
  | die hi => exact he

/-- What one expects of the committed rows. -/
structure Delivered (parseUuid : String → Option Uuid) (maxAttempts : Nat) (s : OutboxState) :
    Prop where
  /-- At most one log was ever inserted for an event. -/
  at_most_once : s.inserted.Nodup
  logs : ∀ l ∈ s.logs.rows, l.id ∈ s.inserted
  completed : ∀ e ∈ s.events.rows, e.status = .completed ↔ e.id ∈ s.inserted
  failed : ∀ e ∈ s.events.rows, e.status = .failed →
    e.id ∉ s.inserted ∧ e.attempts = maxAttempts
  pending : ∀ e ∈ s.events.rows, e.status = .pending →
    e.attempts < maxAttempts ∧ ∀ t, e.lastAttempt = some t → e.nextAttemptAt ≤ t + 300
  /-- What is completed or failed stays so. -/
  settled : ∀ e ∈ s.events.rows, e.status = .completed ∨ e.status = .failed →
    ∀ event s', (outboxSystem parseUuid maxAttempts).step s event = some s' → e ∈ s'.events.rows

/-- **The outbox delivers each event at most once and accounts for it**, for any
number of workers, whatever the payloads, and wherever workers die. -/
theorem delivered_at_most_once (hmax : 1 ≤ maxAttempts) {s : OutboxState}
    (h : (outboxSystem parseUuid maxAttempts).Reachable s) :
    Delivered parseUuid maxAttempts s := by
  have hinv := outboxInv_of_reachable hmax h
  exact
    { at_most_once := hinv.nodup
      logs := hinv.logs
      completed := fun e he => (hinv.events e he).2
      failed := by
        intro e he hfailed
        obtain ⟨hok, hcompleted⟩ := hinv.events e he
        simp only [EventOk, hfailed] at hok
        rw [hfailed] at hcompleted
        exact ⟨fun hmem => (nomatch hcompleted.2 hmem), hok⟩
      pending := by
        intro e he hpending
        have hok := (hinv.events e he).1
        simp only [EventOk, hpending] at hok
        exact hok
      settled := by
        intro e he hsettled event s' hstep
        refine settled_step hinv he ?_ hstep
        rcases hsettled with hcompleted | hfailed
        · simp [hcompleted]
        · simp [hfailed] }

/-- An event whose payload has no action, and one that is well formed; two
workers, of which the first one dies. -/
def twoWorkers : List Event :=
  [.enqueue 0 (.dict []), .enqueue 1 (.dict [("action", .str "node.delete")]),
    .worker 0 (.claim 5 10), .worker 0 (.deliver (fun _ => true) none 5), .worker 0 .die,
    .worker 1 (.claim 6 10), .worker 1 (.deliver (fun _ => true) none 6),
    .worker 1 (.deliver (fun _ => true) none 6), .worker 1 .commit]

/-- The first event has failed, the log of the second one is inserted. -/
theorem delivered_twoWorkers : ∃ s,
    (outboxSystem (fun _ => none) 1).exec ⟨.empty, .empty, [], [none, none], 0⟩ twoWorkers =
      some s ∧ Delivered (fun _ => none) 1 s ∧
    s.events.rows.map (·.status) = [.failed, .completed] ∧ s.inserted = [1] := by
  obtain ⟨s, hs, hstatus, hinserted⟩ : ∃ s,
      (outboxSystem (fun _ => none) 1).exec ⟨.empty, .empty, [], [none, none], 0⟩ twoWorkers =
        some s ∧ s.events.rows.map (·.status) = [.failed, .completed] ∧ s.inserted = [1] :=
    ⟨_, rfl, rfl, rfl⟩
  refine ⟨s, hs, ?_, hstatus, hinserted⟩
  have hinit : (outboxSystem (fun _ => none) 1).init ⟨.empty, .empty, [], [none, none], 0⟩ :=
    ⟨rfl, rfl, rfl, by simp⟩
  exact delivered_at_most_once (Nat.le_refl 1) (System.reachable_of_exec hinit hs)

end Audit
end NodeNexus
