import NodeNexus.Audit.Delivery

/-!
# Where an audit log comes from

A log in `audit_logs` was made of one event of the outbox, in a delivery whose transaction was
committed.  It names the node of the event if that was there at the delivery and was not deleted
since.

* `Delivers` — in a run, a worker tries an event, and this is what happens after it.
* `Logged` — what a delivery has inserted, and what became of it.
* `Known` — every log was made by a delivery that was committed; `Known.step` keeps it.
* `known_of_exec` — the result, for every run.
* `AllKept` — while no log is deleted, each one that was inserted is there.
-/

namespace NodeNexus
namespace Audit

open Content

/-! ## Runs -/

/-- The payload that is enqueued, if any. -/
def Event.payloads : Event → List Json
  | .enqueue _ payload => [payload]
  | _ => []

/-- The payloads that are enqueued in a run, in their order. -/
def enqueued (run : List Event) : List Json := run.flatMap Event.payloads

/-- Is it the end of a transaction of the worker? -/
def Event.ends (i : Nat) : Event → Bool
  | .worker j .commit => decide (j = i)
  | .worker j .die => decide (j = i)
  | _ => false

/-- Does it leave the node there? -/
def Event.spares (nodeId : Uuid) : Event → Bool
  | .deleteNode u => !decide (nodeId = u)
  | _ => true

/-- Is the node still there after a part of a run? -/
def spared (part : List Event) (nodeId : Uuid) : Bool := part.all (·.spares nodeId)

theorem enqueued_concat (run : List Event) (event : Event) :
    enqueued (run ++ [event]) = enqueued run ++ event.payloads := by
  simp [enqueued]

theorem enqueued_concat_of_nil {run : List Event} {event : Event} (h : event.payloads = []) :
    enqueued (run ++ [event]) = enqueued run := by
  rw [enqueued_concat, h, List.append_nil]

theorem spared_concat (part : List Event) (event : Event) :
    spared (part ++ [event]) = fun nodeId => spared part nodeId && event.spares nodeId := by
  funext nodeId
  simp [spared]

@[simp] theorem AuditLog.keepNode_id (log : AuditLog) (keeps : Uuid → Bool) :
    (log.keepNode keeps).id = log.id := rfl

theorem AuditLog.keepNode_keepNode (log : AuditLog) (keeps keeps' : Uuid → Bool) :
    (log.keepNode keeps).keepNode keeps' = log.keepNode fun u => keeps u && keeps' u := by
  unfold AuditLog.keepNode
  rw [Option.filter_filter]

theorem AuditLog.keepNode_eq_self {log : AuditLog} {keeps : Uuid → Bool}
    (h : ∀ u, log.nodeId = some u → keeps u = true) : log.keepNode keeps = log := by
  unfold AuditLog.keepNode
  cases hnode : log.nodeId with
  | none =>
      rw [Option.filter_none, ← hnode]
  | some u =>
      rw [Option.filter_some, if_pos (h u hnode), ← hnode]

section Origin

variable {parseUuid : String → Option Uuid} {maxAttempts : Nat} {s₀ : OutboxState}
  {run : List Event}

/-- The payload is the one that got the id, when `first` was the next id before the first of
the payloads. -/
def Enqueued (first : Uuid) (payloads : List Json) (id : Uuid) (payload : Json) : Prop :=
  ∃ i, payloads[i]? = some payload ∧ id = first + i

/-- In a run from `s₀`, worker `i` tries the event with the id, and `after` is what happens
next. -/
def Delivers (parseUuid : String → Option Uuid) (maxAttempts : Nat) (s₀ : OutboxState)
    (run : List Event) (id : Uuid) (i : Nat) (nodeExists : Uuid → Bool) (now : Time)
    (after : List Event) : Prop :=
  ∃ before database s p event rest,
    run = before ++ .worker i (.deliver nodeExists database now) :: after ∧
    (outboxSystem parseUuid maxAttempts).exec s₀ before = some s ∧
    s.workers[i]? = some (some p) ∧ p.todo = event :: rest ∧ event.id = id

/-- The log is what `_to_audit_log` made of its event when worker `i` tried it, less its node when
that was deleted since. -/
def Logged (parseUuid : String → Option Uuid) (maxAttempts : Nat) (s₀ : OutboxState)
    (run : List Event) (i : Nat) (after : List Event) (log : AuditLog) : Prop :=
  ∃ payload nodeExists now made, Enqueued s₀.nextId (enqueued run) log.id payload ∧
    Delivers parseUuid maxAttempts s₀ run log.id i nodeExists now after ∧
    toAuditLog parseUuid nodeExists now log.id payload = .ok made ∧
    log = made.keepNode (spared after)

/-- The transaction that has inserted the log was committed. -/
def Committed (parseUuid : String → Option Uuid) (maxAttempts : Nat) (s₀ : OutboxState)
    (run : List Event) (log : AuditLog) : Prop :=
  ∃ i during later, during.all (fun event => !event.ends i) = true ∧
    Logged parseUuid maxAttempts s₀ run i (during ++ .worker i .commit :: later) log

theorem Enqueued.append {first id : Uuid} {payloads : List Json} {payload : Json}
    (h : Enqueued first payloads id payload) (more : List Json) :
    Enqueued first (payloads ++ more) id payload := by
  obtain ⟨i, hi, hid⟩ := h
  have hlt : i < payloads.length := (List.getElem?_eq_some_iff.1 hi).1
  exact ⟨i, by rw [List.getElem?_append_left hlt, hi], hid⟩

/-! ## One more event -/

theorem Enqueued.concat {first id : Uuid} {payload : Json}
    (h : Enqueued first (enqueued run) id payload) (event : Event) :
    Enqueued first (enqueued (run ++ [event])) id payload := by
  rw [enqueued_concat]
  exact h.append _

theorem Delivers.concat {id : Uuid} {i : Nat} {nodeExists : Uuid → Bool} {now : Time}
    {after : List Event} (h : Delivers parseUuid maxAttempts s₀ run id i nodeExists now after)
    (event : Event) :
    Delivers parseUuid maxAttempts s₀ (run ++ [event]) id i nodeExists now (after ++ [event]) := by
  obtain ⟨before, database, s, p, tried, rest, rfl, hstate⟩ := h
  exact ⟨before, database, s, p, tried, rest, by simp, hstate⟩

/-- A log loses its node when that is deleted. -/
theorem Logged.concat {i : Nat} {after : List Event} {log : AuditLog}
    (h : Logged parseUuid maxAttempts s₀ run i after log) (event : Event) :
    Logged parseUuid maxAttempts s₀ (run ++ [event]) i (after ++ [event])
      (log.keepNode event.spares) := by
  obtain ⟨payload, nodeExists, now, made, henqueued, hdelivers, hmade, rfl⟩ := h
  refine ⟨payload, nodeExists, now, made, henqueued.concat event, hdelivers.concat event, hmade, ?_⟩
  rw [AuditLog.keepNode_keepNode, spared_concat]

/-- Other events leave it as it is. -/
theorem Logged.concat_of_spares {i : Nat} {after : List Event} {log : AuditLog}
    (h : Logged parseUuid maxAttempts s₀ run i after log) {event : Event}
    (hspares : ∀ u, log.nodeId = some u → event.spares u = true) :
    Logged parseUuid maxAttempts s₀ (run ++ [event]) i (after ++ [event]) log := by
  have hconcat := h.concat event
  rwa [AuditLog.keepNode_eq_self hspares] at hconcat

theorem Committed.concat {log : AuditLog} (h : Committed parseUuid maxAttempts s₀ run log)
    (event : Event) :
    Committed parseUuid maxAttempts s₀ (run ++ [event]) (log.keepNode event.spares) := by
  obtain ⟨i, during, later, hduring, hlogged⟩ := h
  refine ⟨i, during, later ++ [event], hduring, ?_⟩
  simpa using hlogged.concat event

theorem Committed.concat_of_spares {log : AuditLog}
    (h : Committed parseUuid maxAttempts s₀ run log) {event : Event}
    (hspares : ∀ u, log.nodeId = some u → event.spares u = true) :
    Committed parseUuid maxAttempts s₀ (run ++ [event]) log := by
  have hconcat := h.concat event
  rwa [AuditLog.keepNode_eq_self hspares] at hconcat

/-! ## The invariant -/

/-- What worker `i` holds in its open transaction: events that were enqueued, and the logs of its
deliveries. -/
structure Pass.Known (parseUuid : String → Option Uuid) (maxAttempts : Nat) (s₀ : OutboxState)
    (run : List Event) (i : Nat) (p : Pass) : Prop where
  events : ∀ e ∈ p.todo ++ p.tried, Enqueued s₀.nextId (enqueued run) e.id e.payload
  logs : ∀ l ∈ p.logs, ∃ during, during.all (fun event => !event.ends i) = true ∧
    Logged parseUuid maxAttempts s₀ run i during l

/-- **Where everything comes from.** -/
structure Known (parseUuid : String → Option Uuid) (maxAttempts : Nat) (s₀ : OutboxState)
    (run : List Event) (s : OutboxState) : Prop where
  exec : (outboxSystem parseUuid maxAttempts).exec s₀ run = some s
  next : s.nextId = s₀.nextId + (enqueued run).length
  events : ∀ e ∈ s.events.rows, Enqueued s₀.nextId (enqueued run) e.id e.payload
  logs : ∀ l ∈ s.logs.rows, Committed parseUuid maxAttempts s₀ run l
  passes : ∀ (i : Nat) (p : Pass), s.workers[i]? = some (some p) →
    p.Known parseUuid maxAttempts s₀ run i

/-- A transaction stays open, and the nodes of its logs stay there. -/
theorem Pass.Known.concat {i : Nat} {p : Pass} (h : p.Known parseUuid maxAttempts s₀ run i)
    {event : Event} (hends : event.ends i = false)
    (hspares : ∀ l ∈ p.logs, ∀ u, l.nodeId = some u → event.spares u = true) :
    p.Known parseUuid maxAttempts s₀ (run ++ [event]) i where
  events e he := (h.events e he).concat event
  logs l hl := by
    obtain ⟨during, hduring, hlogged⟩ := h.logs l hl
    refine ⟨during ++ [event], ?_, hlogged.concat_of_spares (hspares l hl)⟩
    rw [List.all_append, hduring]
    simp [hends]

@[simp] theorem settle_payload (now : Time) (event : OutboxEvent)
    (r : Except String (Option AuditLog)) :
    (settle maxAttempts now event r).payload = event.payload := by
  cases r with
  | ok log => rfl
  | error e =>
      simp only [settle]
      split <;> rfl

/-- A log that a savepoint inserts is the one of its event. -/
theorem toAuditLog_of_insertLog {nodeExists : Uuid → Bool} {database : Option String} {now : Time}
    {existing : Bool} {event : OutboxEvent} {log : AuditLog}
    (h : insertLog parseUuid nodeExists database now existing event = .ok (some log)) :
    toAuditLog parseUuid nodeExists now event.id event.payload = .ok log := by
  unfold insertLog at h
  split at h
  · cases h
  · split at h
    · cases h
    · rename_i log' hlog
      split at h
      · cases h
      · cases h
        exact hlog

section Step

variable {s : OutboxState} {i : Nat}

theorem Known.claim (h : Known parseUuid maxAttempts s₀ run s) (now : Time) (batchSize : Nat) :
    (Pass.mk now (s.claim now batchSize) [] []).Known parseUuid maxAttempts s₀
      (run ++ [.worker i (.claim now batchSize)]) i where
  events e he := by
    rw [List.append_nil] at he
    have hmem := List.mem_of_mem_take he
    rw [List.mem_insertionSort] at hmem
    exact (h.events e (List.mem_of_mem_filter hmem)).concat _
  logs := by simp

/-- **A delivery makes the log of its event.** -/
theorem Known.deliver (h : Known parseUuid maxAttempts s₀ run s) {p : Pass}
    (hi : s.workers[i]? = some (some p)) {event : OutboxEvent} {rest : List OutboxEvent}
    (htodo : p.todo = event :: rest) (nodeExists : Uuid → Bool) (database : Option String)
    (now : Time) :
    (s.deliver parseUuid maxAttempts p event rest nodeExists database now).Known parseUuid
      maxAttempts s₀ (run ++ [.worker i (.deliver nodeExists database now)]) i := by
  have hp : p.Known parseUuid maxAttempts s₀
      (run ++ [.worker i (.deliver nodeExists database now)]) i :=
    (h.passes i p hi).concat rfl fun _ _ _ _ => rfl
  have hevent := hp.events event (by simp [htodo])
  refine ⟨fun e he => ?_, fun l hl => ?_⟩
  · rcases List.mem_append.1 he with he | he
    · exact hp.events e (by simp [htodo, show e ∈ rest from he])
    · rcases List.mem_cons.1 he with rfl | he
      · simpa using hevent
      · exact hp.events e (List.mem_append_right _ he)
  · simp only [OutboxState.deliver] at hl
    split at hl
    · rename_i log hresult
      rcases List.mem_cons.1 hl with rfl | hl
      · have hlog := toAuditLog_of_insertLog hresult
        have hid := toAuditLog_id hlog
        refine ⟨[], rfl, event.payload, nodeExists, now, l, hid ▸ hevent, ?_, hid ▸ hlog, ?_⟩
        · exact ⟨run, database, s, p, event, rest, rfl, h.exec, hi, htodo, hid.symm⟩
        · exact (AuditLog.keepNode_eq_self fun _ _ => rfl).symm
      · exact hp.logs l hl
    · exact hp.logs l hl

/-- A worker goes on, or ends, while the committed rows stay as they are. -/
theorem Known.setWorker (h : Known parseUuid maxAttempts s₀ run s) {w w' : Option Pass}
    (hi : s.workers[i]? = some w) (action : Action)
    (hexec : (outboxSystem parseUuid maxAttempts).exec s₀ (run ++ [.worker i action]) =
      some { s with workers := s.workers.set i w' })
    (hpass : ∀ p, w' = some p → p.Known parseUuid maxAttempts s₀ (run ++ [.worker i action]) i) :
    Known parseUuid maxAttempts s₀ (run ++ [.worker i action])
      { s with workers := s.workers.set i w' } where
  exec := hexec
  next := by
    rw [enqueued_concat_of_nil rfl]
    exact h.next
  events e he := (h.events e he).concat _
  logs l hl := (h.logs l hl).concat_of_spares fun _ _ => rfl
  passes j q hj := by
    rw [getElem?_set_of_some hi] at hj
    split at hj
    · rename_i hij
      cases hj
      exact hij ▸ hpass q rfl
    · rename_i hij
      refine (h.passes j q hj).concat ?_ fun _ _ _ _ => rfl
      cases action <;> simp [Event.ends, hij]

end Step

/-- **A commit makes the logs of a transaction visible.** -/
theorem Known.commit {s : OutboxState} (h : Known parseUuid maxAttempts s₀ run s) {i : Nat}
    {p : Pass} (hi : s.workers[i]? = some (some p))
    (hexec : (outboxSystem parseUuid maxAttempts).exec s₀ (run ++ [.worker i .commit]) =
      some { s.commit p with workers := s.workers.set i none }) :
    Known parseUuid maxAttempts s₀ (run ++ [.worker i .commit])
      { s.commit p with workers := s.workers.set i none } where
  exec := hexec
  next := by
    rw [enqueued_concat_of_nil rfl]
    exact h.next
  events e he := by
    obtain ⟨e₀, he₀, rfl⟩ := mem_commit_events.1 he
    rcases updated_cases p e₀ with ⟨d, hd, -, heq⟩ | ⟨-, heq⟩
    · rw [heq]
      exact ((h.passes i p hi).events d (List.mem_append_right _ hd)).concat _
    · rw [heq]
      exact (h.events e₀ he₀).concat _
  logs l hl := by
    rcases mem_or_of_mem_putAll hl with hl | hl
    · exact (h.logs l hl).concat_of_spares fun _ _ => rfl
    · obtain ⟨during, hduring, hlogged⟩ := (h.passes i p hi).logs l hl
      exact ⟨i, during, [], hduring, hlogged.concat_of_spares fun _ _ => rfl⟩
  passes j q hj := by
    dsimp only at hj
    rw [getElem?_set_of_some hi] at hj
    split at hj
    · cases hj
    · rename_i hij
      exact (h.passes j q hj).concat (by simp [Event.ends, hij]) fun _ _ _ _ => rfl

theorem Known.enqueue {s : OutboxState} (h : Known parseUuid maxAttempts s₀ run s) (now : Time)
    (payload : Json) {s' : OutboxState}
    (hs' : s' = { s with
      events := s.events.put ⟨s.nextId, payload, .pending, 0, none, now, now, none, none⟩
      nextId := s.nextId + 1 })
    (hexec : (outboxSystem parseUuid maxAttempts).exec s₀ (run ++ [.enqueue now payload]) =
      some s') :
    Known parseUuid maxAttempts s₀ (run ++ [.enqueue now payload]) s' := by
  subst hs'
  refine ⟨hexec, ?_, fun e he => ?_, fun l hl => (h.logs l hl).concat_of_spares fun _ _ => rfl,
    fun i p hi => (h.passes i p hi).concat rfl fun _ _ _ _ => rfl⟩
  · simp [enqueued_concat, Event.payloads, h.next, Nat.add_assoc]
  · rcases Table.mem_put.1 he with rfl | ⟨he, -⟩
    · rw [enqueued_concat]
      exact ⟨(enqueued run).length, by simp [Event.payloads], h.next⟩
    · exact (h.events e he).concat _

/-- A node is deleted; no open transaction has inserted a log of it. -/
theorem Known.deleteNode {s : OutboxState} (h : Known parseUuid maxAttempts s₀ run s)
    (nodeId : Uuid) (hfree : (s.workers.any fun p => p.any (·.names nodeId)) = false)
    {s' : OutboxState}
    (hs' : s' = { s with
      logs := s.logs.mapRows (·.keepNode fun u => !decide (u = nodeId)) fun _ => rfl })
    (hexec : (outboxSystem parseUuid maxAttempts).exec s₀ (run ++ [.deleteNode nodeId]) = some s') :
    Known parseUuid maxAttempts s₀ (run ++ [.deleteNode nodeId]) s' := by
  subst hs'
  refine ⟨hexec, ?_, fun e he => (h.events e he).concat _, fun l hl => ?_, fun i p hi => ?_⟩
  · rw [enqueued_concat_of_nil rfl]
    exact h.next
  · obtain ⟨l₀, hl₀, rfl⟩ := List.mem_map.1 hl
    exact (h.logs l₀ hl₀).concat (.deleteNode nodeId)
  · refine (h.passes i p hi).concat rfl fun l hl u hu => ?_
    have hpass := List.any_eq_false.1 hfree _ (List.mem_of_getElem? hi)
    simp only [Option.any_some, Pass.names, List.any_eq_true, decide_eq_true_eq, not_exists,
      not_and] at hpass
    have hne : u ≠ nodeId := fun heq => hpass l hl (heq ▸ hu)
    simp [Event.spares, hne]

theorem Known.step {s s' : OutboxState} {event : Event}
    (h : Known parseUuid maxAttempts s₀ run s)
    (hstep : (outboxSystem parseUuid maxAttempts).step s event = some s') :
    Known parseUuid maxAttempts s₀ (run ++ [event]) s' := by
  have hexec := System.exec_concat h.exec hstep
  cases outboxStep_of_step hstep with
  | enqueue now payload => exact h.enqueue now payload rfl hexec
  | deleteBefore cutoff =>
      refine ⟨hexec, ?_, fun e he => (h.events e he).concat _, fun l hl => ?_,
        fun i p hi => (h.passes i p hi).concat rfl fun _ _ _ _ => rfl⟩
      · rw [enqueued_concat_of_nil rfl]
        exact h.next
      · exact (h.logs l (Table.mem_keep.1 hl).1).concat_of_spares fun _ _ => rfl
  | deleteNode nodeId hfree => exact h.deleteNode nodeId hfree rfl hexec
  | claim hi now batchSize =>
      refine h.setWorker hi _ hexec ?_
      rintro p hp
      cases hp
      exact h.claim now batchSize
  | deliver hi htodo nodeExists database now =>
      refine h.setWorker hi _ hexec ?_
      rintro p hp
      cases hp
      exact h.deliver hi htodo nodeExists database now
  | commit hi htodo => exact h.commit hi hexec
  | die hi => exact h.setWorker hi _ hexec (by simp)

theorem Known.exec_append {past rest : List Event} {s t : OutboxState}
    (h : Known parseUuid maxAttempts s₀ past s)
    (hrun : (outboxSystem parseUuid maxAttempts).exec s rest = some t) :
    Known parseUuid maxAttempts s₀ (past ++ rest) t := by
  induction rest generalizing past s with
  | nil =>
      cases hrun
      rwa [List.append_nil]
  | cons event rest ih =>
      obtain ⟨s', hstep, hrest⟩ := Option.bind_eq_some_iff.1 hrun
      rw [← List.singleton_append, ← List.append_assoc]
      exact ih (h.step hstep) hrest

/-- Where everything in a run comes from. -/
theorem known_of_exec {t : OutboxState} (hinit : (outboxSystem parseUuid maxAttempts).init s₀)
    (hrun : (outboxSystem parseUuid maxAttempts).exec s₀ run = some t) :
    Known parseUuid maxAttempts s₀ run t := by
  obtain ⟨hevents, hlogs, -, hidle⟩ := hinit
  have hstart : Known parseUuid maxAttempts s₀ [] s₀ := by
    refine ⟨rfl, rfl, ?_, ?_, fun i p hi => ?_⟩
    · simp [hevents, Table.empty]
    · simp [hlogs, Table.empty]
    · cases hidle _ (List.mem_of_getElem? hi)
  exact hstart.exec_append hrun

end Origin

/-! ## Where a log stays -/

section Kept

variable {parseUuid : String → Option Uuid} {maxAttempts : Nat}

/-- A key is there after some rows were inserted when it was before, or one of them has it. -/
theorem exists_mem_putAll {ρ κ : Type} [DecidableEq κ] {key : ρ → κ} {t : Table key}
    {rs : List ρ} {k : κ} (h : (∃ x ∈ t.rows, key x = k) ∨ ∃ x ∈ rs, key x = k) :
    ∃ x ∈ (t.putAll rs).rows, key x = k := by
  induction rs generalizing t with
  | nil => simpa [Table.putAll] using h
  | cons r rs ih =>
      have hput : ∀ x ∈ t.rows, ∃ y ∈ (t.put r).rows, key y = key x := by
        intro x hx
        by_cases hkey : key x = key r
        · exact ⟨r, Table.mem_put.2 (.inl rfl), hkey.symm⟩
        · exact ⟨x, Table.mem_put.2 (.inr ⟨hx, hkey⟩), rfl⟩
      refine ih (t := t.put r) ?_
      rcases h with ⟨x, hx, rfl⟩ | ⟨x, hx, rfl⟩
      · exact .inl (hput x hx)
      · rcases List.mem_cons.1 hx with rfl | hx
        · exact .inl ⟨x, Table.mem_put.2 (.inl rfl), rfl⟩
        · exact .inr ⟨x, hx, rfl⟩

/-- Every log that was ever inserted is there. -/
def AllKept (s : OutboxState) : Prop := ∀ id ∈ s.inserted, ∃ l ∈ s.logs.rows, l.id = id

theorem AllKept.step {s s' : OutboxState} {event : Event} (h : AllKept s)
    (hkeep : ∀ cutoff, event ≠ .deleteBefore cutoff)
    (hstep : OutboxStep parseUuid maxAttempts s event s') : AllKept s' := by
  cases hstep with
  | enqueue now payload => exact h
  | deleteBefore cutoff => exact absurd rfl (hkeep cutoff)
  | deleteNode nodeId hfree =>
      intro id hid
      obtain ⟨l, hl, rfl⟩ := h id hid
      exact ⟨_, List.mem_map_of_mem hl, rfl⟩
  | claim hi now batchSize => exact h
  | deliver hi htodo nodeExists database now => exact h
  | commit hi htodo =>
      intro id hid
      refine exists_mem_putAll ?_
      rcases List.mem_append.1 hid with hid | hid
      · exact .inl (h id hid)
      · exact .inr (List.mem_map.1 hid)
  | die hi => exact h

theorem AllKept.exec {s t : OutboxState} {run : List Event} (h : AllKept s)
    (hkeep : ∀ cutoff, Event.deleteBefore cutoff ∉ run)
    (hrun : (outboxSystem parseUuid maxAttempts).exec s run = some t) : AllKept t := by
  induction run generalizing s with
  | nil =>
      cases hrun
      exact h
  | cons event run ih =>
      obtain ⟨s', hstep, hrest⟩ := Option.bind_eq_some_iff.1 hrun
      refine ih (h.step (fun cutoff hevent => ?_) (outboxStep_of_step hstep))
        (fun cutoff hmem => hkeep cutoff (List.mem_cons_of_mem _ hmem)) hrest
      exact hkeep cutoff (hevent ▸ List.mem_cons_self ..)

end Kept

end Audit
end NodeNexus
