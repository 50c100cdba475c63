import Mathlib.Algebra.Order.BigOperators.Group.List
import Mathlib.Algebra.Order.Group.Nat
import Mathlib.Logic.Function.Basic
import NodeNexus.Lib.Amortized
import NodeNexus.Audit.Delivery

/-!
# The audit outbox makes progress

The outbox claims the oldest due events first, and an event is tried at most
`max_attempts` times.  Together they bound how long an event can wait, however
many workers there are and wherever they die.

* `OutboxState.debt` — how often the events created by a time may still be
  tried.
* `Tried` — an event that a transaction has tried is a committed one with one
  more attempt; `OutboxInv.tried_step` keeps it.
* `turns` counts the transactions of a run that were committed, and that began
  while an event was due and free.
* `arrivals` — the debt that the events bring in which arrive in a run with an
  earlier time of creation.
* `settled_after_turns` — the result: each turn pays a part of the debt.
-/

namespace NodeNexus
namespace Audit

open Content

variable {parseUuid : String → Option Uuid} {maxAttempts : Nat}

/-! ## The debt -/

/-- How often an event may still be tried. -/
def OutboxEvent.left (maxAttempts : Nat) (e : OutboxEvent) : Nat :=
  if e.status = .pending then maxAttempts - e.attempts else 0

/-- What an event adds to the debt of the events that were created by `c`. -/
def OutboxEvent.due (maxAttempts : Nat) (c : Time) (e : OutboxEvent) : Nat :=
  if e.createdAt ≤ c then e.left maxAttempts else 0

/-- How often the events that were created by `c` may still be tried. -/
def OutboxState.debt (maxAttempts : Nat) (c : Time) (s : OutboxState) : Nat :=
  (s.events.rows.map (OutboxEvent.due maxAttempts c)).sum

/-- A pending event may be tried again. -/
theorem left_pos {e : OutboxEvent} (hok : EventOk maxAttempts e) (hpending : e.status = .pending) :
    1 ≤ e.left maxAttempts := by
  simp only [EventOk, hpending] at hok
  simp only [OutboxEvent.left, hpending, if_pos]
  omega

/-- The debt of one event is at most that of all. -/
theorem left_le_debt {s : OutboxState} {c : Time} {e : OutboxEvent} (he : e ∈ s.events.rows)
    (hc : e.createdAt ≤ c) : e.left maxAttempts ≤ s.debt maxAttempts c := by
  have hmem : e.due maxAttempts c ∈ s.events.rows.map (OutboxEvent.due maxAttempts c) :=
    List.mem_map_of_mem he
  have hle := List.single_le_sum (fun x _ => Nat.zero_le x) _ hmem
  simpa only [OutboxState.debt, OutboxEvent.due, if_pos hc] using hle

/-! ## What a transaction has tried -/

/-- The event was tried once more than the committed one. -/
def Tried (events : List OutboxEvent) (d : OutboxEvent) : Prop :=
  ∃ e ∈ events, e.id = d.id ∧ e.createdAt = d.createdAt ∧ e.attempts + 1 = d.attempts

@[simp] theorem settle_createdAt (now : Time) (event : OutboxEvent)
    (r : Except String (Option AuditLog)) :
    (settle maxAttempts now event r).createdAt = event.createdAt := by
  cases r with
  | ok log => rfl
  | error e =>
      simp only [settle]
      split <;> rfl

@[simp] theorem settle_attempts (now : Time) (event : OutboxEvent)
    (r : Except String (Option AuditLog)) :
    (settle maxAttempts now event r).attempts = event.attempts + 1 := by
  cases r with
  | ok log => rfl
  | error e =>
      simp only [settle]
      split <;> rfl

/-- A transaction that has tried an event has locked it. -/
theorem locks_of_tried {p : Pass} {d : OutboxEvent} (hd : d ∈ p.tried) : p.locks d.id = true :=
  Pass.locks_iff.2 (List.mem_map_of_mem (List.mem_append_right _ hd))

/-- A commit leaves the events that another transaction has locked alone. -/
theorem OutboxInv.updated_of_locked {s : OutboxState} (h : OutboxInv maxAttempts s) {i j : Nat}
    {p q : Pass} (hi : s.workers[i]? = some (some p)) (hj : s.workers[j]? = some (some q))
    (hne : j ≠ i) {e : OutboxEvent} (hlock : q.locks e.id = true) : p.updated e = e := by
  rcases updated_cases p e with ⟨d, hd, hid, -⟩ | ⟨-, heq⟩
  · have hplock : p.locks e.id = true := hid ▸ locks_of_tried hd
    exact absurd (h.locks j i q p e.id hj hi hlock hplock) hne
  · exact heq

/-- What the open transactions have tried. -/
def AllTried (s : OutboxState) : Prop :=
  ∀ (i : Nat) (p : Pass), s.workers[i]? = some (some p) → ∀ d ∈ p.tried, Tried s.events.rows d

/-- A worker goes on, or ends, while the committed rows stay as they are. -/
theorem AllTried.setWorker {s : OutboxState} (h : AllTried s) {i : Nat} {w w' : Option Pass}
    (hi : s.workers[i]? = some w)
    (hpass : ∀ p, w' = some p → ∀ d ∈ p.tried, Tried s.events.rows d) :
    AllTried { s with workers := s.workers.set i w' } := by
  intro j q hj
  rw [getElem?_set_of_some hi] at hj
  split at hj
  · cases hj
    exact hpass q rfl
  · exact h j q hj

theorem AllTried.step {s s' : OutboxState} {event : Event} (htried : AllTried s)
    (h : OutboxInv maxAttempts s) (hstep : OutboxStep parseUuid maxAttempts s event s') :
    AllTried s' := by
  cases hstep with
  | enqueue now payload =>
      intro i p hi d hd
      obtain ⟨e, he, hed⟩ := htried i p hi d hd
      exact ⟨e, Table.mem_put.2 (.inr ⟨he, Nat.ne_of_lt (h.drawn e he)⟩), hed⟩
  | deleteBefore cutoff => exact htried
  | deleteNode nodeId hfree => exact htried
  | claim hi now batchSize =>
      refine htried.setWorker hi ?_
      rintro p hp d hd
      cases hp
      cases hd
  | deliver hi htodo nodeExists database now =>
      refine htried.setWorker hi ?_
      rintro q hq d hd
      cases hq
      obtain ⟨hevent, -⟩ := (h.passes _ _ hi).claimed _ (htodo ▸ List.mem_cons_self ..)
      rcases List.mem_cons.1 hd with rfl | hd
      · exact ⟨_, hevent, by simp⟩
      · exact htried _ _ hi d hd
  | commit hi htodo =>
      intro j q hj d hd
      dsimp only at hj
      rw [getElem?_set_of_some hi] at hj
      split at hj
      · cases hj
      · rename_i hne
        obtain ⟨e, he, hid, hed⟩ := htried j q hj d hd
        have heq := h.updated_of_locked hi hj (Ne.symm hne) (hid ▸ locks_of_tried hd)
        exact ⟨e, mem_commit_events.2 ⟨e, he, heq⟩, hid, hed⟩
  | die hi => exact htried.setWorker hi (by simp)

/-- What a transaction makes of a committed event is created when it was. -/
theorem updated_createdAt {s : OutboxState} {p : Pass}
    (htried : ∀ d ∈ p.tried, Tried s.events.rows d) {e : OutboxEvent} (he : e ∈ s.events.rows) :
    (p.updated e).createdAt = e.createdAt := by
  rcases updated_cases p e with ⟨d, hd, hid, heq⟩ | ⟨-, heq⟩
  · obtain ⟨e', he', hid', hcreated, -⟩ := htried d hd
    rw [heq, ← hcreated, s.events.eq_of_key_eq he' he (hid'.trans hid)]
  · rw [heq]

/-- Trying an event again leaves less to try. -/
theorem left_tried {e d : OutboxEvent} (hok : EventOk maxAttempts e)
    (hpending : e.status = .pending) (hattempts : e.attempts + 1 = d.attempts) :
    d.left maxAttempts < e.left maxAttempts := by
  have hpos := left_pos hok hpending
  simp only [EventOk, hpending] at hok
  simp only [OutboxEvent.left, hpending, if_pos] at hpos ⊢
  split <;> omega

/-- What a committed transaction leaves to try of each event. -/
theorem left_updated {s : OutboxState} (h : OutboxInv maxAttempts s) {p : Pass}
    (hp : PassOk maxAttempts s.events.rows p) (htried : ∀ d ∈ p.tried, Tried s.events.rows d)
    {e : OutboxEvent} (he : e ∈ s.events.rows) :
    (p.updated e).left maxAttempts ≤ e.left maxAttempts ∧
      (e.id ∈ p.tried.map (·.id) →
        (p.updated e).left maxAttempts < e.left maxAttempts) := by
  rcases updated_cases p e with ⟨d, hd, hid, heq⟩ | ⟨hnot, heq⟩
  · obtain ⟨e₁, he₁, hid₁, -, hattempts⟩ := htried d hd
    obtain ⟨-, e₂, he₂, hid₂, hpending⟩ := hp.tried d hd
    obtain rfl := s.events.eq_of_key_eq he₁ he (hid₁.trans hid)
    obtain rfl := s.events.eq_of_key_eq he₂ he (hid₂.trans hid)
    have hlt := left_tried (h.events _ he).1 hpending hattempts
    rw [heq]
    exact ⟨hlt.le, fun _ => hlt⟩
  · rw [heq]
    exact ⟨Nat.le_refl _, fun hmem => absurd hmem hnot⟩

/-! ## Who pays -/

/-- The transaction has claimed an event that was created by `c`. -/
def Pass.Serves (c : Time) (p : Pass) : Prop := ∃ e ∈ p.todo ++ p.tried, e.createdAt ≤ c

/-- A commit adds nothing to the debt, -/
theorem debt_commit_le {s : OutboxState} (h : OutboxInv maxAttempts s) (htried : AllTried s)
    {i : Nat} {p : Pass} (hi : s.workers[i]? = some (some p)) (c : Time) :
    (s.commit p).debt maxAttempts c ≤ s.debt maxAttempts c := by
  have hrows : (s.commit p).events.rows = s.events.rows.map p.updated := rfl
  unfold OutboxState.debt
  rw [hrows, List.map_map]
  refine List.sum_le_sum fun e he => ?_
  have hleft := (left_updated h (h.passes i p hi) (htried i p hi) he).1
  simp only [Function.comp_apply, OutboxEvent.due, updated_createdAt (htried i p hi) he]
  split
  · exact hleft
  · exact Nat.le_refl _

/-- and pays a part of it when the transaction serves the events it is about. -/
theorem debt_commit_lt {s : OutboxState} (h : OutboxInv maxAttempts s) (htried : AllTried s)
    {i : Nat} {p : Pass} (hi : s.workers[i]? = some (some p)) (htodo : p.todo = []) {c : Time}
    (hserves : p.Serves c) : (s.commit p).debt maxAttempts c < s.debt maxAttempts c := by
  have hrows : (s.commit p).events.rows = s.events.rows.map p.updated := rfl
  obtain ⟨d, hd, hdc⟩ := hserves
  rw [htodo, List.nil_append] at hd
  obtain ⟨e, he, hid, hcreated, -⟩ := htried i p hi d hd
  unfold OutboxState.debt
  rw [hrows, List.map_map]
  refine List.sum_lt_sum _ _ (fun x hx => ?_) ⟨e, he, ?_⟩
  · have hleft := (left_updated h (h.passes i p hi) (htried i p hi) hx).1
    simp only [Function.comp_apply, OutboxEvent.due, updated_createdAt (htried i p hi) hx]
    split
    · exact hleft
    · exact Nat.le_refl _
  · have hleft := (left_updated h (h.passes i p hi) (htried i p hi) he).2
      (hid ▸ List.mem_map_of_mem hd)
    simp only [Function.comp_apply, OutboxEvent.due, updated_createdAt (htried i p hi) he]
    rw [if_pos (hcreated ▸ hdc), if_pos (hcreated ▸ hdc)]
    exact hleft

/-- The oldest ones are claimed first. -/
theorem exists_mem_take_insertionSort {rows : List OutboxEvent} {e : OutboxEvent} (he : e ∈ rows)
    {n : Nat} (hn : 1 ≤ n) :
    ∃ x ∈ (rows.insertionSort fun a b => a.createdAt ≤ b.createdAt).take n,
      x.createdAt ≤ e.createdAt := by
  have htotal : Std.Total fun a b : OutboxEvent => a.createdAt ≤ b.createdAt :=
    ⟨fun a b => Nat.le_total a.createdAt b.createdAt⟩
  have htrans : IsTrans OutboxEvent fun a b => a.createdAt ≤ b.createdAt :=
    ⟨fun a b c => Nat.le_trans⟩
  have hsorted := List.pairwise_insertionSort
    (fun a b : OutboxEvent => a.createdAt ≤ b.createdAt) rows
  rw [← List.mem_insertionSort fun a b : OutboxEvent => a.createdAt ≤ b.createdAt] at he
  obtain ⟨n, rfl⟩ : ∃ m, n = m + 1 := ⟨n - 1, by omega⟩
  cases hrows : rows.insertionSort fun a b => a.createdAt ≤ b.createdAt with
  | nil =>
      rw [hrows] at he
      cases he
  | cons x rest =>
      rw [hrows] at he hsorted
      refine ⟨x, List.mem_cons_self .., ?_⟩
      rcases List.mem_cons.1 he with rfl | he
      · exact Nat.le_refl _
      · exact (List.pairwise_cons.1 hsorted).1 e he

/-- The event is due, and no transaction has locked it. -/
def OutboxState.waiting (s : OutboxState) (id : Uuid) (now : Time) : Bool :=
  s.events.rows.any fun e => e.id = id && e.status = .pending && e.nextAttemptAt ≤ now &&
    !s.workers.any fun p => p.any fun p => p.locks e.id

/-- A transaction that begins while an event waits serves the events that are as
old as this one. -/
theorem serves_claim {s : OutboxState} {e : OutboxEvent} (he : e ∈ s.events.rows) {now : Time}
    (hwaiting : s.waiting e.id now = true) {batchSize : Nat} (hbatch : 1 ≤ batchSize) :
    (Pass.mk now (s.claim now batchSize) [] []).Serves e.createdAt := by
  obtain ⟨x, hx, hcond⟩ := List.any_eq_true.1 hwaiting
  simp only [Bool.and_eq_true, decide_eq_true_eq] at hcond
  obtain ⟨⟨⟨hid, hpending⟩, hdue⟩, hfree⟩ := hcond
  obtain rfl := s.events.eq_of_key_eq hx he hid
  have hmem : x ∈ s.events.rows.filter fun e => e.status = .pending && e.nextAttemptAt ≤ now &&
      !s.workers.any fun p => p.any fun p => p.locks e.id :=
    List.mem_filter.2 ⟨hx, by simp only [hpending, hdue, hfree, decide_true, Bool.and_self]⟩
  obtain ⟨y, hy, hle⟩ := exists_mem_take_insertionSort hmem hbatch
  exact ⟨y, List.mem_append_left _ hy, hle⟩

/-! ## Turns -/

/-- Which transactions began while the event was waiting. -/
def lookAt (id : Uuid) (s : OutboxState) : Event → (Nat → Bool) → Nat → Bool
  | .worker i (.claim now batchSize), began =>
      Function.update began i (s.waiting id now && decide (1 ≤ batchSize))
  | .worker i .commit, began => Function.update began i false
  | .worker i .die, began => Function.update began i false
  | _, began => began

/-- A transaction that is committed, and that began while the event was
waiting, is a turn. -/
def turnOf (_ : OutboxState) (began : Nat → Bool) : Event → Nat
  | .worker i .commit => if began i then 1 else 0
  | _ => 0

/-- The turns of a run: the passes that had the choice to try the event, and
were not lost. -/
def turns (parseUuid : String → Option Uuid) (maxAttempts : Nat) (id : Uuid) (s : OutboxState)
    (run : List Event) : Nat :=
  (outboxSystem parseUuid maxAttempts).spent (lookAt id) turnOf s (fun _ => false) run

/-- What is known all along a run in which an event, created at `c`, waits. -/
structure Waits (maxAttempts : Nat) (id : Uuid) (c : Time) (s : OutboxState)
    (began : Nat → Bool) : Prop where
  inv : OutboxInv maxAttempts s
  tried : AllTried s
  row : ∃ e ∈ s.events.rows, e.id = id ∧ e.createdAt = c
  serves : ∀ (i : Nat) (p : Pass), began i = true → s.workers[i]? = some (some p) → p.Serves c

/-- What an event that arrives adds to the debt of the events that were created
by `c`.  Its time is set before its transaction is committed, so that it may be
older than events that are there. -/
def arrivalOf (maxAttempts : Nat) (c : Time) : Event → Nat
  | .enqueue now _ => if now ≤ c then maxAttempts else 0
  | _ => 0

/-- The debt that arrives in a run. -/
def arrivals (maxAttempts : Nat) (c : Time) (run : List Event) : Nat :=
  System.earned (arrivalOf maxAttempts c) run

theorem serves_deliver {s : OutboxState} {p : Pass} {event : OutboxEvent}
    {rest : List OutboxEvent} (htodo : p.todo = event :: rest) {c : Time} (h : p.Serves c)
    (nodeExists : Uuid → Bool) (database : Option String) (now : Time) :
    (s.deliver parseUuid maxAttempts p event rest nodeExists database now).Serves c := by
  obtain ⟨e, he, hc⟩ := h
  rw [htodo, List.cons_append] at he
  simp only [Pass.Serves, OutboxState.deliver]
  rcases List.mem_cons.1 he with rfl | he
  · refine ⟨_, List.mem_append_right _ (List.mem_cons_self ..), ?_⟩
    rwa [settle_createdAt]
  · refine ⟨e, ?_, hc⟩
    rcases List.mem_append.1 he with he | he
    · exact List.mem_append_left _ he
    · exact List.mem_append_right _ (List.mem_cons_of_mem _ he)

/-- Slot `i` is written to, the other ones are as before. -/
theorem serves_update {workers : List (Option Pass)} {began : Nat → Bool} {c : Time}
    (h : ∀ (j : Nat) (p : Pass), began j = true → workers[j]? = some (some p) → p.Serves c)
    {i : Nat} {w w' : Option Pass} (hi : workers[i]? = some w) {b : Bool}
    (hb : ∀ p, b = true → w' = some p → p.Serves c) (j : Nat) (p : Pass)
    (hbegan : Function.update began i b j = true) (hj : (workers.set i w')[j]? = some (some p)) :
    p.Serves c := by
  rw [getElem?_set_of_some hi] at hj
  by_cases hij : i = j
  · subst hij
    rw [if_pos rfl] at hj
    rw [Function.update_self] at hbegan
    exact hb p hbegan (Option.some.inj hj)
  · rw [if_neg hij] at hj
    rw [Function.update_of_ne (Ne.symm hij)] at hbegan
    exact h j p hbegan hj

/-- The event stays where it is. -/
theorem row_step {s s' : OutboxState} {event : Event} (h : OutboxInv maxAttempts s)
    (htried : AllTried s) (hstep : OutboxStep parseUuid maxAttempts s event s') {id : Uuid}
    {c : Time} (hrow : ∃ e ∈ s.events.rows, e.id = id ∧ e.createdAt = c) :
    ∃ e ∈ s'.events.rows, e.id = id ∧ e.createdAt = c := by
  obtain ⟨e, he, hid, hcreated⟩ := hrow
  cases hstep with
  | enqueue now payload =>
      exact ⟨e, Table.mem_put.2 (.inr ⟨he, Nat.ne_of_lt (h.drawn e he)⟩), hid, hcreated⟩
  | deleteBefore cutoff => exact ⟨e, he, hid, hcreated⟩
  | deleteNode nodeId hfree => exact ⟨e, he, hid, hcreated⟩
  | claim hi now batchSize => exact ⟨e, he, hid, hcreated⟩
  | deliver hi htodo nodeExists database now => exact ⟨e, he, hid, hcreated⟩
  | @commit i p hi htodo =>
      refine ⟨p.updated e, mem_commit_events.2 ⟨e, he, rfl⟩, ?_, ?_⟩
      · rw [p.updated_id, hid]
      · rw [updated_createdAt (htried i p hi) he, hcreated]
  | die hi => exact ⟨e, he, hid, hcreated⟩

theorem Waits.step (hmax : 1 ≤ maxAttempts) {id : Uuid} {c : Time} {s s' : OutboxState}
    {began : Nat → Bool} {event : Event} (h : Waits maxAttempts id c s began)
    (hstep : (outboxSystem parseUuid maxAttempts).step s event = some s') :
    Waits maxAttempts id c s' (lookAt id s event began) where
  inv := h.inv.step hmax hstep
  tried := h.tried.step h.inv (outboxStep_of_step hstep)
  row := row_step h.inv h.tried (outboxStep_of_step hstep) h.row
  serves := by
    cases outboxStep_of_step hstep with
    | enqueue now payload => exact h.serves
    | deleteBefore cutoff => exact h.serves
    | deleteNode nodeId hfree => exact h.serves
    | claim hi now batchSize =>
        refine serves_update h.serves hi ?_
        rintro p hb hp
        cases hp
        obtain ⟨hwaiting, hbatch⟩ := Bool.and_eq_true_iff.1 hb
        obtain ⟨e, he, rfl, rfl⟩ := h.row
        exact serves_claim he hwaiting (of_decide_eq_true hbatch)
    | @deliver i p event rest hi htodo nodeExists database now =>
        intro j q hbegan hj
        dsimp only at hj
        rw [getElem?_set_of_some hi] at hj
        split at hj
        · rename_i hij
          cases hj
          exact serves_deliver htodo (h.serves i p (hij ▸ hbegan) hi) _ _ _
        · exact h.serves j q hbegan hj
    | commit hi htodo => exact serves_update h.serves hi (by simp)
    | die hi => exact serves_update h.serves hi (by simp)

/-- **Every turn pays a part of the debt**, and only older events add to it. -/
theorem Waits.pays {id : Uuid} {c : Time} {s s' : OutboxState}
    {began : Nat → Bool} {event : Event} (h : Waits maxAttempts id c s began)
    (hstep : (outboxSystem parseUuid maxAttempts).step s event = some s') :
    turnOf s began event + s'.debt maxAttempts c ≤
      s.debt maxAttempts c + arrivalOf maxAttempts c event := by
  cases outboxStep_of_step hstep with
  | enqueue now payload =>
      have hfresh : ∀ e ∈ s.events.rows, e.id ≠ s.nextId := fun e he =>
        Nat.ne_of_lt (h.inv.drawn e he)
      simp only [turnOf, OutboxState.debt]
      rw [Table.rows_put_of_fresh hfresh, List.map_append, List.sum_append]
      simp [OutboxEvent.due, OutboxEvent.left, arrivalOf]
  | deleteBefore cutoff => exact Nat.le_of_eq (Nat.zero_add _)
  | deleteNode nodeId hfree => exact Nat.le_of_eq (Nat.zero_add _)
  | claim hi now batchSize => exact Nat.le_of_eq (Nat.zero_add _)
  | deliver hi htodo nodeExists database now => exact Nat.le_of_eq (Nat.zero_add _)
  | @commit i p hi htodo =>
      cases hbegan : began i with
      | false =>
          have hle := debt_commit_le h.inv h.tried hi c
          have hturn : turnOf s began (.worker i .commit) = 0 := by simp [turnOf, hbegan]
          rw [hturn, Nat.zero_add]
          exact hle
      | true =>
          have hlt := debt_commit_lt h.inv h.tried hi htodo (h.serves i p hbegan hi)
          have hturn : turnOf s began (.worker i .commit) = 1 := by simp [turnOf, hbegan]
          rw [hturn, Nat.add_comm]
          exact hlt
  | die hi => exact Nat.le_of_eq (Nat.zero_add _)

/-! ## Every run -/

theorem allTried_of_reachable (hmax : 1 ≤ maxAttempts) {s : OutboxState}
    (h : (outboxSystem parseUuid maxAttempts).Reachable s) : AllTried s := by
  have hboth : OutboxInv maxAttempts s ∧ AllTried s := by
    refine h.invariant (I := fun s => OutboxInv maxAttempts s ∧ AllTried s) ?_ ?_
    · intro s hinit
      refine ⟨outboxInv_init hinit, ?_⟩
      intro i p hi
      cases hinit.2.2.2 _ (List.mem_of_getElem? hi)
    · intro s e s' hs _ hstep
      exact ⟨hs.1.step hmax hstep, hs.2.step hs.1 (outboxStep_of_step hstep)⟩
  exact hboth.2

/-- **No event waits for ever.**  In every run from a reachable state, of any
number of workers that may die at any point, the turns of an event are paid for
by the debt of the events that are as old as it is, those included that arrive
in the run; so once it has had as many turns as that, it is completed or failed. -/
theorem settled_after_turns (hmax : 1 ≤ maxAttempts) {s t : OutboxState} {run : List Event}
    (h : (outboxSystem parseUuid maxAttempts).Reachable s) {e : OutboxEvent}
    (he : e ∈ s.events.rows) (hrun : (outboxSystem parseUuid maxAttempts).exec s run = some t) :
    turns parseUuid maxAttempts e.id s run + t.debt maxAttempts e.createdAt ≤
        s.debt maxAttempts e.createdAt + arrivals maxAttempts e.createdAt run ∧
      ∃ e' ∈ t.events.rows, e'.id = e.id ∧
        (s.debt maxAttempts e.createdAt + arrivals maxAttempts e.createdAt run ≤
            turns parseUuid maxAttempts e.id s run →
          e'.status = .completed ∨ e'.status = .failed) := by
  have hstart : Waits maxAttempts e.id e.createdAt s fun _ => false :=
    { inv := outboxInv_of_reachable hmax h
      tried := allTried_of_reachable hmax h
      row := ⟨e, he, rfl, rfl⟩
      serves := by simp }
  have hpaid : turns parseUuid maxAttempts e.id s run + t.debt maxAttempts e.createdAt ≤
      s.debt maxAttempts e.createdAt + arrivals maxAttempts e.createdAt run :=
    System.spent_add_le (fun s _ => s.debt maxAttempts e.createdAt)
      (arrivalOf maxAttempts e.createdAt)
      (fun s o event s' hs hstep => hs.step hmax hstep)
      (fun s o event s' hs hstep => hs.pays hstep) hstart hrun
  have hend := System.watched_invariant
    (fun s o event s' hs hstep => hs.step hmax hstep) hstart hrun
  refine ⟨hpaid, ?_⟩
  obtain ⟨e', he', hid, hcreated⟩ := hend.row
  refine ⟨e', he', hid, fun hturns => ?_⟩
  have hok := (hend.inv.events e' he').1
  have hdebt : e'.left maxAttempts ≤ t.debt maxAttempts e.createdAt :=
    left_le_debt he' (Nat.le_of_eq hcreated)
  have hzero : t.debt maxAttempts e.createdAt = 0 := by omega
  cases hstatus : e'.status with
  | pending =>
      have hpos := left_pos hok hstatus
      omega
  | processing => simp only [EventOk, hstatus] at hok
  | completed => exact .inl rfl
  | failed => exact .inr rfl

/-- Two events and two workers, which claim one event at a time; the first one
dies once, and an event that was created with the first one arrives late. -/
def oneByOne : List Event :=
  [.worker 0 (.claim 5 1), .worker 1 (.claim 5 1),
    .worker 0 (.deliver (fun _ => true) none 5), .worker 0 .die,
    .enqueue 0 (.dict [("action", .str "node.create")]),
    .worker 1 (.deliver (fun _ => true) none 5), .worker 1 .commit,
    .worker 0 (.claim 7 1), .worker 0 (.deliver (fun _ => true) none 7), .worker 0 .commit]

/-- The second event has its turn first, as the first one is locked, and is
settled after it, while the debt of three events covers it. -/
theorem settled_oneByOne : ∃ s t e,
    (outboxSystem (fun _ => none) 1).exec ⟨.empty, .empty, [], [none, none], 0⟩
        [.enqueue 0 (.dict []), .enqueue 1 (.dict [("action", .str "node.delete")])] = some s ∧
      (outboxSystem (fun _ => none) 1).exec s oneByOne = some t ∧
      e ∈ s.events.rows ∧ s.debt 1 e.createdAt + arrivals 1 e.createdAt oneByOne = 3 ∧
      turns (fun _ => none) 1 e.id s oneByOne = 1 ∧
      turns (fun _ => none) 1 e.id s oneByOne + t.debt 1 e.createdAt ≤
        s.debt 1 e.createdAt + arrivals 1 e.createdAt oneByOne := by
  obtain ⟨s, hs, e, he, t, ht, hdebt, hturns⟩ : ∃ s,
      (outboxSystem (fun _ => none) 1).exec ⟨.empty, .empty, [], [none, none], 0⟩
        [.enqueue 0 (.dict []), .enqueue 1 (.dict [("action", .str "node.delete")])] = some s ∧
      ∃ e ∈ s.events.rows, ∃ t, (outboxSystem (fun _ => none) 1).exec s oneByOne = some t ∧
        s.debt 1 e.createdAt + arrivals 1 e.createdAt oneByOne = 3 ∧
        turns (fun _ => none) 1 e.id s oneByOne = 1 :=
    ⟨_, rfl, _, List.mem_cons_of_mem _ (List.mem_cons_self ..), _, rfl, rfl, rfl⟩
  have hinit : (outboxSystem (fun _ => none) 1).init ⟨.empty, .empty, [], [none, none], 0⟩ :=
    ⟨rfl, rfl, rfl, by simp⟩
  refine ⟨s, t, e, hs, ht, he, hdebt, hturns, ?_⟩
  exact (settled_after_turns (Nat.le_refl 1) (System.reachable_of_exec hinit hs) he ht).1

end Audit
end NodeNexus
