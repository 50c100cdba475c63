import Mathlib.Data.List.Basic

/-!
# A unit of work

A session over a database collects the changes of objects, sends them in one transaction, and
commits the transaction.

* `Change` — an object is added, an attribute of it is set, or it is deleted.
* `UnitOfWork` — the changes that were not sent yet, those of the open transaction with its
  savepoints, and those that are committed.
* `new`, `dirty` and `deleted` — the objects with changes that were not sent; `pending_iff`
  says that there is one exactly when a change was not sent.
* `Op` — what a program does with a session; no operation commits (`committed_apply`).
-/

/-- A change of an object. -/
inductive Change (ω ν : Type) where
  | add (object : ω)
  | set (object : ω) (value : ν)
  | delete (object : ω)

namespace Change

variable {ω ν : Type}

/-- The object that is added. -/
def added? : Change ω ν → Option ω
  | .add object => some object
  | _ => none

/-- The object of which an attribute is set. -/
def set? : Change ω ν → Option ω
  | .set object _ => some object
  | _ => none

/-- The object that is deleted. -/
def deleted? : Change ω ν → Option ω
  | .delete object => some object
  | _ => none

end Change

/-- A session and the committed changes behind it. -/
structure UnitOfWork (ω ν : Type) where
  /-- Changes that no statement was sent for. -/
  unflushed : List (Change ω ν)
  /-- Changes of the open transaction. -/
  sent : List (Change ω ν)
  /-- What the open transaction was at its savepoints, the last one first. -/
  savepoints : List (List (Change ω ν))
  committed : List (Change ω ν)

namespace UnitOfWork

variable {ω ν : Type}

/-- A session over a database. -/
def fresh (committed : List (Change ω ν)) : UnitOfWork ω ν := ⟨[], [], [], committed⟩

/-- Changes that were made, not undone, and not committed. -/
def live (u : UnitOfWork ω ν) : List (Change ω ν) := u.sent ++ u.unflushed

/-- Changes that were made and not undone. -/
def made (u : UnitOfWork ω ν) : List (Change ω ν) := u.committed ++ u.live

/-! ## Pending objects -/

/-- Added objects whose statements were not sent. -/
def new (u : UnitOfWork ω ν) : List ω := u.unflushed.filterMap Change.added?

/-- Deleted objects whose statements were not sent. -/
def deleted (u : UnitOfWork ω ν) : List ω := u.unflushed.filterMap Change.deleted?

/-- Other objects with a set attribute. -/
def dirty [DecidableEq ω] (u : UnitOfWork ω ν) : List ω :=
  (u.unflushed.filterMap Change.set?).filter fun object =>
    decide (object ∉ u.new ∧ object ∉ u.deleted)

/-- **Some object is pending** exactly when some change was not sent. -/
theorem pending_iff [DecidableEq ω] (u : UnitOfWork ω ν) :
    (u.new ≠ [] ∨ u.dirty ≠ [] ∨ u.deleted ≠ []) ↔ u.unflushed ≠ [] := by
  constructor
  · intro h hnone
    rcases h with h | h | h
    · exact h (by simp [new, hnone])
    · exact h (by simp [dirty, hnone])
    · exact h (by simp [deleted, hnone])
  · intro h
    obtain ⟨change, hchange⟩ := List.exists_mem_of_ne_nil _ h
    by_cases hnew : u.new = []
    · by_cases hdeleted : u.deleted = []
      · -- then the change sets an attribute of an object that is in neither set
        right
        left
        cases change with
        | add object =>
            have hmem : object ∈ u.new := List.mem_filterMap.2 ⟨_, hchange, rfl⟩
            rw [hnew] at hmem
            cases hmem
        | delete object =>
            have hmem : object ∈ u.deleted := List.mem_filterMap.2 ⟨_, hchange, rfl⟩
            rw [hdeleted] at hmem
            cases hmem
        | set object value =>
            have hmem : object ∈ u.dirty := by
              refine List.mem_filter.2 ⟨List.mem_filterMap.2 ⟨_, hchange, rfl⟩, ?_⟩
              simp [hnew, hdeleted]
            exact List.ne_nil_of_mem hmem
      · exact .inr (.inr hdeleted)
    · exact .inl hnew

/-! ## Operations -/

/-- What a program does with a session. -/
inductive Op (ω ν : Type) where
  | add (object : ω)
  | set (object : ω) (value : ν)
  | delete (object : ω)
  | flush
  /-- A query; the session flushes before it. -/
  | query
  /-- A savepoint; the session flushes before it. -/
  | beginNested
  | release
  | rollbackNested

/-- The statements of all pending changes are sent. -/
def flush (u : UnitOfWork ω ν) : UnitOfWork ω ν :=
  { u with unflushed := [], sent := u.sent ++ u.unflushed }

/-- What an operation does.  An object that was not flushed is not deleted, and a release or a
rollback is one of the last savepoint. -/
def apply [DecidableEq ω] (u : UnitOfWork ω ν) : Op ω ν → UnitOfWork ω ν
  | .add object => { u with unflushed := u.unflushed ++ [.add object] }
  | .set object value => { u with unflushed := u.unflushed ++ [.set object value] }
  | .delete object =>
      if object ∈ u.new then u else { u with unflushed := u.unflushed ++ [.delete object] }
  | .flush => u.flush
  | .query => u.flush
  | .beginNested => { u.flush with savepoints := u.flush.sent :: u.savepoints }
  | .release => { u.flush with savepoints := u.savepoints.tail }
  | .rollbackNested =>
      match u.savepoints with
      | [] => u
      | sent :: savepoints => { u with unflushed := [], sent := sent, savepoints := savepoints }

/-- `COMMIT` of the whole transaction, after a flush. -/
def commit (u : UnitOfWork ω ν) : UnitOfWork ω ν := fresh u.made

/-- `ROLLBACK` of the whole transaction. -/
def rollback (u : UnitOfWork ω ν) : UnitOfWork ω ν := fresh u.committed

@[simp] theorem committed_flush (u : UnitOfWork ω ν) : u.flush.committed = u.committed := rfl

@[simp] theorem live_flush (u : UnitOfWork ω ν) : u.flush.live = u.live := by
  simp [flush, live]

@[simp] theorem live_fresh (committed : List (Change ω ν)) : (fresh committed).live = [] := rfl

@[simp] theorem live_commit (u : UnitOfWork ω ν) : u.commit.live = [] := rfl

@[simp] theorem committed_commit (u : UnitOfWork ω ν) : u.commit.committed = u.made := rfl

@[simp] theorem committed_rollback (u : UnitOfWork ω ν) : u.rollback.committed = u.committed := rfl

/-- **No operation commits.** -/
theorem committed_apply [DecidableEq ω] (u : UnitOfWork ω ν) (op : Op ω ν) :
    (u.apply op).committed = u.committed := by
  cases op with
  | delete object =>
      simp only [apply]
      split <;> rfl
  | rollbackNested =>
      simp only [apply]
      split <;> rfl
  | _ => rfl

/-- Several operations. -/
def applyAll [DecidableEq ω] (u : UnitOfWork ω ν) (ops : List (Op ω ν)) : UnitOfWork ω ν :=
  ops.foldl apply u

@[simp] theorem applyAll_nil [DecidableEq ω] (u : UnitOfWork ω ν) : u.applyAll [] = u := rfl

@[simp] theorem applyAll_cons [DecidableEq ω] (u : UnitOfWork ω ν) (op : Op ω ν)
    (ops : List (Op ω ν)) : u.applyAll (op :: ops) = (u.apply op).applyAll ops := rfl

theorem applyAll_append [DecidableEq ω] (u : UnitOfWork ω ν) (ops ops' : List (Op ω ν)) :
    u.applyAll (ops ++ ops') = (u.applyAll ops).applyAll ops' := by
  simp [applyAll]

end UnitOfWork
