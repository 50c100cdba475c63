import Mathlib.Data.List.Basic

/-!
# Bounded queues

A `BoundedQueue α n` holds at most `n` items, first in, first out.

* `BoundedQueue.put?` puts an item at the end, unless the queue is full.
* `BoundedQueue.get?` takes the first item out, unless the queue is empty.
* `BoundedQueue.putWhileRoom` puts items until the first one that finds no room.
-/

/-- At most `n` items, in the order in which they were put. -/
structure BoundedQueue (α : Type) (n : Nat) where
  items : List α
  bounded : items.length ≤ n

namespace BoundedQueue

variable {α : Type} {n : Nat} {q q' : BoundedQueue α n} {a : α}

/-- The queue without items. -/
def empty : BoundedQueue α n := ⟨[], Nat.zero_le n⟩

/-- Put an item at the end; `none` when the queue is full. -/
def put? (q : BoundedQueue α n) (a : α) : Option (BoundedQueue α n) :=
  if h : q.items.length < n then some ⟨q.items ++ [a], by simpa using Nat.succ_le_of_lt h⟩ else none

/-- Take the first item out; `none` when the queue is empty. -/
def get? (q : BoundedQueue α n) : Option (α × BoundedQueue α n) :=
  match h : q.items with
  | [] => none
  | a :: as => some (a, ⟨as, Nat.le_of_succ_le (by simpa [h] using q.bounded)⟩)

theorem items_of_put? (h : q.put? a = some q') : q'.items = q.items ++ [a] := by
  unfold put? at h
  split at h
  · cases h
    rfl
  · cases h

theorem items_of_get? (h : q.get? = some (a, q')) : q.items = a :: q'.items := by
  unfold get? at h
  split at h
  · cases h
  · rename_i heq
    cases h
    exact heq

/-- There is room in an empty queue. -/
theorem put?_of_empty (hq : q.items = []) (hn : 0 < n) (a : α) : ∃ q', q.put? a = some q' := by
  refine ⟨_, dif_pos ?_⟩
  rw [hq]
  exact hn

/-- A queue with items gives its first one. -/
theorem get?_of_ne_empty (hq : q.items ≠ []) : ∃ a q', q.get? = some (a, q') := by
  unfold get?
  split
  · rename_i h
    exact absurd h hq
  · exact ⟨_, _, rfl⟩

/-- The items of a full queue fill it. -/
theorem put?_eq_none_iff : q.put? a = none ↔ n ≤ q.items.length := by
  unfold put?
  split
  · rename_i h
    simp [h]
  · rename_i h
    simpa using h

/-- Put items one after the other; stop at the first one that finds no room. -/
def putWhileRoom (q : BoundedQueue α n) : List α → BoundedQueue α n
  | [] => q
  | a :: as =>
      match q.put? a with
      | some q' => q'.putWhileRoom as
      | none => q

/-- When there is room for all of them, all are put, in their order. -/
theorem items_putWhileRoom {as : List α} (h : q.items.length + as.length ≤ n) :
    (q.putWhileRoom as).items = q.items ++ as := by
  induction as generalizing q with
  | nil => simp [putWhileRoom]
  | cons a as ih =>
      rw [List.length_cons] at h
      cases hput : q.put? a with
      | none =>
          have hfull := put?_eq_none_iff.1 hput
          omega
      | some q' =>
          have hitems := items_of_put? hput
          have hroom : q'.items.length + as.length ≤ n := by
            rw [hitems, List.length_append, List.length_singleton]
            omega
          rw [putWhileRoom, hput]
          simp only
          rw [ih hroom, hitems, List.append_assoc]
          rfl

end BoundedQueue
