import Mathlib.Algebra.Order.BigOperators.Group.List
import Mathlib.Algebra.Order.Group.Nat
import Mathlib.Algebra.Ring.Nat
import Mathlib.Data.List.Induction
import Mathlib.Data.List.Nodup
import Mathlib.Tactic.Tauto

/-!
# Grouping

Values are put into groups by a key, as a loop over a dictionary of lists does:
a new key opens a group at the end, and the members keep their order.

* `add` is one round of the loop, `group` the whole loop over pairs of a key and
  a value.
* `grouped_group` — the keys are different, every key has its group, and a group
  holds the values of its key in their order.
* `sum_length_group` — no value is lost and none comes twice.
* `forall_eq_of_sum_eq` and `countP_eq_iff` tell equal counts from smaller ones,
  value by value.
-/

namespace Grouping

variable {κ β : Type} [DecidableEq κ]

/-- `groups[key].append(value)`, on a `defaultdict(list)`. -/
def add (k : κ) (x : β) : List (κ × List β) → List (κ × List β)
  | [] => [(k, [x])]
  | g :: gs => if g.1 = k then (g.1, g.2 ++ [x]) :: gs else g :: add k x gs

/-- The loop. -/
def group (pairs : List (κ × β)) : List (κ × List β) :=
  pairs.foldl (fun gs p => add p.1 p.2 gs) []

/-- The values of a key. -/
def members (pairs : List (κ × β)) (k : κ) : List β :=
  (pairs.filter fun p => decide (p.1 = k)).map Prod.snd

/-- What the groups of some pairs are. -/
structure Grouped (pairs : List (κ × β)) (gs : List (κ × List β)) : Prop where
  nodup : (gs.map Prod.fst).Nodup
  covers : ∀ k, k ∈ gs.map Prod.fst ↔ k ∈ pairs.map Prod.fst
  members : ∀ g ∈ gs, g.2 = members pairs g.1

theorem members_append_one (pairs : List (κ × β)) (k : κ) (x : β) (k' : κ) :
    members (pairs ++ [(k, x)]) k' = members pairs k' ++ if k = k' then [x] else [] := by
  unfold members
  rw [List.filter_append, List.map_append]
  by_cases h : k = k' <;> simp [h]

theorem mem_keys_add {k : κ} {x : β} {gs : List (κ × List β)} {k' : κ} :
    k' ∈ (add k x gs).map Prod.fst ↔ k' = k ∨ k' ∈ gs.map Prod.fst := by
  induction gs with
  | nil => simp [add]
  | cons g gs ih =>
      unfold add
      by_cases hg : g.1 = k
      · rw [if_pos hg, List.map_cons, List.map_cons]
        simp [hg]
      · rw [if_neg hg, List.map_cons, List.map_cons, List.mem_cons, List.mem_cons, ih]
        tauto

theorem nodup_add {k : κ} {x : β} {gs : List (κ × List β)} (h : (gs.map Prod.fst).Nodup) :
    ((add k x gs).map Prod.fst).Nodup := by
  induction gs with
  | nil => simp [add]
  | cons g gs ih =>
      rw [List.map_cons, List.nodup_cons] at h
      unfold add
      by_cases hg : g.1 = k
      · rw [if_pos hg, List.map_cons, List.nodup_cons]
        exact h
      · rw [if_neg hg, List.map_cons, List.nodup_cons]
        refine ⟨?_, ih h.2⟩
        intro hmem
        rcases mem_keys_add.1 hmem with heq | hmem
        · exact hg heq
        · exact h.1 hmem

/-- The groups after a round: the one of the key has a new member. -/
theorem mem_add {k : κ} {x : β} {gs : List (κ × List β)} {g : κ × List β}
    (h : (gs.map Prod.fst).Nodup) (hg : g ∈ add k x gs) :
    (g.1 ≠ k ∧ g ∈ gs) ∨ (g.1 = k ∧ ∃ xs, (k, xs) ∈ gs ∧ g.2 = xs ++ [x]) ∨
      (g = (k, [x]) ∧ k ∉ gs.map Prod.fst) := by
  induction gs with
  | nil =>
      rw [add, List.mem_singleton] at hg
      exact Or.inr (Or.inr ⟨hg, by simp⟩)
  | cons g' gs ih =>
      rw [List.map_cons, List.nodup_cons] at h
      unfold add at hg
      by_cases hk : g'.1 = k
      · rw [if_pos hk] at hg
        rcases List.mem_cons.1 hg with rfl | hg
        · exact Or.inr (Or.inl ⟨hk, g'.2, by simp [← hk], rfl⟩)
        · refine Or.inl ⟨?_, List.mem_cons_of_mem _ hg⟩
          rintro rfl
          exact h.1 (hk ▸ List.mem_map_of_mem hg)
      · rw [if_neg hk] at hg
        rcases List.mem_cons.1 hg with rfl | hg
        · exact Or.inl ⟨hk, List.mem_cons_self ..⟩
        · rcases ih h.2 hg with ⟨hne, hmem⟩ | ⟨heq, xs, hxs, hg2⟩ | ⟨rfl, hnot⟩
          · exact Or.inl ⟨hne, List.mem_cons_of_mem _ hmem⟩
          · exact Or.inr (Or.inl ⟨heq, xs, List.mem_cons_of_mem _ hxs, hg2⟩)
          · refine Or.inr (Or.inr ⟨rfl, ?_⟩)
            rw [List.map_cons, List.mem_cons, not_or]
            exact ⟨Ne.symm hk, hnot⟩

/-- One round of the loop. -/
theorem Grouped.add {pairs : List (κ × β)} {gs : List (κ × List β)} (h : Grouped pairs gs)
    (k : κ) (x : β) : Grouped (pairs ++ [(k, x)]) (add k x gs) where
  nodup := nodup_add h.nodup
  covers k' := by
    rw [mem_keys_add, h.covers, List.map_append, List.mem_append, or_comm]
    simp
  members g hg := by
    rw [members_append_one]
    rcases mem_add h.nodup hg with ⟨hne, hmem⟩ | ⟨heq, xs, hxs, hg2⟩ | ⟨rfl, hnot⟩
    · rw [if_neg (Ne.symm hne), List.append_nil]
      exact h.members g hmem
    · have hold : xs = Grouping.members pairs k := h.members (k, xs) hxs
      rw [if_pos heq.symm, hg2, heq, hold]
    · rw [h.covers] at hnot
      have hnone : Grouping.members pairs k = [] := by
        unfold Grouping.members
        rw [List.map_eq_nil_iff, List.filter_eq_nil_iff]
        intro p hp
        rw [decide_eq_true_eq]
        rintro rfl
        exact hnot (List.mem_map_of_mem hp)
      rw [hnone, if_pos rfl]
      rfl

/-- **What the loop makes of the pairs.** -/
theorem grouped_group (pairs : List (κ × β)) : Grouped pairs (group pairs) := by
  induction pairs using List.reverseRecOn with
  | nil => exact ⟨List.nodup_nil, by simp [group], by simp [group]⟩
  | append_singleton pairs p ih =>
      have hlast : group (pairs ++ [p]) = Grouping.add p.1 p.2 (group pairs) := by
        simp [group]
      rw [hlast]
      exact ih.add p.1 p.2

theorem sum_length_add (k : κ) (x : β) (gs : List (κ × List β)) :
    ((add k x gs).map fun g => g.2.length).sum = (gs.map fun g => g.2.length).sum + 1 := by
  induction gs with
  | nil => simp [add]
  | cons g gs ih =>
      unfold add
      by_cases hg : g.1 = k
      · rw [if_pos hg]
        simp
        omega
      · rw [if_neg hg, List.map_cons, List.sum_cons, ih, List.map_cons, List.sum_cons]
        omega

/-- The groups together have as many members as there are pairs. -/
theorem sum_length_group (pairs : List (κ × β)) :
    ((group pairs).map fun g => g.2.length).sum = pairs.length := by
  induction pairs using List.reverseRecOn with
  | nil => rfl
  | append_singleton pairs p ih =>
      have hlast : group (pairs ++ [p]) = add p.1 p.2 (group pairs) := by
        simp [group]
      rw [hlast, sum_length_add, ih, List.length_append]
      rfl

/-- With one pair for each value the members are the values of the key. -/
theorem members_map (key : β → κ) (xs : List β) (k : κ) :
    members (xs.map fun x => (key x, x)) k = xs.filter fun x => decide (key x = k) := by
  unfold members
  rw [List.filter_map, List.map_map]
  exact List.map_id _

/-! ## Counts value by value -/

omit [DecidableEq κ]

/-- Sums of values that are at least others are equal only if the values are. -/
theorem forall_eq_of_sum_eq {f g : β → Nat} {xs : List β} (hle : ∀ x ∈ xs, f x ≤ g x)
    (hsum : (xs.map f).sum = (xs.map g).sum) : ∀ x ∈ xs, f x = g x := by
  induction xs with
  | nil => simp
  | cons x xs ih =>
      have hx := hle x (List.mem_cons_self ..)
      have hxs : ∀ y ∈ xs, f y ≤ g y := fun y hy => hle y (List.mem_cons_of_mem x hy)
      have hrest : (xs.map f).sum ≤ (xs.map g).sum := List.sum_le_sum hxs
      simp only [List.map_cons, List.sum_cons] at hsum
      intro y hy
      rcases List.mem_cons.1 hy with rfl | hy
      · omega
      · exact ih hxs (by omega) y hy

/-- A condition counts as many values as a weaker one exactly if they agree on
every value. -/
theorem countP_eq_iff {p q : β → Bool} (hpq : ∀ x, p x = true → q x = true) {xs : List β} :
    xs.countP p = xs.countP q ↔ ∀ x ∈ xs, q x = true → p x = true := by
  induction xs with
  | nil => simp
  | cons x xs ih =>
      have hle : xs.countP p ≤ xs.countP q := List.countP_mono_left fun y _ => hpq y
      rw [List.forall_mem_cons, ← ih]
      by_cases hp : p x = true
      · simp [hp, hpq x hp]
      · by_cases hq : q x = true
        · simp [hp, hq]
          omega
        · simp [hp, hq]

end Grouping
