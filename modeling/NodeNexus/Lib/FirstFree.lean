import Mathlib.Data.List.Perm.Subperm
import Mathlib.Data.List.Nodup
import Mathlib.Logic.Function.Basic

/-!
# The first free candidate

A loop that tries candidates `c i`, `c (i + 1)`, … until one is not in use ends
whenever the candidates are pairwise different: among any `n + 1` of them one
is outside a list of `n` used values.

* `searchFree` is the loop with a bound on the number of tries.
* `searchFree_isSome` — a bound larger than the number of used values is never
  reached.
* `firstFree` is the loop itself, and `firstFree_spec` says what it returns.
-/

section FirstFree

variable {α : Type} [DecidableEq α]

/-- Try `cand i`, `cand (i + 1)`, …, at most `tries` of them. -/
def searchFree (cand : Nat → α) (used : List α) : (tries i : Nat) → Option Nat
  | 0, _ => none
  | tries + 1, i => if cand i ∈ used then searchFree cand used tries (i + 1) else some i

/-- What a search returns: the first index, from `i` on, that is free. -/
theorem searchFree_spec {cand : Nat → α} {used : List α} {tries i j : Nat}
    (h : searchFree cand used tries i = some j) :
    i ≤ j ∧ cand j ∉ used ∧ ∀ k, i ≤ k → k < j → cand k ∈ used := by
  induction tries generalizing i with
  | zero => cases h
  | succ tries ih =>
      unfold searchFree at h
      split at h
      · rename_i hi
        obtain ⟨hij, hj, hbelow⟩ := ih h
        refine ⟨by omega, hj, fun k hk hkj => ?_⟩
        by_cases hki : k = i
        · exact hki ▸ hi
        · exact hbelow k (by omega) hkj
      · rename_i hi
        cases h
        exact ⟨Nat.le_refl _, hi, fun k hk hkj => absurd hkj (by omega)⟩

/-- A search that gives up has found every candidate in use. -/
theorem mem_of_searchFree_eq_none {cand : Nat → α} {used : List α} {tries i : Nat}
    (h : searchFree cand used tries i = none) {k : Nat} (hk : i ≤ k) (hkt : k < i + tries) :
    cand k ∈ used := by
  induction tries generalizing i with
  | zero => omega
  | succ tries ih =>
      unfold searchFree at h
      split at h
      · rename_i hi
        by_cases hki : k = i
        · exact hki ▸ hi
        · exact ih h (by omega) (by omega)
      · cases h

/-- With more tries than used values the search succeeds. -/
theorem searchFree_isSome {cand : Nat → α} (hc : Function.Injective cand) (used : List α)
    (i : Nat) : (searchFree cand used (used.length + 1) i).isSome = true := by
  by_contra hnone
  have h : searchFree cand used (used.length + 1) i = none := by simpa using hnone
  have hsub : (List.range' i (used.length + 1)).map cand ⊆ used := by
    intro x hx
    obtain ⟨k, hk, rfl⟩ := List.mem_map.1 hx
    rw [List.mem_range'_1] at hk
    exact mem_of_searchFree_eq_none h hk.1 (by omega)
  have hnd : ((List.range' i (used.length + 1)).map cand).Nodup :=
    List.Nodup.map hc List.nodup_range'
  have hlen := (List.subperm_of_subset hnd hsub).length_le
  rw [List.length_map, List.length_range'] at hlen
  omega

/-- The loop: the first candidate from `cand i` on that is not in use. -/
def firstFree (cand : Nat → α) (hc : Function.Injective cand) (used : List α) (i : Nat) : α :=
  cand ((searchFree cand used (used.length + 1) i).get (searchFree_isSome hc used i))

/-- The loop returns the first free candidate. -/
theorem firstFree_spec {cand : Nat → α} (hc : Function.Injective cand) (used : List α) (i : Nat) :
    ∃ j, i ≤ j ∧ firstFree cand hc used i = cand j ∧ cand j ∉ used ∧
      ∀ k, i ≤ k → k < j → cand k ∈ used := by
  obtain ⟨j, hj⟩ := Option.isSome_iff_exists.1 (searchFree_isSome hc used i)
  obtain ⟨hij, hfree, hbelow⟩ := searchFree_spec hj
  exact ⟨j, hij, by simp [firstFree, hj], hfree, hbelow⟩

theorem firstFree_not_mem {cand : Nat → α} (hc : Function.Injective cand) (used : List α)
    (i : Nat) : firstFree cand hc used i ∉ used := by
  obtain ⟨j, -, h, hj, -⟩ := firstFree_spec hc used i
  rw [h]
  exact hj

end FirstFree
