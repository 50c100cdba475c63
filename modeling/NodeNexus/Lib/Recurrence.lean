import Mathlib.Data.List.Basic
import Mathlib.Data.List.Pairwise
import Mathlib.Order.Basic

/-!
# Recurring moments

A function `next` that gives, for a moment, the first moment from there on at which
something occurs again.

* `Recurrence.Occurs`, `Recurrence.Lawful` — the moments, and that `next` finds the first.
* `Recurrence.upTo` — the moments met when one goes from one to the next until `now`.
* `mem_upTo_iff` — they are all of them, and `upTo_pairwise` — each once, in order.
* `lt_next_of_last` — the moment after the last of them is yet to come.
-/

namespace Recurrence

variable {next : Int → Option Int} {m t u v now : Int}

/-- Something occurs at the moment `v`. -/
def Occurs (next : Int → Option Int) (v : Int) : Prop := next v = some v

/-- `next` finds the first moment from a given one on. -/
structure Lawful (next : Int → Option Int) : Prop where
  le : ∀ t u, next t = some u → t ≤ u
  occurs : ∀ t u, next t = some u → Occurs next u
  first : ∀ t u v, next t = some u → t ≤ v → Occurs next v → u ≤ v
  never : ∀ t v, next t = none → t ≤ v → ¬ Occurs next v

theorem Lawful.eq_some_iff (h : Lawful next) :
    next t = some u ↔ t ≤ u ∧ Occurs next u ∧ ∀ v, t ≤ v → v < u → ¬ Occurs next v := by
  constructor
  · intro hu
    refine ⟨h.le t u hu, h.occurs t u hu, fun v htv hvu hv => ?_⟩
    exact absurd (h.first t u v hu htv hv) (Int.not_le.2 hvu)
  · rintro ⟨htu, hu, hnone⟩
    cases hnext : next t with
    | none => exact absurd hu (h.never t u hnext htu)
    | some w =>
        have hwu := h.first t w u hnext htu hu
        rcases Int.lt_or_eq_of_le hwu with hlt | heq
        · exact absurd (h.occurs t w hnext) (hnone w (h.le t w hnext) hlt)
        · rw [heq]

theorem Lawful.eq_none_iff (h : Lawful next) :
    next t = none ↔ ∀ v, t ≤ v → ¬ Occurs next v := by
  constructor
  · exact fun hnone v hv => h.never t v hnone hv
  · intro hnever
    cases hnext : next t with
    | none => rfl
    | some w => exact absurd (h.occurs t w hnext) (hnever w (h.le t w hnext))

/-- The moments from `start` to `now`; the bound says how many are looked for. -/
def upTo (next : Int → Option Int) (now : Int) : Nat → Option Int → List Int
  | 0, _ => []
  | _ + 1, none => []
  | bound + 1, some t => if t ≤ now then t :: upTo next now bound (next (t + 1)) else []

/-- **All moments are met** when one looks for as many as there is time. -/
theorem mem_upTo_iff (h : Lawful next) {bound : Nat} (hbound : (now + 1 - m).toNat ≤ bound) :
    v ∈ upTo next now bound (next m) ↔ Occurs next v ∧ m ≤ v ∧ v ≤ now := by
  induction bound generalizing m with
  | zero =>
      have hlate : now < m := by omega
      constructor
      · intro hv
        cases hv
      · rintro ⟨-, hmv, hvn⟩
        omega
  | succ bound ih =>
      cases hnext : next m with
      | none =>
          constructor
          · intro hv
            cases hv
          · rintro ⟨hv, hmv, -⟩
            exact absurd hv (h.never m v hnext hmv)
      | some t =>
          have hmt := h.le m t hnext
          rw [upTo]
          by_cases htn : t ≤ now
          · rw [if_pos htn, List.mem_cons, ih (by omega)]
            constructor
            · rintro (rfl | ⟨hv, htv, hvn⟩)
              · exact ⟨h.occurs m v hnext, hmt, htn⟩
              · exact ⟨hv, by omega, hvn⟩
            · rintro ⟨hv, hmv, hvn⟩
              have htv := h.first m t v hnext hmv hv
              rcases Int.lt_or_eq_of_le htv with hlt | heq
              · exact .inr ⟨hv, by omega, hvn⟩
              · exact .inl heq.symm
          · rw [if_neg htn]
            constructor
            · intro hv
              cases hv
            · rintro ⟨hv, hmv, hvn⟩
              have htv := h.first m t v hnext hmv hv
              omega

/-- The moments are met in their order. -/
theorem upTo_pairwise (h : Lawful next) (bound : Nat) (m : Int) :
    (upTo next now bound (next m)).Pairwise (· < ·) ∧
      ∀ v ∈ upTo next now bound (next m), m ≤ v := by
  induction bound generalizing m with
  | zero => exact ⟨List.Pairwise.nil, nofun⟩
  | succ bound ih =>
      cases hnext : next m with
      | none => exact ⟨List.Pairwise.nil, nofun⟩
      | some t =>
          have hmt := h.le m t hnext
          rw [upTo]
          by_cases htn : t ≤ now
          · rw [if_pos htn]
            obtain ⟨hpairs, hlater⟩ := ih (t + 1)
            refine ⟨List.Pairwise.cons (fun v hv => ?_) hpairs, fun v hv => ?_⟩
            · have hv' := hlater v hv
              omega
            · rcases List.mem_cons.1 hv with rfl | hv
              · exact hmt
              · have hv' := hlater v hv
                omega
          · rw [if_neg htn]
            exact ⟨List.Pairwise.nil, nofun⟩

theorem upTo_nodup (h : Lawful next) (bound : Nat) (m : Int) :
    (upTo next now bound (next m)).Nodup :=
  (upTo_pairwise h bound m).1.imp fun hlt => Int.ne_of_lt hlt

/-- The last of an increasing list is not exceeded. -/
theorem le_of_getLast? {l : List Int} (h : l.Pairwise (· < ·)) (hlast : l.getLast? = some u)
    (hv : v ∈ l) : v ≤ u := by
  induction l with
  | nil => cases hv
  | cons a l ih =>
      rw [List.pairwise_cons] at h
      cases l with
      | nil =>
          rw [List.mem_singleton] at hv
          rw [hv]
          cases hlast
          exact Int.le_refl _
      | cons b l =>
          have hlast' : (b :: l).getLast? = some u := hlast
          rcases List.mem_cons.1 hv with rfl | hv
          · have hmem : u ∈ b :: l := List.mem_of_getLast? hlast'
            exact Int.le_of_lt (h.1 u hmem)
          · exact ih h.2 hlast' hv

/-- **Nothing is left before `now`**: the moment after the last one met is later. -/
theorem lt_next_of_last (h : Lawful next) {bound : Nat} (hbound : (now + 1 - m).toNat ≤ bound)
    (hlast : (upTo next now bound (next m)).getLast? = some t) (hnext : next (t + 1) = some u) :
    now < u := by
  by_contra hle
  have htu := h.le _ _ hnext
  have hmem : t ∈ upTo next now bound (next m) := List.mem_of_getLast? hlast
  obtain ⟨-, hmt, -⟩ := (mem_upTo_iff h hbound).1 hmem
  have hu : u ∈ upTo next now bound (next m) :=
    (mem_upTo_iff h hbound).2 ⟨h.occurs _ _ hnext, by omega, by omega⟩
  have hut := le_of_getLast? (upTo_pairwise h bound m).1 hlast hu
  omega

/-- The moments before the one after the last are those met. -/
theorem mem_upTo_iff_lt (h : Lawful next) {bound : Nat} (hbound : (now + 1 - m).toNat ≤ bound)
    (hlast : (upTo next now bound (next m)).getLast? = some t) :
    v ∈ upTo next now bound (next m) ↔
      Occurs next v ∧ m ≤ v ∧ ∀ u, next (t + 1) = some u → v < u := by
  rw [mem_upTo_iff h hbound]
  have htmem : t ∈ upTo next now bound (next m) := List.mem_of_getLast? hlast
  obtain ⟨-, -, htn⟩ := (mem_upTo_iff h hbound).1 htmem
  constructor
  · rintro ⟨hv, hmv, hvn⟩
    refine ⟨hv, hmv, fun u hu => ?_⟩
    have hnu := lt_next_of_last h hbound hlast hu
    omega
  · rintro ⟨hv, hmv, hbefore⟩
    refine ⟨hv, hmv, ?_⟩
    by_contra hvn
    cases hnext : next (t + 1) with
    | none => exact h.never _ v hnext (by omega) hv
    | some u =>
        have huv := h.first _ u v hnext (by omega) hv
        have hvu := hbefore u hnext
        omega

end Recurrence
