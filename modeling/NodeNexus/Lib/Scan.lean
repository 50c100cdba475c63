import Mathlib.Data.List.Forall2
import Mathlib.Data.Sum.Basic

/-!
# Scanning a text for a pattern

The leftmost matches of a pattern, one after the other, each with the text behind the match
before it.

* `Pattern` — what matches at the beginning of a text, and what is left of it.
* `pieces` — the matches of a text and the characters between them; `sub` puts something in
  the place of each match, `findAll` lists the matches.
* `Pattern.induction` — the induction that follows the scan.
* `pieces_congr` — two texts that go on alike at every place of the scan have alike pieces.
-/

/-- A pattern that matches no empty text. -/
structure Pattern (α β : Type) where
  /-- The match at the beginning of a text, and the text behind it. -/
  match? : List α → Option (β × List α)
  shrinks : ∀ {text : List α} {m : β} {rest : List α}, match? text = some (m, rest) →
    rest.length < text.length

namespace Pattern

variable {α β : Type} (P : Pattern α β)

/-- The characters that are not matched, and the matches. -/
def pieces : List α → List (α ⊕ β)
  | [] => []
  | c :: cs =>
      match _h : P.match? (c :: cs) with
      | some (m, rest) => .inr m :: pieces rest
      | none => .inl c :: pieces cs
termination_by text => text.length
decreasing_by
  · exact P.shrinks _h
  · exact Nat.lt_succ_self _

/-- The text with something in the place of each match. -/
def sub (replace : β → List α) (text : List α) : List α :=
  (P.pieces text).flatMap (Sum.elim (fun c => [c]) replace)

/-- The matches. -/
def findAll (text : List α) : List β := (P.pieces text).filterMap Sum.getRight?

variable {P} {replace : β → List α} {text rest cs : List α} {c : α} {m : β}

@[simp] theorem pieces_nil : P.pieces [] = [] := by
  rw [pieces]

theorem pieces_of_match (h : P.match? text = some (m, rest)) :
    P.pieces text = .inr m :: P.pieces rest := by
  cases text with
  | nil => exact absurd (P.shrinks h) (Nat.not_lt_zero _)
  | cons c cs =>
      rw [pieces]
      split
      · rename_i heq
        rw [h] at heq
        cases heq
        rfl
      · rename_i heq
        rw [h] at heq
        cases heq

theorem pieces_of_none (h : P.match? (c :: cs) = none) :
    P.pieces (c :: cs) = .inl c :: P.pieces cs := by
  rw [pieces]
  split
  · rename_i heq
    rw [h] at heq
    cases heq
  · rfl

@[simp] theorem sub_nil : P.sub replace [] = [] := by
  simp [sub]

theorem sub_of_match (h : P.match? text = some (m, rest)) :
    P.sub replace text = replace m ++ P.sub replace rest := by
  simp [sub, pieces_of_match h]

theorem sub_of_none (h : P.match? (c :: cs) = none) :
    P.sub replace (c :: cs) = c :: P.sub replace cs := by
  simp [sub, pieces_of_none h]

@[simp] theorem findAll_nil : P.findAll [] = [] := by
  simp [findAll]

theorem findAll_of_match (h : P.match? text = some (m, rest)) :
    P.findAll text = m :: P.findAll rest := by
  simp [findAll, pieces_of_match h]

theorem findAll_of_none (h : P.match? (c :: cs) = none) :
    P.findAll (c :: cs) = P.findAll cs := by
  simp [findAll, pieces_of_none h, List.filterMap_cons]

variable (P) in
/-- **The induction along a scan**: behind each match, or behind the next character. -/
theorem induction {Q : List α → Prop} (nil : Q [])
    (found : ∀ text m rest, P.match? text = some (m, rest) → Q rest → Q text)
    (char : ∀ c cs, P.match? (c :: cs) = none → Q cs → Q (c :: cs)) (text : List α) : Q text := by
  induction hn : text.length using Nat.strongRecOn generalizing text with
  | _ n ih =>
      cases text with
      | nil => exact nil
      | cons c cs =>
          cases h : P.match? (c :: cs) with
          | none => exact char c cs h (ih _ (by rw [← hn]; exact Nat.lt_succ_self _) cs rfl)
          | some found' =>
              obtain ⟨m, rest⟩ := found'
              exact found _ m rest h (ih _ (by rw [← hn]; exact P.shrinks h) rest rfl)

/-- Two texts go on alike: both match, or both have the same character and no match. -/
inductive GoesOn (P : Pattern α β) (R : List α → List α → Prop) (V : β → β → Prop) :
    List α → List α → Prop
  | found {s t s' t' : List α} {m n : β} (hs : P.match? s = some (m, s'))
      (ht : P.match? t = some (n, t')) (hV : V m n) (hR : R s' t') : GoesOn P R V s t
  | char {c : α} {s t : List α} (hs : P.match? (c :: s) = none)
      (ht : P.match? (c :: t) = none) (hR : R s t) : GoesOn P R V (c :: s) (c :: t)

/-- **Texts that go on alike have alike pieces.** -/
theorem pieces_congr {R : List α → List α → Prop} {V : β → β → Prop}
    (hnil : ∀ t, R [] t → t = [])
    (hcons : ∀ c s t, R (c :: s) t → GoesOn P R V (c :: s) t) {s t : List α} (h : R s t) :
    List.Forall₂ (Sum.LiftRel Eq V) (P.pieces s) (P.pieces t) := by
  induction hn : s.length using Nat.strongRecOn generalizing s t with
  | _ n ih =>
      cases s with
      | nil =>
          rw [hnil t h]
          simp
      | cons c s =>
          cases hcons c s t h with
          | found hs ht hV hR =>
              rw [pieces_of_match hs, pieces_of_match ht]
              exact .cons (.inr hV) (ih _ (by rw [← hn]; exact P.shrinks hs) hR rfl)
          | char hs ht hR =>
              rw [pieces_of_none hs, pieces_of_none ht]
              exact .cons (.inl rfl) (ih _ (by rw [← hn]; exact Nat.lt_succ_self _) hR rfl)

/-- Alike pieces are replaced by the same text. -/
theorem sub_congr {V : β → β → Prop} (hreplace : ∀ m n, V m n → replace m = replace n)
    {s t : List α} (h : List.Forall₂ (Sum.LiftRel Eq V) (P.pieces s) (P.pieces t)) :
    P.sub replace s = P.sub replace t := by
  unfold sub
  generalize P.pieces s = xs, P.pieces t = ys at h
  induction h with
  | nil => rfl
  | cons hpiece _ ih =>
      rw [List.flatMap_cons, List.flatMap_cons, ih]
      cases hpiece with
      | inl heq => rw [heq]
      | inr hV => simp [hreplace _ _ hV]

end Pattern
