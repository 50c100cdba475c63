import Mathlib.Data.List.Infix

/-!
# Searching a text with a hole

A text is put together from fixed parts and a part that is not known, such as a name.  Which
phrases it contains can still be told when the unknown part has no blank and the phrase has
one.

* `apart` — two texts that cannot begin at one place.
* `infix_of_keepsOut` — a phrase that begins nowhere in the fixed front part is found behind
  it.
* `infix_of_blankFree` — a phrase with a blank that is found behind the front of a blank-free
  part is found behind the whole of it, unless its first word ends there.
-/

namespace Infix

variable {α : Type} [DecidableEq α]

/-- Neither of the two begins with the other. -/
def apart (p s : List α) : Bool :=
  !p.isPrefixOf s && !s.isPrefixOf p

/-- A text that is apart from a phrase does not begin with it, whatever follows. -/
theorem not_prefix_of_apart {p s : List α} (h : apart p s = true) (t : List α) :
    ¬ p <+: s ++ t := by
  intro hp
  simp only [apart, Bool.and_eq_true, Bool.not_eq_true', ← Bool.not_eq_true,
    List.isPrefixOf_iff_prefix] at h
  rcases List.prefix_or_prefix_of_prefix hp (List.prefix_append s t) with hps | hsp
  · exact h.1 hps
  · exact h.2 hsp

/-- The phrase begins nowhere in the text, whatever follows. -/
def keepsOut (p s : List α) : Bool :=
  s.tails.all fun tail => tail.isEmpty || apart p tail

omit [DecidableEq α] in
/-- Where a phrase is found in a text of two parts. -/
theorem infix_append_cases {p s t : List α} (h : p <:+: s ++ t) :
    p <:+: t ∨ ∃ tail, tail <:+ s ∧ tail ≠ [] ∧ p <+: tail ++ t := by
  induction s with
  | nil => exact Or.inl h
  | cons a s ih =>
      rw [List.cons_append, List.infix_cons_iff] at h
      rcases h with hprefix | hinfix
      · exact Or.inr ⟨a :: s, List.suffix_rfl, by simp, hprefix⟩
      · rcases ih hinfix with ht | ⟨tail, htail, hne, hp⟩
        · exact Or.inl ht
        · exact Or.inr ⟨tail, htail.trans (List.suffix_cons a s), hne, hp⟩

/-- A phrase that begins nowhere in the front part is found behind it. -/
theorem infix_of_keepsOut {p s t : List α} (hout : keepsOut p s = true) (h : p <:+: s ++ t) :
    p <:+: t := by
  rcases infix_append_cases h with ht | ⟨tail, htail, hne, hp⟩
  · exact ht
  · unfold keepsOut at hout
    rw [List.all_eq_true] at hout
    have happart := hout tail ((List.mem_tails tail s).2 htail)
    rw [Bool.or_eq_true, List.isEmpty_iff] at happart
    exact absurd hp (not_prefix_of_apart (happart.resolve_left hne) t)

omit [DecidableEq α] in
/-- Two texts that are cut at their first blank agree on both sides of it. -/
theorem cut_eq {blank : α} {u b v rest : List α} (hu : blank ∉ u) (hb : blank ∉ b)
    (h : u ++ blank :: v = b ++ blank :: rest) : u = b ∧ v = rest := by
  induction u generalizing b with
  | nil =>
      cases b with
      | nil => exact ⟨rfl, (List.cons.inj h).2⟩
      | cons c b => exact absurd (List.cons.inj h).1 (by rintro rfl; simp at hb)
  | cons a u ih =>
      cases b with
      | nil => exact absurd (List.cons.inj h).1 (by rintro rfl; simp at hu)
      | cons c b =>
          obtain ⟨rfl, htail⟩ := List.cons.inj h
          have hcut := ih (fun h => hu (List.mem_cons_of_mem a h))
            (fun h => hb (List.mem_cons_of_mem a h)) htail
          exact ⟨by rw [hcut.1], hcut.2⟩

omit [DecidableEq α] in
/-- A phrase with a blank is not found in a part without one. -/
theorem not_infix_of_blankFree {blank : α} {p s : List α} (hp : blank ∈ p) (hs : blank ∉ s) :
    ¬ p <:+: s := by
  intro h
  exact hs (h.subset hp)

omit [DecidableEq α] in
/-- A phrase that is found in a blank-free part and what follows is found in what follows, or
its first word ends where the first blank of the rest stands. -/
theorem infix_of_blankFree {blank : α} {u v s b rest : List α} (hu : blank ∉ u)
    (hs : blank ∉ s) (hb : blank ∉ b)
    (h : u ++ blank :: v <:+: s ++ (b ++ blank :: rest)) :
    u ++ blank :: v <:+: b ++ blank :: rest ∨ (b <:+ u ∧ v <+: rest) := by
  rcases infix_append_cases h with ht | ⟨tail, htail, -, more, hmore⟩
  · exact Or.inl ht
  · have hfree : blank ∉ tail ++ b := by
      rw [List.mem_append, not_or]
      exact ⟨fun hmem => hs (htail.subset hmem), hb⟩
    have htext : u ++ blank :: (v ++ more) = (tail ++ b) ++ blank :: rest := by
      simpa using hmore
    have hcut := cut_eq hu hfree htext
    exact Or.inr ⟨⟨tail, hcut.1.symm⟩, ⟨more, hcut.2⟩⟩

/-- The phrase `u ++ blank :: v` is in no text that has a blank-free part between `front` and
`back`, as far as `front` and `back` tell. -/
def absent (blank : α) (u v front back : List α) : Bool :=
  keepsOut (u ++ blank :: v) front && decide (blank ∉ u) &&
    (decide (blank ∉ back) ||
      (decide (¬ u ++ blank :: v <:+: back) &&
        decide (¬ (back.takeWhile (· ≠ blank) <:+ u ∧
          v <+: (back.dropWhile (· ≠ blank)).tail))))

/-- **A phrase that `absent` rules out is not found, whatever the blank-free part is.** -/
theorem not_infix_of_absent {blank : α} {u v front back : List α}
    (h : absent blank u v front back = true) {s : List α} (hs : blank ∉ s) :
    ¬ u ++ blank :: v <:+: front ++ (s ++ back) := by
  simp only [absent, Bool.and_eq_true, Bool.or_eq_true, decide_eq_true_eq] at h
  obtain ⟨⟨hout, hu⟩, hback⟩ := h
  intro hfound
  have hbehind := infix_of_keepsOut hout hfound
  by_cases hblank : blank ∈ back
  · obtain ⟨hnone, hcut⟩ := hback.resolve_left (fun h => h hblank)
    obtain ⟨b, rest, rfl, hb⟩ := List.eq_append_cons_of_mem hblank
    have hpos : ∀ a ∈ b, decide (a ≠ blank) = true := by
      intro a ha
      rw [decide_eq_true_eq]
      rintro rfl
      exact hb ha
    rw [List.takeWhile_append_of_pos hpos, List.dropWhile_append_of_pos hpos] at hcut
    rcases infix_of_blankFree hu hs hb hbehind with hin | hends
    · exact hnone hin
    · exact hcut (by simpa using hends)
  · have hall : blank ∉ s ++ back := by simp [hs, hblank]
    exact not_infix_of_blankFree (by simp) hall hbehind

end Infix
