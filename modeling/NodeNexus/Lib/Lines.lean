import Mathlib.Data.List.Infix

/-!
# Texts made of lines

A text is cut into lines at a separator; the last line may lack its separator.

* `lines` cuts a text, `unlines` puts lines together, each with its separator behind it.
* `Terminated` — no line of the text lacks its separator.  What is appended to such a text is
  appended to its lines (`lines_append`); `lines_unlines` and `terminated_unlines` are about texts
  put together.
* `infix_iff_of_notMem` — a phrase without separator is in a text exactly when it is in a line.
* `infix_append_cons_iff` — the same for one cut.
-/

namespace Lines

variable {α : Type} [DecidableEq α]

/-- The lines of a text, without their separators. -/
def lines (sep : α) : List α → List (List α)
  | [] => []
  | c :: cs =>
      if c = sep then [] :: lines sep cs
      else
        match lines sep cs with
        | [] => [[c]]
        | line :: rest => (c :: line) :: rest

/-- The text of lines, each with its separator. -/
def unlines (sep : α) (ls : List (List α)) : List α := ls.flatMap fun line => line ++ [sep]

/-- Every line of the text has its separator. -/
def Terminated (sep : α) (t : List α) : Prop := t = [] ∨ ∃ u, t = u ++ [sep]

variable {sep : α}

@[simp] theorem lines_nil : lines sep [] = [] := rfl

@[simp] theorem lines_sep_cons (t : List α) : lines sep (sep :: t) = [] :: lines sep t :=
  if_pos rfl

theorem lines_cons_of_ne {c : α} (hc : c ≠ sep) (cs : List α) :
    lines sep (c :: cs) = match lines sep cs with
      | [] => [[c]]
      | line :: rest => (c :: line) :: rest :=
  if_neg hc

/-- A line up to its separator is the first line. -/
theorem lines_line_append {line : List α} (h : sep ∉ line) (t : List α) :
    lines sep (line ++ sep :: t) = line :: lines sep t := by
  induction line with
  | nil => simp
  | cons c cs ih =>
      have hc : c ≠ sep := fun hc => h (hc ▸ List.mem_cons_self ..)
      have hcs : sep ∉ cs := fun hcs => h (List.mem_cons_of_mem c hcs)
      rw [List.cons_append, lines_cons_of_ne hc, ih hcs]

/-- A text without separator is one line. -/
theorem lines_of_notMem {line : List α} (h : sep ∉ line) (hne : line ≠ []) :
    lines sep line = [line] := by
  induction line with
  | nil => exact absurd rfl hne
  | cons c cs ih =>
      have hc : c ≠ sep := fun hc => h (hc ▸ List.mem_cons_self ..)
      have hcs : sep ∉ cs := fun hcs => h (List.mem_cons_of_mem c hcs)
      rw [lines_cons_of_ne hc]
      by_cases hnil : cs = []
      · rw [hnil, lines_nil]
      · rw [ih hcs hnil]

/-- A line has no separator in it. -/
theorem notMem_of_mem_lines {t line : List α} (h : line ∈ lines sep t) : sep ∉ line := by
  induction t generalizing line with
  | nil => simp at h
  | cons c cs ih =>
      by_cases hc : c = sep
      · rw [hc, lines_sep_cons] at h
        rcases List.mem_cons.mp h with rfl | h
        · exact List.not_mem_nil
        · exact ih h
      · rw [lines_cons_of_ne hc] at h
        cases hlines : lines sep cs with
        | nil =>
            rw [hlines] at h
            rw [List.mem_singleton.mp h, List.mem_singleton]
            exact fun hsep => hc hsep.symm
        | cons first rest =>
            rw [hlines] at h ih
            rcases List.mem_cons.mp h with rfl | h
            · intro hmem
              rcases List.mem_cons.mp hmem with hsep | hmem
              · exact hc hsep.symm
              · exact ih (List.mem_cons_self ..) hmem
            · exact ih (List.mem_cons_of_mem first h)

/-- A line is a part of its text. -/
theorem infix_of_mem_lines {t line : List α} (h : line ∈ lines sep t) : line <:+: t := by
  induction hlength : t.length using Nat.strong_induction_on generalizing t with
  | _ n ih =>
      by_cases hsep : sep ∈ t
      · rcases List.eq_append_cons_of_mem hsep with ⟨a, b, rfl, ha⟩
        have hshort : b.length < n := by
          rw [← hlength, List.length_append, List.length_cons]
          omega
        rw [lines_line_append ha] at h
        rcases List.mem_cons.mp h with rfl | h
        · exact (List.prefix_append line (sep :: b)).isInfix
        · have htail : b <:+: a ++ sep :: b := ⟨a ++ [sep], [], by simp⟩
          exact (ih b.length hshort h rfl).trans htail
      · by_cases hnil : t = []
        · simp [hnil] at h
        · rw [lines_of_notMem hsep hnil] at h
          rw [List.mem_singleton.mp h]

/-! ## Putting lines together -/

omit [DecidableEq α] in
theorem terminated_unlines (ls : List (List α)) : Terminated sep (unlines sep ls) := by
  induction ls using List.reverseRecOn with
  | nil => exact Or.inl rfl
  | append_singleton ls line _ =>
      right
      refine ⟨unlines sep ls ++ line, ?_⟩
      simp [unlines]

/-- **Lines that are put together are the lines of the text.** -/
theorem lines_unlines {ls : List (List α)} (h : ∀ line ∈ ls, sep ∉ line) :
    lines sep (unlines sep ls) = ls := by
  induction ls with
  | nil => rfl
  | cons line ls ih =>
      have hrest := ih fun x hx => h x (List.mem_cons_of_mem line hx)
      have hcons : unlines sep (line :: ls) = line ++ sep :: unlines sep ls := by
        simp [unlines]
      rw [hcons, lines_line_append (h line (List.mem_cons_self ..)), hrest]

theorem lines_ne_nil {t : List α} (h : t ≠ []) : lines sep t ≠ [] := by
  cases t with
  | nil => exact absurd rfl h
  | cons c cs =>
      by_cases hc : c = sep
      · simp [hc]
      · rw [lines_cons_of_ne hc]
        cases lines sep cs with
        | nil => simp
        | cons first rest => simp

/-- A separator ends a line, whatever follows. -/
theorem lines_append_sep (t u : List α) :
    lines sep (t ++ sep :: u) = lines sep (t ++ [sep]) ++ lines sep u := by
  induction t with
  | nil => simp
  | cons c cs ih =>
      rw [List.cons_append, List.cons_append]
      by_cases hc : c = sep
      · rw [hc, lines_sep_cons, lines_sep_cons, ih]
        rfl
      · rw [lines_cons_of_ne hc, lines_cons_of_ne hc, ih]
        cases hlines : lines sep (cs ++ [sep]) with
        | nil => exact absurd hlines (lines_ne_nil (by simp))
        | cons first rest => rfl

/-- **What is appended to a terminated text is appended to its lines.** -/
theorem lines_append {t : List α} (h : Terminated sep t) (u : List α) :
    lines sep (t ++ u) = lines sep t ++ lines sep u := by
  rcases h with rfl | ⟨v, rfl⟩
  · rfl
  · rw [List.append_assoc, List.singleton_append, lines_append_sep]

/-! ## Phrases without separator -/

omit [DecidableEq α] in
/-- **A phrase that does not have the cut in it is on one side of it.** -/
theorem infix_append_cons_iff {w a b : List α} (hw : sep ∉ w) (hne : w ≠ []) :
    w <:+: a ++ sep :: b ↔ w <:+: a ∨ w <:+: b := by
  constructor
  · rintro ⟨u, v, huv⟩
    rw [List.append_assoc, List.append_eq_append_iff] at huv
    rcases huv with ⟨x, rfl, hx⟩ | ⟨x, rfl, hx⟩
    · -- the phrase begins before the cut
      rw [List.append_eq_append_iff] at hx
      rcases hx with ⟨y, rfl, _⟩ | ⟨y, rfl, hy⟩
      · exact Or.inl ⟨u, y, by simp⟩
      · cases y with
        | nil => exact Or.inl ⟨u, [], by simp⟩
        | cons d ds =>
            rw [List.cons_append] at hy
            rw [(List.cons.inj hy).1] at hw
            exact absurd (List.mem_append_right x (List.mem_cons_self ..)) hw
    · cases x with
      | nil =>
          cases w with
          | nil => exact absurd rfl hne
          | cons d ds =>
              simp only [List.nil_append, List.cons_append] at hx
              rw [← (List.cons.inj hx).1] at hw
              exact absurd (List.mem_cons_self ..) hw
      | cons d ds =>
          rw [List.cons_append] at hx
          exact Or.inr ⟨ds, v, by rw [(List.cons.inj hx).2, List.append_assoc]⟩
  · rintro (h | h)
    · exact h.trans ⟨[], sep :: b, by simp⟩
    · exact h.trans ⟨a ++ [sep], [], by simp⟩

/-- **A phrase without separator is in a text exactly when it is in a line of it.** -/
theorem infix_iff_of_notMem {w t : List α} (hw : sep ∉ w) (hne : w ≠ []) :
    w <:+: t ↔ ∃ line ∈ lines sep t, w <:+: line := by
  induction hlength : t.length using Nat.strong_induction_on generalizing t with
  | _ n ih =>
      by_cases hsep : sep ∈ t
      · rcases List.eq_append_cons_of_mem hsep with ⟨a, b, rfl, ha⟩
        have hshort : b.length < n := by
          rw [← hlength, List.length_append, List.length_cons]
          omega
        rw [infix_append_cons_iff hw hne, lines_line_append ha, ih b.length hshort rfl]
        simp
      · by_cases hnil : t = []
        · simp [hnil, hne]
        · simp [lines_of_notMem hsep hnil]

end Lines
