import Mathlib.Data.List.Infix

/-!
# LIKE patterns

The pattern language of SQL's `LIKE`, over any alphabet: a sign for any number
of characters, a sign for one character, and an escape character that takes the
meaning from the sign behind it.

* `Signs` names the signs, `parse` reads a pattern into tokens, `accepts` is the
  matcher, which tries every place for what follows a `many`.
* `like_escaped` — a text whose signs are escaped, between two `many`, matches
  exactly the texts that contain it.
* `like_plain` — a text without signs does so as it is; `like_misread` — one that has a
  sign matches `misread` of it too, which does not contain it (`not_contains_misread`).
* `Folds` — a folding of characters, such as to lower case, that leaves the
  signs alone; `misread_fold` carries the text over.
-/

namespace Like

variable {α : Type} [DecidableEq α]

/-! ## Patterns -/

/-- The characters with a meaning in patterns. -/
structure Signs (α : Type) where
  /-- Any number of characters. -/
  many : α
  /-- One character. -/
  one : α
  /-- The character behind this one stands for itself. -/
  escape : Option α
  many_ne_one : many ≠ one
  many_not_escape : escape ≠ some many
  one_not_escape : escape ≠ some one

/-- What a pattern is made of. -/
inductive Token (α : Type) where
  | lit (a : α)
  | one
  | many
  deriving DecidableEq

namespace Signs

variable (w : Signs α)

/-- Has the character a meaning? -/
def IsSign (c : α) : Prop := c = w.many ∨ c = w.one ∨ w.escape = some c

instance (c : α) : Decidable (w.IsSign c) :=
  inferInstanceAs (Decidable (c = w.many ∨ c = w.one ∨ w.escape = some c))

/-- The meaning of a character that is no escape character. -/
def token (c : α) : Token α :=
  if c = w.many then .many else if c = w.one then .one else .lit c

theorem token_many : w.token w.many = .many := if_pos rfl

theorem token_lit {c : α} (h : ¬w.IsSign c) : w.token c = .lit c := by
  unfold IsSign at h
  push Not at h
  unfold token
  rw [if_neg h.1, if_neg h.2.1]

theorem token_cases (c : α) : w.token c = .many ∨ w.token c = .one ∨ w.token c = .lit c := by
  unfold token
  split
  · exact Or.inl rfl
  · split
    · exact Or.inr (Or.inl rfl)
    · exact Or.inr (Or.inr rfl)

end Signs

/-- Read a pattern; `none` is a pattern that ends in its escape character. -/
def parse (w : Signs α) : List α → Option (List (Token α))
  | [] => some []
  | [c] => if w.escape = some c then none else some [w.token c]
  | c :: d :: ds =>
      if w.escape = some c then (parse w ds).map (.lit d :: ·)
      else (parse w (d :: ds)).map (w.token c :: ·)

/-- Does a text match?  What follows a `many` is tried at every place. -/
def accepts : List (Token α) → List α → Bool
  | [], s => s.isEmpty
  | .lit _ :: _, [] => false
  | .lit a :: ts, b :: bs => decide (a = b) && accepts ts bs
  | .one :: _, [] => false
  | .one :: ts, _ :: bs => accepts ts bs
  | .many :: ts, s => s.tails.any (accepts ts)

/-- `text LIKE pattern`; `none` is the error of a pattern that is not well
formed. -/
def like (w : Signs α) (pattern text : List α) : Option Bool :=
  (parse w pattern).map fun tokens => accepts tokens text

/-! ## The matcher -/

theorem accepts_many {ts : List (Token α)} {s : List α} :
    accepts (.many :: ts) s = true ↔ ∃ rest, rest <:+ s ∧ accepts ts rest = true := by
  simp [accepts, List.any_eq_true, List.mem_tails]

@[simp] theorem accepts_many_nil (s : List α) : accepts [.many] s = true := by
  rw [accepts_many]
  exact ⟨[], List.nil_suffix, rfl⟩

/-- A `many` may stand for nothing. -/
theorem accepts_many_of_accepts {ts : List (Token α)} {s : List α} (h : accepts ts s = true) :
    accepts (.many :: ts) s = true :=
  accepts_many.2 ⟨s, List.suffix_rfl, h⟩

/-- Literal characters match themselves. -/
theorem accepts_lits {a s : List α} {ts : List (Token α)} :
    accepts (a.map .lit ++ ts) s = true ↔ ∃ rest, s = a ++ rest ∧ accepts ts rest = true := by
  induction a generalizing s with
  | nil => simp
  | cons c a ih =>
      cases s with
      | nil => simp [accepts]
      | cons b s =>
          simp only [List.map_cons, List.cons_append, accepts, Bool.and_eq_true, decide_eq_true_eq,
            ih, List.cons.injEq]
          constructor
          · rintro ⟨rfl, rest, rfl, hrest⟩
            exact ⟨rest, ⟨rfl, rfl⟩, hrest⟩
          · rintro ⟨rest, ⟨rfl, rfl⟩, hrest⟩
            exact ⟨rfl, rest, rfl, hrest⟩

/-- **Literal characters between two `many` are a search.** -/
theorem accepts_contains {a s : List α} :
    accepts (.many :: (a.map .lit ++ [.many])) s = true ↔ a <:+: s := by
  rw [accepts_many]
  constructor
  · rintro ⟨tail, ⟨front, rfl⟩, h⟩
    obtain ⟨rest, rfl, -⟩ := accepts_lits.1 h
    exact ⟨front, rest, List.append_assoc front a rest⟩
  · rintro ⟨front, rest, rfl⟩
    refine ⟨a ++ rest, ⟨front, (List.append_assoc front a rest).symm⟩, ?_⟩
    exact accepts_lits.2 ⟨rest, rfl, accepts_many_nil rest⟩

/-! ## Reading -/

section Reading

variable {w : Signs α}

theorem parse_cons {c : α} (h : w.escape ≠ some c) (p : List α) :
    parse w (c :: p) = (parse w p).map (w.token c :: ·) := by
  cases p with
  | nil => simp [parse, h]
  | cons d ds => rw [parse, if_neg h]

theorem parse_many (p : List α) : parse w (w.many :: p) = (parse w p).map (.many :: ·) := by
  rw [parse_cons w.many_not_escape, w.token_many]

theorem parse_lit {c : α} (h : ¬w.IsSign c) (p : List α) :
    parse w (c :: p) = (parse w p).map (.lit c :: ·) := by
  have hesc : w.escape ≠ some c := fun hc => h (Or.inr (Or.inr hc))
  rw [parse_cons hesc, w.token_lit h]

theorem parse_escape {e : α} (he : w.escape = some e) (c : α) (p : List α) :
    parse w (e :: c :: p) = (parse w p).map (.lit c :: ·) := by
  rw [parse, if_pos he]

/-- Characters without a meaning stand for themselves. -/
theorem parse_lits {s : List α} (h : ∀ c ∈ s, ¬w.IsSign c) (p : List α) :
    parse w (s ++ p) = (parse w p).map (s.map .lit ++ ·) := by
  induction s with
  | nil => simp
  | cons c s ih =>
      have hc := h c (List.mem_cons_self ..)
      have hs := ih fun d hd => h d (List.mem_cons_of_mem c hd)
      rw [List.cons_append, parse_lit hc, hs, Option.map_map]
      rfl

/-- Put the escape character before every sign. -/
def escaped (w : Signs α) (e : α) (s : List α) : List α :=
  s.flatMap fun c => if w.IsSign c then [e, c] else [c]

/-- Escaped characters stand for themselves. -/
theorem parse_escaped {e : α} (he : w.escape = some e) (s p : List α) :
    parse w (escaped w e s ++ p) = (parse w p).map (s.map .lit ++ ·) := by
  induction s with
  | nil => simp [escaped]
  | cons c s ih =>
      have hrest : escaped w e (c :: s) ++ p =
          (if w.IsSign c then [e, c] else [c]) ++ (escaped w e s ++ p) := by
        simp [escaped]
      rw [hrest]
      by_cases hc : w.IsSign c
      · rw [if_pos hc]
        show parse w (e :: c :: (escaped w e s ++ p)) = _
        rw [parse_escape he, ih, Option.map_map]
        rfl
      · rw [if_neg hc]
        show parse w (c :: (escaped w e s ++ p)) = _
        rw [parse_lit hc, ih, Option.map_map]
        rfl

theorem parse_ending_many : parse w [w.many] = some [.many] := by
  rw [parse_many]
  rfl

/-- The pattern that asks for a text anywhere, as it is put together around it. -/
def around (w : Signs α) (s : List α) : List α := w.many :: (s ++ [w.many])

/-- **An escaped text between two `many` is a search for the text.** -/
theorem like_escaped {e : α} (he : w.escape = some e) (s t : List α) :
    like w (around w (escaped w e s)) t = some (decide (s <:+: t)) := by
  unfold like around
  rw [parse_many, parse_escaped he, parse_ending_many]
  simp only [Option.map_some, Option.some.injEq]
  rw [Bool.eq_iff_iff, accepts_contains, decide_eq_true_eq]

/-- A text without signs is a search for itself. -/
theorem like_plain {s : List α} (h : ∀ c ∈ s, ¬w.IsSign c) (t : List α) :
    like w (around w s) t = some (decide (s <:+: t)) := by
  unfold like around
  rw [parse_many, parse_lits h, parse_ending_many]
  simp only [Option.map_some, Option.some.injEq]
  rw [Bool.eq_iff_iff, accepts_contains, decide_eq_true_eq]

end Reading

/-! ## A text that is not escaped -/

/-- Without an escape character every pattern is well formed. -/
theorem parse_of_no_escape {w : Signs α} (h : w.escape = none) (p : List α) :
    parse w p = some (p.map w.token) := by
  induction p with
  | nil => rfl
  | cons c p ih =>
      have hesc : w.escape ≠ some c := by simp [h]
      rw [parse_cons hesc, ih]
      rfl

/-- Every character is accepted in its own place, whatever it means there. -/
theorem accepts_tokens {w : Signs α} {ts : List (Token α)} {rest : List α}
    (h : accepts ts rest = true) (s : List α) :
    accepts (s.map w.token ++ ts) (s ++ rest) = true := by
  induction s with
  | nil => exact h
  | cons c s ih =>
      rw [List.map_cons, List.cons_append, List.cons_append]
      rcases w.token_cases c with htoken | htoken | htoken
      · rw [htoken]
        exact accepts_many.2 ⟨s ++ rest, List.suffix_cons c _, ih⟩
      · rw [htoken]
        exact ih
      · rw [htoken]
        simpa [accepts] using ih

/-- Without an escape character a search misses nothing: it may only find too
much. -/
theorem like_of_contains {w : Signs α} (h : w.escape = none) {s t : List α} (hin : s <:+: t) :
    like w (around w s) t = some true := by
  obtain ⟨front, rest, rfl⟩ := hin
  have hrest : accepts (s.map w.token ++ [.many]) (s ++ rest) = true :=
    accepts_tokens (accepts_many_nil rest) s
  unfold like around
  rw [parse_of_no_escape h]
  simp only [List.map_cons, List.map_append, List.map_nil, w.token_many, Option.map_some,
    Option.some.injEq]
  exact accepts_many.2 ⟨s ++ rest, ⟨front, (List.append_assoc front s rest).symm⟩, hrest⟩

/-- What a character that is no escape character is misread as. -/
def misreadChar (w : Signs α) (c : α) : List α :=
  if c = w.many then [] else if c = w.one then [w.many] else [c]

/-- A text that a pattern takes for the one it was made of: what is escaped
stands for itself, `many` stands for nothing, and `one` for the sign of `many`.
An escape character at the end meets the `many` behind the text. -/
def misread (w : Signs α) : List α → List α
  | [] => []
  | [c] => if w.escape = some c then [w.many] else misreadChar w c
  | c :: d :: ds =>
      if w.escape = some c then d :: misread w ds
      else misreadChar w c ++ misread w (d :: ds)

section Misread

variable {w : Signs α}

theorem misread_cons {c : α} (h : w.escape ≠ some c) (s : List α) :
    misread w (c :: s) = misreadChar w c ++ misread w s := by
  cases s with
  | nil => simp [misread, h]
  | cons d ds => rw [misread, if_neg h]

theorem misread_escape {e : α} (he : w.escape = some e) (d : α) (s : List α) :
    misread w (e :: d :: s) = d :: misread w s := by
  rw [misread, if_pos he]

/-- A character accepts what it is misread as. -/
theorem accepts_misreadChar {c : α} {ts : List (Token α)} {s : List α}
    (h : accepts ts s = true) : accepts (w.token c :: ts) (misreadChar w c ++ s) = true := by
  unfold Signs.token misreadChar
  by_cases hmany : c = w.many
  · rw [if_pos hmany, if_pos hmany]
    exact accepts_many_of_accepts h
  · rw [if_neg hmany, if_neg hmany]
    by_cases hone : c = w.one
    · rw [if_pos hone, if_pos hone]
      exact h
    · rw [if_neg hone, if_neg hone]
      simp [accepts, h]

/-- The text and the `many` behind it are well formed and accept the misread
text. -/
theorem parse_accepts_misread (s : List α) :
    ∃ ts, parse w (s ++ [w.many]) = some ts ∧ accepts ts (misread w s) = true := by
  induction s using misread.induct w with
  | case1 => exact ⟨[.many], parse_ending_many, accepts_many_nil _⟩
  | case2 c hesc =>
      refine ⟨[.lit w.many], ?_, ?_⟩
      · show parse w [c, w.many] = _
        rw [parse_escape hesc]
        rfl
      · simp [misread, hesc, accepts]
  | case3 c hesc =>
      refine ⟨[w.token c, .many], ?_, ?_⟩
      · show parse w [c, w.many] = _
        rw [parse_cons hesc, parse_ending_many]
        rfl
      · rw [misread_cons hesc]
        exact accepts_misreadChar (accepts_many_nil _)
  | case4 c d ds hesc ih =>
      obtain ⟨ts, hparse, haccepts⟩ := ih
      refine ⟨.lit d :: ts, ?_, ?_⟩
      · show parse w (c :: d :: (ds ++ [w.many])) = _
        rw [parse_escape hesc, hparse]
        rfl
      · rw [misread_escape hesc]
        simp [accepts, haccepts]
  | case5 c d ds hesc ih =>
      obtain ⟨ts, hparse, haccepts⟩ := ih
      refine ⟨w.token c :: ts, ?_, ?_⟩
      · rw [List.cons_append, parse_cons hesc, hparse]
        rfl
      · rw [misread_cons hesc]
        exact accepts_misreadChar haccepts

/-- **A text matches the pattern made of a text it is misread from.** -/
theorem like_misread (s : List α) : like w (around w s) (misread w s) = some true := by
  obtain ⟨ts, hparse, haccepts⟩ := parse_accepts_misread (w := w) s
  unfold like around
  rw [parse_many, hparse]
  simp only [Option.map_some, Option.some.injEq]
  exact accepts_many_of_accepts haccepts

theorem length_misreadChar_le (c : α) : (misreadChar w c).length ≤ 1 := by
  unfold misreadChar
  split
  · exact Nat.zero_le 1
  · split <;> exact Nat.le_refl 1

theorem length_misread_le (s : List α) : (misread w s).length ≤ s.length := by
  induction s using misread.induct w with
  | case1 => simp [misread]
  | case2 c hesc => simp [misread, hesc]
  | case3 c hesc =>
      rw [misread_cons hesc]
      have := length_misreadChar_le (w := w) c
      simpa [misread] using this
  | case4 c d ds hesc ih =>
      rw [misread_escape hesc]
      simp only [List.length_cons]
      omega
  | case5 c d ds hesc ih =>
      rw [misread_cons hesc]
      have := length_misreadChar_le (w := w) c
      simp only [List.length_append, List.length_cons] at ih ⊢
      omega

/-- Only a character without a meaning is misread as itself. -/
theorem not_isSign_of_misreadChar_eq {c : α} (hesc : w.escape ≠ some c)
    (h : misreadChar w c = [c]) : ¬w.IsSign c := by
  unfold misreadChar at h
  split at h
  · simp at h
  · rename_i hmany
    split at h
    · simp only [List.cons.injEq, and_true] at h
      exact absurd h.symm hmany
    · rename_i hone
      rintro (h' | h' | h')
      · exact hmany h'
      · exact hone h'
      · exact hesc h'

/-- Only a text without signs is misread as itself. -/
theorem not_isSign_of_misread_eq {s : List α} (h : misread w s = s) :
    ∀ c ∈ s, ¬w.IsSign c := by
  induction s using misread.induct w with
  | case1 => simp
  | case2 c hesc =>
      have hmany : w.many = c := by simpa [misread, hesc] using h
      exact absurd (hmany ▸ hesc) w.many_not_escape
  | case3 c hesc =>
      intro x hx
      rw [List.mem_singleton] at hx
      subst hx
      exact not_isSign_of_misreadChar_eq hesc (by simpa [misread, hesc] using h)
  | case4 c d ds hesc ih =>
      rw [misread_escape hesc] at h
      have hlen := congrArg List.length h
      have hle := length_misread_le (w := w) ds
      simp only [List.length_cons] at hlen
      omega
  | case5 c d ds hesc ih =>
      rw [misread_cons hesc] at h
      have hlen := congrArg List.length h
      have hle := length_misread_le (w := w) (d :: ds)
      have hchar := length_misreadChar_le (w := w) c
      simp only [List.length_append, List.length_cons] at hlen hle
      have hone : (misreadChar w c).length = [c].length := by
        simp only [List.length_cons, List.length_nil]
        omega
      have hsplit : misreadChar w c ++ misread w (d :: ds) = [c] ++ d :: ds := h
      obtain ⟨hhead, htail⟩ := List.append_inj hsplit hone
      intro x hx
      rcases List.mem_cons.1 hx with rfl | hx
      · exact not_isSign_of_misreadChar_eq hesc hhead
      · exact ih htail x hx

/-- A text with a sign is not found in what it is misread as. -/
theorem not_contains_misread {s : List α} {c : α} (hc : c ∈ s) (hsign : w.IsSign c) :
    ¬ s <:+: misread w s := by
  intro hin
  have heq : s = misread w s :=
    hin.eq_of_length (Nat.le_antisymm hin.length_le (length_misread_le s))
  exact not_isSign_of_misread_eq heq.symm c hc hsign

end Misread

/-! ## Folding -/

/-- A folding of characters leaves the signs alone and makes no others. -/
structure Folds (w : Signs α) (f : α → List α) : Prop where
  ne_nil : ∀ c, f c ≠ []
  keeps : ∀ c, w.IsSign c → f c = [c]
  meets : ∀ c d, d ∈ f c → w.IsSign d → d = c

section Folding

variable {w : Signs α} {f : α → List α}

/-- Escaping and folding do not get in each other's way. -/
theorem flatMap_escaped (hf : Folds w f) {e : α} (he : w.escape = some e) (s : List α) :
    (escaped w e s).flatMap f = escaped w e (s.flatMap f) := by
  have hesc : f e = [e] := hf.keeps e (Or.inr (Or.inr he))
  induction s with
  | nil => rfl
  | cons c s ih =>
      unfold escaped at ih ⊢
      simp only [List.flatMap_cons, List.flatMap_append, ih]
      congr 1
      by_cases hc : w.IsSign c
      · simp [if_pos hc, hesc, hf.keeps c hc]
      · rw [if_neg hc, List.flatMap_singleton]
        have hnone : ∀ d ∈ f c, ¬w.IsSign d := by
          intro d hd hsign
          exact hc (hf.meets c d hd hsign ▸ hsign)
        have hself : (f c).flatMap (fun d => if w.IsSign d then [e, d] else [d]) =
            (f c).flatMap fun d => [d] :=
          List.flatMap_congr fun d hd => if_neg (hnone d hd)
        rw [hself, List.flatMap_singleton']

omit [DecidableEq α] in
theorem not_isSign_fold (hf : Folds w f) {c : α} (hc : ¬w.IsSign c) :
    ∀ d ∈ f c, ¬w.IsSign d := by
  intro d hd hsign
  exact hc (hf.meets c d hd hsign ▸ hsign)

omit [DecidableEq α] in
/-- The signs of a folded text are those of the text. -/
theorem isSign_mem_fold (hf : Folds w f) {s : List α} {c : α} (hsign : w.IsSign c) :
    c ∈ s.flatMap f ↔ c ∈ s := by
  rw [List.mem_flatMap]
  constructor
  · rintro ⟨d, hd, hc⟩
    rw [hf.meets d c hc hsign]
    exact hd
  · intro hc
    refine ⟨c, hc, ?_⟩
    rw [hf.keeps c hsign]
    exact List.mem_singleton_self c

/-- A text without signs in front is read as it is. -/
theorem misread_append {a : List α} (h : ∀ c ∈ a, ¬w.IsSign c) (s : List α) :
    misread w (a ++ s) = a ++ misread w s := by
  induction a with
  | nil => rfl
  | cons c a ih =>
      have hc := h c (List.mem_cons_self ..)
      have hesc : w.escape ≠ some c := fun he => hc (Or.inr (Or.inr he))
      have hchar : misreadChar w c = [c] := by
        unfold misreadChar
        rw [if_neg fun he => hc (Or.inl he), if_neg fun he => hc (Or.inr (Or.inl he))]
      rw [List.cons_append, misread_cons hesc, hchar,
        ih fun d hd => h d (List.mem_cons_of_mem c hd)]
      rfl

/-- What a folded character is misread as. -/
theorem misread_fold_cons (hf : Folds w f) {c : α} (hesc : w.escape ≠ some c) (s : List α) :
    misread w (f c ++ s) = (misreadChar w c).flatMap f ++ misread w s := by
  by_cases hc : w.IsSign c
  · rw [hf.keeps c hc, List.singleton_append, misread_cons hesc]
    congr 1
    unfold misreadChar
    split
    · rfl
    · split
      · simp [hf.keeps w.many (Or.inl rfl)]
      · simp [hf.keeps c hc]
  · have hchar : misreadChar w c = [c] := by
      unfold misreadChar
      rw [if_neg fun he => hc (Or.inl he), if_neg fun he => hc (Or.inr (Or.inl he))]
    rw [misread_append (not_isSign_fold hf hc), hchar, List.flatMap_singleton]

/-- **Misreading and folding commute.** -/
theorem misread_fold (hf : Folds w f) (s : List α) :
    misread w (s.flatMap f) = (misread w s).flatMap f := by
  induction s using misread.induct w with
  | case1 => rfl
  | case2 c hesc =>
      simp [misread, hf.keeps c (Or.inr (Or.inr hesc)), hesc, hf.keeps w.many (Or.inl rfl)]
  | case3 c hesc =>
      have hfold := misread_fold_cons hf hesc []
      rw [List.append_nil] at hfold
      rw [List.flatMap_singleton, hfold, misread_cons hesc]
      simp [misread]
  | case4 c d ds hesc ih =>
      rw [misread_escape hesc, List.flatMap_cons, List.flatMap_cons, List.flatMap_cons,
        hf.keeps c (Or.inr (Or.inr hesc)), List.singleton_append, ← ih]
      -- only the first character of the folding stands behind the escape character
      by_cases hd : w.IsSign d
      · rw [hf.keeps d hd, List.singleton_append, misread_escape hesc]
        rfl
      · obtain ⟨a, as, has⟩ := List.exists_cons_of_ne_nil (hf.ne_nil d)
        have hnone := not_isSign_fold hf hd
        rw [has] at hnone ⊢
        rw [List.cons_append, misread_escape hesc,
          misread_append fun x hx => hnone x (List.mem_cons_of_mem a hx)]
        rfl
  | case5 c d ds hesc ih =>
      rw [List.flatMap_cons, misread_fold_cons hf hesc, ih, misread_cons hesc,
        List.flatMap_append]

end Folding

end Like
