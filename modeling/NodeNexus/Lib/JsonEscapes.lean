import NodeNexus.Lib.JsonText

/-!
# What a JSON text can hold

A bound on the characters of the strings that are read from a text, by the characters and the
escapes that stand in the text.

* `Json.Clean ok cs` — the text is made of characters that meet `ok` and of escapes that stand
  for characters that meet `ok`.
* `Json.Within ok x` — all strings and keys of a value are made of such characters.
* `Json.within_loads` — what is read from a clean text is within the bound.
-/

namespace Json

/-- Every backslash begins an escape, and all characters and all that escapes stand for meet
`ok`. -/
inductive Clean (ok : Char → Prop) : List Char → Prop where
  | nil : Clean ok []
  | char {c : Char} {cs : List Char} (hc : c ≠ '\\') (hok : ok c) (hcs : Clean ok cs) :
      Clean ok (c :: cs)
  | escape {e : List Char} {d : Char} {cs : List Char}
      (he : ∀ rest, scanEscape (e ++ rest) = some (d, rest)) (hok : ok d) (hcs : Clean ok cs) :
      Clean ok ('\\' :: (e ++ cs))

mutual

/-- The strings and keys of a value have characters that meet `ok` only. -/
def Within (ok : Char → Prop) : Json → Prop
  | str s => ∀ c ∈ s.toList, ok c
  | list items => WithinItems ok items
  | dict fields => WithinFields ok fields
  | null | bool _ | int _ | .float _ => True

/-- Every element is within the bound. -/
def WithinItems (ok : Char → Prop) : List Json → Prop
  | [] => True
  | x :: xs => Within ok x ∧ WithinItems ok xs

/-- Every key and every value is within the bound. -/
def WithinFields (ok : Char → Prop) : List (String × Json) → Prop
  | [] => True
  | e :: es => ((∀ c ∈ e.1.toList, ok c) ∧ Within ok e.2) ∧ WithinFields ok es

end

variable {ok : Char → Prop}

theorem withinFields_iff (fields : Fields) :
    WithinFields ok fields ↔ ∀ e ∈ fields, (∀ c ∈ e.1.toList, ok c) ∧ Within ok e.2 := by
  induction fields with
  | nil => simp [WithinFields]
  | cons e es ih => simp [WithinFields, ih]

/-- Setting an entry keeps the bound. -/
theorem withinFields_set {d : Fields} {key : String} {v : Json} (hd : WithinFields ok d)
    (hkey : ∀ c ∈ key.toList, ok c) (hv : Within ok v) : WithinFields ok (set d key v) := by
  rw [withinFields_iff] at hd ⊢
  intro e he
  unfold set at he
  split at he
  · obtain ⟨e', he', rfl⟩ := List.mem_map.1 he
    split
    · exact ⟨hkey, hv⟩
    · exact hd e' he'
  · rcases List.mem_append.1 he with he | he
    · exact hd e he
    · rw [List.mem_singleton.1 he]
      exact ⟨hkey, hv⟩

/-! ## Parts of a clean text -/

/-- What follows a character that is no backslash. -/
theorem Clean.tail {c : Char} {cs : List Char} (h : Clean ok (c :: cs)) (hc : c ≠ '\\') :
    Clean ok cs := by
  cases h with
  | char _ _ hcs => exact hcs
  | escape => exact absurd rfl hc

/-- What is left behind characters of a class without the backslash. -/
theorem Clean.dropWhile {p : Char → Bool} (hp : p '\\' = false) {cs : List Char}
    (h : Clean ok cs) : Clean ok (cs.dropWhile p) := by
  induction cs with
  | nil => exact h
  | cons c cs ih =>
      rw [List.dropWhile_cons]
      split
      · rename_i hpc
        refine ih (h.tail ?_)
        rintro rfl
        rw [hp] at hpc
        cases hpc
      · exact h

theorem Clean.skipBlanks {cs : List Char} (h : Clean ok cs) : Clean ok (skipBlanks cs) :=
  h.dropWhile (by decide)

/-- A string that is read from a clean text. -/
theorem Clean.scanString {n : Nat} {cs s rest : List Char} (h : Clean ok cs)
    (hs : scanString n cs = some (s, rest)) : (∀ c ∈ s, ok c) ∧ Clean ok rest := by
  induction n generalizing cs s rest with
  | zero => cases hs
  | succ n ih =>
      cases h with
      | nil => cases hs
      | @char c cs hc hok hcs =>
          rw [Json.scanString] at hs
          by_cases hquote : c = '"'
          · rw [if_pos hquote] at hs
            cases hs
            exact ⟨by simp, hcs⟩
          · rw [if_neg hquote, if_neg hc] at hs
            by_cases hcontrol : c.toNat < 0x20
            · rw [if_pos hcontrol] at hs
              cases hs
            · rw [if_neg hcontrol] at hs
              cases hmore : Json.scanString n cs with
              | none =>
                  rw [hmore] at hs
                  cases hs
              | some p =>
                  rw [hmore] at hs
                  cases hs
                  have hp := ih hcs hmore
                  refine ⟨fun d hd => ?_, hp.2⟩
                  rcases List.mem_cons.1 hd with rfl | hd
                  · exact hok
                  · exact hp.1 d hd
      | @escape e d cs he hok hcs =>
          rw [Json.scanString, if_neg (by decide), if_pos rfl, he cs] at hs
          change (Json.scanString n cs).bind _ = _ at hs
          cases hmore : Json.scanString n cs with
          | none =>
              rw [hmore] at hs
              cases hs
          | some p =>
              rw [hmore] at hs
              cases hs
              have hp := ih hcs hmore
              refine ⟨fun c hc => ?_, hp.2⟩
              rcases List.mem_cons.1 hc with rfl | hc
              · exact hok
              · exact hp.1 c hc

/-! ### Numbers -/

theorem Clean.scanDigits {cs digits rest : List Char} (h : Clean ok cs)
    (hs : scanDigits cs = some (digits, rest)) : Clean ok rest := by
  unfold Json.scanDigits at hs
  rw [List.span_eq_takeWhile_dropWhile] at hs
  dsimp only at hs
  split at hs
  · cases hs
  · cases hs
    exact h.dropWhile (by decide)

theorem Clean.scanFraction {cs : List Char} (h : Clean ok cs) :
    Clean ok (scanFraction cs).2 := by
  unfold Json.scanFraction
  split
  · rename_i cs
    split
    · rename_i hdigits
      exact (h.tail (by decide)).scanDigits hdigits
    · exact h
  · exact h

theorem Clean.scanExponent {cs : List Char} (h : Clean ok cs) :
    Clean ok (scanExponent cs).2 := by
  unfold Json.scanExponent
  split
  · rename_i e rest
    split
    · rename_i he
      have hrest : Clean ok rest := h.tail (by rcases he with rfl | rfl <;> decide)
      split
      rename_i sign r hsign
      have hr : Clean ok r := by
        split at hsign
        · cases hsign
          exact hrest.tail (by decide)
        · cases hsign
          exact hrest.tail (by decide)
        · cases hsign
          exact hrest
      split
      · rename_i hdigits
        exact hr.scanDigits hdigits
      · exact h
    · exact h
  · exact h

theorem Clean.scanWhole {cs whole rest : List Char} (h : Clean ok cs)
    (hs : scanWhole cs = some (whole, rest)) : Clean ok rest := by
  unfold Json.scanWhole at hs
  split at hs
  · cases hs
    exact h.tail (by decide)
  · exact h.scanDigits hs

section Values

variable (float : String → String)

/-- A number holds no strings. -/
theorem Clean.scanUnsigned {negative : Bool} {cs rest : List Char} {x : Json} (h : Clean ok cs)
    (hs : scanUnsigned float negative cs = some (x, rest)) : Within ok x ∧ Clean ok rest := by
  unfold Json.scanUnsigned at hs
  cases hwhole : Json.scanWhole cs with
  | none =>
      rw [hwhole] at hs
      cases hs
  | some p =>
      rw [hwhole] at hs
      have hend := ((h.scanWhole hwhole).scanFraction).scanExponent
      dsimp only [bind, Option.bind] at hs
      split at hs
      · cases hs
        exact ⟨trivial, hend⟩
      · cases hs
        exact ⟨trivial, hend⟩

theorem Clean.scanNumber {cs rest : List Char} {x : Json} (h : Clean ok cs)
    (hs : scanNumber float cs = some (x, rest)) : Within ok x ∧ Clean ok rest := by
  unfold Json.scanNumber at hs
  split at hs
  · exact (h.tail (by decide)).scanUnsigned float hs
  · exact h.scanUnsigned float hs

/-! ### Values -/

/-- What reading with some fuel makes of clean texts. -/
structure ReadsWithin (ok : Char → Prop) (n : Nat) : Prop where
  value : ∀ {cs x rest}, Clean ok cs → scanValue float n cs = some (x, rest) →
    Within ok x ∧ Clean ok rest
  items : ∀ {cs xs rest}, Clean ok cs → scanItems float n cs = some (xs, rest) →
    WithinItems ok xs ∧ Clean ok rest
  fields : ∀ {d cs es rest}, WithinFields ok d → Clean ok cs →
    scanFields float n d cs = some (es, rest) → WithinFields ok es ∧ Clean ok rest

variable {float}

theorem ReadsWithin.nextValue {n : Nat} (ih : ReadsWithin float ok n) {cs rest : List Char}
    {x : Json} (h : Clean ok cs) (hs : scanValue float (n + 1) cs = some (x, rest)) :
    Within ok x ∧ Clean ok rest := by
  unfold scanValue at hs
  dsimp only at hs
  split at hs
  · rename_i cs
    have hcs : Clean ok cs := h.tail (by decide)
    cases hstring : Json.scanString (cs.length + 1) cs with
    | none =>
        rw [hstring] at hs
        cases hs
    | some p =>
        rw [hstring] at hs
        cases hs
        have hp := hcs.scanString hstring
        exact ⟨by simpa [Within] using hp.1, hp.2⟩
  · rename_i cs
    have hcs : Clean ok (skipBlanks cs) := (h.tail (by decide)).skipBlanks
    split at hs
    · rename_i hclose
      cases hs
      rw [hclose] at hcs
      exact ⟨trivial, hcs.tail (by decide)⟩
    · cases hitems : scanItems float n (skipBlanks cs) with
      | none =>
          rw [hitems] at hs
          cases hs
      | some p =>
          rw [hitems] at hs
          cases hs
          exact ih.items hcs hitems
  · rename_i cs
    have hcs : Clean ok (skipBlanks cs) := (h.tail (by decide)).skipBlanks
    split at hs
    · rename_i hclose
      cases hs
      rw [hclose] at hcs
      exact ⟨trivial, hcs.tail (by decide)⟩
    · cases hfields : scanFields float n [] (skipBlanks cs) with
      | none =>
          rw [hfields] at hs
          cases hs
      | some p =>
          rw [hfields] at hs
          cases hs
          exact ih.fields (show WithinFields ok [] from trivial) hcs hfields
  · cases hs
    exact ⟨trivial, (((h.tail (by decide)).tail (by decide)).tail (by decide)).tail (by decide)⟩
  · cases hs
    exact ⟨trivial, (((h.tail (by decide)).tail (by decide)).tail (by decide)).tail (by decide)⟩
  · cases hs
    exact ⟨trivial, ((((h.tail (by decide)).tail (by decide)).tail (by decide)).tail
      (by decide)).tail (by decide)⟩
  · cases hs
    exact ⟨trivial, ((h.tail (by decide)).tail (by decide)).tail (by decide)⟩
  · cases hs
    exact ⟨trivial, (((((((h.tail (by decide)).tail (by decide)).tail (by decide)).tail
      (by decide)).tail (by decide)).tail (by decide)).tail (by decide)).tail (by decide)⟩
  · cases hs
    exact ⟨trivial, ((((((((h.tail (by decide)).tail (by decide)).tail (by decide)).tail
      (by decide)).tail (by decide)).tail (by decide)).tail (by decide)).tail (by decide)).tail
      (by decide)⟩
  · exact h.scanNumber float hs

theorem ReadsWithin.nextItems {n : Nat} (ih : ReadsWithin float ok n) {cs rest : List Char}
    {xs : List Json} (h : Clean ok cs) (hs : scanItems float (n + 1) cs = some (xs, rest)) :
    WithinItems ok xs ∧ Clean ok rest := by
  unfold scanItems at hs
  dsimp only at hs
  cases hvalue : scanValue float n cs with
  | none =>
      rw [hvalue] at hs
      cases hs
  | some p =>
      rw [hvalue] at hs
      obtain ⟨hx, hrest⟩ := ih.value h hvalue
      have hskip := hrest.skipBlanks
      dsimp only [bind, Option.bind] at hs
      split at hs
      · rename_i hclose
        cases hs
        rw [hclose] at hskip
        exact ⟨⟨hx, trivial⟩, hskip.tail (by decide)⟩
      · rename_i more hcomma
        rw [hcomma] at hskip
        have hmore := (hskip.tail (by decide)).skipBlanks
        cases hitems : scanItems float n (skipBlanks more) with
        | none =>
            rw [hitems] at hs
            cases hs
        | some q =>
            rw [hitems] at hs
            cases hs
            have hq := ih.items hmore hitems
            exact ⟨⟨hx, hq.1⟩, hq.2⟩
      · cases hs

theorem ReadsWithin.nextFields {n : Nat} (ih : ReadsWithin float ok n) {d es : Fields}
    {cs rest : List Char} (hd : WithinFields ok d) (h : Clean ok cs)
    (hs : scanFields float (n + 1) d cs = some (es, rest)) :
    WithinFields ok es ∧ Clean ok rest := by
  unfold scanFields at hs
  dsimp only at hs
  split at hs
  · rename_i cs
    have hcs : Clean ok cs := h.tail (by decide)
    cases hkey : Json.scanString (cs.length + 1) cs with
    | none =>
        rw [hkey] at hs
        cases hs
    | some p =>
        rw [hkey] at hs
        obtain ⟨hk, hrest⟩ := hcs.scanString hkey
        have hskip := hrest.skipBlanks
        dsimp only [bind, Option.bind] at hs
        split at hs
        · rename_i more hcolon
          rw [hcolon] at hskip
          have hmore := (hskip.tail (by decide)).skipBlanks
          cases hvalue : scanValue float n (skipBlanks more) with
          | none =>
              rw [hvalue] at hs
              cases hs
          | some q =>
              rw [hvalue] at hs
              obtain ⟨hv, hrest'⟩ := ih.value hmore hvalue
              have hset : WithinFields ok (set d (String.ofList p.1) q.1) :=
                withinFields_set hd (by simpa using hk) hv
              have hskip' := hrest'.skipBlanks
              dsimp only at hs
              split at hs
              · rename_i hclose
                cases hs
                rw [hclose] at hskip'
                exact ⟨hset, hskip'.tail (by decide)⟩
              · rename_i hcomma
                rw [hcomma] at hskip'
                exact ih.fields hset (hskip'.tail (by decide)).skipBlanks hs
              · cases hs
        · cases hs
  · cases hs

theorem readsWithin (n : Nat) : ReadsWithin float ok n := by
  induction n with
  | zero =>
      constructor
      · intro cs x rest _ hs
        cases hs
      · intro cs xs rest _ hs
        cases hs
      · intro d cs es rest _ _ hs
        cases hs
  | succ n ih =>
      exact ⟨ih.nextValue, ih.nextItems, ih.nextFields⟩

/-- **What is read from a clean text is within the bound.** -/
theorem within_loads {text : String} {x : Json} (h : Clean ok text.toList)
    (hs : loads float text = some x) : Within ok x := by
  unfold loads at hs
  dsimp only at hs
  cases hvalue : scanValue float ((skipBlanks text.toList).length + 1)
      (skipBlanks text.toList) with
  | none =>
      rw [hvalue] at hs
      cases hs
  | some p =>
      rw [hvalue] at hs
      have hp := (readsWithin _).value h.skipBlanks hvalue
      dsimp only [bind, Option.bind] at hs
      split at hs
      · cases hs
        exact hp.1
      · cases hs

end Values

end Json
