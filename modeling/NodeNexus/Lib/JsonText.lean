import Mathlib.Data.List.TakeDrop
import NodeNexus.Lib.Json
import NodeNexus.Lib.Traverse

/-!
# JSON documents as text

What Python's `json` module writes and reads.

* `Json.dumps` is `json.dumps(x)`: ASCII only, with blanks after commas and
  colons.
* `Json.loads` is `json.loads(text)`, with `none` for the `ValueError`.  A text
  is a list of Unicode scalar values, so an escaped surrogate without its
  partner, which Python would let through, is an error here.  How a number with
  a fraction or an exponent is rounded is the parameter `float`.
* `Json.loads_dumps` — a value without floats, with different keys in each of
  its dictionaries, reads back.
-/

namespace Json

/-! ## Writing -/

/-- `\uXXXX`. -/
def escapeUnit (n : Nat) : List Char := '\\' :: 'u' :: hexPad 4 n

/-- One character of a string literal. -/
def dumpChar (c : Char) : List Char :=
  if c = '"' ∨ c = '\\' then ['\\', c]
  else if c = '\n' then ['\\', 'n']
  else if c = '\r' then ['\\', 'r']
  else if c = '\t' then ['\\', 't']
  else if c.toNat = 0x0c then ['\\', 'f']
  else if c.toNat = 0x08 then ['\\', 'b']
  else if 0x20 ≤ c.toNat ∧ c.toNat ≤ 0x7e then [c]
  else if c.toNat < 0x10000 then escapeUnit c.toNat
  else
    -- a pair of surrogates
    escapeUnit (0xd800 + (c.toNat - 0x10000) / 0x400) ++
      escapeUnit (0xdc00 + (c.toNat - 0x10000) % 0x400)

/-- A string literal. -/
def dumpStr (s : String) : List Char :=
  '"' :: s.toList.flatMap dumpChar ++ ['"']

/-- An integer. -/
def dumpInt : Int → List Char
  | .ofNat n => Nat.toDigits 10 n
  | .negSucc n => '-' :: Nat.toDigits 10 (n + 1)

/-- The literal of a float, given what `repr` prints for it. -/
def dumpFloat (text : String) : List Char :=
  if text = "nan" then "NaN".toList
  else if text = "inf" then "Infinity".toList
  else if text = "-inf" then "-Infinity".toList
  else text.toList

mutual

/-- The text of a value. -/
def dump : Json → List Char
  | null => "null".toList
  | bool true => "true".toList
  | bool false => "false".toList
  | int n => dumpInt n
  | float text => dumpFloat text
  | str s => dumpStr s
  | list items => '[' :: dumpItems items ++ [']']
  | dict fields => '\x7b' :: dumpFields fields ++ ['\x7d']

/-- The elements of a list, separated by commas. -/
def dumpItems : List Json → List Char
  | [] => []
  | [x] => dump x
  | x :: y :: xs => dump x ++ ',' :: ' ' :: dumpItems (y :: xs)

/-- The entries of a dictionary, separated by commas. -/
def dumpFields : List (String × Json) → List Char
  | [] => []
  | [(k, v)] => dumpStr k ++ ':' :: ' ' :: dump v
  | (k, v) :: e :: es => dumpStr k ++ ':' :: ' ' :: dump v ++ ',' :: ' ' :: dumpFields (e :: es)

end

/-- `json.dumps(x)`. -/
def dumps (x : Json) : String := String.ofList (dump x)

/-! ## Reading strings -/

/-- The value of four hexadecimal digits, of either case. -/
def hexUnit? (digits : List Char) : Option Nat :=
  (digits.mapM fun c => hexDigit? c.toLower).map ofHex

/-- The characters that stand for themselves or for a control character after a
backslash. -/
def simpleEscape? (c : Char) : Option Char :=
  if c = '"' ∨ c = '\\' ∨ c = '/' then some c
  else if c = 'n' then some '\n'
  else if c = 'r' then some '\r'
  else if c = 't' then some '\t'
  else if c = 'f' then some (Char.ofNat 0x0c)
  else if c = 'b' then some (Char.ofNat 0x08)
  else none

/-- What comes after a backslash. -/
def scanEscape : List Char → Option (Char × List Char)
  | 'u' :: a :: b :: c :: d :: rest => do
      let unit ← hexUnit? [a, b, c, d]
      if 0xd800 ≤ unit ∧ unit < 0xdc00 then
        match rest with
        | '\\' :: 'u' :: e :: f :: g :: h :: rest => do
            let low ← hexUnit? [e, f, g, h]
            if 0xdc00 ≤ low ∧ low < 0xe000 then
              some (Char.ofNat (0x10000 + (unit - 0xd800) * 0x400 + (low - 0xdc00)), rest)
            else none
        | _ => none
      else if 0xdc00 ≤ unit ∧ unit < 0xe000 then none
      else some (Char.ofNat unit, rest)
  | e :: rest => (simpleEscape? e).map (·, rest)
  | [] => none

/-- The characters of a string up to its closing quote, and the rest. -/
def scanString : Nat → List Char → Option (List Char × List Char)
  | 0, _ => none
  | _ + 1, [] => none
  | n + 1, c :: cs =>
      if c = '"' then some ([], cs)
      else if c = '\\' then do
        let (d, rest) ← scanEscape cs
        let (s, rest) ← scanString n rest
        some (d :: s, rest)
      else if c.toNat < 0x20 then none
      else do
        let (s, rest) ← scanString n cs
        some (c :: s, rest)

/-! ## Reading numbers -/

/-- The digits at the front, at least one. -/
def scanDigits (cs : List Char) : Option (List Char × List Char) :=
  let (digits, rest) := cs.span Char.isDigit
  if digits.isEmpty then none else some (digits, rest)

/-- A fraction, if there is one. -/
def scanFraction : List Char → List Char × List Char
  | '.' :: cs => match scanDigits cs with
      | some (digits, rest) => ('.' :: digits, rest)
      | none => ([], '.' :: cs)
  | cs => ([], cs)

/-- An exponent, if there is one. -/
def scanExponent (cs : List Char) : List Char × List Char :=
  match cs with
  | e :: rest =>
      if e = 'e' ∨ e = 'E' then
        let (sign, rest) := match rest with
          | '+' :: r => (['+'], r)
          | '-' :: r => (['-'], r)
          | r => ([], r)
        match scanDigits rest with
        | some (digits, rest) => (e :: sign ++ digits, rest)
        | none => ([], cs)
      else ([], cs)
  | [] => ([], cs)

/-- The digits before the point: no zero in front of others. -/
def scanWhole : List Char → Option (List Char × List Char)
  | '0' :: rest => some (['0'], rest)
  | cs => scanDigits cs

section Reading

variable (float : String → String)

/-- A number without its sign. -/
def scanUnsigned (negative : Bool) (cs : List Char) : Option (Json × List Char) := do
  let (whole, rest) ← scanWhole cs
  let (fraction, rest) := scanFraction rest
  let (exponent, rest) := scanExponent rest
  if fraction.isEmpty && exponent.isEmpty then
    let n := Nat.ofDigitChars 10 whole 0
    some (int (if negative then -(n : Int) else n), rest)
  else
    let sign := if negative then ['-'] else []
    some (.float (float (String.ofList (sign ++ whole ++ fraction ++ exponent))), rest)

/-- A number. -/
def scanNumber : List Char → Option (Json × List Char)
  | '-' :: cs => scanUnsigned float true cs
  | cs => scanUnsigned float false cs

/-! ## Reading values -/

/-- The blanks of a document. -/
def isBlank (c : Char) : Bool := c = ' ' || c = '\t' || c = '\n' || c = '\r'

/-- Skip blanks. -/
def skipBlanks (cs : List Char) : List Char := cs.dropWhile isBlank

mutual

/-- A value at the front of a text, and the rest. -/
def scanValue : Nat → List Char → Option (Json × List Char)
  | 0, _ => none
  | n + 1, cs => match cs with
    | '"' :: cs => do
        let (s, rest) ← scanString (cs.length + 1) cs
        some (str (String.ofList s), rest)
    | '[' :: cs => match skipBlanks cs with
        | ']' :: rest => some (list [], rest)
        | cs => do
            let (items, rest) ← scanItems n cs
            some (list items, rest)
    | '\x7b' :: cs => match skipBlanks cs with
        | '\x7d' :: rest => some (dict [], rest)
        | cs => do
            let (fields, rest) ← scanFields n [] cs
            some (dict fields, rest)
    | 'n' :: 'u' :: 'l' :: 'l' :: rest => some (null, rest)
    | 't' :: 'r' :: 'u' :: 'e' :: rest => some (bool true, rest)
    | 'f' :: 'a' :: 'l' :: 's' :: 'e' :: rest => some (bool false, rest)
    | 'N' :: 'a' :: 'N' :: rest => some (.float "nan", rest)
    | 'I' :: 'n' :: 'f' :: 'i' :: 'n' :: 'i' :: 't' :: 'y' :: rest => some (.float "inf", rest)
    | '-' :: 'I' :: 'n' :: 'f' :: 'i' :: 'n' :: 'i' :: 't' :: 'y' :: rest =>
        some (.float "-inf", rest)
    | cs => scanNumber float cs

/-- The elements of a list up to its closing bracket. -/
def scanItems : Nat → List Char → Option (List Json × List Char)
  | 0, _ => none
  | n + 1, cs => do
      let (x, rest) ← scanValue n cs
      match skipBlanks rest with
      | ']' :: rest => some ([x], rest)
      | ',' :: rest => do
          let (xs, rest) ← scanItems n (skipBlanks rest)
          some (x :: xs, rest)
      | _ => none

/-- The entries of a dictionary up to its closing brace; a later entry replaces
an earlier one under the same key. -/
def scanFields : Nat → Fields → List Char → Option (Fields × List Char)
  | 0, _, _ => none
  | n + 1, d, cs => match cs with
    | '"' :: cs => do
        let (k, rest) ← scanString (cs.length + 1) cs
        match skipBlanks rest with
        | ':' :: rest => do
            let (v, rest) ← scanValue n (skipBlanks rest)
            let d := set d (String.ofList k) v
            match skipBlanks rest with
            | '\x7d' :: rest => some (d, rest)
            | ',' :: rest => scanFields n d (skipBlanks rest)
            | _ => none
        | _ => none
    | _ => none

end

/-- `json.loads(text)`. -/
def loads (text : String) : Option Json := do
  let cs := skipBlanks text.toList
  let (x, rest) ← scanValue float (cs.length + 1) cs
  if (skipBlanks rest).isEmpty then some x else none

end Reading

/-! ## Strings read back -/

theorem toLower_digitChar {d : Nat} (h : d < 16) : (Nat.digitChar d).toLower = Nat.digitChar d := by
  revert d
  decide

/-- Four digits of a code unit. -/
theorem hexUnit?_hexPad {n : Nat} (h : n < 0x10000) :
    ∃ a b c d, hexPad 4 n = [a, b, c, d] ∧ hexUnit? [a, b, c, d] = some n := by
  have hlen : (hexPad 4 n).length = 4 := length_hexPad (by decide) h
  have hdigits : ∀ c ∈ hexPad 4 n, hexDigit? c.toLower = hexDigit? c := by
    intro c hc
    obtain ⟨d, hd, rfl⟩ := mem_hexPad hc
    rw [toLower_digitChar hd]
  obtain ⟨ds, hds, -, hvalue, -⟩ := ofHex_hexPad 4 n
  have hread : hexUnit? (hexPad 4 n) = some n := by
    have hmap : (hexPad 4 n).mapM (fun c => hexDigit? c.toLower) = (hexPad 4 n).mapM hexDigit? :=
      mapM_congr hdigits
    unfold hexUnit?
    rw [hmap, hds, Option.map_some, hvalue]
  match hpad : hexPad 4 n, hlen with
  | [a, b, c, d], _ => exact ⟨a, b, c, d, rfl, hpad ▸ hread⟩

theorem scanEscape_unit {n : Nat} (h : n < 0xd800 ∨ 0xe000 ≤ n ∧ n < 0x10000)
    (rest : List Char) : scanEscape ('u' :: hexPad 4 n ++ rest) = some (Char.ofNat n, rest) := by
  obtain ⟨a, b, c, d, hpad, hread⟩ := hexUnit?_hexPad (n := n) (by omega)
  rw [hpad]
  show (do
    let unit ← hexUnit? [a, b, c, d]
    _ : Option (Char × List Char)) = _
  rw [hread]
  have hhigh : ¬(0xd800 ≤ n ∧ n < 0xdc00) := by omega
  have hlow : ¬(0xdc00 ≤ n ∧ n < 0xe000) := by omega
  simp only [Option.bind_eq_bind, Option.bind_some, if_neg hhigh, if_neg hlow]
  rfl

theorem scanEscape_pair (high low : Nat) (hhigh : 0xd800 ≤ high ∧ high < 0xdc00)
    (hlow : 0xdc00 ≤ low ∧ low < 0xe000) (rest : List Char) :
    scanEscape ('u' :: hexPad 4 high ++ (escapeUnit low ++ rest)) =
      some (Char.ofNat (0x10000 + (high - 0xd800) * 0x400 + (low - 0xdc00)), rest) := by
  obtain ⟨a, b, c, d, hpad, hread⟩ := hexUnit?_hexPad (n := high) (by omega)
  obtain ⟨e, f, g, h, hpad', hread'⟩ := hexUnit?_hexPad (n := low) (by omega)
  unfold escapeUnit
  rw [hpad, hpad']
  show (do
    let unit ← hexUnit? [a, b, c, d]
    _ : Option (Char × List Char)) = _
  rw [hread]
  simp only [Option.bind_eq_bind, Option.bind_some, if_pos hhigh]
  show (hexUnit? [e, f, g, h]).bind _ = _
  rw [hread']
  simp only [Option.bind_some, if_pos hlow]
  rfl

/-- Reading an escaped character. -/
theorem scanString_escape {n : Nat} {d : Char} {cs rest : List Char}
    (h : scanEscape cs = some (d, rest)) :
    scanString (n + 1) ('\\' :: cs) = (scanString n rest).map fun p => (d :: p.1, p.2) := by
  show (scanEscape cs).bind _ = _
  rw [h]
  show (scanString n rest).bind _ = _
  cases scanString n rest <;> rfl

theorem ofNat_toNat_eq {c : Char} {n : Nat} (h : c.toNat = n) : c = Char.ofNat n := by
  rw [← h]
  exact c.ofNat_toNat.symm

/-- A character of a string literal reads back. -/
theorem scanString_dumpChar (n : Nat) (c : Char) (cs : List Char) :
    scanString (n + 1) (dumpChar c ++ cs) =
      (scanString n cs).map fun p => (c :: p.1, p.2) := by
  unfold dumpChar
  split
  · rename_i h
    rcases h with rfl | rfl
    · exact scanString_escape rfl
    · exact scanString_escape rfl
  · rename_i hplain
    rw [not_or] at hplain
    split
    · rename_i h
      subst h
      exact scanString_escape rfl
    split
    · rename_i h
      subst h
      exact scanString_escape rfl
    split
    · rename_i h
      subst h
      exact scanString_escape rfl
    split
    · rename_i h
      rw [ofNat_toNat_eq h]
      exact scanString_escape rfl
    split
    · rename_i h
      rw [ofNat_toNat_eq h]
      exact scanString_escape rfl
    split
    · rename_i h
      show scanString (n + 1) (c :: cs) = _
      rw [scanString, if_neg hplain.1, if_neg hplain.2, if_neg (by omega)]
      cases scanString n cs <;> rfl
    have hvalid : c.toNat < 0xd800 ∨ 0xdfff < c.toNat ∧ c.toNat < 0x110000 := c.valid
    split
    · rename_i h
      have hscan := scanEscape_unit (n := c.toNat) (by omega) cs
      rw [c.ofNat_toNat] at hscan
      exact scanString_escape hscan
    · rename_i h
      -- the two surrogates of a character beyond the basic plane
      have hscan := scanEscape_pair (0xd800 + (c.toNat - 0x10000) / 0x400)
        (0xdc00 + (c.toNat - 0x10000) % 0x400) (by omega) (by omega) cs
      have hvalue : 0x10000 + (0xd800 + (c.toNat - 0x10000) / 0x400 - 0xd800) * 0x400 +
          (0xdc00 + (c.toNat - 0x10000) % 0x400 - 0xdc00) = c.toNat := by omega
      rw [hvalue, c.ofNat_toNat] at hscan
      rw [List.append_assoc]
      exact scanString_escape hscan

/-- A string literal reads back. -/
theorem scanString_dump {n : Nat} {s : List Char} (h : s.length < n) (rest : List Char) :
    scanString n (s.flatMap dumpChar ++ '"' :: rest) = some (s, rest) := by
  induction s generalizing n with
  | nil =>
      obtain ⟨m, rfl⟩ : ∃ m, n = m + 1 := ⟨n - 1, by omega⟩
      rfl
  | cons c s ih =>
      rw [List.length_cons] at h
      obtain ⟨m, rfl⟩ : ∃ m, n = m + 1 := ⟨n - 1, by omega⟩
      rw [List.flatMap_cons, List.append_assoc, scanString_dumpChar, ih (by omega)]
      rfl

theorem dumpChar_ne_nil (c : Char) : dumpChar c ≠ [] := by
  unfold dumpChar escapeUnit
  repeat' split
  all_goals exact List.cons_ne_nil _ _

/-- Each character is written as at least one. -/
theorem length_le_flatMap_dumpChar (s : List Char) : s.length ≤ (s.flatMap dumpChar).length := by
  induction s with
  | nil => exact Nat.le_refl _
  | cons c s ih =>
      have hpos : 0 < (dumpChar c).length := List.length_pos_iff.2 (dumpChar_ne_nil c)
      rw [List.flatMap_cons, List.length_append, List.length_cons]
      omega

/-- The scanner gets enough fuel for a string literal. -/
theorem scanString_dumpStr (s : String) (rest : List Char) :
    scanString ((s.toList.flatMap dumpChar ++ '"' :: rest).length + 1)
      (s.toList.flatMap dumpChar ++ '"' :: rest) = some (s.toList, rest) := by
  apply scanString_dump
  have hle := length_le_flatMap_dumpChar s.toList
  rw [List.length_append, List.length_cons]
  omega

/-! ## Integers read back -/

/-- A text that does not go on with a number. -/
def stops : List Char → Bool
  | [] => true
  | c :: _ => !c.isDigit && c ≠ '.' && c ≠ 'e' && c ≠ 'E'

theorem scanDigits_append {digits rest : List Char} (hne : digits ≠ [])
    (hdigits : ∀ c ∈ digits, c.isDigit = true) (hrest : stops rest = true) :
    scanDigits (digits ++ rest) = some (digits, rest) := by
  have htake : rest.takeWhile Char.isDigit = [] ∧ rest.dropWhile Char.isDigit = rest := by
    cases rest with
    | nil => exact ⟨rfl, rfl⟩
    | cons c cs =>
        simp only [stops, Bool.and_eq_true, Bool.not_eq_true'] at hrest
        simp [hrest.1.1.1]
  have hspan : (digits ++ rest).span Char.isDigit = (digits, rest) := by
    rw [List.span_eq_takeWhile_dropWhile, List.takeWhile_append_of_pos hdigits,
      List.dropWhile_append_of_pos hdigits, htake.1, htake.2, List.append_nil]
  unfold scanDigits
  rw [hspan]
  have hempty : digits.isEmpty = false := by simpa using hne
  simp [hempty]

theorem digitChar_ne_zero {d : Nat} (h : 0 < d) (hlt : d < 10) : Nat.digitChar d ≠ '0' := by
  revert h
  revert d
  decide

/-- A positive number does not start with a zero. -/
theorem head_toDigits {n : Nat} (h : 0 < n) :
    ∃ c cs, Nat.toDigits 10 n = c :: cs ∧ c ≠ '0' := by
  induction n using Nat.strongRecOn with
  | _ n ih =>
      rw [Nat.toDigits_eq_if (by decide)]
      split
      · rename_i hlt
        exact ⟨Nat.digitChar n, [], rfl, digitChar_ne_zero h hlt⟩
      · obtain ⟨c, cs, hcs, hc⟩ := ih (n / 10) (by omega) (by omega)
        rw [hcs]
        exact ⟨c, _, rfl, hc⟩

theorem scanWhole_toDigits (n : Nat) {rest : List Char} (hrest : stops rest = true) :
    scanWhole (Nat.toDigits 10 n ++ rest) = some (Nat.toDigits 10 n, rest) := by
  have hdigits : ∀ c ∈ Nat.toDigits 10 n, c.isDigit = true :=
    fun c hc => Nat.isDigit_of_mem_toDigits (by decide) (by decide) hc
  rcases Nat.eq_zero_or_pos n with rfl | hpos
  · rfl
  · obtain ⟨c, cs, hcs, hc⟩ := head_toDigits hpos
    have hscan := scanDigits_append (Nat.toDigits_ne_nil) hdigits hrest
    rw [hcs] at hscan ⊢
    unfold scanWhole
    split
    · rename_i heq
      cases heq
      exact absurd rfl hc
    · exact hscan

theorem scanFraction_stops {rest : List Char} (h : stops rest = true) :
    scanFraction rest = ([], rest) := by
  unfold scanFraction
  split
  · simp [stops] at h
  · rfl

theorem scanExponent_stops {rest : List Char} (h : stops rest = true) :
    scanExponent rest = ([], rest) := by
  cases rest with
  | nil => rfl
  | cons c cs =>
      simp only [stops, Bool.and_eq_true, decide_eq_true_eq] at h
      have hne : ¬(c = 'e' ∨ c = 'E') := by
        rw [not_or]
        exact ⟨h.1.2, h.2⟩
      unfold scanExponent
      simp only [if_neg hne]

section Numbers

variable (float : String → String)

theorem scanUnsigned_toDigits (negative : Bool) (n : Nat) {rest : List Char}
    (hrest : stops rest = true) :
    scanUnsigned float negative (Nat.toDigits 10 n ++ rest) =
      some (int (if negative then -(n : Int) else n), rest) := by
  unfold scanUnsigned
  rw [scanWhole_toDigits n hrest]
  simp only [Option.bind_eq_bind, Option.bind_some, scanFraction_stops hrest,
    scanExponent_stops hrest, Nat.ofDigitChars_ten_toDigits]
  rfl

/-- An integer reads back. -/
theorem scanNumber_dumpInt (n : Int) {rest : List Char} (hrest : stops rest = true) :
    scanNumber float (dumpInt n ++ rest) = some (int n, rest) := by
  cases n with
  | ofNat n =>
      have hscan := scanUnsigned_toDigits float false n hrest
      obtain ⟨c, cs, hcs⟩ := List.exists_cons_of_ne_nil (Nat.toDigits_ne_nil (n := n) (b := 10))
      have hdigit : c.isDigit = true := by
        refine Nat.isDigit_of_mem_toDigits (b := 10) (n := n) (by decide) (by decide) ?_
        rw [hcs]
        exact List.mem_cons_self ..
      show scanNumber float (Nat.toDigits 10 n ++ rest) = _
      rw [hcs] at hscan ⊢
      unfold scanNumber
      split
      · rename_i heq
        cases heq
        exact absurd hdigit (by decide)
      · exact hscan
  | negSucc n => exact scanUnsigned_toDigits float true (n + 1) hrest

end Numbers

/-! ## Values read back -/

mutual

/-- No floats, and different keys in each dictionary. -/
def Plain : Json → Prop
  | .float _ => False
  | list items => PlainItems items
  | dict fields => (fields.map (·.1)).Nodup ∧ PlainFields fields
  | null | bool _ | int _ | str _ => True

/-- Every element is plain. -/
def PlainItems : List Json → Prop
  | [] => True
  | x :: xs => Plain x ∧ PlainItems xs

/-- Every value is plain. -/
def PlainFields : List (String × Json) → Prop
  | [] => True
  | e :: es => Plain e.2 ∧ PlainFields es

end

mutual

/-- The fuel that reading a value takes. -/
def weight : Json → Nat
  | list items => weightItems items + 1
  | dict fields => weightFields fields + 1
  | null | bool _ | int _ | .float _ | str _ => 1

/-- The fuel that reading elements takes. -/
def weightItems : List Json → Nat
  | [] => 0
  | x :: xs => weight x + weightItems xs + 1

/-- The fuel that reading entries takes. -/
def weightFields : List (String × Json) → Nat
  | [] => 0
  | e :: es => weight e.2 + weightFields es + 1

end

/-- The first character of an integer, and what follows a minus sign. -/
theorem dumpInt_cons (n : Int) : ∃ c cs, dumpInt n = c :: cs ∧
    (c.isDigit = true ∨ c = '-' ∧ ∃ d ds, cs = d :: ds ∧ d.isDigit = true) := by
  have hdigit : ∀ m, ∃ d ds, Nat.toDigits 10 m = d :: ds ∧ d.isDigit = true := by
    intro m
    obtain ⟨d, ds, hds⟩ := List.exists_cons_of_ne_nil (Nat.toDigits_ne_nil (n := m) (b := 10))
    refine ⟨d, ds, hds, Nat.isDigit_of_mem_toDigits (b := 10) (n := m) (by decide) (by decide) ?_⟩
    rw [hds]
    exact List.mem_cons_self ..
  cases n with
  | ofNat n =>
      obtain ⟨d, ds, hds, hd⟩ := hdigit n
      exact ⟨d, ds, hds, .inl hd⟩
  | negSucc n =>
      obtain ⟨d, ds, hds, hd⟩ := hdigit (n + 1)
      exact ⟨'-', _, rfl, .inr ⟨rfl, d, ds, hds, hd⟩⟩

/-- A value starts with a character that is neither a blank nor a bracket that
closes a list. -/
theorem dump_cons {x : Json} (h : Plain x) :
    ∃ c cs, dump x = c :: cs ∧ isBlank c = false ∧ c ≠ ']' := by
  cases x with
  | null => exact ⟨'n', _, rfl, rfl, by decide⟩
  | bool b =>
      cases b
      · exact ⟨'f', _, rfl, rfl, by decide⟩
      · exact ⟨'t', _, rfl, rfl, by decide⟩
  | int n =>
      obtain ⟨c, cs, hcs, hc⟩ := dumpInt_cons n
      refine ⟨c, cs, hcs, ?_, ?_⟩
      · rcases hc with hdigit | ⟨rfl, -⟩
        · by_contra hblank
          simp only [isBlank, Bool.not_eq_false, Bool.or_eq_true, decide_eq_true_eq] at hblank
          rcases hblank with ((rfl | rfl) | rfl) | rfl <;> exact absurd hdigit (by decide)
        · rfl
      · rcases hc with hdigit | ⟨rfl, -⟩
        · rintro rfl
          exact absurd hdigit (by decide)
        · decide
  | float text => cases h
  | str s => exact ⟨'"', _, rfl, rfl, by decide⟩
  | list items => exact ⟨'[', _, rfl, rfl, by decide⟩
  | dict fields => exact ⟨'\x7b', _, rfl, rfl, by decide⟩

theorem skipBlanks_cons {c : Char} (h : isBlank c = false) (cs : List Char) :
    skipBlanks (c :: cs) = c :: cs := by
  unfold skipBlanks
  rw [List.dropWhile_cons, h]
  rfl

theorem skipBlanks_dump {x : Json} (h : Plain x) (rest : List Char) :
    skipBlanks (dump x ++ rest) = dump x ++ rest := by
  obtain ⟨c, cs, hcs, hc, -⟩ := dump_cons h
  rw [hcs]
  exact skipBlanks_cons hc _

theorem dumpItems_cons (x : Json) (xs : List Json) (hxs : xs ≠ []) :
    dumpItems (x :: xs) = dump x ++ ',' :: ' ' :: dumpItems xs := by
  cases xs with
  | nil => exact absurd rfl hxs
  | cons y ys => rfl

theorem dumpFields_cons (e : String × Json) (es : List (String × Json)) (hes : es ≠ []) :
    dumpFields (e :: es) =
      dumpStr e.1 ++ ':' :: ' ' :: dump e.2 ++ ',' :: ' ' :: dumpFields es := by
  cases es with
  | nil => exact absurd rfl hes
  | cons f fs => rfl

section Values

variable (float : String → String)

theorem scanValue_int (k : Nat) (n : Int) {rest : List Char} (hrest : stops rest = true) :
    scanValue float (k + 1) (dumpInt n ++ rest) = some (int n, rest) := by
  have hscan := scanNumber_dumpInt float n hrest
  obtain ⟨c, cs, hcs, hc⟩ := dumpInt_cons n
  rw [hcs] at hscan ⊢
  unfold scanValue
  split
  case h_10 => exact hscan
  all_goals
    rename_i heq
    exfalso
    rw [List.cons_append] at heq
    injection heq with hhead htail
    subst hhead
    rcases hc with hdigit | ⟨hminus, d, ds, rfl, hd⟩
    · exact absurd hdigit (by decide)
    · first
      | exact absurd hminus (by decide)
      | injection htail with hd'
        subst hd'
        exact absurd hd (by decide)

theorem set_of_get_none {d : Fields} {key : String} (h : get d key = none) (value : Json) :
    set d key value = d ++ [(key, value)] := by
  unfold set
  rw [h]
  rfl

theorem get_append_none {d : Fields} {key k : String} {value : Json} (h : get d k = none)
    (hne : k ≠ key) : get (d ++ [(key, value)]) k = none := by
  rw [get_append, h, get_cons, if_neg hne]
  rfl

theorem skipBlanks_dumpItems {items : List Json} (hne : items ≠ []) (h : PlainItems items)
    (rest : List Char) : ∃ c cs, skipBlanks (dumpItems items ++ rest) = c :: cs ∧ c ≠ ']' ∧
      dumpItems items ++ rest = c :: cs := by
  cases items with
  | nil => exact absurd rfl hne
  | cons x xs =>
      obtain ⟨c, cs, hcs, hblank, hclose⟩ := dump_cons h.1
      cases xs with
      | nil =>
          refine ⟨c, cs ++ rest, ?_, hclose, ?_⟩
          · show skipBlanks (dump x ++ rest) = _
            rw [hcs]
            exact skipBlanks_cons hblank _
          · show dump x ++ rest = _
            rw [hcs]
            rfl
      | cons y ys =>
          refine ⟨c, cs ++ ',' :: ' ' :: dumpItems (y :: ys) ++ rest, ?_, hclose, ?_⟩
          · rw [dumpItems_cons x _ (List.cons_ne_nil y ys), hcs]
            exact skipBlanks_cons hblank _
          · rw [dumpItems_cons x _ (List.cons_ne_nil y ys), hcs]
            rfl

theorem dumpFields_head {fields : Fields} (hne : fields ≠ []) (rest : List Char) :
    ∃ cs, dumpFields fields ++ rest = '"' :: cs := by
  cases fields with
  | nil => exact absurd rfl hne
  | cons e es =>
      cases es with
      | nil => exact ⟨_, rfl⟩
      | cons f fs => exact ⟨_, rfl⟩

/-- An entry at the front: its key and its colon are read. -/
theorem scanFields_key (n : Nat) (d : Fields) (key : String) (cs : List Char) :
    scanFields float (n + 1) d (dumpStr key ++ ':' :: ' ' :: cs) =
      (scanValue float n (skipBlanks cs)).bind fun p =>
        match skipBlanks p.2 with
        | '\x7d' :: rest => some (set d key p.1, rest)
        | ',' :: rest => scanFields float n (set d key p.1) (skipBlanks rest)
        | _ => none := by
  have hscan := scanString_dumpStr key (':' :: ' ' :: cs)
  show scanFields float (n + 1) d
    ('"' :: ((key.toList.flatMap dumpChar ++ ['"']) ++ ':' :: ' ' :: cs)) = _
  rw [List.append_assoc]
  show (scanString ((key.toList.flatMap dumpChar ++ '"' :: ':' :: ' ' :: cs).length + 1)
    (key.toList.flatMap dumpChar ++ '"' :: ':' :: ' ' :: cs)).bind _ = _
  rw [hscan]
  show (scanValue float n (skipBlanks cs)).bind (fun p =>
    match skipBlanks p.2 with
    | '\x7d' :: rest => some (set d (String.ofList key.toList) p.1, rest)
    | ',' :: rest => scanFields float n (set d (String.ofList key.toList) p.1) (skipBlanks rest)
    | _ => none) = _
  rw [String.ofList_toList]

mutual

theorem scanValue_dump : (x : Json) → Plain x → ∀ (n : Nat) (rest : List Char),
    weight x ≤ n → stops rest = true → scanValue float n (dump x ++ rest) = some (x, rest)
  | .float _, h, _, _, _, _ => h.elim
  | null, _, n, rest, hn, _ => by
      obtain ⟨k, rfl⟩ : ∃ k, n = k + 1 := ⟨n - 1, by simp only [weight] at hn; omega⟩
      rfl
  | bool b, _, n, rest, hn, _ => by
      obtain ⟨k, rfl⟩ : ∃ k, n = k + 1 := ⟨n - 1, by simp only [weight] at hn; omega⟩
      cases b <;> rfl
  | int i, _, n, rest, hn, hrest => by
      obtain ⟨k, rfl⟩ : ∃ k, n = k + 1 := ⟨n - 1, by simp only [weight] at hn; omega⟩
      exact scanValue_int float k i hrest
  | str s, _, n, rest, hn, _ => by
      obtain ⟨k, rfl⟩ : ∃ k, n = k + 1 := ⟨n - 1, by simp only [weight] at hn; omega⟩
      have hscan := scanString_dumpStr s rest
      show scanValue float (k + 1) ('"' :: ((s.toList.flatMap dumpChar ++ ['"']) ++ rest)) = _
      rw [List.append_assoc]
      show (scanString ((s.toList.flatMap dumpChar ++ '"' :: rest).length + 1)
        (s.toList.flatMap dumpChar ++ '"' :: rest)).bind _ = _
      rw [hscan]
      show some (str (String.ofList s.toList), rest) = _
      rw [String.ofList_toList]
  | list items, h, n, rest, hn, _ => by
      simp only [weight] at hn
      obtain ⟨k, rfl⟩ : ∃ k, n = k + 1 := ⟨n - 1, by omega⟩
      by_cases hne : items = []
      · subst hne
        rfl
      · obtain ⟨c, cs, hskip, hclose, hcs⟩ := skipBlanks_dumpItems hne h (']' :: rest)
        have hitems := scanItems_dump items hne h k rest (by omega)
        show scanValue float (k + 1) ('[' :: ((dumpItems items ++ [']']) ++ rest)) = _
        rw [List.append_assoc]
        show (match skipBlanks (dumpItems items ++ ']' :: rest) with
          | ']' :: rest => some (list [], rest)
          | cs => (scanItems float k cs).bind fun p => some (list p.1, p.2)) = _
        rw [hskip]
        rw [hcs] at hitems
        split
        · rename_i heq
          cases heq
          exact absurd rfl hclose
        · rw [hitems]
          rfl
  | dict fields, h, n, rest, hn, _ => by
      simp only [weight] at hn
      obtain ⟨k, rfl⟩ : ∃ k, n = k + 1 := ⟨n - 1, by omega⟩
      by_cases hne : fields = []
      · subst hne
        rfl
      · have hfields := scanFields_dump fields hne h.2 h.1 [] k rest (fun _ _ => rfl) (by omega)
        obtain ⟨cs, hcs⟩ := dumpFields_head hne ('\x7d' :: rest)
        show scanValue float (k + 1) ('\x7b' :: ((dumpFields fields ++ ['\x7d']) ++ rest)) = _
        rw [List.append_assoc]
        show scanValue float (k + 1) ('\x7b' :: (dumpFields fields ++ '\x7d' :: rest)) = _
        rw [hcs] at hfields ⊢
        show (scanFields float k [] ('"' :: cs)).bind _ = _
        rw [hfields]
        rfl

theorem scanItems_dump : (items : List Json) → items ≠ [] → PlainItems items →
    ∀ (n : Nat) (rest : List Char), weightItems items ≤ n →
      scanItems float n (dumpItems items ++ ']' :: rest) = some (items, rest)
  | [], hne, _, _, _, _ => absurd rfl hne
  | x :: xs, _, h, n, rest, hn => by
      simp only [weightItems] at hn
      obtain ⟨k, rfl⟩ : ∃ k, n = k + 1 := ⟨n - 1, by omega⟩
      by_cases hxs : xs = []
      · subst hxs
        have hx := scanValue_dump x h.1 k (']' :: rest) (by omega) rfl
        show (scanValue float k (dump x ++ ']' :: rest)).bind _ = _
        rw [hx]
        rfl
      · have hx := scanValue_dump x h.1 k (',' :: ' ' :: dumpItems xs ++ ']' :: rest) (by omega) rfl
        have htail := scanItems_dump xs hxs h.2 k rest (by omega)
        obtain ⟨c, cs, hskip, -, hcs⟩ := skipBlanks_dumpItems hxs h.2 (']' :: rest)
        rw [dumpItems_cons x xs hxs, List.append_assoc]
        show (scanValue float k (dump x ++ (',' :: ' ' :: dumpItems xs ++ ']' :: rest))).bind _ = _
        rw [hx]
        show (scanItems float k (skipBlanks (' ' :: (dumpItems xs ++ ']' :: rest)))).bind _ = _
        have hblank : skipBlanks (' ' :: (dumpItems xs ++ ']' :: rest)) =
            skipBlanks (dumpItems xs ++ ']' :: rest) := rfl
        rw [hblank, hskip, ← hcs, htail]
        rfl

theorem scanFields_dump : (fields : Fields) → fields ≠ [] → PlainFields fields →
    (fields.map (·.1)).Nodup → ∀ (d : Fields) (n : Nat) (rest : List Char),
      (∀ e ∈ fields, get d e.1 = none) → weightFields fields ≤ n →
      scanFields float n d (dumpFields fields ++ '\x7d' :: rest) = some (d ++ fields, rest)
  | [], hne, _, _, _, _, _, _, _ => absurd rfl hne
  | (key, v) :: es, _, h, hnodup, d, n, rest, hd, hn => by
      simp only [weightFields] at hn
      obtain ⟨k, rfl⟩ : ∃ k, n = k + 1 := ⟨n - 1, by omega⟩
      rw [List.map_cons, List.nodup_cons] at hnodup
      have hset := set_of_get_none (hd _ (List.mem_cons_self ..)) v
      by_cases hes : es = []
      · subst hes
        have hv := scanValue_dump v h.1 k ('\x7d' :: rest) (by omega) rfl
        show scanFields float (k + 1) d ((dumpStr key ++ ':' :: ' ' :: dump v) ++ '\x7d' :: rest) = _
        rw [List.append_assoc]
        show scanFields float (k + 1) d (dumpStr key ++ ':' :: ' ' :: (dump v ++ '\x7d' :: rest)) = _
        rw [scanFields_key, skipBlanks_dump h.1, hv, ← hset]
        rfl
      · have hv := scanValue_dump v h.1 k (',' :: ' ' :: (dumpFields es ++ '\x7d' :: rest))
          (by omega) rfl
        have hfresh : ∀ e ∈ es, get (d ++ [(key, v)]) e.1 = none := by
          intro e he
          refine get_append_none (hd e (List.mem_cons_of_mem _ he)) ?_
          rintro rfl
          exact hnodup.1 (List.mem_map.2 ⟨e, he, rfl⟩)
        have htail := scanFields_dump es hes h.2 hnodup.2 (d ++ [(key, v)]) k rest hfresh (by omega)
        obtain ⟨cs, hcs⟩ := dumpFields_head hes ('\x7d' :: rest)
        rw [dumpFields_cons (key, v) es hes]
        have hassoc : dumpStr key ++ ':' :: ' ' :: dump v ++ ',' :: ' ' :: dumpFields es ++
            '\x7d' :: rest = dumpStr key ++ ':' :: ' ' ::
              (dump v ++ ',' :: ' ' :: (dumpFields es ++ '\x7d' :: rest)) := by
          simp only [List.append_assoc, List.cons_append]
        rw [hassoc, scanFields_key, skipBlanks_dump h.1, hv, hcs]
        show scanFields float k (set d key v) ('"' :: cs) = _
        rw [hset, ← hcs, htail, List.append_assoc]
        rfl

end

/-! ### The fuel suffices -/

theorem dumpInt_length (n : Int) : 1 ≤ (dumpInt n).length := by
  obtain ⟨c, cs, hcs, -⟩ := dumpInt_cons n
  rw [hcs, List.length_cons]
  omega

mutual

theorem weight_le : (x : Json) → Plain x → weight x ≤ (dump x).length
  | .float _, h => h.elim
  | null, _ => by decide
  | bool b, _ => by cases b <;> decide
  | int n, _ => dumpInt_length n
  | str s, _ => by
      simp only [weight, dump, dumpStr, List.length_append, List.length_cons]
      omega
  | list items, h => by
      have hitems := weightItems_le items h
      simp only [weight, dump, List.length_append, List.length_cons, List.length_nil]
      omega
  | dict fields, h => by
      have hfields := weightFields_le fields h.2
      simp only [weight, dump, List.length_append, List.length_cons, List.length_nil]
      omega

theorem weightItems_le : (items : List Json) → PlainItems items →
    weightItems items ≤ (dumpItems items).length + 1
  | [], _ => by decide
  | x :: xs, h => by
      have hx := weight_le x h.1
      have hxs := weightItems_le xs h.2
      by_cases hne : xs = []
      · subst hne
        show weight x + 0 + 1 ≤ (dump x).length + 1
        omega
      · rw [dumpItems_cons x xs hne]
        simp only [weightItems, List.length_append, List.length_cons]
        omega

theorem weightFields_le : (fields : Fields) → PlainFields fields →
    weightFields fields ≤ (dumpFields fields).length + 1
  | [], _ => by decide
  | e :: es, h => by
      have he := weight_le e.2 h.1
      have hes := weightFields_le es h.2
      by_cases hne : es = []
      · subst hne
        show weight e.2 + 0 + 1 ≤ (dumpStr e.1 ++ ':' :: ' ' :: dump e.2).length + 1
        rw [List.length_append, List.length_cons, List.length_cons]
        omega
      · rw [dumpFields_cons e es hne]
        simp only [weightFields, List.length_append, List.length_cons]
        omega

end

/-- **What is written reads back.** -/
theorem loads_dumps {x : Json} (h : Plain x) : loads float (dumps x) = some x := by
  have hskip := skipBlanks_dump h []
  have hscan := scanValue_dump float x h ((dump x).length + 1) []
    (Nat.le_succ_of_le (weight_le x h)) rfl
  rw [List.append_nil] at hskip hscan
  unfold loads dumps
  rw [String.toList_ofList, hskip]
  show (scanValue float ((dump x).length + 1) (dump x)).bind _ = _
  rw [hscan]
  rfl

end Values

/-! ## Characters of a document -/

/-- Only printable ASCII characters. -/
def Printable (cs : List Char) : Prop := ∀ c ∈ cs, 32 ≤ c.toNat ∧ c.toNat ≤ 126

instance (cs : List Char) : Decidable (Printable cs) :=
  decidable_of_iff ((cs.all fun c => 32 ≤ c.toNat && c.toNat ≤ 126) = true) (by simp [Printable])

theorem Printable.append {cs ds : List Char} (hc : Printable cs) (hd : Printable ds) :
    Printable (cs ++ ds) :=
  List.forall_mem_append.2 ⟨hc, hd⟩

theorem Printable.cons {c : Char} {cs : List Char} (hc : 32 ≤ c.toNat ∧ c.toNat ≤ 126)
    (hcs : Printable cs) : Printable (c :: cs) :=
  List.forall_mem_cons.2 ⟨hc, hcs⟩

theorem printable_digitChar {d : Nat} (h : d < 16) :
    32 ≤ (Nat.digitChar d).toNat ∧ (Nat.digitChar d).toNat ≤ 126 := by
  revert d
  decide

theorem printable_escapeUnit (n : Nat) : Printable (escapeUnit n) := by
  refine .cons (by decide) (.cons (by decide) ?_)
  intro c hc
  obtain ⟨d, hd, rfl⟩ := mem_hexPad hc
  exact printable_digitChar hd

theorem printable_dumpChar (c : Char) : Printable (dumpChar c) := by
  unfold dumpChar
  split
  · rename_i h
    rcases h with rfl | rfl <;> exact by decide
  · split_ifs with hn hr ht hf hb hplain
    · exact by decide
    · exact by decide
    · exact by decide
    · exact by decide
    · exact by decide
    · intro d hd
      rw [List.mem_singleton.1 hd]
      exact hplain
    · exact printable_escapeUnit _
    · exact (printable_escapeUnit _).append (printable_escapeUnit _)

theorem printable_dumpStr (s : String) : Printable (dumpStr s) := by
  refine .append (.cons (by decide) ?_) (by decide)
  intro d hd
  obtain ⟨c, -, hc⟩ := List.mem_flatMap.1 hd
  exact printable_dumpChar c d hc

theorem printable_toDigits (n : Nat) : Printable (Nat.toDigits 10 n) := by
  intro c hc
  have hdigit := Nat.isDigit_of_mem_toDigits (by decide) (by decide) hc
  simp only [Char.isDigit, ge_iff_le, Bool.and_eq_true, decide_eq_true_eq,
    UInt32.le_iff_toNat_le] at hdigit
  exact ⟨Nat.le_trans (by decide) hdigit.1, Nat.le_trans hdigit.2 (by decide)⟩

theorem printable_dumpInt (n : Int) : Printable (dumpInt n) := by
  cases n with
  | ofNat n => exact printable_toDigits n
  | negSucc n => exact .cons (by decide) (printable_toDigits _)

mutual

/-- **A document is printable**, whatever the strings in it are. -/
theorem printable_dump : (x : Json) → Plain x → Printable (dump x)
  | null, _ => by decide
  | bool b, _ => by cases b <;> decide
  | int n, _ => printable_dumpInt n
  | .float _, h => h.elim
  | str s, _ => printable_dumpStr s
  | list items, h => .append (.cons (by decide) (printable_dumpItems items h)) (by decide)
  | dict fields, h => .append (.cons (by decide) (printable_dumpFields fields h.2)) (by decide)

theorem printable_dumpItems : (items : List Json) → PlainItems items →
    Printable (dumpItems items)
  | [], _ => nofun
  | [x], h => printable_dump x h.1
  | x :: y :: xs, h => (printable_dump x h.1).append
      (.cons (by decide) (.cons (by decide) (printable_dumpItems (y :: xs) h.2)))

theorem printable_dumpFields : (fields : Fields) → PlainFields fields →
    Printable (dumpFields fields)
  | [], _ => nofun
  | [(k, v)], h => (printable_dumpStr k).append
      (.cons (by decide) (.cons (by decide) (printable_dump v h.1)))
  | (k, v) :: e :: es, h => by
      have hrest : Printable (',' :: ' ' :: dumpFields (e :: es)) :=
        .cons (by decide) (.cons (by decide) (printable_dumpFields (e :: es) h.2))
      have hvalue : Printable (':' :: ' ' :: dump v) :=
        .cons (by decide) (.cons (by decide) (printable_dump v h.1))
      simpa [dumpFields] using (printable_dumpStr k).append (hvalue.append hrest)

end

end Json
