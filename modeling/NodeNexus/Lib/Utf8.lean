import Mathlib.Data.List.Basic
import Mathlib.Tactic.SplitIfs

/-!
# UTF-8 text as bytes

Text is a list of characters, its UTF-8 form a list of bytes.  Encoding uses the
encoder of the core library; decoding is the lenient decoder of Python's
`bytes.decode`, which never fails: what is not UTF-8 is cut into maximal
ill-formed parts, and each part is left out (`errors="ignore"`) or turned into
one replacement character (`errors="replace"`).

* `Utf8.encode`, `Utf8.decode` — the two directions.
* `Utf8.decode_encode` — the lenient decoder is the inverse of the encoder,
  whatever it does with errors.
* `Utf8.fitting` — the longest prefix of a text whose UTF-8 form fits.
* `Utf8.decode_take_encode` — what is left of a text whose UTF-8 form is cut.
* `Utf8.decode?` — the strict decoder: it gives the text of which the bytes are the form.
-/

namespace Utf8

/-- The UTF-8 form of a text. -/
def encode (s : List Char) : List UInt8 := s.flatMap String.utf8EncodeChar

/-- What may follow a first byte: the number of bytes, and the least and the
greatest value of the first of them. -/
def tailsOf (first : UInt8) : Option (Nat × UInt8 × UInt8) :=
  if first < 0xC2 then none
  else if first ≤ 0xDF then some (1, 0x80, 0xBF)
  else if first = 0xE0 then some (2, 0xA0, 0xBF)
  else if first = 0xED then some (2, 0x80, 0x9F)
  else if first ≤ 0xEF then some (2, 0x80, 0xBF)
  else if first = 0xF0 then some (3, 0x90, 0xBF)
  else if first ≤ 0xF3 then some (3, 0x80, 0xBF)
  else if first = 0xF4 then some (3, 0x80, 0x8F)
  else none

/-- How many of at most `k` bytes lie between the bounds; after the first, the
bounds are those of any continuation byte. -/
def countTails : Nat → UInt8 → UInt8 → List UInt8 → Nat
  | 0, _, _, _ => 0
  | _ + 1, _, _, [] => 0
  | k + 1, low, high, b :: rest =>
      if low ≤ b ∧ b ≤ high then countTails k 0x80 0xBF rest + 1 else 0

/-- How many of the bytes after `first` belong to the same ill-formed part. -/
def illFormedTails (first : UInt8) (rest : List UInt8) : Nat :=
  match tailsOf first with
  | none => 0
  | some (k, low, high) => countTails k low high rest

/-- `bytes.decode("utf-8", errors=…)`, with `onError` in the place of each
maximal ill-formed part. -/
def decode (onError : List Char) : List UInt8 → List Char
  | [] => []
  | b :: rest =>
      match (b :: rest).toByteArray.utf8DecodeChar? 0 with
      | some c => c :: decode onError (rest.drop (c.utf8Size - 1))
      | none => onError ++ decode onError (rest.drop (illFormedTails b rest))
termination_by bytes => bytes.length
decreasing_by
  all_goals
    simp only [List.length_drop, List.length_cons]
    omega

@[simp] theorem decode_nil (onError : List Char) : decode onError [] = [] := by
  rw [decode]

@[simp] theorem encode_nil : encode [] = [] := rfl

@[simp] theorem encode_cons (c : Char) (s : List Char) :
    encode (c :: s) = String.utf8EncodeChar c ++ encode s := rfl

theorem encode_append (s t : List Char) : encode (s ++ t) = encode s ++ encode t :=
  List.flatMap_append

/-- Decoding takes the first character off again. -/
theorem decode_encodeChar_append (onError : List Char) (c : Char) (bytes : List UInt8) :
    decode onError (String.utf8EncodeChar c ++ bytes) = c :: decode onError bytes := by
  have hlen : (String.utf8EncodeChar c).length = c.utf8Size := String.length_utf8EncodeChar c
  cases h : String.utf8EncodeChar c with
  | nil =>
      have hpos := c.utf8Size_pos
      rw [h, List.length_nil] at hlen
      omega
  | cons b tail =>
      have hchar : (b :: (tail ++ bytes)).toByteArray.utf8DecodeChar? 0 = some c := by
        rw [← List.cons_append, ← h, List.toByteArray_append]
        exact ByteArray.utf8DecodeChar?_utf8EncodeChar_append
      have hdrop : (tail ++ bytes).drop (c.utf8Size - 1) = bytes := by
        rw [h, List.length_cons] at hlen
        have htail : c.utf8Size - 1 = tail.length := by omega
        rw [htail, List.drop_left]
      rw [List.cons_append, decode, hchar]
      simp only [hdrop]

/-- **Decoding inverts encoding.** -/
theorem decode_encode (onError s : List Char) : decode onError (encode s) = s := by
  induction s with
  | nil => rw [encode_nil, decode_nil]
  | cons c s ih => rw [encode_cons, decode_encodeChar_append, ih]

/-! ## A cut character -/

/-- The second of three bytes lies between the bounds that the first one sets. -/
theorem tailsOf_three {v : Nat} (hlow : 0x7ff < v) (hhigh : v ≤ 0xffff)
    (hvalid : v < 0xd800 ∨ 0xdfff < v) :
    ∃ k low high, tailsOf (UInt8.ofNat (v / 4096 % 16 + 0xe0)) = some (k + 1, low, high) ∧
      low ≤ UInt8.ofNat (v / 64 % 64 + 0x80) ∧ UInt8.ofNat (v / 64 % 64 + 0x80) ≤ high := by
  unfold tailsOf
  simp only [UInt8.lt_iff_toNat_lt, UInt8.le_iff_toNat_le, ← UInt8.toNat_inj, UInt8.toNat_ofNat,
    UInt8.toNat_ofNat']
  split_ifs
  all_goals first | omega | skip
  all_goals exact ⟨_, _, _, rfl, by simp; omega, by simp; omega⟩

/-- The second of four bytes lies between the bounds that the first one sets. -/
theorem tailsOf_four {v : Nat} (hlow : 0xffff < v) (hhigh : v < 0x110000) :
    ∃ k low high, tailsOf (UInt8.ofNat (v / 262144 % 8 + 0xf0)) = some (k + 2, low, high) ∧
      low ≤ UInt8.ofNat (v / 4096 % 64 + 0x80) ∧ UInt8.ofNat (v / 4096 % 64 + 0x80) ≤ high := by
  unfold tailsOf
  simp only [UInt8.lt_iff_toNat_lt, UInt8.le_iff_toNat_le, ← UInt8.toNat_inj, UInt8.toNat_ofNat,
    UInt8.toNat_ofNat']
  split_ifs
  all_goals first | omega | skip
  all_goals exact ⟨_, _, _, rfl, by simp; omega, by simp; omega⟩

/-- Any later byte is a continuation byte. -/
theorem continuation_ofNat (v : Nat) :
    0x80 ≤ UInt8.ofNat (v % 64 + 0x80) ∧ UInt8.ofNat (v % 64 + 0x80) ≤ 0xBF := by
  simp only [UInt8.le_iff_toNat_le, UInt8.toNat_ofNat, UInt8.toNat_ofNat']
  omega

theorem countTails_cons {k : Nat} {low high b : UInt8} (hlow : low ≤ b) (hhigh : b ≤ high)
    (rest : List UInt8) :
    countTails (k + 1) low high (b :: rest) = countTails k 0x80 0xBF rest + 1 :=
  if_pos ⟨hlow, hhigh⟩

/-- The bytes of a cut character are one ill-formed part. -/
theorem length_le_illFormedTails {c : Char} {k : Nat} (hk : k < (String.utf8EncodeChar c).length)
    {b : UInt8} {tail : List UInt8} (h : (String.utf8EncodeChar c).take k = b :: tail) :
    tail.length ≤ illFormedTails b tail := by
  have hvalid : c.toNat < 0xd800 ∨ 0xdfff < c.toNat ∧ c.toNat < 0x110000 := c.valid
  have hv : c.val.toNat = c.toNat := rfl
  unfold String.utf8EncodeChar at hk h
  simp only [hv] at hk h
  unfold illFormedTails
  match k with
  | 0 => cases h
  | 1 =>
      split_ifs at h hk
      all_goals
        obtain ⟨-, rfl⟩ := List.cons.inj h
        exact Nat.zero_le _
  | 2 =>
      split_ifs at h hk with h1 h2 h3
      · simp at hk
      · simp at hk
      · obtain ⟨rfl, rfl⟩ := List.cons.inj h
        obtain ⟨k, low, high, htails, hlow, hhigh⟩ := tailsOf_three (by omega) h3 (by omega)
        rw [htails]
        show _ ≤ countTails (k + 1) low high (_ :: [])
        rw [countTails_cons hlow hhigh]
        exact Nat.le_add_left _ _
      · obtain ⟨rfl, rfl⟩ := List.cons.inj h
        obtain ⟨k, low, high, htails, hlow, hhigh⟩ := tailsOf_four (v := c.toNat) (by omega) (by omega)
        rw [htails]
        show _ ≤ countTails (k + 2) low high (_ :: [])
        rw [countTails_cons hlow hhigh]
        exact Nat.le_add_left _ _
  | 3 =>
      split_ifs at h hk with h1 h2 h3
      · simp at hk
      · simp at hk
      · simp at hk
      · obtain ⟨rfl, rfl⟩ := List.cons.inj h
        obtain ⟨k, low, high, htails, hlow, hhigh⟩ := tailsOf_four (v := c.toNat) (by omega) (by omega)
        have hnext := continuation_ofNat (c.toNat / 64)
        rw [htails]
        show _ ≤ countTails (k + 2) low high (_ :: _ :: [])
        rw [countTails_cons hlow hhigh, countTails_cons hnext.1 hnext.2]
        exact Nat.le_add_left _ _
  | k + 4 =>
      split_ifs at hk
      all_goals
        simp only [List.length_cons, List.length_nil] at hk
        omega

/-- **A cut character is one error.** -/
theorem decode_cut (onError : List Char) {c : Char} {k : Nat} (hpos : 0 < k)
    (hk : k < (String.utf8EncodeChar c).length) :
    decode onError ((String.utf8EncodeChar c).take k) = onError := by
  cases h : (String.utf8EncodeChar c).take k with
  | nil =>
      have hlength := congrArg List.length h
      rw [List.length_take, List.length_nil] at hlength
      omega
  | cons b tail =>
      have hnone : (b :: tail).toByteArray.utf8DecodeChar? 0 = none := by
        rw [← h]
        cases hdecode : ((String.utf8EncodeChar c).take k).toByteArray.utf8DecodeChar? 0 with
        | none => rfl
        | some d =>
            -- it would decode to a character of at most `k` bytes, and the whole to the same
            have hsize := ByteArray.le_size_of_utf8DecodeChar?_eq_some hdecode
            have hwhole := ByteArray.utf8DecodeChar?_append_eq_some hdecode
              ((String.utf8EncodeChar c).drop k).toByteArray
            rw [← List.toByteArray_append, List.take_append_drop] at hwhole
            have hself : (String.utf8EncodeChar c).toByteArray.utf8DecodeChar? 0 = some c := by
              have happend := ByteArray.utf8DecodeChar?_utf8EncodeChar_append
                (b := [].toByteArray) (c := c)
              rwa [← List.toByteArray_append, List.append_nil] at happend
            rw [hself] at hwhole
            cases hwhole
            simp only [List.size_toByteArray, List.length_take] at hsize
            rw [String.length_utf8EncodeChar] at hk hsize
            omega
      rw [decode, hnone]
      show onError ++ decode onError (tail.drop (illFormedTails b tail)) = onError
      rw [List.drop_eq_nil_of_le (length_le_illFormedTails hk h), decode_nil, List.append_nil]

/-! ## The longest prefix that fits -/

/-- The characters from the front whose bytes fit. -/
def fitting : Nat → List Char → List Char
  | _, [] => []
  | n, c :: s => if c.utf8Size ≤ n then c :: fitting (n - c.utf8Size) s else []

theorem length_encode_cons (c : Char) (s : List Char) :
    (encode (c :: s)).length = c.utf8Size + (encode s).length := by
  rw [encode_cons, List.length_append, String.length_utf8EncodeChar]

theorem isPrefix_fitting (n : Nat) (s : List Char) : fitting n s <+: s := by
  induction s generalizing n with
  | nil => exact List.nil_prefix
  | cons c s ih =>
      rw [fitting]
      split
      · exact List.cons_prefix_cons.2 ⟨rfl, ih _⟩
      · exact List.nil_prefix

theorem length_encode_fitting (n : Nat) (s : List Char) : (encode (fitting n s)).length ≤ n := by
  induction s generalizing n with
  | nil => exact Nat.zero_le n
  | cons c s ih =>
      rw [fitting]
      split
      · rename_i hfits
        have htail := ih (n - c.utf8Size)
        rw [length_encode_cons]
        omega
      · exact Nat.zero_le n

/-- **It is the longest one.** -/
theorem fitting_maximal {n : Nat} {p s : List Char} (hp : p <+: s) (hfits : (encode p).length ≤ n) :
    p <+: fitting n s := by
  induction s generalizing n p with
  | nil => exact hp
  | cons c s ih =>
      cases p with
      | nil => exact List.nil_prefix
      | cons d p =>
          obtain ⟨rfl, htail⟩ := List.cons_prefix_cons.1 hp
          rw [length_encode_cons] at hfits
          rw [fitting, if_pos (by omega)]
          exact List.cons_prefix_cons.2 ⟨rfl, ih htail (by omega)⟩

theorem length_encode_le_of_isPrefix {p s : List Char} (h : p <+: s) :
    (encode p).length ≤ (encode s).length := by
  obtain ⟨rest, rfl⟩ := h
  rw [encode_append, List.length_append]
  exact Nat.le_add_right _ _

/-- Of a text that does not fit less than a character is lost. -/
theorem lt_length_encode_fitting {n : Nat} {s : List Char} (h : n < (encode s).length) :
    n < (encode (fitting n s)).length + 4 := by
  induction s generalizing n with
  | nil => exact absurd h (Nat.not_lt_zero n)
  | cons c s ih =>
      have hsize := c.utf8Size_le_four
      rw [length_encode_cons] at h
      rw [fitting]
      split
      · have htail := @ih (n - c.utf8Size) (by omega)
        rw [length_encode_cons]
        omega
      · rw [encode_nil, List.length_nil]
        omega

/-- A text that fits is its own longest prefix. -/
theorem fitting_of_fits {n : Nat} {s : List Char} (h : (encode s).length ≤ n) : fitting n s = s :=
  (isPrefix_fitting n s).eq_of_length
    (Nat.le_antisymm (isPrefix_fitting n s).length_le
      (fitting_maximal (List.prefix_refl s) h).length_le)

/-- **Decoding a cut text** gives the characters that fit, and an error for a cut one. -/
theorem decode_take_encode (onError : List Char) (n : Nat) (s : List Char) :
    decode onError ((encode s).take n) = fitting n s ++
      if (encode (fitting n s)).length = min n (encode s).length then [] else onError := by
  induction s generalizing n with
  | nil => simp [fitting]
  | cons c s ih =>
      have hsize := String.length_utf8EncodeChar c
      rw [fitting]
      split
      · rename_i hfits
        rw [encode_cons, List.take_append, List.take_of_length_le (by omega),
          decode_encodeChar_append, ih, hsize, List.cons_append]
        simp only [List.length_append, hsize, length_encode_cons]
        congr 2
        split_ifs with h1 h2 h2
        · rfl
        · omega
        · omega
        · rfl
      · rename_i hfits
        rw [encode_cons, List.take_append_of_le_length (by omega)]
        by_cases hzero : n = 0
        · subst hzero
          simp
        · rw [decode_cut onError (by omega) (by omega)]
          simp only [encode_nil, List.length_nil, List.length_append, List.nil_append]
          rw [if_neg (by have := c.utf8Size_pos; omega)]

/-- With nothing for an error only the characters that fit are left. -/
theorem decode_nil_take_encode (n : Nat) (s : List Char) :
    decode [] ((encode s).take n) = fitting n s := by
  rw [decode_take_encode]
  split <;> exact List.append_nil _

/-- An ASCII text has as many bytes as characters. -/
theorem length_encode_of_ascii {s : List Char} (h : ∀ c ∈ s, c.toNat < 128) :
    (encode s).length = s.length := by
  induction s with
  | nil => rfl
  | cons c s ih =>
      have hone : c.utf8Size = 1 := by
        have hc : c.val.toNat < 128 := h c List.mem_cons_self
        rw [Char.utf8Size_eq_one_iff, UInt32.le_iff_toNat_le]
        exact Nat.le_of_lt_succ hc
      rw [length_encode_cons, hone, ih fun d hd => h d (List.mem_cons_of_mem c hd),
        List.length_cons, Nat.add_comm]

/-! ## The strict decoder -/

/-- `bytes.decode("utf-8")`; `none` is a `UnicodeDecodeError`. -/
def decode? (bytes : List UInt8) : Option (List Char) :=
  (String.fromUTF8? bytes.toByteArray).map String.toList

/-- The bytes of a text, as the core library has them. -/
theorem toByteArray_encode (s : List Char) : (encode s).toByteArray = s.utf8Encode := rfl

/-- **It decodes what is the form of a text**, and nothing else. -/
theorem decode?_eq_some_iff {bytes : List UInt8} {s : List Char} :
    decode? bytes = some s ↔ encode s = bytes := by
  have hform : encode s = bytes ↔ s.utf8Encode = bytes.toByteArray := by
    rw [← toByteArray_encode, List.toByteArray_inj]
  rw [hform, decode?, String.fromUTF8?]
  by_cases hvalid : bytes.toByteArray.IsValidUTF8
  · rw [dif_pos hvalid, Option.map_some, Option.some_inj]
    constructor
    · rintro rfl
      rw [String.utf8Encode_toList]
      rfl
    · intro h
      have hsame : String.fromUTF8 bytes.toByteArray hvalid = String.ofList s := by
        rw [← String.toByteArray_inj, String.toByteArray_ofList]
        exact h.symm
      rw [hsame, String.toList_ofList]
  · rw [dif_neg hvalid]
    constructor
    · intro h
      cases h
    · intro h
      rw [← h] at hvalid
      exact absurd ByteArray.isValidUTF8_utf8Encode hvalid

/-- A byte is zero only where the character is. -/
theorem zero_mem_utf8EncodeChar {c : Char} :
    0 ∈ String.utf8EncodeChar c ↔ c = Char.ofNat 0 := by
  have hzero : c = Char.ofNat 0 ↔ c.val.toNat = 0 := by
    rw [← Char.toNat_inj]
    rfl
  rw [hzero]
  have hbound : c.val.toNat < 1114112 := by
    have hvalid : c.toNat < 0xd800 ∨ 0xdfff < c.toNat ∧ c.toNat < 0x110000 := c.valid
    have hsame : c.val.toNat = c.toNat := rfl
    omega
  unfold String.utf8EncodeChar
  generalize c.val.toNat = v at hbound ⊢
  simp only
  split_ifs with h1 h2 h3
  all_goals
    simp only [List.mem_cons, List.not_mem_nil, or_false, ← UInt8.toNat_inj, UInt8.toNat_ofNat,
      UInt8.toNat_ofNat']
    omega

/-- The form of a text has a zero byte exactly when the text has a NUL. -/
theorem zero_mem_encode {s : List Char} : 0 ∈ encode s ↔ Char.ofNat 0 ∈ s := by
  simp only [encode, List.mem_flatMap, zero_mem_utf8EncodeChar]
  constructor
  · rintro ⟨c, hc, rfl⟩
    exact hc
  · intro h
    exact ⟨_, h, rfl⟩

end Utf8
