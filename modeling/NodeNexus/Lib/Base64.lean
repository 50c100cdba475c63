import Mathlib.Data.List.Basic

/-!
# Base64

Bytes as text in an alphabet of 64 characters, as Python's `base64` writes and
reads it.

* `encode`, `urlsafeEncode` are `b64encode` and `urlsafe_b64encode`.
* `decode`, `urlsafeDecode` are `b64decode` and `urlsafe_b64decode` without
  `validate`: characters outside of the alphabet are skipped, and nothing is
  read after the padding.
* `decodeValidating` is `b64decode` with `validate=True`, with the texts of its errors.
* `decode_encode`, `decodeValidating_encode`, `urlsafeDecode_urlsafeEncode` — what is written
  reads back.
-/

namespace Base64

/-! ## The alphabet -/

/-- The character of a value below 64. -/
def digitChar (v : Nat) : Char :=
  if v < 26 then Char.ofNat ('A'.toNat + v)
  else if v < 52 then Char.ofNat ('a'.toNat + (v - 26))
  else if v < 62 then Char.ofNat ('0'.toNat + (v - 52))
  else if v = 62 then '+'
  else '/'

/-- The value of a character of the alphabet. -/
def digit? (c : Char) : Option Nat :=
  if 'A' ≤ c ∧ c ≤ 'Z' then some (c.toNat - 'A'.toNat)
  else if 'a' ≤ c ∧ c ≤ 'z' then some (c.toNat - 'a'.toNat + 26)
  else if '0' ≤ c ∧ c ≤ '9' then some (c.toNat - '0'.toNat + 52)
  else if c = '+' then some 62
  else if c = '/' then some 63
  else none

theorem digit?_digitChar {v : Nat} (h : v < 64) : digit? (digitChar v) = some v := by
  revert v
  decide

theorem digitChar_ne_pad {v : Nat} (h : v < 64) : digitChar v ≠ '=' := by
  revert v
  decide

/-! ## Encoding and decoding -/

/-- `base64.b64encode`. -/
def encode : List UInt8 → List Char
  | [] => []
  | [a] => [digitChar (a.toNat / 4), digitChar (a.toNat % 4 * 16), '=', '=']
  | [a, b] =>
      [digitChar (a.toNat / 4), digitChar (a.toNat % 4 * 16 + b.toNat / 16),
        digitChar (b.toNat % 16 * 4), '=']
  | a :: b :: c :: rest =>
      digitChar (a.toNat / 4) :: digitChar (a.toNat % 4 * 16 + b.toNat / 16) ::
        digitChar (b.toNat % 16 * 4 + c.toNat / 64) :: digitChar (c.toNat % 64) :: encode rest

/-- The loop of `binascii.a2b_base64`: the position in the group of four, the
bits left over from the last character, and the padding characters seen.
`none` is a `binascii.Error`. -/
def decodeFrom (quad left pads : Nat) : List Char → Option (List UInt8)
  | [] => if quad = 0 then some [] else none
  | c :: cs =>
      if c = '=' then
        -- enough padding: nothing after it is read
        if 2 ≤ quad ∧ 4 ≤ quad + (pads + 1) then some []
        else decodeFrom quad left (if 2 ≤ quad then pads + 1 else pads) cs
      else match digit? c with
        | none => decodeFrom quad left pads cs
        | some v => match quad with
          | 0 => decodeFrom 1 v 0 cs
          | 1 => (decodeFrom 2 (v % 16) 0 cs).map (UInt8.ofNat (left * 4 + v / 16) :: ·)
          | 2 => (decodeFrom 3 (v % 4) 0 cs).map (UInt8.ofNat (left * 16 + v / 4) :: ·)
          | _ => (decodeFrom 0 0 0 cs).map (UInt8.ofNat (left * 64 + v) :: ·)

/-- `base64.b64decode`. -/
def decode (cs : List Char) : Option (List UInt8) :=
  decodeFrom 0 0 0 cs

/-! ## The four positions -/

section Positions

variable {v left pads : Nat} (cs : List Char)

/-- A character of the alphabet is read by its position in the group. -/
theorem decodeFrom_digitChar (quad : Nat) (h : v < 64) :
    decodeFrom quad left pads (digitChar v :: cs) = match quad with
      | 0 => decodeFrom 1 v 0 cs
      | 1 => (decodeFrom 2 (v % 16) 0 cs).map (UInt8.ofNat (left * 4 + v / 16) :: ·)
      | 2 => (decodeFrom 3 (v % 4) 0 cs).map (UInt8.ofNat (left * 16 + v / 4) :: ·)
      | _ => (decodeFrom 0 0 0 cs).map (UInt8.ofNat (left * 64 + v) :: ·) := by
  rw [decodeFrom, if_neg (digitChar_ne_pad h), digit?_digitChar h]

theorem decodeFrom_zero (h : v < 64) :
    decodeFrom 0 left pads (digitChar v :: cs) = decodeFrom 1 v 0 cs :=
  decodeFrom_digitChar cs 0 h

theorem decodeFrom_one (h : v < 64) : decodeFrom 1 left pads (digitChar v :: cs) =
    (decodeFrom 2 (v % 16) 0 cs).map (UInt8.ofNat (left * 4 + v / 16) :: ·) :=
  decodeFrom_digitChar cs 1 h

theorem decodeFrom_two (h : v < 64) : decodeFrom 2 left pads (digitChar v :: cs) =
    (decodeFrom 3 (v % 4) 0 cs).map (UInt8.ofNat (left * 16 + v / 4) :: ·) :=
  decodeFrom_digitChar cs 2 h

theorem decodeFrom_three (h : v < 64) : decodeFrom 3 left pads (digitChar v :: cs) =
    (decodeFrom 0 0 0 cs).map (UInt8.ofNat (left * 64 + v) :: ·) :=
  decodeFrom_digitChar cs 3 h

end Positions

theorem ofNat_eq {n : Nat} {a : UInt8} (h : n = a.toNat) : UInt8.ofNat n = a := by
  rw [h]
  exact UInt8.ofNat_toNat

/-! ## The three bytes of a group -/

section Bytes

variable (a : UInt8) {m n : Nat}

theorem byte_first (h : n < 16) :
    UInt8.ofNat (a.toNat / 4 * 4 + (a.toNat % 4 * 16 + n) / 16) = a := by
  apply ofNat_eq
  omega

theorem byte_first_last : UInt8.ofNat (a.toNat / 4 * 4 + a.toNat % 4 * 16 / 16) = a := by
  apply ofNat_eq
  omega

theorem byte_second (h : n < 4) :
    UInt8.ofNat ((m * 16 + a.toNat / 16) % 16 * 16 + (a.toNat % 16 * 4 + n) / 4) = a := by
  have ha := a.toNat_lt
  apply ofNat_eq
  omega

theorem byte_second_last :
    UInt8.ofNat ((m * 16 + a.toNat / 16) % 16 * 16 + a.toNat % 16 * 4 / 4) = a := by
  have ha := a.toNat_lt
  apply ofNat_eq
  omega

theorem byte_third : UInt8.ofNat ((m * 4 + a.toNat / 64) % 4 * 64 + a.toNat % 64) = a := by
  have ha := a.toNat_lt
  apply ofNat_eq
  omega

end Bytes

theorem decodeFrom_encode (left pads : Nat) (bytes : List UInt8) :
    decodeFrom 0 left pads (encode bytes) = some bytes := by
  induction bytes using encode.induct generalizing left pads with
  | case1 => rfl
  | case2 a =>
      have ha := a.toNat_lt
      rw [encode, decodeFrom_zero _ (by omega), decodeFrom_one _ (by omega), byte_first_last]
      rfl
  | case3 a b =>
      have ha := a.toNat_lt
      have hb := b.toNat_lt
      rw [encode, decodeFrom_zero _ (by omega), decodeFrom_one _ (by omega),
        decodeFrom_two _ (by omega), byte_first a (by omega), byte_second_last]
      rfl
  | case4 a b c rest ih =>
      have ha := a.toNat_lt
      have hb := b.toNat_lt
      have hc := c.toNat_lt
      rw [encode, decodeFrom_zero _ (by omega), decodeFrom_one _ (by omega),
        decodeFrom_two _ (by omega), decodeFrom_three _ (by omega), ih, byte_first a (by omega),
        byte_second b (by omega), byte_third]
      rfl

/-- **What is encoded reads back.** -/
theorem decode_encode (bytes : List UInt8) : decode (encode bytes) = some bytes :=
  decodeFrom_encode 0 0 bytes

/-! ## With `validate` -/

/-- Why a text is refused. -/
inductive Malformed where
  | notAscii
  | leadingPadding
  | excessPadding
  | excessData
  | outsideAlphabet
  | discontinuousPadding
  /-- One character more than whole groups, of so many. -/
  | oneMore (read : Nat)
  | incorrectPadding
  deriving DecidableEq

/-- The text of the error. -/
def Malformed.message : Malformed → String
  | notAscii => "string argument should contain only ASCII characters"
  | leadingPadding => "Leading padding not allowed"
  | excessPadding => "Excess padding not allowed"
  | excessData => "Excess data after padding"
  | outsideAlphabet => "Only base64 data is allowed"
  | discontinuousPadding => "Discontinuous padding not allowed"
  | oneMore read => "Invalid base64-encoded string: number of data characters (" ++ toString read ++
      ") cannot be 1 more than a multiple of 4"
  | incorrectPadding => "Incorrect padding"

/-- The loop of `binascii.a2b_base64` in strict mode; `padding` says that a padding character was
seen, and `read` counts the characters of the alphabet. -/
def validateFrom (quad left pads : Nat) (padding : Bool) (read : Nat) :
    List Char → Except Malformed (List UInt8)
  | [] =>
      if quad = 0 then .ok []
      else if quad = 1 then .error (.oneMore read)
      else .error .incorrectPadding
  | c :: cs =>
      if c = '=' then
        if quad = 0 then .error .excessPadding
        else if 2 ≤ quad ∧ 4 ≤ quad + (pads + 1) then
          if cs = [] then .ok [] else .error .excessData
        else validateFrom quad left (if 2 ≤ quad then pads + 1 else pads) true read cs
      else match digit? c with
        | none => .error .outsideAlphabet
        | some v =>
            if padding then .error .discontinuousPadding
            else match quad with
              | 0 => validateFrom 1 v 0 false (read + 1) cs
              | 1 => (validateFrom 2 (v % 16) 0 false (read + 1) cs).map
                  (UInt8.ofNat (left * 4 + v / 16) :: ·)
              | 2 => (validateFrom 3 (v % 4) 0 false (read + 1) cs).map
                  (UInt8.ofNat (left * 16 + v / 4) :: ·)
              | _ => (validateFrom 0 0 0 false (read + 1) cs).map
                  (UInt8.ofNat (left * 64 + v) :: ·)

/-- `base64.b64decode(…, validate=True)`. -/
def decodeValidating (cs : List Char) : Except Malformed (List UInt8) :=
  if cs.any fun c => 128 ≤ c.toNat then .error .notAscii
  else if cs.head? = some '=' then .error .leadingPadding
  else validateFrom 0 0 0 false 0 cs

section Positions

variable {v left pads read : Nat} (cs : List Char)

/-- A character of the alphabet before the padding is read by its position in the group. -/
theorem validateFrom_digitChar (quad : Nat) (h : v < 64) :
    validateFrom quad left pads false read (digitChar v :: cs) = match quad with
      | 0 => validateFrom 1 v 0 false (read + 1) cs
      | 1 => (validateFrom 2 (v % 16) 0 false (read + 1) cs).map
          (UInt8.ofNat (left * 4 + v / 16) :: ·)
      | 2 => (validateFrom 3 (v % 4) 0 false (read + 1) cs).map
          (UInt8.ofNat (left * 16 + v / 4) :: ·)
      | _ => (validateFrom 0 0 0 false (read + 1) cs).map (UInt8.ofNat (left * 64 + v) :: ·) := by
  rw [validateFrom, if_neg (digitChar_ne_pad h), digit?_digitChar h]
  rfl

theorem validateFrom_zero (h : v < 64) : validateFrom 0 left pads false read (digitChar v :: cs) =
    validateFrom 1 v 0 false (read + 1) cs :=
  validateFrom_digitChar cs 0 h

theorem validateFrom_one (h : v < 64) : validateFrom 1 left pads false read (digitChar v :: cs) =
    (validateFrom 2 (v % 16) 0 false (read + 1) cs).map
      (UInt8.ofNat (left * 4 + v / 16) :: ·) :=
  validateFrom_digitChar cs 1 h

theorem validateFrom_two (h : v < 64) : validateFrom 2 left pads false read (digitChar v :: cs) =
    (validateFrom 3 (v % 4) 0 false (read + 1) cs).map
      (UInt8.ofNat (left * 16 + v / 4) :: ·) :=
  validateFrom_digitChar cs 2 h

theorem validateFrom_three (h : v < 64) : validateFrom 3 left pads false read (digitChar v :: cs) =
    (validateFrom 0 0 0 false (read + 1) cs).map (UInt8.ofNat (left * 64 + v) :: ·) :=
  validateFrom_digitChar cs 3 h

end Positions

theorem validateFrom_encode (left pads read : Nat) (bytes : List UInt8) :
    validateFrom 0 left pads false read (encode bytes) = .ok bytes := by
  induction bytes using encode.induct generalizing left pads read with
  | case1 => rfl
  | case2 a =>
      have ha := a.toNat_lt
      rw [encode, validateFrom_zero _ (by omega), validateFrom_one _ (by omega), byte_first_last]
      rfl
  | case3 a b =>
      have ha := a.toNat_lt
      have hb := b.toNat_lt
      rw [encode, validateFrom_zero _ (by omega), validateFrom_one _ (by omega),
        validateFrom_two _ (by omega), byte_first a (by omega), byte_second_last]
      rfl
  | case4 a b c rest ih =>
      have ha := a.toNat_lt
      have hb := b.toNat_lt
      have hc := c.toNat_lt
      rw [encode, validateFrom_zero _ (by omega), validateFrom_one _ (by omega),
        validateFrom_two _ (by omega), validateFrom_three _ (by omega), ih,
        byte_first a (by omega), byte_second b (by omega), byte_third]
      rfl

/-! ## What an encoded text looks like -/

/-- The characters of an encoded text. -/
theorem mem_encode {c : Char} {bytes : List UInt8} (h : c ∈ encode bytes) :
    c = '=' ∨ ∃ v < 64, c = digitChar v := by
  induction bytes using encode.induct with
  | case1 => cases h
  | case2 a =>
      have ha := a.toNat_lt
      simp only [encode, List.mem_cons, List.not_mem_nil, or_false, or_self] at h
      rcases h with rfl | rfl | rfl
      · exact .inr ⟨_, by omega, rfl⟩
      · exact .inr ⟨_, by omega, rfl⟩
      · exact .inl rfl
  | case3 a b =>
      have ha := a.toNat_lt
      have hb := b.toNat_lt
      simp only [encode, List.mem_cons, List.not_mem_nil, or_false] at h
      rcases h with rfl | rfl | rfl | rfl
      · exact .inr ⟨_, by omega, rfl⟩
      · exact .inr ⟨_, by omega, rfl⟩
      · exact .inr ⟨_, by omega, rfl⟩
      · exact .inl rfl
  | case4 a b d rest ih =>
      have ha := a.toNat_lt
      have hb := b.toNat_lt
      have hd := d.toNat_lt
      simp only [encode, List.mem_cons] at h
      rcases h with rfl | rfl | rfl | rfl | h
      · exact .inr ⟨_, by omega, rfl⟩
      · exact .inr ⟨_, by omega, rfl⟩
      · exact .inr ⟨_, by omega, rfl⟩
      · exact .inr ⟨_, by omega, rfl⟩
      · exact ih h

theorem digitChar_ascii {v : Nat} (h : v < 64) :
    (digitChar v).toNat < 128 ∧ digitChar v ≠ Char.ofNat 0 := by
  revert v
  decide

/-- An encoded text is ASCII and has no NUL in it. -/
theorem mem_encode_ascii {c : Char} {bytes : List UInt8} (h : c ∈ encode bytes) :
    c.toNat < 128 ∧ c ≠ Char.ofNat 0 := by
  rcases mem_encode h with rfl | ⟨v, hv, rfl⟩
  · decide
  · exact digitChar_ascii hv

/-- Four characters stand for each three bytes. -/
theorem length_encode (bytes : List UInt8) :
    (encode bytes).length = 4 * ((bytes.length + 2) / 3) := by
  induction bytes using encode.induct with
  | case1 => rfl
  | case2 a => simp [encode]
  | case3 a b => simp [encode]
  | case4 a b c rest ih =>
      simp only [encode, List.length_cons, ih]
      omega

theorem head?_encode (bytes : List UInt8) : (encode bytes).head? ≠ some '=' := by
  have hfirst : ∀ a : UInt8, digitChar (a.toNat / 4) ≠ '=' := by
    intro a
    have ha := a.toNat_lt
    exact digitChar_ne_pad (by omega)
  fun_cases encode bytes with
  | case1 => simp
  | case2 a => simpa using hfirst a
  | case3 a b => simpa using hfirst a
  | case4 a b c rest => simpa using hfirst a

/-- **What is encoded passes the validation and reads back.** -/
theorem decodeValidating_encode (bytes : List UInt8) :
    decodeValidating (encode bytes) = .ok bytes := by
  have hascii : ((encode bytes).any fun c => 128 ≤ c.toNat) = false := by
    rw [List.any_eq_false]
    intro c hc
    have hlt := (mem_encode_ascii hc).1
    simpa using hlt
  unfold decodeValidating
  rw [hascii, if_neg (by simp), if_neg (head?_encode bytes), validateFrom_encode]

/-! ## The alphabet that is safe in URLs -/

/-- `+` and `/` become `-` and `_`. -/
def toUrl (c : Char) : Char :=
  if c = '+' then '-' else if c = '/' then '_' else c

/-- `-` and `_` become `+` and `/`. -/
def fromUrl (c : Char) : Char :=
  if c = '-' then '+' else if c = '_' then '/' else c

/-- `base64.urlsafe_b64encode`. -/
def urlsafeEncode (bytes : List UInt8) : List Char := (encode bytes).map toUrl

/-- `base64.urlsafe_b64decode`. -/
def urlsafeDecode (cs : List Char) : Option (List UInt8) := decode (cs.map fromUrl)

theorem fromUrl_toUrl_digitChar {v : Nat} (h : v < 64) :
    fromUrl (toUrl (digitChar v)) = digitChar v := by
  revert v
  decide

theorem map_fromUrl_toUrl_encode (bytes : List UInt8) :
    (encode bytes).map (fun c => fromUrl (toUrl c)) = encode bytes := by
  have hpad : fromUrl (toUrl '=') = '=' := by decide
  induction bytes using encode.induct with
  | case1 => rfl
  | case2 a =>
      have ha := a.toNat_lt
      simp only [encode, List.map_cons, List.map_nil, hpad]
      rw [fromUrl_toUrl_digitChar (by omega), fromUrl_toUrl_digitChar (by omega)]
  | case3 a b =>
      have ha := a.toNat_lt
      have hb := b.toNat_lt
      simp only [encode, List.map_cons, List.map_nil, hpad]
      rw [fromUrl_toUrl_digitChar (by omega), fromUrl_toUrl_digitChar (by omega),
        fromUrl_toUrl_digitChar (by omega)]
  | case4 a b c rest ih =>
      have ha := a.toNat_lt
      have hb := b.toNat_lt
      have hc := c.toNat_lt
      simp only [encode, List.map_cons, ih]
      rw [fromUrl_toUrl_digitChar (by omega), fromUrl_toUrl_digitChar (by omega),
        fromUrl_toUrl_digitChar (by omega), fromUrl_toUrl_digitChar (by omega)]

/-- **What is encoded for a URL reads back.** -/
theorem urlsafeDecode_urlsafeEncode (bytes : List UInt8) :
    urlsafeDecode (urlsafeEncode bytes) = some bytes := by
  unfold urlsafeDecode urlsafeEncode
  rw [List.map_map]
  show decode ((encode bytes).map fun c => fromUrl (toUrl c)) = some bytes
  rw [map_fromUrl_toUrl_encode, decode_encode]

end Base64
