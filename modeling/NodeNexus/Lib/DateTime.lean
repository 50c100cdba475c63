import Mathlib.Order.Lattice
import Mathlib.Tactic.Ring

/-!
# Moments of UTC

A moment as a calendar date and a time of day to the microsecond, and its text
in ISO 8601.

* `DateTime` carries the bounds of its fields; `DateTime.make?` checks them.
* `stamp` numbers the moments in their order, from which the linear order comes.
* `isoformat` writes, `readIso` reads that form; `readIso_isoformat` — what is
  written reads back.
-/

/-! ## Calendar -/

def leapYear (year : Nat) : Bool :=
  year % 4 = 0 && (year % 100 ≠ 0 || year % 400 = 0)

def daysInMonth (year month : Nat) : Nat :=
  if month = 2 then if leapYear year then 29 else 28
  else if month ∈ [4, 6, 9, 11] then 30 else 31

/-- A moment of UTC. -/
structure DateTime where
  year : Nat
  month : Nat
  day : Nat
  hour : Nat
  minute : Nat
  second : Nat
  microsecond : Nat
  year_ok : 1 ≤ year ∧ year ≤ 9999
  month_ok : 1 ≤ month ∧ month ≤ 12
  day_ok : 1 ≤ day ∧ day ≤ daysInMonth year month
  hour_ok : hour < 24
  minute_ok : minute < 60
  second_ok : second < 60
  microsecond_ok : microsecond < 1000000
  deriving DecidableEq

namespace DateTime

/-- The moment with given fields, if they are within their bounds. -/
def make? (year month day hour minute second microsecond : Nat) : Option DateTime :=
  if h : (1 ≤ year ∧ year ≤ 9999) ∧ (1 ≤ month ∧ month ≤ 12) ∧
      (1 ≤ day ∧ day ≤ daysInMonth year month) ∧ hour < 24 ∧ minute < 60 ∧ second < 60 ∧
      microsecond < 1000000 then
    some ⟨year, month, day, hour, minute, second, microsecond, h.1, h.2.1, h.2.2.1, h.2.2.2.1,
      h.2.2.2.2.1, h.2.2.2.2.2.1, h.2.2.2.2.2.2⟩
  else none

theorem make?_fields (d : DateTime) :
    make? d.year d.month d.day d.hour d.minute d.second d.microsecond = some d :=
  dif_pos ⟨d.year_ok, d.month_ok, d.day_ok, d.hour_ok, d.minute_ok, d.second_ok, d.microsecond_ok⟩

theorem daysInMonth_le (year month : Nat) : daysInMonth year month ≤ 31 := by
  unfold daysInMonth
  split
  · split <;> omega
  · split <;> omega

/-- The place of a moment among all moments. -/
def stamp (d : DateTime) : Nat :=
  (((((d.year * 13 + d.month) * 32 + d.day) * 24 + d.hour) * 60 + d.minute) * 60 + d.second) *
    1000000 + d.microsecond

theorem stamp_injective : Function.Injective stamp := by
  intro a b h
  have ha := daysInMonth_le a.year a.month
  have hb := daysInMonth_le b.year b.month
  obtain ⟨-, ha₁⟩ := a.month_ok
  obtain ⟨-, hb₁⟩ := b.month_ok
  obtain ⟨-, ha₂⟩ := a.day_ok
  obtain ⟨-, hb₂⟩ := b.day_ok
  unfold stamp at h
  have := a.microsecond_ok
  have := b.microsecond_ok
  have hsecond := a.second_ok
  have hsecond' := b.second_ok
  have hminute := a.minute_ok
  have hminute' := b.minute_ok
  have hhour := a.hour_ok
  have hhour' := b.hour_ok
  -- The places of a number with mixed bases, from the last one on.
  have h₁ : a.microsecond = b.microsecond := by omega
  have h₂ : a.second = b.second := by omega
  have h₃ : a.minute = b.minute := by omega
  have h₄ : a.hour = b.hour := by omega
  have h₅ : a.day = b.day := by omega
  have h₆ : a.month = b.month := by omega
  have h₇ : a.year = b.year := by omega
  have hmake : make? a.year a.month a.day a.hour a.minute a.second a.microsecond =
      make? b.year b.month b.day b.hour b.minute b.second b.microsecond := by
    rw [h₁, h₂, h₃, h₄, h₅, h₆, h₇]
  rw [make?_fields, make?_fields] at hmake
  exact Option.some.inj hmake

/-- Moments in the order of time. -/
instance : LinearOrder DateTime := LinearOrder.lift' stamp stamp_injective

end DateTime

/-! ## Decimal numbers of a fixed width -/

/-- The last `width` decimal digits of `n`. -/
def decimalPad : Nat → Nat → List Char
  | 0, _ => []
  | width + 1, n => Nat.digitChar (n / 10 ^ width % 10) :: decimalPad width n

/-- Read `width` decimal digits behind what has been read. -/
def readDecimal : Nat → Nat → List Char → Option (Nat × List Char)
  | 0, n, cs => some (n, cs)
  | _ + 1, _, [] => none
  | width + 1, n, c :: cs =>
      if c.isDigit then readDecimal width (10 * n + (c.toNat - '0'.toNat)) cs else none

theorem digitChar_digit {d : Nat} (h : d < 10) :
    (Nat.digitChar d).isDigit = true ∧ (Nat.digitChar d).toNat - '0'.toNat = d := by
  revert d
  decide

theorem readDecimal_pad_from (width m n : Nat) (rest : List Char) :
    readDecimal width m (decimalPad width n ++ rest) =
      some (10 ^ width * m + n % 10 ^ width, rest) := by
  induction width generalizing m with
  | zero =>
      show some (m, rest) = some (1 * m + n % 1, rest)
      rw [Nat.one_mul, Nat.mod_one, Nat.add_zero]
  | succ width ih =>
      obtain ⟨hdigit, hvalue⟩ := digitChar_digit (Nat.mod_lt (n / 10 ^ width) (y := 10) (by decide))
      rw [decimalPad, List.cons_append, readDecimal, if_pos hdigit, hvalue, ih, Nat.mod_pow_succ,
        Nat.pow_succ]
      congr 2
      ring

/-- **Padded digits read back.** -/
theorem readDecimal_pad {width n : Nat} (h : n < 10 ^ width) (rest : List Char) :
    readDecimal width 0 (decimalPad width n ++ rest) = some (n, rest) := by
  rw [readDecimal_pad_from, Nat.mul_zero, Nat.zero_add, Nat.mod_eq_of_lt h]

/-! ## ISO 8601 -/

namespace DateTime

/-- The fraction of a second; a whole second has none. -/
def fraction (microsecond : Nat) : List Char :=
  if microsecond = 0 then [] else '.' :: decimalPad 6 microsecond

/-- `YYYY-MM-DDTHH:MM:SS[.ffffff]+00:00`. -/
def isoformat (d : DateTime) : String :=
  String.ofList (decimalPad 4 d.year ++ '-' :: (decimalPad 2 d.month ++ '-' ::
    (decimalPad 2 d.day ++ 'T' :: (decimalPad 2 d.hour ++ ':' :: (decimalPad 2 d.minute ++ ':' ::
      (decimalPad 2 d.second ++ (fraction d.microsecond ++ "+00:00".toList)))))))

/-- Read one character. -/
def expect (c : Char) : List Char → Option (List Char)
  | [] => none
  | x :: cs => if x = c then some cs else none

/-- Read the fraction of a second. -/
def readFraction : List Char → Option (Nat × List Char)
  | '.' :: cs => readDecimal 6 0 cs
  | cs => some (0, cs)

/-- Read a moment in the form that `isoformat` writes. -/
def readIso (cs : List Char) : Option DateTime := do
  let (year, cs) ← readDecimal 4 0 cs
  let cs ← expect '-' cs
  let (month, cs) ← readDecimal 2 0 cs
  let cs ← expect '-' cs
  let (day, cs) ← readDecimal 2 0 cs
  let cs ← expect 'T' cs
  let (hour, cs) ← readDecimal 2 0 cs
  let cs ← expect ':' cs
  let (minute, cs) ← readDecimal 2 0 cs
  let cs ← expect ':' cs
  let (second, cs) ← readDecimal 2 0 cs
  let (microsecond, cs) ← readFraction cs
  if cs = "+00:00".toList then make? year month day hour minute second microsecond else none

/-- `fromisoformat`, where `other` reads the other forms that it accepts. -/
def fromisoformat (other : String → Option DateTime) (text : String) : Option DateTime :=
  (readIso text.toList).or (other text)

theorem readFraction_fraction {n : Nat} (h : n < 1000000) :
    readFraction (fraction n ++ "+00:00".toList) = some (n, "+00:00".toList) := by
  unfold fraction
  split
  · rename_i hzero
    rw [hzero]
    rfl
  · exact readDecimal_pad h _

/-- The fields have no more digits than they are written with. -/
theorem fields_lt (d : DateTime) : d.year < 10 ^ 4 ∧ d.month < 10 ^ 2 ∧ d.day < 10 ^ 2 ∧
    d.hour < 10 ^ 2 ∧ d.minute < 10 ^ 2 ∧ d.second < 10 ^ 2 := by
  have hday : d.day < 10 ^ 2 := by
    have := d.day_ok.2
    have := daysInMonth_le d.year d.month
    omega
  exact ⟨Nat.lt_of_le_of_lt d.year_ok.2 (by decide), Nat.lt_of_le_of_lt d.month_ok.2 (by decide),
    hday, Nat.lt_trans d.hour_ok (by decide), Nat.lt_trans d.minute_ok (by decide),
    Nat.lt_trans d.second_ok (by decide)⟩

/-- **What is written reads back.** -/
theorem readIso_isoformat (d : DateTime) : readIso d.isoformat.toList = some d := by
  obtain ⟨hyear, hmonth, hday, hhour, hminute, hsecond⟩ := d.fields_lt
  unfold readIso isoformat
  rw [String.toList_ofList]
  have hfraction := readFraction_fraction d.microsecond_ok
  -- the text of the offset is not looked into
  generalize "+00:00".toList = offset at hfraction ⊢
  simp only [readDecimal_pad hyear, readDecimal_pad hmonth, readDecimal_pad hday,
    readDecimal_pad hhour, readDecimal_pad hminute, readDecimal_pad hsecond, expect, if_pos,
    hfraction, Option.bind_eq_bind, Option.bind_some]
  exact make?_fields d

theorem fromisoformat_isoformat (other : String → Option DateTime) (d : DateTime) :
    fromisoformat other d.isoformat = some d := by
  unfold fromisoformat
  rw [readIso_isoformat]
  rfl

end DateTime
