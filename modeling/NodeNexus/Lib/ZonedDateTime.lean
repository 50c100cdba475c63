import NodeNexus.Lib.DateTime

/-!
# Datetimes with and without an offset

Python's `datetime`: a calendar date and a time of day, and an offset from UTC where it is aware.

* `UtcOffset` carries its bound: less than a day to either side.
* `ZonedDateTime.isoformat` writes a datetime, `readIso` reads that form.
* `fromisoformat_isoformat` — what is written reads back, its offset included.
-/

/-- An offset from UTC, in microseconds. -/
structure UtcOffset where
  microseconds : Int
  bounded : microseconds.natAbs < 86400000000
  deriving DecidableEq

/-- A datetime; one without an offset is naive. -/
structure ZonedDateTime where
  /-- The fields as they are written. -/
  fields : DateTime
  offset : Option UtcOffset
  deriving DecidableEq

/-! ## Offsets as text -/

namespace UtcOffset

/-- UTC itself. -/
def utc : UtcOffset := ⟨0, by decide⟩

/-- The offset of so many microseconds, if there is one. -/
def make? (microseconds : Int) : Option UtcOffset :=
  if h : microseconds.natAbs < 86400000000 then some ⟨microseconds, h⟩ else none

theorem make?_microseconds (o : UtcOffset) : make? o.microseconds = some o := dif_pos o.bounded

/-- The seconds of an offset, where it has any. -/
def secondsText (n : Nat) : List Char :=
  if n % 60000000 = 0 then []
  else ':' :: (decimalPad 2 (n / 1000000 % 60) ++ DateTime.fraction (n % 1000000))

/-- `+HH:MM[:SS[.ffffff]]`. -/
def text (o : UtcOffset) : List Char :=
  let n := o.microseconds.natAbs
  (if o.microseconds < 0 then '-' else '+') :: (decimalPad 2 (n / 3600000000) ++
    ':' :: (decimalPad 2 (n / 60000000 % 60) ++ secondsText n))

/-- Read the seconds of an offset, in microseconds. -/
def readSeconds : List Char → Option Nat
  | [] => some 0
  | ':' :: cs => do
      let (second, cs) ← readDecimal 2 0 cs
      let (microsecond, cs) ← DateTime.readFraction cs
      if cs = [] ∧ second < 60 then some (second * 1000000 + microsecond) else none
  | _ => none

/-- Read the offset behind the sign. -/
def readUnsigned (cs : List Char) : Option Nat := do
  let (hour, cs) ← readDecimal 2 0 cs
  let cs ← DateTime.expect ':' cs
  let (minute, cs) ← readDecimal 2 0 cs
  let seconds ← readSeconds cs
  if minute < 60 then some ((hour * 60 + minute) * 60000000 + seconds) else none

/-- Read an offset in the form of `text`; a naive datetime has none. -/
def read : List Char → Option (Option UtcOffset)
  | [] => some none
  | '+' :: cs => (readUnsigned cs).bind fun n => (make? n).map some
  | '-' :: cs => (readUnsigned cs).bind fun n => (make? (-n)).map some
  | _ => none

theorem readFraction_nil {n : Nat} (h : n < 1000000) :
    DateTime.readFraction (DateTime.fraction n) = some (n, []) := by
  unfold DateTime.fraction
  by_cases hzero : n = 0
  · rw [if_pos hzero, hzero]
    rfl
  · rw [if_neg hzero]
    have hread : readDecimal 6 0 (decimalPad 6 n ++ []) = some (n, []) := readDecimal_pad h []
    rw [List.append_nil] at hread
    exact hread

theorem readSeconds_secondsText (n : Nat) :
    readSeconds (secondsText n) = some (n % 60000000) := by
  unfold secondsText
  by_cases hzero : n % 60000000 = 0
  · rw [if_pos hzero, hzero]
    rfl
  · rw [if_neg hzero]
    have hsecond : n / 1000000 % 60 < 10 ^ 2 := by omega
    have hwhole : n / 1000000 % 60 * 1000000 + n % 1000000 = n % 60000000 := by omega
    have hfraction := readFraction_nil (Nat.mod_lt n (by decide : 0 < 1000000))
    simp only [readSeconds, readDecimal_pad hsecond, hfraction, Option.bind_eq_bind,
      Option.bind_some, true_and]
    rw [if_pos (by omega), hwhole]

theorem readUnsigned_text {n : Nat} (h : n < 86400000000) :
    readUnsigned (decimalPad 2 (n / 3600000000) ++
      ':' :: (decimalPad 2 (n / 60000000 % 60) ++ secondsText n)) = some n := by
  have hhour : n / 3600000000 < 10 ^ 2 := by omega
  have hminute : n / 60000000 % 60 < 10 ^ 2 := by omega
  have hwhole : (n / 3600000000 * 60 + n / 60000000 % 60) * 60000000 + n % 60000000 = n := by omega
  simp only [readUnsigned, readDecimal_pad hhour, readDecimal_pad hminute, DateTime.expect, if_pos,
    readSeconds_secondsText, Option.bind_eq_bind, Option.bind_some]
  rw [if_pos (by omega), hwhole]

/-- **An offset reads back.** -/
theorem read_text (o : UtcOffset) : read o.text = some (some o) := by
  have hunsigned := readUnsigned_text o.bounded
  unfold text
  by_cases hneg : o.microseconds < 0
  · have hsign : -(o.microseconds.natAbs : Int) = o.microseconds := by omega
    simp only [if_pos hneg, read, hunsigned, Option.bind_some, hsign, make?_microseconds,
      Option.map_some]
  · have hsign : (o.microseconds.natAbs : Int) = o.microseconds := by omega
    simp only [if_neg hneg, read, hunsigned, Option.bind_some, hsign, make?_microseconds,
      Option.map_some]

end UtcOffset

/-! ## Datetimes as text -/

namespace ZonedDateTime

/-- `YYYY-MM-DDTHH:MM:SS[.ffffff]`, and what comes behind. -/
def fieldsText (d : DateTime) (rest : List Char) : List Char :=
  decimalPad 4 d.year ++ '-' :: (decimalPad 2 d.month ++ '-' :: (decimalPad 2 d.day ++ 'T' ::
    (decimalPad 2 d.hour ++ ':' :: (decimalPad 2 d.minute ++ ':' :: (decimalPad 2 d.second ++
      (DateTime.fraction d.microsecond ++ rest))))))

/-- `datetime.isoformat()`. -/
def isoformat (t : ZonedDateTime) : String :=
  String.ofList (fieldsText t.fields (t.offset.elim [] UtcOffset.text))

/-- Read the fields, and what comes behind. -/
def readFields (cs : List Char) : Option (DateTime × List Char) := do
  let (year, cs) ← readDecimal 4 0 cs
  let cs ← DateTime.expect '-' cs
  let (month, cs) ← readDecimal 2 0 cs
  let cs ← DateTime.expect '-' cs
  let (day, cs) ← readDecimal 2 0 cs
  let cs ← DateTime.expect 'T' cs
  let (hour, cs) ← readDecimal 2 0 cs
  let cs ← DateTime.expect ':' cs
  let (minute, cs) ← readDecimal 2 0 cs
  let cs ← DateTime.expect ':' cs
  let (second, cs) ← readDecimal 2 0 cs
  let (microsecond, cs) ← DateTime.readFraction cs
  let d ← DateTime.make? year month day hour minute second microsecond
  some (d, cs)

/-- Read a datetime in the form that `isoformat` writes. -/
def readIso (cs : List Char) : Option ZonedDateTime := do
  let (fields, cs) ← readFields cs
  let offset ← UtcOffset.read cs
  some ⟨fields, offset⟩

/-- `datetime.fromisoformat`, where `other` reads the other forms that it accepts. -/
def fromisoformat (other : String → Option ZonedDateTime) (text : String) : Option ZonedDateTime :=
  (readIso text.toList).or (other text)

theorem readFraction_fraction {n : Nat} (h : n < 1000000) {rest : List Char}
    (hrest : rest.head? ≠ some '.') :
    DateTime.readFraction (DateTime.fraction n ++ rest) = some (n, rest) := by
  unfold DateTime.fraction
  by_cases hzero : n = 0
  · rw [if_pos hzero, hzero, List.nil_append]
    unfold DateTime.readFraction
    split
    · exact absurd rfl hrest
    · rfl
  · rw [if_neg hzero]
    exact readDecimal_pad h rest

/-- **The fields read back**, whatever comes behind them. -/
theorem readFields_fieldsText (d : DateTime) {rest : List Char} (hrest : rest.head? ≠ some '.') :
    readFields (fieldsText d rest) = some (d, rest) := by
  obtain ⟨hyear, hmonth, hday, hhour, hminute, hsecond⟩ := d.fields_lt
  unfold readFields fieldsText
  simp only [readDecimal_pad hyear, readDecimal_pad hmonth, readDecimal_pad hday,
    readDecimal_pad hhour, readDecimal_pad hminute, readDecimal_pad hsecond, DateTime.expect, if_pos,
    readFraction_fraction d.microsecond_ok hrest, DateTime.make?_fields, Option.bind_eq_bind,
    Option.bind_some]

/-- **What is written reads back.** -/
theorem readIso_isoformat (t : ZonedDateTime) : readIso t.isoformat.toList = some t := by
  rcases t with ⟨fields, offset⟩
  unfold readIso isoformat
  rw [String.toList_ofList]
  cases offset with
  | none =>
      rw [readFields_fieldsText fields (by simp)]
      rfl
  | some o =>
      have hhead : o.text.head? ≠ some '.' := by
        unfold UtcOffset.text
        by_cases hneg : o.microseconds < 0
        · simp [hneg]
        · simp [hneg]
      simp only [Option.elim_some, readFields_fieldsText fields hhead, UtcOffset.read_text,
        Option.bind_eq_bind, Option.bind_some]

theorem fromisoformat_isoformat (other : String → Option ZonedDateTime) (t : ZonedDateTime) :
    fromisoformat other t.isoformat = some t := by
  unfold fromisoformat
  rw [readIso_isoformat]
  rfl

end ZonedDateTime
