import Mathlib.Data.List.Basic

/-!
# Comma-separated values

What Python's `csv` module writes and reads in its default dialect: fields are separated by
commas and quoted where they need it, a quote inside of a quoted field is doubled, and a
record ends with a carriage return and a line feed.

* `writeRow`, `write` — `csv.writer.writerow` for one row, and for some.
* `Reader.feed`, `read` — `csv.reader`, one character at a time.
* `read_write` — every table reads back, whatever its fields contain.
-/

namespace Csv

/-- A field, and a record of fields. -/
abbrev Field : Type := List Char

/-! ## Writing -/

/-- The characters for which a field is quoted. -/
def special (c : Char) : Bool := c = ',' || c = '"' || c = '\r' || c = '\n'

/-- A field between quotes. -/
def quote (field : Field) : List Char :=
  '"' :: field.flatMap (fun c => if c = '"' then ['"', '"'] else [c]) ++ ['"']

/-- A field. -/
def writeField (field : Field) : List Char := if field.any special then quote field else field

/-- The end of a record. -/
def rowEnd : List Char := ['\r', '\n']

/-- `writerow`.  A record that is one empty field is quoted, to be told from a record without
fields. -/
def writeRow (row : List Field) : List Char :=
  (if row = [[]] then quote [] else [','].intercalate (row.map writeField)) ++ rowEnd

/-- Some records. -/
def write (rows : List (List Field)) : List Char := rows.flatMap writeRow

/-! ## Reading -/

/-- Where in a record the reader is. -/
inductive Mode where
  | startRecord
  | startField
  | inField
  | inQuotedField
  | quoteInQuotedField
deriving DecidableEq

/-- The reader: the characters of the field it is in, the fields before it, the records before
those, and whether a line feed would belong to the line end before it. -/
structure Reader where
  mode : Mode
  afterReturn : Bool
  field : Field
  record : List Field
  records : List (List Field)
deriving DecidableEq

/-- The reader before the first character. -/
def Reader.start : Reader := ⟨.startRecord, false, [], [], []⟩

/-- A field has ended. -/
def Reader.saveField (r : Reader) : Reader :=
  { r with mode := .startField, field := [], record := r.record ++ [r.field] }

/-- A record has ended. -/
def Reader.saveRecord (r : Reader) : Reader :=
  { r with mode := .startRecord, record := [], records := r.records ++ [r.record] }

/-- One more character of a field. -/
def Reader.add (r : Reader) (mode : Mode) (c : Char) : Reader :=
  { r with mode := mode, field := r.field ++ [c] }

/-- A character outside of quotes.  A quote inside of such a field is a character like any
other. -/
def Reader.plain (r : Reader) (c : Char) : Reader :=
  if c = '\r' ∨ c = '\n' then
    { (if r.mode = .startRecord then r else r.saveField).saveRecord with
      afterReturn := decide (c = '\r') }
  else if c = ',' then r.saveField
  else if c = '"' ∧ (r.mode = .startRecord ∨ r.mode = .startField) then
    { r with mode := .inQuotedField }
  else r.add .inField c

/-- One character. -/
def Reader.feed (r : Reader) (c : Char) : Reader :=
  if r.afterReturn = true ∧ c = '\n' then { r with afterReturn := false }
  else
    let r := { r with afterReturn := false }
    match r.mode with
    | .inQuotedField =>
        if c = '"' then { r with mode := .quoteInQuotedField } else r.add .inQuotedField c
    | .quoteInQuotedField => if c = '"' then r.add .inQuotedField c else r.plain c
    | _ => r.plain c

/-- Some characters. -/
def Reader.feeds (r : Reader) (text : List Char) : Reader := text.foldl Reader.feed r

/-- The end of the text ends the last record. -/
def Reader.finish (r : Reader) : List (List Field) :=
  if r.mode = .startRecord then r.records else r.saveField.saveRecord.records

/-- The records of a text. -/
def read (text : List Char) : List (List Field) := (Reader.start.feeds text).finish

@[simp] theorem feeds_nil (r : Reader) : r.feeds [] = r := rfl

@[simp] theorem feeds_cons (r : Reader) (c : Char) (text : List Char) :
    r.feeds (c :: text) = (r.feed c).feeds text := rfl

@[simp] theorem feeds_append (r : Reader) (s t : List Char) :
    r.feeds (s ++ t) = (r.feeds s).feeds t := by
  simp [Reader.feeds]

/-! ## What is written reads back -/

/-- A reader before a field of a record. -/
structure Reader.Before (r : Reader) (record : List Field) (records : List (List Field)) :
    Prop where
  mode : r.mode = .startField ∨ r.mode = .startRecord ∧ record = []
  afterReturn : r.afterReturn = false
  field : r.field = []
  record : r.record = record
  records : r.records = records

/-- A reader that has read a field, but not its end. -/
structure Reader.Behind (r : Reader) (field : Field) (record : List Field)
    (records : List (List Field)) : Prop where
  mode : r.mode ≠ .inQuotedField
  afterReturn : r.afterReturn = false
  field : r.field = field
  record : r.record = record
  records : r.records = records

variable {record : List Field} {records : List (List Field)} {r : Reader}

/-- Outside of quotes. -/
theorem feed_eq_plain {c : Char} (hreturn : r.afterReturn = false) (hquoted : r.mode ≠ .inQuotedField)
    (hquote : r.mode ≠ .quoteInQuotedField ∨ c ≠ '"') : r.feed c = r.plain c := by
  have hself : { r with afterReturn := false } = r := by rw [← hreturn]
  unfold Reader.feed
  rw [if_neg (by simp [hreturn])]
  simp only [hself]
  split
  · contradiction
  · rename_i hmode
    rw [if_neg (hquote.resolve_left (· hmode))]
  · rfl

/-- Characters without a meaning are kept. -/
theorem feeds_plain {text : Field} (h : ∀ c ∈ text, special c = false) (hmode : r.mode = .inField)
    (hreturn : r.afterReturn = false) : r.feeds text = { r with field := r.field ++ text } := by
  induction text generalizing r with
  | nil => simp
  | cons c text ih =>
      rw [List.forall_mem_cons] at h
      have hc : c ≠ ',' ∧ c ≠ '"' ∧ c ≠ '\r' ∧ c ≠ '\n' := by
        simpa [special, and_assoc] using h.1
      have hfeed : r.feed c = { r with field := r.field ++ [c] } := by
        simp [Reader.feed, Reader.plain, Reader.add, hmode, hreturn, hc]
      rw [feeds_cons, hfeed, ih (r := { r with field := r.field ++ [c] }) h.2 hmode hreturn]
      simp

/-- The characters between quotes are kept, and each doubled quote is one. -/
theorem feeds_quoted (text : Field) (hmode : r.mode = .inQuotedField)
    (hreturn : r.afterReturn = false) :
    r.feeds (text.flatMap fun c => if c = '"' then ['"', '"'] else [c]) =
      { r with field := r.field ++ text } := by
  induction text generalizing r with
  | nil => simp
  | cons c text ih =>
      rw [List.flatMap_cons, feeds_append]
      have hfeed : r.feeds (if c = '"' then ['"', '"'] else [c]) =
          { r with field := r.field ++ [c] } := by
        by_cases hc : c = '"'
        · simp [hc, Reader.feed, Reader.add, hmode, hreturn]
        · simp [hc, Reader.feed, Reader.add, hmode, hreturn]
      rw [hfeed, ih (r := { r with field := r.field ++ [c] }) hmode hreturn]
      simp

theorem Reader.Before.not_quoted (h : r.Before record records) :
    r.mode ≠ .inQuotedField ∧ r.mode ≠ .quoteInQuotedField := by
  rcases h.mode with hmode | ⟨hmode, -⟩ <;> simp [hmode]

/-- A field between quotes, up to its last quote. -/
theorem behind_quote (field : Field) (h : r.Before record records) :
    (r.feeds (quote field)).Behind field record records ∧
      (r.feeds (quote field)).mode = .quoteInQuotedField := by
  have hopen : r.feed '"' = { r with mode := .inQuotedField } := by
    rw [feed_eq_plain h.afterReturn h.not_quoted.1 (.inl h.not_quoted.2)]
    rcases h.mode with hmode | ⟨hmode, -⟩ <;> simp [Reader.plain, hmode]
  have hinside := feeds_quoted (r := { r with mode := .inQuotedField }) field rfl h.afterReturn
  rw [quote, List.cons_append, feeds_cons, hopen, feeds_append, hinside]
  refine ⟨⟨?_, ?_, ?_, ?_, ?_⟩, ?_⟩
  all_goals simp [Reader.feed, h.afterReturn, h.field, h.record, h.records]

/-- A field as it is written.  Of an empty field at the beginning of a record, nothing is
seen. -/
theorem behind_writeField (field : Field) (h : r.Before record records) :
    (r.feeds (writeField field)).Behind field record records ∧
      (field ≠ [] ∨ r.mode = .startField →
        (r.feeds (writeField field)).mode ≠ .startRecord) := by
  unfold writeField
  split
  · obtain ⟨hbehind, hmode⟩ := behind_quote field h
    exact ⟨hbehind, fun _ => by simp [hmode]⟩
  · rename_i hplain
    have hplain : ∀ c ∈ field, special c = false := by simpa using hplain
    cases field with
    | nil =>
        refine ⟨⟨h.not_quoted.1, h.afterReturn, h.field, h.record, h.records⟩, fun hseen => ?_⟩
        have hmode : r.mode = .startField := hseen.resolve_left (· rfl)
        simp [hmode]
    | cons c field =>
        rw [List.forall_mem_cons] at hplain
        have hc : c ≠ ',' ∧ c ≠ '"' ∧ c ≠ '\r' ∧ c ≠ '\n' := by
          simpa [special, and_assoc] using hplain.1
        have hfeed : r.feed c = { r with mode := .inField, field := [c] } := by
          rw [feed_eq_plain h.afterReturn h.not_quoted.1 (.inl h.not_quoted.2)]
          simp [Reader.plain, Reader.add, hc, h.field]
        have hrest := feeds_plain (r := { r with mode := .inField, field := [c] }) hplain.2 rfl
          h.afterReturn
        rw [feeds_cons, hfeed, hrest]
        exact ⟨⟨nofun, h.afterReturn, rfl, h.record, h.records⟩, fun _ => nofun⟩

/-- The comma behind a field. -/
theorem before_comma {field : Field} (h : r.Behind field record records) :
    (r.feed ',').Before (record ++ [field]) records := by
  rw [feed_eq_plain h.afterReturn h.mode (.inr (by decide))]
  refine ⟨.inl ?_, ?_, ?_, ?_, ?_⟩
  all_goals simp [Reader.plain, Reader.saveField, h.afterReturn, h.field, h.record, h.records]

/-- A reader between two records. -/
structure Reader.Between (r : Reader) (records : List (List Field)) : Prop where
  mode : r.mode = .startRecord
  afterReturn : r.afterReturn = false
  field : r.field = []
  record : r.record = []
  records : r.records = records

theorem Reader.Between.before (h : r.Between records) : r.Before [] records :=
  ⟨.inr ⟨h.mode, rfl⟩, h.afterReturn, h.field, h.record, h.records⟩

/-- The end of a record, behind its last field. -/
theorem between_rowEnd {field : Field} (h : r.Behind field record records)
    (hseen : r.mode ≠ .startRecord) : (r.feeds rowEnd).Between (records ++ [record ++ [field]]) := by
  have hreturn : r.feed '\r' = { r.saveField.saveRecord with afterReturn := true } := by
    rw [feed_eq_plain h.afterReturn h.mode (.inr (by decide))]
    simp [Reader.plain, hseen]
  simp only [rowEnd, feeds_cons, feeds_nil, hreturn]
  refine ⟨?_, ?_, ?_, ?_, ?_⟩
  all_goals simp [Reader.feed, Reader.saveField, Reader.saveRecord, h.field, h.record, h.records]

/-- The end of a record without fields. -/
theorem between_empty (h : r.Between records) : (r.feeds rowEnd).Between (records ++ [[]]) := by
  have hreturn : r.feed '\r' = { r.saveRecord with afterReturn := true } := by
    rw [feed_eq_plain h.afterReturn (by simp [h.mode]) (.inr (by decide))]
    simp [Reader.plain, h.mode]
  simp only [rowEnd, feeds_cons, feeds_nil, hreturn]
  refine ⟨?_, ?_, ?_, ?_, ?_⟩
  all_goals simp [Reader.feed, Reader.saveRecord, h.field, h.record, h.records]

/-- Fields, the commas between them, and the end of the record. -/
theorem between_fields {row : List Field} (hne : row ≠ []) (h : r.Before record records)
    (hseen : row ≠ [[]] ∨ r.mode = .startField) :
    (r.feeds ([','].intercalate (row.map writeField) ++ rowEnd)).Between
      (records ++ [record ++ row]) := by
  induction row generalizing r record with
  | nil => exact absurd rfl hne
  | cons field row ih =>
      obtain ⟨hbehind, hmode⟩ := behind_writeField field h
      cases row with
      | nil =>
          have hfield : field ≠ [] ∨ r.mode = .startField :=
            hseen.imp_left fun hrow heq => hrow (by rw [heq])
          simpa using between_rowEnd hbehind (hmode hfield)
      | cons next row =>
          have hcomma := before_comma hbehind
          have hstart := hcomma.mode.resolve_right fun hstart => by simp at hstart
          have hrest := ih (List.cons_ne_nil _ _) hcomma (.inr hstart)
          simpa [List.intercalate_cons_cons] using hrest

/-- A record is read. -/
theorem between_writeRow (row : List Field) (h : r.Between records) :
    (r.feeds (writeRow row)).Between (records ++ [row]) := by
  unfold writeRow
  split
  · rename_i hrow
    obtain ⟨hbehind, hmode⟩ := behind_quote [] h.before
    rw [feeds_append, hrow]
    simpa using between_rowEnd hbehind (by simp [hmode])
  · rename_i hrow
    by_cases hne : row = []
    · simpa [hne] using between_empty h
    · simpa using between_fields hne h.before (.inl hrow)

theorem between_write (rows : List (List Field)) (h : r.Between records) :
    (r.feeds (write rows)).Between (records ++ rows) := by
  induction rows generalizing r records with
  | nil => simpa [write] using h
  | cons row rows ih =>
      have hrow := between_writeRow row h
      have hrows := ih hrow
      simpa [write] using hrows

/-- **Every table reads back.** -/
theorem read_write (rows : List (List Field)) : read (write rows) = rows := by
  have hstart : Reader.start.Between [] := ⟨rfl, rfl, rfl, rfl, rfl⟩
  have hend := between_write rows hstart
  simp [read, Reader.finish, hend.mode, hend.records]

end Csv
