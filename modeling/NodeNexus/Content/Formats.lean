import NodeNexus.Lib.Json

/-!
# Text forms

What `uuid` and pydantic read and print.  The functions are a parameter of the
model; `Formats.Lawful` is what is documented about them, and
`canonicalFormats` is the instance that knows canonical texts.
-/

namespace NodeNexus
namespace Content

/-- A `UUID`, as a number. -/
abbrev Uuid : Type := Nat

/-- The text forms of values, as `uuid` and pydantic read and print them. -/
structure Formats where
  /-- `str(u)`. -/
  printUuid : Uuid → String
  /-- `UUID(text)`; `none` is a `ValueError`. -/
  parseUuid : String → Option Uuid
  /-- What pydantic makes of a value for a field of type `UUID`. -/
  readUuid : Json → Option Uuid
  /-- What pydantic makes of a value for a field of type `bool`. -/
  readBool : Json → Option Bool

/-- What is documented about the text forms: a printed UUID is not empty and
reads back, the empty text is no UUID, and a boolean is read as itself. -/
structure Formats.Lawful (fmt : Formats) : Prop where
  parse_print : ∀ u, fmt.parseUuid (fmt.printUuid u) = some u
  read_print : ∀ u, fmt.readUuid (.str (fmt.printUuid u)) = some u
  print_ne_empty : ∀ u, fmt.printUuid u ≠ ""
  read_empty : fmt.readUuid (.str "") = none
  read_bool : ∀ b, fmt.readBool (.bool b) = some b

/-- The canonical text of a UUID: 32 hexadecimal digits in five groups. -/
def uuidText (u : Uuid) : String :=
  let digits := hexPad 32 u
  String.ofList (digits.take 8 ++ '-' :: (digits.drop 8).take 4 ++ '-' :: (digits.drop 12).take 4 ++
    '-' :: (digits.drop 16).take 4 ++ '-' :: digits.drop 20)

/-- The UUID with a given canonical text.  A number beyond 128 bits, which no
`UUID` is, has more digits. -/
def uuidOfText? (text : String) : Option Uuid := do
  let digits ← (text.toList.filter (· ≠ '-')).mapM hexDigit?
  if 32 ≤ digits.length then some (ofHex digits) else none

/-- The text forms of `uuid` and pydantic, as far as canonical texts go. -/
def canonicalFormats : Formats where
  printUuid := uuidText
  parseUuid := uuidOfText?
  readUuid
    | .str text => uuidOfText? text
    | _ => none
  readBool
    | .bool b => some b
    | _ => none

/-! ## Canonical texts read back -/

/-- The hyphens of a canonical text are not digits. -/
theorem filter_uuidText (u : Uuid) :
    (uuidText u).toList.filter (· ≠ '-') = hexPad 32 u := by
  obtain ⟨-, -, -, -, hdash⟩ := ofHex_hexPad 32 u
  have hkeep : ∀ cs : List Char, (∀ c ∈ cs, c ∈ hexPad 32 u) →
      cs.filter (· ≠ '-') = cs := by
    intro cs hcs
    rw [List.filter_eq_self]
    intro c hc
    rw [decide_eq_true_eq]
    rintro rfl
    exact hdash (hcs _ hc)
  unfold uuidText
  simp only [String.toList_ofList, List.cons_append, List.append_assoc, List.filter_append,
    List.filter_cons]
  generalize hdigits : hexPad 32 u = digits at *
  have hdrop : ∀ n, (digits.drop n).filter (· ≠ '-') = digits.drop n :=
    fun n => hkeep _ fun c hc => List.mem_of_mem_drop hc
  have htake : ∀ n m, ((digits.drop n).take m).filter (· ≠ '-') = (digits.drop n).take m :=
    fun n m => hkeep _ fun c hc => List.mem_of_mem_drop (List.mem_of_mem_take hc)
  have htake0 : ∀ m, (digits.take m).filter (· ≠ '-') = digits.take m :=
    fun m => hkeep _ fun c hc => List.mem_of_mem_take hc
  simp only [htake, hdrop, htake0]
  simp only [ne_eq, not_true_eq_false, decide_false, Bool.false_eq_true, ↓reduceIte]
  have hjoin : ∀ n m, (digits.drop n).take m ++ digits.drop (n + m) = digits.drop n := by
    intro n m
    rw [← List.drop_drop]
    exact List.take_append_drop m _
  rw [hjoin 16 4, hjoin 12 4, hjoin 8 4]
  exact List.take_append_drop 8 digits

/-- **The canonical text of a UUID reads back.** -/
theorem uuidOfText?_uuidText (u : Uuid) : uuidOfText? (uuidText u) = some u := by
  obtain ⟨ds, hds, hlen, hvalue, -⟩ := ofHex_hexPad 32 u
  unfold uuidOfText?
  rw [filter_uuidText, hds]
  show (if 32 ≤ ds.length then some (ofHex ds) else none) = some u
  rw [if_pos hlen, hvalue]

/-- The canonical texts behave as documented. -/
theorem canonicalFormats_lawful : canonicalFormats.Lawful where
  parse_print := uuidOfText?_uuidText
  read_print := uuidOfText?_uuidText
  print_ne_empty u := by
    intro h
    have hlist := congrArg String.toList h
    simp [canonicalFormats, uuidText] at hlist
  read_empty := by decide
  read_bool _ := rfl

end Content
end NodeNexus
