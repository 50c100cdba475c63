import NodeNexus.Lib.Base64
import NodeNexus.Lib.JsonText
import NodeNexus.Lib.Utf8

/-!
# Cursor texts

A cursor is a small JSON object in URL-safe base64.  Listings by offset put the
offset into it.

* `Interpreter` holds what Python makes of texts that no cursor of this API
  contains: numbers with a fraction, other encodings than UTF-8, and what `int`
  makes of values that are not integers.
* `decodeObject` reads the JSON object of a cursor; `decodeObject_encode` says
  that what is encoded reads back.
* `encodeOffset`, `decodeOffset` and `parseCursorOffset` are the functions of
  `app/api/pagination.py`.
-/

namespace NodeNexus
namespace Listing

/-- The parts of the interpreter that the cursors of this API do not need. -/
structure Interpreter where
  /-- `repr(float(text))`. -/
  float : String → String
  /-- Bytes that `json.detect_encoding` takes for UTF-16 or UTF-32. -/
  decodeWide : List UInt8 → Option (List Char)
  /-- `int(x)` of a float or a string; `none` where it raises. -/
  intOf : Json → Option Int

/-- Does `json.detect_encoding` take the bytes for UTF-16 or UTF-32? -/
def isWide : List UInt8 → Bool
  | 0x00 :: 0x00 :: 0xFE :: 0xFF :: _ | 0xFF :: 0xFE :: _ | 0xFE :: 0xFF :: _ => true
  | [a, b] => a = 0 || b = 0
  | a :: b :: _ :: _ :: _ => a = 0 || b = 0
  | _ => false

/-- `bytes.decode("utf-8")`; `none` is a `UnicodeDecodeError`. -/
def decodeUtf8 (raw : List UInt8) : Option (List Char) :=
  let text := Utf8.decode [] raw
  if Utf8.encode text = raw then some text else none

/-- The text `json.loads` reads in some bytes; a byte order mark is dropped. -/
def jsonText (py : Interpreter) (raw : List UInt8) : Option (List Char) :=
  if isWide raw then py.decodeWide raw
  else match raw with
    | 0xEF :: 0xBB :: 0xBF :: rest => decodeUtf8 rest
    | raw => decodeUtf8 raw

/-- `json.loads(raw)`. -/
def jsonLoads (py : Interpreter) (raw : List UInt8) : Option Json := do
  let text ← jsonText py raw
  Json.loads py.float (String.ofList text)

/-- The bytes of a JSON document. -/
def jsonBytes (x : Json) : List UInt8 := Utf8.encode (Json.dump x)

/-- `base64.urlsafe_b64encode(json.dumps(x).encode()).decode()`. -/
def encodeObject (x : Json) : String := String.ofList (Base64.urlsafeEncode (jsonBytes x))

/-- `json.loads(base64.urlsafe_b64decode(cursor))`. -/
def decodeObject (py : Interpreter) (cursor : String) : Option Json := do
  let raw ← Base64.urlsafeDecode cursor.toList
  jsonLoads py raw

/-! ## What is encoded reads back -/

theorem decodeUtf8_encode (text : List Char) : decodeUtf8 (Utf8.encode text) = some text := by
  unfold decodeUtf8
  rw [Utf8.decode_encode]
  exact if_pos rfl

/-- A JSON object with an entry starts with a brace and a quote, so it is read as
UTF-8. -/
theorem jsonText_object (py : Interpreter) (text : List Char) :
    jsonText py (Utf8.encode ('\x7b' :: '"' :: text)) = some ('\x7b' :: '"' :: text) := by
  have hread := decodeUtf8_encode ('\x7b' :: '"' :: text)
  have hbrace : String.utf8EncodeChar '\x7b' = [0x7B] := by decide
  have hquote : String.utf8EncodeChar '"' = [0x22] := by decide
  rw [Utf8.encode_cons, Utf8.encode_cons, hbrace, hquote] at hread ⊢
  have hwide : isWide ([0x7B] ++ ([0x22] ++ Utf8.encode text)) = false := by
    generalize Utf8.encode text = rest
    match rest with
    | [] => rfl
    | [_] => rfl
    | _ :: _ :: _ => rfl
  unfold jsonText
  rw [hwide]
  exact hread

/-- **A cursor reads back.** -/
theorem decodeObject_encode (py : Interpreter) {fields : Json.Fields} (hne : fields ≠ [])
    (h : Json.Plain (.dict fields)) :
    decodeObject py (encodeObject (.dict fields)) = some (.dict fields) := by
  obtain ⟨cs, hcs⟩ := Json.dumpFields_head hne ['\x7d']
  have hdump : Json.dump (.dict fields) = '\x7b' :: '"' :: cs := by
    rw [← hcs]
    rfl
  have hloads := Json.loads_dumps py.float h
  unfold decodeObject encodeObject
  rw [String.toList_ofList, Base64.urlsafeDecode_urlsafeEncode]
  show (jsonText py (jsonBytes (.dict fields))).bind _ = _
  unfold jsonBytes
  unfold Json.dumps at hloads
  rw [hdump] at hloads ⊢
  rw [jsonText_object]
  exact hloads

/-! ## Offsets -/

/-- `encode_offset`. -/
def encodeOffset (offset : Nat) : String := encodeObject (.dict [("offset", .int offset)])

/-- `decode_offset`; `none` is a `ValueError`. -/
def decodeOffset (py : Interpreter) (cursor : String) : Option Int := do
  match ← decodeObject py cursor with
  | .dict data => match ← Json.get data "offset" with
      | .int n => some n
      | .bool b => some (if b then 1 else 0)
      | x => py.intOf x
  | _ => none

/-- `parse_cursor_offset`; `none` is the answer with status 422. -/
def parseCursorOffset (py : Interpreter) : Option String → Option Int
  | none => some 0
  | some cursor => if cursor = "" then some 0 else decodeOffset py cursor

/-- **An encoded offset is decoded.** -/
theorem decodeOffset_encodeOffset (py : Interpreter) (offset : Nat) :
    decodeOffset py (encodeOffset offset) = some (offset : Int) := by
  have hplain : Json.Plain (.dict [("offset", .int offset)]) := ⟨by simp, trivial, trivial⟩
  unfold decodeOffset encodeOffset
  rw [decodeObject_encode py (List.cons_ne_nil _ _) hplain]
  rfl

theorem encodeObject_ne_empty (fields : Json.Fields) : encodeObject (.dict fields) ≠ "" := by
  intro h
  have hlist := congrArg String.toList h
  unfold encodeObject at hlist
  rw [String.toList_ofList] at hlist
  have hdecode := Base64.urlsafeDecode_urlsafeEncode (jsonBytes (.dict fields))
  rw [hlist] at hdecode
  cases hdecode

/-- A cursor that a listing hands out is read as its offset. -/
theorem parseCursorOffset_encodeOffset (py : Interpreter) (offset : Nat) :
    parseCursorOffset py (some (encodeOffset offset)) = some (offset : Int) := by
  have hne : encodeOffset offset ≠ "" := encodeObject_ne_empty _
  show (if encodeOffset offset = "" then some 0 else decodeOffset py (encodeOffset offset)) = _
  rw [if_neg hne, decodeOffset_encodeOffset]

end Listing
end NodeNexus
