import NodeNexus.Lib.ZonedDateTime
import NodeNexus.Listing.Nodes

/-!
# Cursors that clients make up

A client may send any text as a cursor.  This file has the two decoders with every exception that
can come out of them, and the two listings as far as a cursor decides how they end.

* `Decoders` — what Python makes of texts, `Driver` — what the database makes of bound values.
* `decodeCursor`, `parseCursorOffset` — the decoders; `listNodes`, `listScripts` — the listings.
* `decodeCursor_encodeCursor` — a cursor reads back as its moment, with a naive one read as UTC.
* `CursorHandled` — a cursor is decoded or refused, and no listing fails because of it.
* `cursor_handled_iff` — when it is: its document has the shape that the decoders take for granted.
-/

namespace NodeNexus
namespace Cursors

open Content Listing

/-! ## Surroundings -/

/-- Why `json.loads` refuses a document that is well formed. -/
inductive ReadLimit where
  /-- An integer with too many digits; `ValueError`. -/
  | digits
  /-- Brackets nested too deeply; `RecursionError`. -/
  | nesting
  deriving DecidableEq

/-- What Python makes of texts, as far as no cursor of this API decides it. -/
structure Decoders extends Interpreter where
  fmt : Formats
  /-- The documents beyond the limits of the interpreter. -/
  limit : List UInt8 → Option ReadLimit
  /-- Documents with lone surrogates, each of which stands as another character. -/
  surrogates : List UInt8 → Option Json
  /-- The other forms that `fromisoformat` accepts. -/
  otherIso : String → Option ZonedDateTime

/-- What is documented: UUIDs read back, a flat object is within the limits, and there is nothing
in an empty document. -/
structure Decoders.Lawful (py : Decoders) : Prop where
  fmt : py.fmt.Lawful
  flat : ∀ ts id : String, py.limit (jsonBytes (.dict [("ts", .str ts), ("id", .str id)])) = none
  empty : py.limit [] = none ∧ py.surrogates [] = none

/-- What the driver of the database makes of bound values. -/
structure Driver where
  /-- The moment that a datetime is sent as; `none` where the driver raises. -/
  bindTimestamp : ZonedDateTime → Option DateTime
  /-- The greatest OFFSET. -/
  maxOffset : Nat

/-! ## Decoding -/

/-- The exceptions that reading a cursor raises. -/
inductive Exc where
  /-- `binascii.Error`, `UnicodeDecodeError` and `JSONDecodeError` included. -/
  | valueError
  | keyError
  | typeError
  | attributeError
  | recursionError
  deriving DecidableEq

/-- What leaves a decoder: its own `ValueError`, or an exception that it does not catch. -/
inductive Raised where
  | valueError (message : String)
  | uncaught (exc : Exc)
  deriving DecidableEq

/-- A value that is not there is a `ValueError`. -/
def orValueError {α : Type} : Option α → Except Exc α
  | none => .error .valueError
  | some a => .ok a

/-- `base64.urlsafe_b64decode` of a string, which has to be ASCII. -/
def urlsafeB64decode (cursor : String) : Except Exc (List UInt8) :=
  if cursor.toList.any fun c => 128 ≤ c.toNat then .error .valueError
  else orValueError (Base64.urlsafeDecode cursor.toList)

/-- `data[key]`: only an object has keys. -/
def subscript (data : Json) (key : String) : Except Exc Json :=
  match data with
  | .dict fields => match Json.get fields key with
      | some x => .ok x
      | none => .error .keyError
  | _ => .error .typeError

section Decode

variable (py : Decoders)

/-- `json.loads(raw)`. -/
def loads (raw : List UInt8) : Except Exc Json :=
  match py.limit raw with
  | some .digits => .error .valueError
  | some .nesting => .error .recursionError
  | none => orValueError ((jsonLoads py.toInterpreter raw).or (py.surrogates raw))

/-- `datetime.fromisoformat(x)`. -/
def fromisoformat : Json → Except Exc ZonedDateTime
  | .str text => orValueError (ZonedDateTime.fromisoformat py.otherIso text)
  | _ => .error .typeError

/-- `UUID(x)`: `None` is no argument, and only a text has a `replace`. -/
def uuid : Json → Except Exc Uuid
  | .str text => orValueError (py.fmt.parseUuid text)
  | .null => .error .typeError
  | _ => .error .attributeError

/-- The document in a cursor. -/
def document (cursor : String) : Except Exc Json := do
  let raw ← urlsafeB64decode cursor
  loads py raw

/-- `datetime.fromisoformat(data["ts"]), UUID(data["id"])`. -/
def keyOf (data : Json) : Except Exc (ZonedDateTime × Uuid) := do
  let ts ← subscript data "ts"
  let createdAt ← fromisoformat py ts
  let x ← subscript data "id"
  let id ← uuid py x
  .ok (createdAt, id)

/-- `decode_cursor`: of the exceptions `JSONDecodeError`, `KeyError` and `ValueError` are caught. -/
def decodeCursor (cursor : String) : Except Raised (ZonedDateTime × Uuid) :=
  match document py cursor >>= keyOf py with
  | .ok key => .ok key
  | .error .valueError => .error (.valueError ("Invalid cursor: " ++ cursor))
  | .error .keyError => .error (.valueError ("Invalid cursor: " ++ cursor))
  | .error exc => .error (.uncaught exc)

/-- A naive datetime read as UTC. -/
def inUtc (t : ZonedDateTime) : ZonedDateTime := { t with offset := some (t.offset.getD .utc) }

/-- `encode_cursor`. -/
def encodeCursor (createdAt : ZonedDateTime) (id : Uuid) : String :=
  let ts := if createdAt.offset.isSome then createdAt.isoformat
    else ZonedDateTime.isoformat { createdAt with offset := some .utc }
  encodeObject (.dict [("ts", .str ts), ("id", .str (py.fmt.printUuid id))])

/-! ### Offsets -/

/-- `int(x)`. -/
def toInt : Json → Except Exc Int
  | .int n => .ok n
  | .bool b => .ok (if b then 1 else 0)
  | .str text => orValueError (py.intOf (.str text))
  | .float text => orValueError (py.intOf (.float text))
  | _ => .error .typeError

/-- The document in a cursor that is encoded first; what is not ASCII is then skipped. -/
def offsetDocument (cursor : String) : Except Exc Json := do
  let raw ← orValueError (Base64.urlsafeDecode cursor.toList)
  loads py raw

/-- `decode_offset`: every exception is caught. -/
def decodeOffset (cursor : String) : Except Raised Int :=
  match (do
    let data ← offsetDocument py cursor
    let x ← subscript data "offset"
    toInt py x : Except Exc Int) with
  | .ok offset => .ok offset
  | .error _ => .error (.valueError ("Invalid cursor: " ++ cursor))

/-! ## Listings -/

/-- How a request ends that gets no page. -/
inductive Refusal where
  /-- `HTTPException`. -/
  | http (status : Nat) (detail : String)
  /-- An exception that nothing expects: status 500. -/
  | server
  deriving DecidableEq

/-- `except ValueError: raise HTTPException(status_code=422, detail="Invalid cursor")`. -/
def orInvalidCursor {α : Type} : Except Raised α → Except Refusal α
  | .ok a => .ok a
  | .error (.valueError _) => .error (.http 422 "Invalid cursor")
  | .error (.uncaught _) => .error .server

/-- `parse_cursor_offset`. -/
def parseCursorOffset : Option String → Except Refusal Int
  | none => .ok 0
  | some cursor => if cursor = "" then .ok 0 else orInvalidCursor (decodeOffset py cursor)

/-- The key that `list_nodes` decodes, if it is given a cursor. -/
def cursorKey : Option String → Except Refusal (Option (ZonedDateTime × Uuid))
  | none => .ok none
  | some cursor =>
      if cursor = "" then .ok none else (orInvalidCursor (decodeCursor py cursor)).map some

variable (driver : Driver)

/-- The key as it is bound. -/
def bindKey : Option (ZonedDateTime × Uuid) → Except Refusal (Option NodeKey)
  | none => .ok none
  | some (createdAt, id) => match driver.bindTimestamp createdAt with
      | some moment => .ok (some (moment, id))
      | none => .error .server

/-- `list_nodes`. -/
def listNodes (ilike : Node.Ilike) (nodes : List Node.NodeRow) (cursor : Option String) (limit : Nat)
    (tag search : Option String) : Except Refusal NodeCursorListResponse := do
  let decoded ← cursorKey py cursor
  let key ← bindKey driver decoded
  match listResponse py.fmt limit (listNodesCursor ilike nodes (handlerQuery key limit tag search))
    with
  | .ok response => .ok response
  | .error _ => .error .server

/-- `OFFSET` and `LIMIT`, as they are bound. -/
def selectPage {ρ : Type} (rows : List ρ) (offset : Int) (limit : Nat) : Except Refusal (List ρ) :=
  if offset < 0 ∨ (driver.maxOffset : Int) < offset then .error .server
  else .ok ((rows.drop offset.toNat).take limit)

/-- `get_all_scripts`. -/
def getAllScripts {ρ : Type} (rows : List ρ) (page : Int) (size : Nat) :
    Except Refusal (List ρ × Nat) := do
  let items ← selectPage driver rows ((page - 1) * size) size
  .ok (items, rows.length)

/-- `list_scripts`. -/
def listScripts {ρ : Type} (rows : List ρ) (cursor : Option String) (limit : Nat) :
    Except Refusal (CursorPage ρ) := do
  let offset ← parseCursorOffset py cursor
  let (page, fetchSize, remainder) := paginationParams offset limit
  let (scripts, total) ← getAllScripts driver rows page fetchSize
  let items := if remainder ≠ 0 then (scripts.drop remainder).take limit else scripts
  let (nextCursor, hasMore) := cursorNext offset limit total items.length
  .ok ⟨items, nextCursor, hasMore, limit⟩

/-! ## What is to hold -/

/-- The OFFSET of the query for a page. -/
def sqlOffset (offset : Int) (limit : Nat) : Int :=
  let (page, fetchSize, _) := paginationParams offset limit
  (page - 1) * fetchSize

/-- **A cursor is decoded or refused**, by both decoders, and neither listing fails because of it:
that of the nodes where the nodes themselves can be shown. -/
structure CursorHandled (cursor : String) (limit : Nat) : Prop where
  decoded : (∃ message, decodeCursor py cursor = .error (.valueError message)) ∨
    ∃ t id, decodeCursor py cursor = .ok (t, id) ∧ t.offset ≠ none
  offset : parseCursorOffset py (some cursor) = .error (.http 422 "Invalid cursor") ∨
    ∃ n, parseCursorOffset py (some cursor) = .ok n ∧ 0 ≤ sqlOffset n limit
  nodes : ∀ (ilike : Node.Ilike) (nodes : List Node.NodeRow) (tag search : Option String),
    (∀ node ∈ nodes, Returns (nodeResponse (nodeToView node))) →
      listNodes py driver ilike nodes (some cursor) limit tag search ≠ .error .server
  scripts : ∀ (ρ : Type) (rows : List ρ),
    listScripts py driver rows (some cursor) limit ≠ .error .server

/-- What `decode_cursor` takes for granted of a document. -/
@[mk_iff] structure KeyShape (data : Json) : Prop where
  object : ∃ fields, data = .dict fields
  ts : ∀ x, subscript data "ts" = .ok x → ∃ text, x = .str text
  id : ∀ text t x, subscript data "ts" = .ok (.str text) →
    ZonedDateTime.fromisoformat py.otherIso text = some t → subscript data "id" = .ok x →
      ∃ text, x = .str text
  /-- A key that it finds can be compared with the column. -/
  moment : ∀ text t idText id, subscript data "ts" = .ok (.str text) →
    ZonedDateTime.fromisoformat py.otherIso text = some t → subscript data "id" = .ok (.str idText) →
      py.fmt.parseUuid idText = some id → t.offset ≠ none ∧ driver.bindTimestamp t ≠ none

/-- What the two listings take for granted of a cursor. -/
structure CursorUsable (cursor : String) (limit : Nat) : Prop where
  nested : document py cursor ≠ .error .recursionError
  key : ∀ data, document py cursor = .ok data → KeyShape py driver data
  offset : ∀ data x n, offsetDocument py cursor = .ok data → subscript data "offset" = .ok x →
    toInt py x = .ok n → 0 ≤ n ∧ n / limit * (limit + n % limit) ≤ driver.maxOffset

/-! ## A cursor of this API -/

variable {py driver}

theorem encode_ascii (x : Json) :
    ((encodeObject x).toList.any fun c => 128 ≤ c.toNat) = false := by
  rw [List.any_eq_false]
  intro c hc
  unfold encodeObject at hc
  rw [String.toList_ofList] at hc
  rcases List.mem_map.1 hc with ⟨d, hd, rfl⟩
  have hlt := (Base64.mem_encode_ascii hd).1
  unfold Base64.toUrl
  split_ifs
  · decide
  · decide
  · simpa using hlt

section Encoded

variable {fields : Json.Fields}

theorem urlsafeDecode_encodeObject (x : Json) :
    Base64.urlsafeDecode (encodeObject x).toList = some (jsonBytes x) := by
  unfold encodeObject
  rw [String.toList_ofList, Base64.urlsafeDecode_urlsafeEncode]

theorem loads_jsonBytes (hne : fields ≠ []) (hplain : Json.Plain (.dict fields))
    (hlimit : py.limit (jsonBytes (.dict fields)) = none) :
    loads py (jsonBytes (.dict fields)) = .ok (.dict fields) := by
  have hread := decodeObject_encode py.toInterpreter hne hplain
  unfold decodeObject at hread
  rw [urlsafeDecode_encodeObject] at hread
  have hloads : jsonLoads py.toInterpreter (jsonBytes (.dict fields)) = some (.dict fields) := hread
  unfold loads
  rw [hlimit, hloads]
  rfl

/-- **What this API encodes is read back**, within the limits of the interpreter. -/
theorem document_encodeObject (hne : fields ≠ []) (hplain : Json.Plain (.dict fields))
    (hlimit : py.limit (jsonBytes (.dict fields)) = none) :
    document py (encodeObject (.dict fields)) = .ok (.dict fields) := by
  unfold document urlsafeB64decode
  rw [encode_ascii, urlsafeDecode_encodeObject]
  exact loads_jsonBytes hne hplain hlimit

theorem offsetDocument_encodeObject (hne : fields ≠ []) (hplain : Json.Plain (.dict fields))
    (hlimit : py.limit (jsonBytes (.dict fields)) = none) :
    offsetDocument py (encodeObject (.dict fields)) = .ok (.dict fields) := by
  unfold offsetDocument
  rw [urlsafeDecode_encodeObject]
  exact loads_jsonBytes hne hplain hlimit

end Encoded

/-- **A cursor reads back** as its moment and its id, with a naive moment read as UTC. -/
theorem decodeCursor_encodeCursor (hpy : py.Lawful) (t : ZonedDateTime) (id : Uuid) :
    decodeCursor py (encodeCursor py t id) = .ok (inUtc t, id) := by
  have htext : (if t.offset.isSome then t.isoformat
      else ZonedDateTime.isoformat { t with offset := some .utc }) = (inUtc t).isoformat := by
    rcases t with ⟨fields, offset⟩
    cases offset with
    | none => rfl
    | some o => rfl
  have hplain : Json.Plain
      (.dict [("ts", .str (inUtc t).isoformat), ("id", .str (py.fmt.printUuid id))]) :=
    ⟨by simp, trivial, trivial, trivial⟩
  have hdocument := document_encodeObject (List.cons_ne_nil _ _) hplain
    (hpy.flat (inUtc t).isoformat (py.fmt.printUuid id))
  have hkey : keyOf py
      (.dict [("ts", .str (inUtc t).isoformat), ("id", .str (py.fmt.printUuid id))]) =
        .ok (inUtc t, id) := by
    have hts : ∀ ts i : Json, Json.get [("ts", ts), ("id", i)] "ts" = some ts := fun _ _ => rfl
    have hid : ∀ ts i : Json, Json.get [("ts", ts), ("id", i)] "id" = some i := fun _ _ => rfl
    simp only [keyOf, subscript, fromisoformat, uuid, orValueError, hts, hid,
      ZonedDateTime.fromisoformat_isoformat, hpy.fmt.parse_print, bind, Except.bind]
  unfold decodeCursor encodeCursor
  rw [htext, (bind_of_eq_ok hdocument).trans hkey]

/-- The listing of nodes hands out such cursors. -/
theorem encodeCursor_utc (key : NodeKey) :
    encodeCursor py ⟨key.1, some .utc⟩ key.2 = Listing.encodeCursor py.fmt key := rfl

/-! ## The document of a cursor -/

theorem loads_error {raw : List UInt8} {exc : Exc} (h : loads py raw = .error exc) :
    exc = .valueError ∨ exc = .recursionError := by
  unfold loads at h
  cases hlimit : py.limit raw with
  | some limit =>
      rw [hlimit] at h
      cases limit with
      | digits => exact .inl (Except.error.inj h).symm
      | nesting => exact .inr (Except.error.inj h).symm
  | none =>
      simp only [hlimit] at h
      cases hvalue : (jsonLoads py.toInterpreter raw).or (py.surrogates raw) with
      | none =>
          rw [hvalue] at h
          exact .inl (Except.error.inj h).symm
      | some x =>
          rw [hvalue] at h
          cases h

/-- A cursor has no document for one of two reasons. -/
theorem document_error {cursor : String} {exc : Exc} (h : document py cursor = .error exc) :
    exc = .valueError ∨ exc = .recursionError := by
  unfold document urlsafeB64decode at h
  split_ifs at h with hascii
  · exact .inl (Except.error.inj h).symm
  · cases hraw : Base64.urlsafeDecode cursor.toList with
    | none =>
        rw [hraw] at h
        exact .inl (Except.error.inj h).symm
    | some raw =>
        rw [hraw] at h
        exact loads_error h

/-- The empty cursor has none. -/
theorem loads_nil (hpy : py.Lawful) : loads py [] = .error .valueError := by
  have htext : jsonText py.toInterpreter [] = some [] := decodeUtf8_encode []
  have hread : jsonLoads py.toInterpreter [] = none := by
    unfold jsonLoads
    rw [htext]
    rfl
  unfold loads
  rw [hpy.empty.1, hpy.empty.2, hread]
  rfl

/-! ## The shape of a document -/

/-- A cursor is decoded to a key that can be compared, or refused. -/
def KeyFound (driver : Driver) (r : Except Exc (ZonedDateTime × Uuid)) : Prop :=
  r = .error .valueError ∨ r = .error .keyError ∨
    ∃ t id, r = .ok (t, id) ∧ t.offset ≠ none ∧ driver.bindTimestamp t ≠ none

/-- Only a missing key is no value of an object. -/
theorem subscript_dict_error {fields : Json.Fields} {key : String} {exc : Exc}
    (h : subscript (.dict fields) key = .error exc) : exc = .keyError := by
  unfold subscript at h
  cases hget : Json.get fields key with
  | none =>
      simp only [hget] at h
      exact (Except.error.inj h).symm
  | some x =>
      simp only [hget] at h
      cases h

theorem subscript_unique {data x y : Json} {key : String} (hx : subscript data key = .ok x)
    (hy : subscript data key = .ok y) : y = x :=
  Except.ok.inj (hy.symm.trans hx)

section KeyOf

variable {fields : Json.Fields}

/-- The document has no `ts`, or one that is no text. -/
theorem keyFound_of_ts {r : Except Exc Json} (hts : subscript (.dict fields) "ts" = r)
    (hno : ∀ text, r ≠ .ok (.str text)) :
    KeyFound driver (keyOf py (.dict fields)) ↔ KeyShape py driver (.dict fields) := by
  rw [keyShape_iff]
  cases r with
  | error exc =>
      have hexc := subscript_dict_error hts
      simp [KeyFound, keyOf, hts, hexc, bind, Except.bind]
  | ok x =>
      cases x with
      | str text => exact absurd rfl (hno text)
      | _ => simp [KeyFound, keyOf, hts, fromisoformat, bind, Except.bind]

/-- Its `ts` is no datetime. -/
theorem keyFound_of_iso {text : String} (hts : subscript (.dict fields) "ts" = .ok (.str text))
    (hiso : ZonedDateTime.fromisoformat py.otherIso text = none) :
    KeyFound driver (keyOf py (.dict fields)) ↔ KeyShape py driver (.dict fields) := by
  have hkey : keyOf py (.dict fields) = .error .valueError := by
    simp [keyOf, hts, fromisoformat, hiso, orValueError, bind, Except.bind]
  have hnone : ∀ text' t, subscript (.dict fields) "ts" = .ok (.str text') →
      ZonedDateTime.fromisoformat py.otherIso text' ≠ some t := by
    intro text' t hts' hiso'
    rw [Json.str.inj (subscript_unique hts hts'), hiso] at hiso'
    cases hiso'
  refine iff_of_true (.inl hkey) ⟨⟨fields, rfl⟩, ?_, ?_, ?_⟩
  · intro x hx
    exact ⟨text, subscript_unique hts hx⟩
  · intro text' t x hts' hiso'
    exact absurd hiso' (hnone text' t hts')
  · intro text' t idText id hts' hiso'
    exact absurd hiso' (hnone text' t hts')

/-- Its `ts` is a datetime: what is left to decide is its `id`. -/
theorem keyFound_of_datetime {text : String} {t : ZonedDateTime}
    (hts : subscript (.dict fields) "ts" = .ok (.str text))
    (hiso : ZonedDateTime.fromisoformat py.otherIso text = some t) :
    KeyFound driver (keyOf py (.dict fields)) ↔ KeyShape py driver (.dict fields) := by
  have hkey : keyOf py (.dict fields) = (do
      let x ← subscript (.dict fields) "id"
      let id ← uuid py x
      .ok (t, id)) := by
    simp [keyOf, hts, fromisoformat, hiso, orValueError, bind, Except.bind]
  have hsame : ∀ text' t', subscript (.dict fields) "ts" = .ok (.str text') →
      ZonedDateTime.fromisoformat py.otherIso text' = some t' → t' = t := by
    intro text' t' hts' hiso'
    rw [Json.str.inj (subscript_unique hts hts'), hiso] at hiso'
    exact (Option.some.inj hiso').symm
  have hshape : KeyShape py driver (.dict fields) ↔
      (∀ x, subscript (.dict fields) "id" = .ok x → ∃ idText, x = .str idText) ∧
        ∀ idText id, subscript (.dict fields) "id" = .ok (.str idText) →
          py.fmt.parseUuid idText = some id → t.offset ≠ none ∧ driver.bindTimestamp t ≠ none := by
    constructor
    · intro h
      exact ⟨fun x => h.id text t x hts hiso, fun idText id => h.moment text t idText id hts hiso⟩
    · rintro ⟨hid, hmoment⟩
      refine ⟨⟨fields, rfl⟩, ?_, ?_, ?_⟩
      · intro x hx
        exact ⟨text, subscript_unique hts hx⟩
      · intro text' t' x _ _
        exact hid x
      · intro text' t' idText id hts' hiso'
        rw [hsame text' t' hts' hiso']
        exact hmoment idText id
  rw [hshape, hkey]
  cases hid : subscript (.dict fields) "id" with
  | error exc =>
      have hexc := subscript_dict_error hid
      simp [KeyFound, hexc, bind, Except.bind]
  | ok y =>
      cases y with
      | str idText =>
          cases hparse : py.fmt.parseUuid idText with
          | none =>
              refine iff_of_true (.inl ?_) ⟨?_, ?_⟩
              · simp [uuid, hparse, orValueError, bind, Except.bind]
              · intro x hx
                exact ⟨idText, (Except.ok.inj hx).symm⟩
              · intro idText' id hx hid'
                rw [← Json.str.inj (Except.ok.inj hx), hparse] at hid'
                cases hid'
          | some id =>
              have hok : KeyFound driver (do
                  let x ← (.ok (.str idText) : Except Exc Json)
                  let id ← uuid py x
                  .ok (t, id)) ↔ t.offset ≠ none ∧ driver.bindTimestamp t ≠ none := by
                simp [KeyFound, uuid, hparse, orValueError, bind, Except.bind]
              rw [hok]
              constructor
              · intro h
                exact ⟨fun x hx => ⟨idText, (Except.ok.inj hx).symm⟩, fun _ _ _ _ => h⟩
              · rintro ⟨-, h⟩
                exact h idText id rfl hparse
      | _ => simp [KeyFound, uuid, bind, Except.bind]

end KeyOf

/-- **Which documents are decoded or refused**: one case for each value on the way. -/
theorem keyFound_iff (data : Json) : KeyFound driver (keyOf py data) ↔ KeyShape py driver data := by
  cases data with
  | dict fields =>
      cases hts : subscript (.dict fields) "ts" with
      | error exc => exact keyFound_of_ts hts (by simp)
      | ok x =>
          cases x with
          | str text =>
              cases hiso : ZonedDateTime.fromisoformat py.otherIso text with
              | none => exact keyFound_of_iso hts hiso
              | some t => exact keyFound_of_datetime hts hiso
          | _ => exact keyFound_of_ts hts (by simp)
  | _ =>
      rw [keyShape_iff]
      simp [KeyFound, keyOf, subscript, bind, Except.bind]

/-! ## Decoding a key -/

/-- What `decode_cursor` makes of what it reads. -/
theorem keyFound_decodeCursor (cursor : String) :
    KeyFound driver (document py cursor >>= keyOf py) ↔
      (∃ message, decodeCursor py cursor = .error (.valueError message)) ∨
        ∃ t id, decodeCursor py cursor = .ok (t, id) ∧ t.offset ≠ none ∧
          driver.bindTimestamp t ≠ none := by
  unfold decodeCursor
  cases document py cursor >>= keyOf py with
  | ok key => simp [KeyFound]
  | error exc => cases exc <;> simp [KeyFound]

/-- **A cursor is decoded or refused** when its document is read and has the right shape. -/
theorem keyFound_cursor (cursor : String) : KeyFound driver (document py cursor >>= keyOf py) ↔
    document py cursor ≠ .error .recursionError ∧
      ∀ data, document py cursor = .ok data → KeyShape py driver data := by
  cases hdocument : document py cursor with
  | ok data =>
      have hread : (Except.ok data >>= keyOf py) = keyOf py data := rfl
      rw [hread, keyFound_iff]
      constructor
      · intro h
        refine ⟨by simp, ?_⟩
        intro data' hdata
        rw [← Except.ok.inj hdata]
        exact h
      · rintro ⟨-, h⟩
        exact h data rfl
  | error exc =>
      have hread : (Except.error exc >>= keyOf py) = .error exc := rfl
      rw [hread]
      rcases document_error hdocument with rfl | rfl
      · simp [KeyFound]
      · simp [KeyFound]

/-- The empty cursor has no document. -/
theorem document_empty (hpy : py.Lawful) : document py "" = .error .valueError :=
  loads_nil hpy

/-! ## The listing of nodes -/

section Nodes

variable {ilike : Node.Ilike} {nodes : List Node.NodeRow} {limit : Nat} {tag search : Option String}

/-- Nodes that can be shown make a response, whatever the key. -/
theorem returns_listResponse (hnodes : ∀ node ∈ nodes, Returns (nodeResponse (nodeToView node)))
    (key : Option NodeKey) : Returns (listResponse py.fmt limit
      (listNodesCursor ilike nodes (handlerQuery key limit tag search))) := by
  unfold listResponse
  rw [returns_bind]
  have hitems : ∀ view ∈ (listNodesCursor ilike nodes (handlerQuery key limit tag search)).items,
      Returns (nodeResponse view) := by
    intro view hview
    rcases List.mem_map.1 hview with ⟨node, hnode, rfl⟩
    have hsorted := List.mem_of_mem_take (List.mem_of_mem_take hnode)
    have hfiltered := List.mem_filter.1 ((List.mem_insertionSort inOrder).1 hsorted)
    exact hnodes node (List.mem_filter.1 hfiltered.1).1
  rcases returns_mapM.2 hitems with ⟨items, hitems⟩
  exact ⟨items, hitems, returns_ok _⟩

/-- With a key that is bound the listing does not fail. -/
theorem listNodes_ne_server {cursor : Option String} {decoded : Option (ZonedDateTime × Uuid)}
    {key : Option NodeKey} (hnodes : ∀ node ∈ nodes, Returns (nodeResponse (nodeToView node)))
    (hdecoded : cursorKey py cursor = .ok decoded) (hkey : bindKey driver decoded = .ok key) :
    listNodes py driver ilike nodes cursor limit tag search ≠ .error .server := by
  have hreturns : Returns (listResponse py.fmt limit
      (listNodesCursor ilike nodes (handlerQuery key limit tag search))) :=
    returns_listResponse hnodes key
  rcases hreturns with ⟨response, hresponse⟩
  unfold listNodes
  rw [bind_of_eq_ok hdecoded, bind_of_eq_ok hkey, hresponse]
  simp

/-- **When no listing of nodes fails because of a cursor**: it is refused, or its key is bound. -/
theorem listNodes_iff {cursor : String} (hne : cursor ≠ "") :
    (∀ (ilike : Node.Ilike) (nodes : List Node.NodeRow) (tag search : Option String),
      (∀ node ∈ nodes, Returns (nodeResponse (nodeToView node))) →
        listNodes py driver ilike nodes (some cursor) limit tag search ≠ .error .server) ↔
      (∃ message, decodeCursor py cursor = .error (.valueError message)) ∨
        ∃ t id, decodeCursor py cursor = .ok (t, id) ∧ driver.bindTimestamp t ≠ none := by
  have hkey : cursorKey py (some cursor) = (orInvalidCursor (decodeCursor py cursor)).map some :=
    if_neg hne
  cases hdecode : decodeCursor py cursor with
  | ok key =>
      rcases key with ⟨t, id⟩
      have hdecoded : cursorKey py (some cursor) = .ok (some (t, id)) := by
        rw [hkey, hdecode]
        rfl
      cases hbind : driver.bindTimestamp t with
      | some moment =>
          have hbound : bindKey driver (some (t, id)) = .ok (some (moment, id)) := by
            simp only [bindKey, hbind]
          refine iff_of_true ?_ (.inr ⟨t, id, rfl, by simp [hbind]⟩)
          intro ilike nodes tag search hnodes
          exact listNodes_ne_server hnodes hdecoded hbound
      | none =>
          refine iff_of_false ?_ (by simp [hbind])
          intro h
          have hfails : listNodes py driver (fun _ _ => false) [] (some cursor) limit none none =
              .error .server := by
            unfold listNodes
            rw [bind_of_eq_ok hdecoded]
            simp only [bindKey, hbind]
            rfl
          exact h _ [] none none (by simp) hfails
  | error raised =>
      cases raised with
      | valueError message =>
          refine iff_of_true ?_ (.inl ⟨message, rfl⟩)
          intro ilike nodes tag search _ hfails
          unfold listNodes at hfails
          rw [hkey, hdecode] at hfails
          cases hfails
      | uncaught exc =>
          refine iff_of_false ?_ (by simp)
          intro h
          have hfails : listNodes py driver (fun _ _ => false) [] (some cursor) limit none none =
              .error .server := by
            unfold listNodes
            rw [hkey, hdecode]
            rfl
          exact h _ [] none none (by simp) hfails

end Nodes

/-- **A cursor is handled as a key** exactly when its document has the right shape. -/
theorem keyHandled_iff (hpy : py.Lawful) (cursor : String) (limit : Nat) :
    (((∃ message, decodeCursor py cursor = .error (.valueError message)) ∨
        ∃ t id, decodeCursor py cursor = .ok (t, id) ∧ t.offset ≠ none) ∧
      ∀ (ilike : Node.Ilike) (nodes : List Node.NodeRow) (tag search : Option String),
        (∀ node ∈ nodes, Returns (nodeResponse (nodeToView node))) →
          listNodes py driver ilike nodes (some cursor) limit tag search ≠ .error .server) ↔
      document py cursor ≠ .error .recursionError ∧
        ∀ data, document py cursor = .ok data → KeyShape py driver data := by
  rw [← keyFound_cursor, keyFound_decodeCursor]
  by_cases hempty : cursor = ""
  · -- the listing does not decode the empty cursor, which has no document
    have hdecode : decodeCursor py cursor = .error (.valueError ("Invalid cursor: " ++ cursor)) := by
      unfold decodeCursor
      rw [hempty, document_empty hpy]
      rfl
    refine iff_of_true ⟨.inl ⟨_, hdecode⟩, ?_⟩ (.inl ⟨_, hdecode⟩)
    intro ilike nodes tag search hnodes
    have hdecoded : cursorKey py (some cursor) = .ok none := if_pos hempty
    exact listNodes_ne_server hnodes hdecoded rfl
  · rw [listNodes_iff hempty]
    constructor
    · rintro ⟨hrefused | ⟨t, id, hdecode, haware⟩, hnodes⟩
      · exact .inl hrefused
      · rcases hnodes with hrefused | ⟨t', id', hdecode', hbound⟩
        · exact .inl hrefused
        · have hsame := Except.ok.inj (hdecode.symm.trans hdecode')
          rw [← (Prod.mk.inj hsame).1] at hbound
          exact .inr ⟨t, id, hdecode, haware, hbound⟩
    · rintro (hrefused | ⟨t, id, hdecode, haware, hbound⟩)
      · exact ⟨.inl hrefused, .inl hrefused⟩
      · exact ⟨.inr ⟨t, id, hdecode, haware⟩, .inr ⟨t, id, hdecode, hbound⟩⟩

/-! ## The listing of scripts -/

/-- The OFFSET of a page. -/
theorem sqlOffset_eq (offset : Int) {limit : Nat} (hl : 1 ≤ limit) :
    sqlOffset offset limit = offset / limit * (limit + offset % limit) := by
  have hne : limit ≠ 0 := by omega
  have hmod : 0 ≤ offset % limit := Int.emod_nonneg offset (by omega)
  have hsize : ((if (offset % limit).toNat ≠ 0 then limit + (offset % limit).toNat else limit : Nat)
      : Int) = limit + offset % limit := by
    split_ifs with hzero
    · omega
    · omega
  simp only [sqlOffset, paginationParams, if_pos hne, hsize, Int.add_sub_cancel]

/-- It is negative exactly when the offset is. -/
theorem sqlOffset_nonneg_iff (offset : Int) {limit : Nat} (hl : 1 ≤ limit) :
    0 ≤ sqlOffset offset limit ↔ 0 ≤ offset := by
  have hpos : (0 : Int) < limit := by omega
  have hmod : 0 ≤ offset % limit := Int.emod_nonneg offset (by omega)
  have hsize : (0 : Int) < limit + offset % limit := by omega
  rw [sqlOffset_eq offset hl, Int.mul_nonneg_iff_of_pos_right hsize,
    Int.ediv_nonneg_iff_of_pos hpos]

/-- The listing of scripts fails where the OFFSET cannot be bound. -/
theorem listScripts_server_iff {ρ : Type} (rows : List ρ) {cursor : Option String} {limit : Nat}
    {offset : Int} (hoffset : parseCursorOffset py cursor = .ok offset) :
    listScripts py driver rows cursor limit = .error .server ↔
      sqlOffset offset limit < 0 ∨ (driver.maxOffset : Int) < sqlOffset offset limit := by
  have hquery : ((paginationParams offset limit).1 - 1) * (paginationParams offset limit).2.1 =
      sqlOffset offset limit := rfl
  unfold listScripts
  rw [bind_of_eq_ok hoffset]
  show (getAllScripts driver rows (paginationParams offset limit).1
    (paginationParams offset limit).2.1 >>= _) = _ ↔ _
  unfold getAllScripts selectPage
  rw [hquery]
  by_cases hbound : sqlOffset offset limit < 0 ∨ (driver.maxOffset : Int) < sqlOffset offset limit
  · rw [if_pos hbound]
    exact iff_of_true rfl hbound
  · rw [if_neg hbound]
    exact iff_of_false (by simp [bind, Except.bind]) hbound

theorem decodeOffset_eq_ok {cursor : String} {n : Int} : decodeOffset py cursor = .ok n ↔
    ∃ data x, offsetDocument py cursor = .ok data ∧ subscript data "offset" = .ok x ∧
      toInt py x = .ok n := by
  have hread : (do
      let data ← offsetDocument py cursor
      let x ← subscript data "offset"
      toInt py x : Except Exc Int) = .ok n ↔
      ∃ data x, offsetDocument py cursor = .ok data ∧ subscript data "offset" = .ok x ∧
        toInt py x = .ok n := by
    simp only [bind_eq_ok]
    constructor
    · rintro ⟨data, hdata, x, hx, hn⟩
      exact ⟨data, x, hdata, hx, hn⟩
    · rintro ⟨data, x, hdata, hx, hn⟩
      exact ⟨data, hdata, x, hx, hn⟩
  rw [← hread]
  unfold decodeOffset
  split
  · rename_i offset hoffset
    rw [hoffset, Except.ok.injEq, Except.ok.injEq]
  · rename_i exc hexc
    rw [hexc]
    simp

/-- **A cursor is handled as an offset** exactly when its offset is not negative and its page can
be asked for. -/
theorem offsetHandled_iff (hpy : py.Lawful) (cursor : String) {limit : Nat} (hl : 1 ≤ limit) :
    ((parseCursorOffset py (some cursor) = .error (.http 422 "Invalid cursor") ∨
        ∃ n, parseCursorOffset py (some cursor) = .ok n ∧ 0 ≤ sqlOffset n limit) ∧
      ∀ (ρ : Type) (rows : List ρ),
        listScripts py driver rows (some cursor) limit ≠ .error .server) ↔
      ∀ data x n, offsetDocument py cursor = .ok data → subscript data "offset" = .ok x →
        toInt py x = .ok n → 0 ≤ n ∧ n / limit * (limit + n % limit) ≤ driver.maxOffset := by
  have hpage : ∀ n : Int, parseCursorOffset py (some cursor) = .ok n →
      ((∀ (ρ : Type) (rows : List ρ),
          listScripts py driver rows (some cursor) limit ≠ .error .server) ↔
        0 ≤ sqlOffset n limit ∧ sqlOffset n limit ≤ driver.maxOffset) := by
    intro n hn
    constructor
    · intro h
      have hfine := h Unit []
      rw [Ne, listScripts_server_iff [] hn] at hfine
      omega
    · rintro ⟨hnonneg, hbound⟩ ρ rows hfails
      rw [listScripts_server_iff rows hn] at hfails
      omega
  by_cases hempty : cursor = ""
  · have hparse : parseCursorOffset py (some cursor) = .ok 0 := if_pos hempty
    have hzero : sqlOffset 0 limit = 0 := by
      rw [sqlOffset_eq 0 hl]
      simp
    have hdocument : offsetDocument py cursor = .error .valueError := by
      rw [hempty]
      exact loads_nil hpy
    refine iff_of_true ⟨.inr ⟨0, hparse, by rw [hzero]⟩, ?_⟩ ?_
    · rw [hpage 0 hparse, hzero]
      omega
    · intro data x n hdata
      rw [hdocument] at hdata
      cases hdata
  · have hparse : parseCursorOffset py (some cursor) = orInvalidCursor (decodeOffset py cursor) :=
      if_neg hempty
    cases hdecode : decodeOffset py cursor with
    | ok n =>
        have hn : parseCursorOffset py (some cursor) = .ok n := by
          rw [hparse, hdecode]
          rfl
        have hright : (∀ data x m, offsetDocument py cursor = .ok data →
            subscript data "offset" = .ok x → toInt py x = .ok m →
              0 ≤ m ∧ m / limit * (limit + m % limit) ≤ driver.maxOffset) ↔
            0 ≤ n ∧ n / limit * (limit + n % limit) ≤ driver.maxOffset := by
          constructor
          · intro h
            rcases decodeOffset_eq_ok.1 hdecode with ⟨data, x, hdata, hx, hint⟩
            exact h data x n hdata hx hint
          · intro h data x m hdata hx hint
            have hm := decodeOffset_eq_ok.2 ⟨data, x, hdata, hx, hint⟩
            rw [← Except.ok.inj (hdecode.symm.trans hm)]
            exact h
        rw [hright, hpage n hn, ← sqlOffset_eq n hl, ← sqlOffset_nonneg_iff n hl, hn]
        constructor
        · rintro ⟨-, h⟩
          exact h
        · intro h
          exact ⟨.inr ⟨n, rfl, h.1⟩, h⟩
    | error raised =>
        have hraised : raised = .valueError ("Invalid cursor: " ++ cursor) := by
          unfold decodeOffset at hdecode
          split at hdecode
          · cases hdecode
          · exact (Except.error.inj hdecode).symm
        have hrefused : parseCursorOffset py (some cursor) = .error (.http 422 "Invalid cursor") := by
          rw [hparse, hdecode, hraised]
          rfl
        refine iff_of_true ⟨.inl hrefused, ?_⟩ ?_
        · intro ρ rows hfails
          unfold listScripts at hfails
          rw [hrefused] at hfails
          cases hfails
        · intro data x n hdata hx hint
          rw [decodeOffset_eq_ok.2 ⟨data, x, hdata, hx, hint⟩] at hdecode
          cases hdecode

/-- **When cursors are decoded or refused.**  What this API encodes reads back.  A text that a
client sends is handled exactly when the documents in it have the shape that the decoders take for
granted. -/
theorem cursor_handled_iff (py : Decoders) (hpy : py.Lawful) (driver : Driver) :
    (∀ t id, decodeCursor py (encodeCursor py t id) = .ok (inUtc t, id)) ∧
      ∀ (cursor : String) (limit : Nat), 1 ≤ limit →
        (CursorHandled py driver cursor limit ↔ CursorUsable py driver cursor limit) := by
  refine ⟨decodeCursor_encodeCursor hpy, ?_⟩
  intro cursor limit hl
  have hkey := @keyHandled_iff py driver hpy cursor limit
  have hoffset := @offsetHandled_iff py driver hpy cursor limit hl
  constructor
  · rintro ⟨hdecoded, hparsed, hnodes, hscripts⟩
    rcases hkey.1 ⟨hdecoded, hnodes⟩ with ⟨hnested, hshape⟩
    exact ⟨hnested, hshape, hoffset.1 ⟨hparsed, hscripts⟩⟩
  · rintro ⟨hnested, hshape, hnumber⟩
    rcases hkey.2 ⟨hnested, hshape⟩ with ⟨hdecoded, hnodes⟩
    rcases hoffset.2 hnumber with ⟨hparsed, hscripts⟩
    exact ⟨hdecoded, hparsed, hnodes, hscripts⟩

end Decode

/-! ## Two cursors -/

/-- An interpreter and a database for cursors as this API encodes them. -/
def plainDecoders : Decoders :=
  { plainInterpreter with
    fmt := canonicalFormats, limit := fun _ => none, surrogates := fun _ => none
    otherIso := fun _ => none }

theorem plainDecoders_lawful : plainDecoders.Lawful :=
  ⟨canonicalFormats_lawful, fun _ _ => rfl, rfl, rfl⟩

/-- Moments of UTC are bound, and what fits into four bytes. -/
def plainDriver : Driver where
  bindTimestamp t := if t.offset = some .utc then some t.fields else none
  maxOffset := 2147483647

/-- A cursor with an offset is usable. -/
theorem cursorUsable_offset : CursorUsable plainDecoders plainDriver (encodeOffset 40) 20 := by
  have hplain : Json.Plain (.dict [("offset", .int 40)]) := ⟨by simp, trivial, trivial⟩
  have hdocument : document plainDecoders (encodeOffset 40) = .ok (.dict [("offset", .int 40)]) :=
    document_encodeObject (List.cons_ne_nil _ _) hplain rfl
  have hoffset : offsetDocument plainDecoders (encodeOffset 40) =
      .ok (.dict [("offset", .int 40)]) :=
    offsetDocument_encodeObject (List.cons_ne_nil _ _) hplain rfl
  refine ⟨?_, ?_, ?_⟩
  · rw [hdocument]
    simp
  · intro data hdata
    have hts : subscript data "ts" = .error .keyError := by
      rw [← Except.ok.inj (hdocument.symm.trans hdata)]
      rfl
    refine ⟨⟨_, (Except.ok.inj (hdocument.symm.trans hdata)).symm⟩, ?_, ?_, ?_⟩
    · intro x hx
      rw [hts] at hx
      cases hx
    · intro text t x hx
      rw [hts] at hx
      cases hx
    · intro text t idText id hx
      rw [hts] at hx
      cases hx
  · intro data x n hdata hx hn
    rw [← Except.ok.inj (hoffset.symm.trans hdata)] at hx
    rw [← Except.ok.inj hx] at hn
    rw [← Except.ok.inj hn]
    decide

/-- Half past ten on a day in January. -/
def halfPastTen : DateTime :=
  ⟨2026, 1, 15, 10, 30, 0, 0, Node.fleetMoment.year_ok, Node.fleetMoment.month_ok, by decide,
    by decide, by decide, Node.fleetMoment.second_ok, Node.fleetMoment.microsecond_ok⟩

/-- A naive moment reads back as one of UTC, and a cursor with an offset is handled. -/
theorem cursor_handled_offset :
    decodeCursor plainDecoders (encodeCursor plainDecoders ⟨halfPastTen, none⟩ 7) =
      .ok (⟨halfPastTen, some .utc⟩, 7) ∧
      CursorHandled plainDecoders plainDriver (encodeOffset 40) 20 := by
  have hall := cursor_handled_iff plainDecoders plainDecoders_lawful plainDriver
  exact ⟨hall.1 ⟨halfPastTen, none⟩ 7,
    (hall.2 (encodeOffset 40) 20 (by decide)).2 cursorUsable_offset⟩

/-- Every cursor is decoded or refused. -/
def CursorsHandled (py : Decoders) (driver : Driver) : Prop :=
  (∀ t id, decodeCursor py (encodeCursor py t id) = .ok (inUtc t, id)) ∧
    ∀ (cursor : String) (limit : Nat), 1 ≤ limit → CursorHandled py driver cursor limit

theorem encodeObject_number : encodeObject (.dict [("ts", .int 5)]) = "eyJ0cyI6IDV9" := by
  decide

/-- A `ts` that is a number is a `TypeError`, which `decode_cursor` does not catch. -/
theorem not_cursorsHandled : ¬CursorsHandled plainDecoders plainDriver := by
  intro h
  have hplain : Json.Plain (.dict [("ts", .int 5)]) := ⟨by simp, trivial, trivial⟩
  have hdocument : document plainDecoders "eyJ0cyI6IDV9" = .ok (.dict [("ts", .int 5)]) := by
    rw [← encodeObject_number]
    exact document_encodeObject (List.cons_ne_nil _ _) hplain rfl
  have hdecode : decodeCursor plainDecoders "eyJ0cyI6IDV9" = .error (.uncaught .typeError) := by
    unfold decodeCursor
    rw [hdocument]
    rfl
  rcases (h.2 "eyJ0cyI6IDV9" 20 (by decide)).decoded with ⟨message, hrefused⟩ | ⟨t, id, hkey, -⟩
  · rw [hdecode] at hrefused
    cases hrefused
  · rw [hdecode] at hkey
    cases hkey

end Cursors
end NodeNexus
