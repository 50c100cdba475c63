import NodeNexus.Audit.Origin
import NodeNexus.Lib.Csv
import NodeNexus.Listing.Cursor

/-!
# The audit trail

From the events that the services enqueue, over the outbox and the audit logs, to the texts
that a client gets from `export_audit`.

* `AuditEvent.payload` — what `_outbox_model` stores of an event.
* `exportRows` and `exportAudit` — `SqlAlchemyAuditExporter.export_audit` and the handler,
  with `rowsToCsv` and `rowsToJson`.
* `Snapshot` — what one request finds; every page is cut out of an export of its own.
* `export_pages` — the pages of an export, read back by their format and put together, are the
  rows of the export, as long as the same logs are selected for each page.
* `exported_events` — in every run of the outbox, each row of an export is an event that was
  enqueued, with its details.
-/

namespace NodeNexus
namespace Audit

open Content Listing

/-! ## Events -/

/-- `AuditEventDTO`. -/
structure AuditEvent where
  action : String
  nodeId : Option Uuid
  user : Option String
  details : Option Json.Fields

/-- `json.dumps(event.details) if event.details else None`. -/
def AuditEvent.detailsText (event : AuditEvent) : Option String :=
  match event.details with
  | none | some [] => none
  | some details => some (Json.dumps (.dict details))

/-- A text, or `None`. -/
def textOrNull (text : Option String) : Json := text.elim .null .str

/-- The payload of `_outbox_model`. -/
def AuditEvent.payload (fmt : Formats) (event : AuditEvent) : Json :=
  .dict [("node_id", textOrNull (event.nodeId.map fmt.printUuid)), ("action", .str event.action),
    ("user", textOrNull event.user), ("details", textOrNull event.detailsText)]

/-! ## The export -/

/-- `AuditExportFormat`. -/
inductive AuditExportFormat where
  | csv
  | json
deriving DecidableEq

/-- `AuditExportQueryDTO`. -/
structure AuditExportQuery where
  dateFrom : Option Time
  dateTo : Option Time
  action : Option String
  nodeId : Option Uuid
  fmt : AuditExportFormat

/-- The conditions of the query. -/
def AuditExportQuery.selects (query : AuditExportQuery) (log : AuditLog) : Bool :=
  query.dateFrom.all (fun t => decide (t ≤ log.createdAt)) &&
    query.dateTo.all (fun t => decide (log.createdAt ≤ t)) &&
    query.action.all (fun action => decide (log.action = action)) &&
    query.nodeId.all fun nodeId => decide (log.nodeId = some nodeId)

/-- How the database orders rows by `created_at DESC`: it chooses the order of rows of one
moment. -/
structure NewestFirst where
  order : List AuditLog → List AuditLog
  perm : ∀ logs, (order logs).Perm logs
  sorted : ∀ logs, (order logs).Pairwise fun a b => b.createdAt ≤ a.createdAt

/-- What a request finds: the logs, and the order they are read in this time. -/
structure Snapshot where
  logs : List AuditLog
  db : NewestFirst

/-- The logs that are exported, in no order. -/
def Snapshot.selected (found : Snapshot) (query : AuditExportQuery) : List AuditLog :=
  found.logs.filter query.selects

/-- What runs outside: the text forms of ids and times, and the interpreter. -/
structure ExportEnv where
  fmt : Formats
  printTime : Time → String
  py : Interpreter

/-- `AuditExportRowDTO`. -/
structure AuditExportRow where
  id : String
  action : String
  nodeId : Option String
  user : Option String
  details : Option String
  createdAt : String

/-- `.limit(10000)`. -/
def exportLimit : Nat := 10000

/-- The row of a log. -/
def exportRow (env : ExportEnv) (log : AuditLog) : AuditExportRow where
  id := env.fmt.printUuid log.id
  action := log.action
  nodeId := log.nodeId.map env.fmt.printUuid
  user := log.user
  details := log.details
  createdAt := env.printTime log.createdAt

/-- `SqlAlchemyAuditExporter.export_audit`. -/
def exportRows (env : ExportEnv) (found : Snapshot) (query : AuditExportQuery) :
    List AuditExportRow :=
  ((found.db.order (found.selected query)).take exportLimit).map (exportRow env)

/-- The names of the columns. -/
def columns : List String := ["id", "action", "node_id", "user", "details", "created_at"]

/-- The cells of a row; `csv` writes nothing for `None`. -/
def AuditExportRow.cells (row : AuditExportRow) : List String :=
  [row.id, row.action, row.nodeId.getD "", row.user.getD "", row.details.getD "", row.createdAt]

/-- `rows_to_csv`. -/
def rowsToCsv (rows : List AuditExportRow) : String :=
  if rows = [] then ""
  else String.ofList (Csv.write ((columns :: rows.map (·.cells)).map (·.map String.toList)))

/-- The object of a row. -/
def AuditExportRow.json (row : AuditExportRow) : Json :=
  .dict [("id", .str row.id), ("action", .str row.action), ("node_id", textOrNull row.nodeId),
    ("user", textOrNull row.user), ("details", textOrNull row.details),
    ("created_at", .str row.createdAt)]

/-- `rows_to_json`. -/
def rowsToJson (rows : List AuditExportRow) : Json := .list (rows.map (·.json))

/-- An index of a slice, counted from the end when it is negative. -/
def sliceIndex (length : Nat) (i : Int) : Nat :=
  if i < 0 then (i + length).toNat else min i.toNat length

/-- `rows[start:stop]`. -/
def slice {ρ : Type} (rows : List ρ) (start stop : Int) : List ρ :=
  (rows.drop (sliceIndex rows.length start)).take
    (sliceIndex rows.length stop - sliceIndex rows.length start)

/-- The handler `export_audit`; `none` is the answer with status 422. -/
def exportAudit (env : ExportEnv) (found : Snapshot) (query : AuditExportQuery)
    (cursor : Option String) (limit : Nat) : Option String := do
  let rows := exportRows env found query
  let offset ← parseCursorOffset env.py cursor
  let sliced := slice rows offset (offset + limit)
  match query.fmt with
  | .json => some (Json.dumps (rowsToJson sliced))
  | .csv => some (rowsToCsv sliced)

/-! ## Pages -/

theorem slice_natCast {ρ : Type} (rows : List ρ) (offset limit : Nat) :
    slice rows offset (offset + limit) = (rows.drop offset).take limit := by
  have hstart : sliceIndex rows.length (offset : Int) = min offset rows.length := by
    simp [sliceIndex]
  have hstop : sliceIndex rows.length (offset + limit : Int) =
      min (offset + limit) rows.length := by
    unfold sliceIndex
    rw [if_neg (by omega)]
    omega
  unfold slice
  rw [hstart, hstop]
  by_cases h : offset ≤ rows.length
  · rw [Nat.min_eq_left h, List.take_eq_take_iff, List.length_drop]
    omega
  · have hoff : rows.length ≤ offset := by omega
    rw [Nat.min_eq_right hoff, List.drop_length, List.drop_eq_nil_of_le hoff]
    simp

/-- The records of a CSV text, less its header. -/
def readCsv (text : String) : List (List String) :=
  (Csv.read text.toList).tail.map (·.map String.ofList)

/-- The objects of a JSON text. -/
def readJson (py : Interpreter) (text : String) : Option (List Json) :=
  match Json.loads py.float text with
  | some (.list objects) => some objects
  | _ => none

theorem readCsv_rowsToCsv (rows : List AuditExportRow) :
    readCsv (rowsToCsv rows) = rows.map (·.cells) := by
  unfold readCsv rowsToCsv
  split
  · rename_i h
    rw [h]
    rfl
  · rw [String.toList_ofList, Csv.read_write]
    simp [Function.comp_def]

theorem plain_textOrNull (text : Option String) : Json.Plain (textOrNull text) := by
  cases text <;> trivial

/-- The objects of an export read back. -/
theorem plain_json (row : AuditExportRow) : Json.Plain row.json := by
  refine ⟨?_, trivial, trivial, ?_, ?_, ?_, trivial, trivial⟩
  · show columns.Nodup
    decide
  · exact plain_textOrNull _
  · exact plain_textOrNull _
  · exact plain_textOrNull _

theorem plain_rowsToJson (rows : List AuditExportRow) : Json.Plain (rowsToJson rows) := by
  show Json.PlainItems _
  induction rows with
  | nil => trivial
  | cons row rows ih => exact ⟨plain_json row, ih⟩

theorem readJson_rowsToJson (py : Interpreter) (rows : List AuditExportRow) :
    readJson py (Json.dumps (rowsToJson rows)) = some (rows.map (·.json)) := by
  unfold readJson
  rw [Json.loads_dumps py.float (plain_rowsToJson rows)]
  rfl

/-- The page at an offset. -/
theorem exportAudit_encodeOffset (env : ExportEnv) (found : Snapshot)
    (query : AuditExportQuery) (offset limit : Nat) :
    exportAudit env found query (some (encodeOffset offset)) limit =
      some (match query.fmt with
        | .json => Json.dumps (rowsToJson (((exportRows env found query).drop offset).take limit))
        | .csv => rowsToCsv (((exportRows env found query).drop offset).take limit)) := by
  unfold exportAudit
  rw [parseCursorOffset_encodeOffset]
  simp only [Option.bind_eq_bind, Option.bind_some, slice_natCast]
  cases query.fmt <;> rfl

/-- Pages of one size, one after the other, are the front of a list. -/
theorem flatMap_pages {ρ : Type} (rows : List ρ) (limit n : Nat) :
    ((List.range n).flatMap fun k => (rows.drop (k * limit)).take limit) =
      rows.take (n * limit) := by
  induction n with
  | zero => simp
  | succ n ih =>
      rw [List.range_succ, List.flatMap_append, ih, Nat.succ_mul, List.take_add]
      simp

/-- For the first `n` requests the same logs are selected, of different moments. -/
structure SelectedAlike (found : Nat → Snapshot) (query : AuditExportQuery) (n : Nat) : Prop where
  same : ∀ k < n, ((found k).selected query).Perm ((found 0).selected query)
  moments : (((found 0).selected query).map (·.createdAt)).Nodup

/-- Logs of different moments have one order, whatever the database does. -/
theorem exportRows_congr (env : ExportEnv) {found found' : Snapshot} {query : AuditExportQuery}
    (hsame : (found'.selected query).Perm (found.selected query))
    (hmoments : ((found.selected query).map (·.createdAt)).Nodup) :
    exportRows env found' query = exportRows env found query := by
  have hfound := found.db.perm (found.selected query)
  have hperm : (found'.db.order (found'.selected query)).Perm
      (found.db.order (found.selected query)) :=
    (found'.db.perm _).trans (hsame.trans hfound.symm)
  have hanti : ∀ a ∈ found'.db.order (found'.selected query),
      ∀ b ∈ found.db.order (found.selected query),
        b.createdAt ≤ a.createdAt → a.createdAt ≤ b.createdAt → a = b := by
    intro a ha b hb hba hab
    have ha' := hfound.mem_iff.1 (hperm.mem_iff.1 ha)
    exact List.inj_on_of_nodup_map hmoments ha' (hfound.mem_iff.1 hb) (Nat.le_antisymm hab hba)
  have horder := List.Perm.eq_of_pairwise (fun a b ha hb => hanti a ha b hb)
    (found'.db.sorted _) (found.db.sorted _) hperm
  unfold exportRows
  rw [horder]

/-- The texts of the first `n` pages; each request finds what is there by then. -/
def exportTexts (env : ExportEnv) (found : Nat → Snapshot) (query : AuditExportQuery)
    (limit n : Nat) : Option (List String) :=
  (List.range n).mapM fun k =>
    exportAudit env (found k) query (some (encodeOffset (k * limit))) limit

/-- The pages are those of one export. -/
theorem exportTexts_eq (env : ExportEnv) {found : Nat → Snapshot} {query : AuditExportQuery}
    {n : Nat} (halike : SelectedAlike found query n) (limit : Nat) :
    exportTexts env found query limit n = some ((List.range n).map fun k =>
      match query.fmt with
        | .json => Json.dumps
            (rowsToJson (((exportRows env (found 0) query).drop (k * limit)).take limit))
        | .csv => rowsToCsv (((exportRows env (found 0) query).drop (k * limit)).take limit)) := by
  have hpage : ∀ k ∈ List.range n,
      exportAudit env (found k) query (some (encodeOffset (k * limit))) limit =
        exportAudit env (found 0) query (some (encodeOffset (k * limit))) limit := by
    intro k hk
    have hrows := exportRows_congr env (halike.same k (List.mem_range.1 hk)) halike.moments
    rw [exportAudit_encodeOffset, exportAudit_encodeOffset, hrows]
  unfold exportTexts
  rw [mapM_congr hpage]
  simp only [exportAudit_encodeOffset]
  exact List.mapM_pure

/-- **The pages of an export are its rows.**  As long as the same logs are selected for each page,
and no two of them are of one moment, a client that asks for the first pages gets them all, and
what it reads from them, put together, are the first rows of the export, each once and in their
order: the objects of JSON as they are, and the cells of CSV with nothing for what is `None`,
whatever the texts in them contain. -/
theorem export_pages (env : ExportEnv) (found : Nat → Snapshot) (query : AuditExportQuery)
    (limit n : Nat) (halike : SelectedAlike found query n) :
    ∃ texts, exportTexts env found query limit n = some texts ∧
      (query.fmt = .csv → texts.flatMap readCsv =
        ((exportRows env (found 0) query).take (n * limit)).map (·.cells)) ∧
      (query.fmt = .json → ∃ pages, texts.mapM (readJson env.py) = some pages ∧
        pages.flatten = ((exportRows env (found 0) query).take (n * limit)).map (·.json)) := by
  refine ⟨_, exportTexts_eq env halike limit, fun hcsv => ?_, fun hjson => ?_⟩
  · simp only [hcsv, List.flatMap_map, readCsv_rowsToCsv]
    rw [← List.map_flatMap, flatMap_pages]
  · refine ⟨(List.range n).map fun k =>
      (((exportRows env (found 0) query).drop (k * limit)).take limit).map (·.json), ?_, ?_⟩
    · simp only [hjson, List.mapM_map, Function.comp_def, readJson_rowsToJson]
      exact List.mapM_pure
    · rw [← List.flatMap_def, ← List.map_flatMap, flatMap_pages]

/-- `created_at DESC`, rows of one moment in the order they are in. -/
def newestFirst : NewestFirst where
  order logs := logs.insertionSort fun a b => b.createdAt ≤ a.createdAt
  perm logs := List.perm_insertionSort _ logs
  sorted logs := by
    have htotal : Std.Total fun a b : AuditLog => b.createdAt ≤ a.createdAt :=
      ⟨fun a b => Nat.le_total b.createdAt a.createdAt⟩
    have htrans : IsTrans AuditLog fun a b => b.createdAt ≤ a.createdAt :=
      ⟨fun a b c hab hbc => Nat.le_trans hbc hab⟩
    exact List.pairwise_insertionSort _ logs

/-- A plain environment. -/
def plainExport : ExportEnv where
  fmt := canonicalFormats
  printTime t := toString t
  py := ⟨id, fun _ => none, fun _ => none⟩

/-- A log of an action, with details that need quotes. -/
def sampleLog (id : Uuid) (action : String) (createdAt : Time) : AuditLog :=
  ⟨id, none, action, some "admin", some "\x7b\"name\": \"web,\\n1\"\x7d", createdAt⟩

/-- The first request finds three logs, and the next one another one beside them, and all of them
in another order. -/
def sampleSnapshots : Nat → Snapshot
  | 0 => ⟨[sampleLog 1 "node.create" 3, sampleLog 2 "node.create" 9, sampleLog 3 "node.create" 5],
      newestFirst⟩
  | _ => ⟨[sampleLog 4 "node.delete" 9, sampleLog 3 "node.create" 5, sampleLog 1 "node.create" 3,
      sampleLog 2 "node.create" 9], newestFirst⟩

/-- Two pages of two rows are the three rows, the newest ones first. -/
theorem export_pages_two : ∃ texts,
    exportTexts plainExport sampleSnapshots ⟨none, none, some "node.create", none, .csv⟩ 2 2 =
        some texts ∧
      texts.flatMap readCsv =
        [[canonicalFormats.printUuid 2, "node.create", "", "admin", "\x7b\"name\": \"web,\\n1\"\x7d", "9"],
          [canonicalFormats.printUuid 3, "node.create", "", "admin", "\x7b\"name\": \"web,\\n1\"\x7d", "5"],
          [canonicalFormats.printUuid 1, "node.create", "", "admin", "\x7b\"name\": \"web,\\n1\"\x7d", "3"]] := by
  have halike : SelectedAlike sampleSnapshots ⟨none, none, some "node.create", none, .csv⟩ 2 := by
    refine ⟨fun k hk => ?_, by decide⟩
    cases k with
    | zero => exact .refl _
    | succ k =>
        show List.Perm [sampleLog 3 "node.create" 5, sampleLog 1 "node.create" 3,
            sampleLog 2 "node.create" 9]
          [sampleLog 1 "node.create" 3, sampleLog 2 "node.create" 9, sampleLog 3 "node.create" 5]
        exact (List.perm_append_singleton (sampleLog 3 "node.create" 5) _).symm
  obtain ⟨texts, htexts, hcsv, -⟩ := export_pages plainExport sampleSnapshots
    ⟨none, none, some "node.create", none, .csv⟩ 2 2 halike
  exact ⟨texts, htexts, (hcsv rfl).trans rfl⟩

/-! ## From the events to the logs -/

/-- The details are a JSON object with distinct keys. -/
def AuditEvent.Plain (event : AuditEvent) : Prop :=
  ∀ details, event.details = some details → Json.Plain (.dict details)

/-- The details, where there are any. -/
def AuditEvent.given (event : AuditEvent) : Option Json.Fields :=
  event.details.filter fun details => !details.isEmpty

/-- The details read back from their text. -/
theorem loads_detailsText (py : Interpreter) {event : AuditEvent} (hplain : event.Plain) :
    event.detailsText.map (Json.loads py.float) =
      event.given.map fun details => some (.dict details) := by
  unfold AuditEvent.detailsText AuditEvent.given
  rcases hdetails : event.details with _ | _ | ⟨entry, rest⟩
  · rfl
  · rfl
  · have hload := Json.loads_dumps py.float (hplain _ hdetails)
    simp [hload]

@[simp] theorem strOrNone_textOrNull (text : Option String) :
    strOrNone (textOrNull text) = some text := by
  cases text <;> rfl

theorem logNode_printUuid {fmt : Formats} (hfmt : fmt.Lawful) (nodeExists : Uuid → Bool)
    (nodeId : Option Uuid) :
    logNode fmt.parseUuid nodeExists (nodeId.map fmt.printUuid) =
      .ok (nodeId.filter nodeExists) := by
  cases nodeId with
  | none => rfl
  | some u =>
      rw [Option.map_some]
      unfold logNode
      split
      · contradiction
      · rename_i h
        exact absurd (Option.some.inj h) (hfmt.print_ne_empty u)
      · rename_i text h
        cases h
        simp only [hfmt.parse_print, Option.filter_some]

/-- **What is logged of an event.**  The log has its action, its user and the text of its
details, and its node when there is one. -/
theorem toAuditLog_payload {fmt : Formats} (hfmt : fmt.Lawful) (nodeExists : Uuid → Bool)
    (now : Time) (id : Uuid) (event : AuditEvent) :
    toAuditLog fmt.parseUuid nodeExists now id (event.payload fmt) =
      .ok ⟨id, event.nodeId.filter nodeExists, event.action, event.user, event.detailsText, now⟩ := by
  simp [toAuditLog, AuditEvent.payload, Json.getD, Json.get, List.lookup_cons,
    logNode_printUuid hfmt, bind, Except.bind]

/-! ## From the events to the export -/

/-- The row shows the event: its action and its user, its node if that is kept, and a text that its
details read back from, if it has any. -/
structure AuditExportRow.Shows (env : ExportEnv) (event : AuditEvent) (keeps : Uuid → Bool)
    (row : AuditExportRow) : Prop where
  action : row.action = event.action
  user : row.user = event.user
  nodeId : row.nodeId = (event.nodeId.filter keeps).map env.fmt.printUuid
  details : row.details.map (Json.loads env.py.float) =
    event.given.map fun details => some (.dict details)

theorem mem_exportRows {env : ExportEnv} {found : Snapshot} {query : AuditExportQuery}
    {row : AuditExportRow} (h : row ∈ exportRows env found query) :
    ∃ log ∈ found.logs, query.selects log = true ∧ exportRow env log = row := by
  obtain ⟨log, hlog, rfl⟩ := List.mem_map.1 h
  have hmem := (found.db.perm _).mem_iff.1 (List.mem_of_mem_take hlog)
  exact ⟨log, (List.mem_filter.1 hmem).1, (List.mem_filter.1 hmem).2, rfl⟩

/-- A selection within the limit is exported as a whole. -/
theorem exportRow_mem {env : ExportEnv} {found : Snapshot} {query : AuditExportQuery}
    (hfew : (found.selected query).length ≤ exportLimit) {log : AuditLog} (hlog : log ∈ found.logs)
    (hselects : query.selects log = true) : exportRow env log ∈ exportRows env found query := by
  have hlength : (found.db.order (found.selected query)).length ≤ exportLimit := by
    rwa [(found.db.perm _).length_eq]
  unfold exportRows
  rw [List.take_of_length_le hlength]
  exact List.mem_map_of_mem ((found.db.perm _).mem_iff.2 (List.mem_filter.2 ⟨hlog, hselects⟩))

theorem printUuid_injective {fmt : Formats} (hfmt : fmt.Lawful) :
    Function.Injective fmt.printUuid := by
  intro u v h
  have hparse := congrArg fmt.parseUuid h
  rw [hfmt.parse_print, hfmt.parse_print] at hparse
  exact Option.some.inj hparse

/-- No log is exported twice. -/
theorem nodup_exportRows {env : ExportEnv} (hfmt : env.fmt.Lawful) (logs : Table AuditLog.id)
    (db : NewestFirst) (query : AuditExportQuery) :
    ((exportRows env ⟨logs.rows, db⟩ query).map (·.id)).Nodup := by
  have hids : (logs.rows.map AuditLog.id).Nodup := logs.nodup
  have hselected : ((logs.rows.filter query.selects).map AuditLog.id).Nodup :=
    (List.Sublist.map _ List.filter_sublist).nodup hids
  have hordered : ((db.order (logs.rows.filter query.selects)).map AuditLog.id).Nodup :=
    ((db.perm _).map _).nodup_iff.2 hselected
  have htaken : (((db.order (logs.rows.filter query.selects)).take exportLimit).map
      AuditLog.id).Nodup := (List.Sublist.map _ (List.take_sublist _ _)).nodup hordered
  have hprinted := htaken.map (printUuid_injective hfmt)
  unfold exportRows
  rw [List.map_map] at hprinted ⊢
  exact hprinted

/-- The row of a log shows the event it was made of. -/
theorem shows_exportRow {env : ExportEnv} (hfmt : env.fmt.Lawful) {event : AuditEvent}
    (hplain : event.Plain) {nodeExists : Uuid → Bool} {now : Time} {id : Uuid} {made : AuditLog}
    (h : toAuditLog env.fmt.parseUuid nodeExists now id (event.payload env.fmt) = .ok made)
    (keeps : Uuid → Bool) :
    (exportRow env (made.keepNode keeps)).Shows env event fun u => nodeExists u && keeps u := by
  rw [toAuditLog_payload hfmt] at h
  rw [← Except.ok.inj h]
  refine ⟨rfl, rfl, ?_, loads_detailsText env.py hplain⟩
  show ((event.nodeId.filter nodeExists).filter keeps).map _ = _
  rw [Option.filter_filter]

/-- **An export shows what was enqueued.**  In every run of the outbox, with any number of workers
that may die at any point, each row of an export is one of the events that were enqueued, with its
details and the node that was there when it was delivered and was not deleted after that, and no
event has two rows; and as long as no log is deleted, every event that is completed has its log,
which an export contains that selects it and no more than its limit. -/
theorem exported_events (env : ExportEnv) (hfmt : env.fmt.Lawful) {maxAttempts : Nat}
    (hmax : 1 ≤ maxAttempts) {s t : OutboxState}
    (hinit : (outboxSystem env.fmt.parseUuid maxAttempts).init s) {run : List Event}
    (hrun : (outboxSystem env.fmt.parseUuid maxAttempts).exec s run = some t)
    {events : List AuditEvent} (hplain : ∀ event ∈ events, event.Plain)
    (henqueued : enqueued run = events.map (·.payload env.fmt)) (query : AuditExportQuery)
    (db : NewestFirst) :
    ((exportRows env ⟨t.logs.rows, db⟩ query).map (·.id)).Nodup ∧
      (∀ row ∈ exportRows env ⟨t.logs.rows, db⟩ query, ∃ i event, events[i]? = some event ∧
        row.id = env.fmt.printUuid (s.nextId + i) ∧
        ∃ worker nodeExists now during later,
          Delivers env.fmt.parseUuid maxAttempts s run (s.nextId + i) worker nodeExists now
            (during ++ .worker worker .commit :: later) ∧
          during.all (fun event => !event.ends worker) = true ∧
          row.Shows env event fun u =>
            nodeExists u && spared (during ++ .worker worker .commit :: later) u) ∧
      ((∀ cutoff, Event.deleteBefore cutoff ∉ run) →
        (Snapshot.selected ⟨t.logs.rows, db⟩ query).length ≤ exportLimit →
        ∀ e ∈ t.events.rows, e.status = .completed → ∃ log ∈ t.logs.rows, log.id = e.id ∧
          (query.selects log = true →
            exportRow env log ∈ exportRows env ⟨t.logs.rows, db⟩ query)) := by
  have hknown := known_of_exec hinit hrun
  refine ⟨nodup_exportRows hfmt t.logs db query, fun row hrow => ?_,
    fun hkeep hfew e he hdone => ?_⟩
  · obtain ⟨log, hlog, -, rfl⟩ := mem_exportRows hrow
    obtain ⟨worker, during, later, hduring, hlogged⟩ := hknown.logs log hlog
    obtain ⟨payload, nodeExists, now, made, ⟨i, hi, hid⟩, hdelivers, hmade, heq⟩ := hlogged
    rw [henqueued, List.getElem?_map] at hi
    obtain ⟨event, hevent, rfl⟩ := Option.map_eq_some_iff.1 hi
    have hshows := shows_exportRow hfmt (hplain event (List.mem_of_getElem? hevent)) hmade
      (spared (during ++ .worker worker .commit :: later))
    rw [← heq] at hshows
    rw [hid] at hdelivers
    exact ⟨i, event, hevent, by rw [← hid]; rfl, worker, nodeExists, now, during, later, hdelivers,
      hduring, hshows⟩
  · have hinv := outboxInv_of_reachable hmax (System.reachable_of_exec hinit hrun)
    have hkept : AllKept s := by simp [AllKept, hinit.2.2.1]
    obtain ⟨log, hlog, hid⟩ := (hkept.exec hkeep hrun) e.id ((hinv.events e he).2.1 hdone)
    exact ⟨log, hlog, hid, exportRow_mem hfew hlog⟩

/-- An event of a node, with details. -/
def nodeCreated (nodeId : Uuid) : AuditEvent :=
  ⟨"node.create", some nodeId, some "admin", some [("name", .str "web")]⟩

/-- A worker delivers two events after another one has died, and then the node of the first one is
deleted. -/
def twoEvents : List Event :=
  [.enqueue 3 ((nodeCreated 7).payload canonicalFormats),
    .enqueue 4 ((nodeCreated 8).payload canonicalFormats),
    .worker 0 (.claim 5 10), .worker 0 (.deliver (fun _ => true) none 5), .worker 0 .die,
    .worker 1 (.claim 6 10), .worker 1 (.deliver (fun _ => true) none 6),
    .worker 1 (.deliver (fun _ => true) none 7), .worker 1 .commit, .deleteNode 7]

/-- Both events are exported, the second one with its node. -/
theorem exported_twoEvents : ∃ t,
    (outboxSystem canonicalFormats.parseUuid 3).exec ⟨.empty, .empty, [], [none, none], 0⟩ twoEvents =
      some t ∧
    ((exportRows plainExport ⟨t.logs.rows, newestFirst⟩ ⟨none, none, none, none, .csv⟩).map
      (·.id)).Nodup ∧
    (∃ row ∈ exportRows plainExport ⟨t.logs.rows, newestFirst⟩ ⟨none, none, none, none, .csv⟩,
      row.id = canonicalFormats.printUuid 1 ∧
        row.nodeId = some (canonicalFormats.printUuid 8)) ∧
    ∃ log ∈ t.logs.rows, log.id = 0 ∧ exportRow plainExport log ∈
      exportRows plainExport ⟨t.logs.rows, newestFirst⟩ ⟨none, none, none, none, .csv⟩ := by
  have hinit : (outboxSystem plainExport.fmt.parseUuid 3).init
      ⟨.empty, .empty, [], [none, none], 0⟩ := ⟨rfl, rfl, rfl, by simp⟩
  obtain ⟨t, ht, ⟨e, he, hid, hdone⟩, hfew, hrow⟩ : ∃ t,
      (outboxSystem plainExport.fmt.parseUuid 3).exec ⟨.empty, .empty, [], [none, none], 0⟩
        twoEvents = some t ∧ (∃ e ∈ t.events.rows, e.id = 0 ∧ e.status = .completed) ∧
        (Snapshot.selected ⟨t.logs.rows, newestFirst⟩ ⟨none, none, none, none, .csv⟩).length ≤
          exportLimit ∧
        ∃ row ∈ exportRows plainExport ⟨t.logs.rows, newestFirst⟩ ⟨none, none, none, none, .csv⟩,
          row.id = canonicalFormats.printUuid 1 ∧
            row.nodeId = some (canonicalFormats.printUuid 8) :=
    ⟨_, rfl, ⟨_, List.mem_cons_self .., rfl, rfl⟩, by decide,
      _, List.mem_cons_self .., rfl, rfl⟩
  have hplain : ∀ event ∈ [nodeCreated 7, nodeCreated 8], event.Plain := by
    simp [nodeCreated, AuditEvent.Plain, Json.Plain, Json.PlainFields]
  have hshown := exported_events plainExport canonicalFormats_lawful (by decide) hinit ht hplain rfl
    ⟨none, none, none, none, .csv⟩ newestFirst
  obtain ⟨log, hlog, hlogId, hexported⟩ := hshown.2.2 (by simp [twoEvents]) hfew e he hdone
  exact ⟨t, ht, hshown.1, hrow, log, hlog, hlogId.trans hid, hexported rfl⟩

end Audit
end NodeNexus
