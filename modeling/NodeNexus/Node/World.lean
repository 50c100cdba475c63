import NodeNexus.Lib.NamedTable
import NodeNexus.Node.Service

/-!
# What the gateways of nodes do

The transactions behind the requests of the services for nodes.

* `NodeWorld` — the nodes, the status history, and the record of what was
  committed, in order.
* `perform` answers a request: each writing request is one transaction, and one
  that raises writes nothing.
* `perform_…` say what each request does to the nodes and to the history.
-/

namespace NodeNexus
namespace Node

open Content

/-- The table `nodes` with its unique index on the name. -/
abbrev NodeTable : Type := NamedTable NodeRow.id NodeRow.name

/-- One committed transaction that wrote something. -/
inductive Commit where
  /-- An event in the required outbox. -/
  | required (event : AuditEventDTO)
  /-- An event in the optional outbox. -/
  | optional (event : AuditEventDTO)
  /-- A change of the nodes. -/
  | nodes
  /-- A row of the status history. -/
  | history (change : NodeStatusChangeDTO)
  /-- A row of the command history. -/
  | command (record : CommandHistoryCreateDTO)

/-- What the gateways work on. -/
structure NodeWorld where
  nodes : NodeTable
  /-- `node_status_history`, in the order of its rows. -/
  history : List NodeStatusChangeDTO
  commits : List Commit

/-- What is around the gateways. -/
structure StoreEnv where
  db : Columns
  /-- `datetime.now(UTC)`. -/
  now : DateTime
  /-- The exception of a refused value. -/
  refused : Failure → NodeFailure
  encrypt : String → Except NodeFailure String
  decrypt : Option String → Except NodeFailure (Option String)
  ensureHost : String → Int → Except NodeFailure Unit
  /-- What a session with a remote host comes to. -/
  remote : SshConnector → String → Except NodeFailure SshOutput
  /-- The orders of the queries of `resolve_targets`. -/
  selects : NodeTable → Selects

/-! ## Rows -/

/-- `Text`, nullable. -/
def bindText (db : Columns) : Option String → Except Failure (Option String)
  | none => .ok none
  | some s => (db.text s).map some

/-- A value for a column that is not null. -/
def notNull {α β : Type} (column : String) (bind : α → Except Failure β) :
    Option α → Except Failure β
  | none => .error (.integrityError column)
  | some a => bind a

/-- The row that `create_node` inserts. -/
def bindCreate (db : Columns) (now : DateTime) (id : Uuid) (data : NodeCreateDTO) :
    Except Failure NodeRow := do
  let name ← bindName db data.name
  let host ← bindName db data.endpoint.host
  let port ← bindInteger data.endpoint.port
  let username ← bindOptionalName db data.credentials.username
  let password ← bindText db data.credentials.password
  let sshKey ← bindText db data.credentials.sshKey
  let passphrase ← bindText db data.credentials.passphrase
  let dockerHost ← bindOptionalName db data.endpoint.dockerHost
  let tags ← bindTags db (some (data.tags.map .str))
  .ok
    { id, name, host, port, connectionType := data.endpoint.connectionType, status := .active
      username, password, sshKey, passphrase, dockerHost, hasDocker := data.endpoint.hasDocker
      tags, description := none, createdAt := now, updatedAt := now }

theorem bindCreate_id {db : Columns} {now : DateTime} {id : Uuid} {data : NodeCreateDTO}
    {row : NodeRow} (h : bindCreate db now id data = .ok row) : row.id = id := by
  simp only [bindCreate, bind_eq_ok] at h
  obtain ⟨_, -, _, -, _, -, _, -, _, -, _, -, _, -, _, -, _, -, hrow⟩ := h
  cases hrow
  rfl

/-- `setattr` and the column behind it. -/
def setField (db : Columns) (row : NodeRow) : NodeChange → Except Failure NodeRow
  | .name o => (notNull "name" (bindName db) o).map fun v => { row with name := v }
  | .host o => (notNull "host" (bindName db) o).map fun v => { row with host := v }
  | .port o => (notNull "port" bindInteger o).map fun v => { row with port := v }
  | .connectionType o =>
      (notNull "connection_type" .ok o).map fun v => { row with connectionType := v }
  | .status o => (notNull "status" .ok o).map fun v => { row with status := v }
  | .username o => (bindOptionalName db o).map fun v => { row with username := v }
  | .password o => (bindText db o).map fun v => { row with password := v }
  | .sshKey o => (bindText db o).map fun v => { row with sshKey := v }
  | .passphrase o => (bindText db o).map fun v => { row with passphrase := v }
  | .dockerHost o => (bindOptionalName db o).map fun v => { row with dockerHost := v }
  | .hasDocker o => (notNull "has_docker" .ok o).map fun v => { row with hasDocker := v }
  | .tags o => (bindTags db (o.map fun ts => ts.map jsonText)).map fun v => { row with tags := v }
  | .description o => (bindText db o).map fun v => { row with description := v }

/-- The changes of an update, one after the other. -/
def setFields (db : Columns) : NodeRow → List NodeChange → Except Failure NodeRow
  | row, [] => .ok row
  | row, change :: changes => do
      let row ← setField db row change
      setFields db row changes

theorem setField_id {db : Columns} {row row' : NodeRow} {change : NodeChange}
    (h : setField db row change = .ok row') : row'.id = row.id := by
  cases change <;>
    (simp only [setField, map_eq_ok] at h
     obtain ⟨_, -, rfl⟩ := h
     rfl)

theorem setFields_id {db : Columns} {changes : List NodeChange} {row row' : NodeRow}
    (h : setFields db row changes = .ok row') : row'.id = row.id := by
  induction changes generalizing row with
  | nil =>
      cases h
      rfl
  | cons change changes ih =>
      obtain ⟨row₁, h₁, h₂⟩ := bind_eq_ok.1 h
      rw [ih h₂, setField_id h₁]

/-- `_to_view`. -/
def NodeRow.toView (row : NodeRow) : NodeViewDTO where
  id := row.id
  name := row.name
  endpoint := ⟨row.host, row.port, row.connectionType, row.dockerHost, row.hasDocker⟩
  status := row.status
  username := row.username
  tags := row.tags.getD []
  createdAt := row.createdAt
  updatedAt := row.updatedAt

/-! ## Transactions -/

/-- `create_node`; every refused row is taken for a taken name. -/
def insertNode (env : StoreEnv) (t : NodeTable) (data : NodeCreateDTO) :
    Except NodeFailure (NodeTable × NodeRow) :=
  match h : bindCreate env.db env.now t.nextId data with
  | .error (.integrityError _) =>
      .error ⟨.nodeNameConflictError, "Node name '" ++ data.name ++ "' already exists"⟩
  | .error e => .error (env.refused e)
  | .ok row =>
      match t.insert? row (bindCreate_id h) with
      | none => .error ⟨.nodeNameConflictError, "Node name '" ++ data.name ++ "' already exists"⟩
      | some t' => .ok (t', row)

/-- A row is written back under the unique index on the name. -/
def writeRow (env : StoreEnv) (t : NodeTable) (row : NodeRow) : Except NodeFailure NodeTable :=
  match t.replace? row with
  | none => .error (env.refused (.integrityError "ix_nodes_name"))
  | some t' => .ok t'

/-- `NodeRepository.update` in a transaction of its own; `none` where there is no
node. -/
def updateRow (env : StoreEnv) (t : NodeTable) (id : Uuid) (changes : List NodeChange) :
    Except NodeFailure (Option (NodeTable × NodeRow)) :=
  match t.find? id with
  | none => .ok none
  | some row =>
      match setFields env.db row changes with
      | .error e => .error (env.refused e)
      | .ok row =>
          let row := { row with updatedAt := env.now }
          (writeRow env t row).map fun t' => some (t', row)

/-- The tags of a node after `bulk_add_tags`. -/
def addMissing : List (Option String) → List String → List (Option String)
  | existing, [] => existing
  | existing, tag :: tags =>
      addMissing (if some tag ∈ existing then existing else existing ++ [some tag]) tags

/-- The tags of a node after `bulk_remove_tags`. -/
def removeListed (existing : List (Option String)) (tags : List String) : List (Option String) :=
  existing.filter fun t => decide (t ∉ tags.map some)

/-- The loop of a bulk operation on tags over the listed nodes: the rows whose tags
it changes are written. -/
def retag (env : StoreEnv) (change : List (Option String) → List (Option String)) :
    List NodeRow → NodeTable → Except NodeFailure (NodeTable × List Uuid)
  | [], t => .ok (t, [])
  | row :: rows, t =>
      let existing := row.tags.getD []
      if change existing = existing then retag env change rows t
      else
        match setField env.db row (.tags (some (change existing))) with
        | .error e => .error (env.refused e)
        | .ok row' => do
            let t' ← writeRow env t { row' with updatedAt := env.now }
            let (t'', affected) ← retag env change rows t'
            .ok (t'', row.id :: affected)

/-- The rows that `SELECT … WHERE id IN … FOR UPDATE` locks. -/
def listedRows (t : NodeTable) (ids : List Uuid) : List NodeRow :=
  t.rows.filter fun row => decide (row.id ∈ ids)

/-! ## Answers -/

/-- A transaction that has written a world. -/
def committed {α : Type} (w : NodeWorld) : Except NodeFailure (α × NodeWorld) →
    Except NodeFailure α × NodeWorld
  | .ok (a, w') => (.ok a, w')
  | .error e => (.error e, w)

/-- The nodes of a world are written. -/
def NodeWorld.withNodes (w : NodeWorld) (t : NodeTable) : NodeWorld :=
  { w with nodes := t, commits := w.commits ++ [.nodes] }

/-- What becomes of an update of one row. -/
def updated (w : NodeWorld) (r : Except NodeFailure (Option (NodeTable × NodeRow))) :
    Except NodeFailure (Option NodeViewDTO) × NodeWorld :=
  committed w (r.map fun
    | none => (none, w)
    | some (t, row) => (some row.toView, w.withNodes t))

/-- The answer to a request. -/
def perform (env : StoreEnv) : Program.Handler Answer NodeFailure NodeWorld
  | .ensureHost host port, w => (env.ensureHost host port, w)
  | .encrypt value, w => (env.encrypt value, w)
  | .decrypt _ value, w => (env.decrypt value, w)
  | .getNode id, w => (.ok ((w.nodes.find? id).map (·.toView)), w)
  | .createNode data, w =>
      committed w ((insertNode env w.nodes data).map fun (t, row) => (row.toView, w.withNodes t))
  | .updateNode id changes, w => updated w (updateRow env w.nodes id changes)
  | .deleteNode id, w =>
      if (w.nodes.find? id).isSome then (.ok true, w.withNodes (w.nodes.erase id))
      else (.ok false, w)
  | .updateNodeStatus _ id status, w =>
      updated w (updateRow env w.nodes id [.status (some status)])
  | .saveStatusChange _ change, w =>
      (.ok (), { w with history := w.history ++ [change], commits := w.commits ++ [.history change] })
  | .bulkAddTags ids tags, w =>
      committed w ((retag env (addMissing · tags) (listedRows w.nodes ids) w.nodes).map
        fun (t, affected) => (affected, w.withNodes t))
  | .bulkRemoveTags ids tags, w =>
      committed w ((retag env (removeListed · tags) (listedRows w.nodes ids) w.nodes).map
        fun (t, affected) => (affected, w.withNodes t))
  | .enqueueRequired event, w => (.ok (), { w with commits := w.commits ++ [.required event] })
  | .enqueueOptional event, w => (.ok (), { w with commits := w.commits ++ [.optional event] })
  | .getConnection id, w => (.ok ((w.nodes.find? id).map (·.toConnectionDto)), w)
  | .targets ids tags, w =>
      (.ok (resolveTargets (env.selects w.nodes) ids tags), w)
  | .execute _ connector command, w => (env.remote connector command, w)
  | .saveHistory _ record, w => (.ok (), { w with commits := w.commits ++ [.command record] })

/-! ## What the requests leave -/

section Leave

variable {env : StoreEnv} {w : NodeWorld}

/-- **What an update of a row does.**  It refuses, or finds no node, or puts the
changed row in the place of the node. -/
theorem updateRow_cases (env : StoreEnv) (t : NodeTable) (id : Uuid) (changes : List NodeChange) :
    (∃ e, updateRow env t id changes = .error e) ∨
      t.find? id = none ∧ updateRow env t id changes = .ok none ∨
      ∃ row row' t', t.find? id = some row ∧ setFields env.db row changes = .ok row' ∧
        t.replace? { row' with updatedAt := env.now } = some t' ∧
        updateRow env t id changes = .ok (some (t', { row' with updatedAt := env.now })) := by
  unfold updateRow
  cases hfind : t.find? id with
  | none => exact .inr (.inl ⟨rfl, rfl⟩)
  | some row =>
      simp only []
      cases hset : setFields env.db row changes with
      | error e => exact .inl ⟨_, rfl⟩
      | ok row' =>
          simp only [writeRow]
          cases hput : t.replace? { row' with updatedAt := env.now } with
          | none => exact .inl ⟨_, rfl⟩
          | some t' => exact .inr (.inr ⟨row, row', t', rfl, hset, hput, rfl⟩)

/-- What an update of a row leaves in the nodes. -/
theorem find?_of_updateRow {t t' : NodeTable} {id : Uuid} {changes : List NodeChange}
    {new : NodeRow} (h : updateRow env t id changes = .ok (some (t', new))) :
    ∃ row row', t.find? id = some row ∧ setFields env.db row changes = .ok row' ∧
      new = { row' with updatedAt := env.now } ∧
      ∀ i, t'.find? i = if i = id then some new else t.find? i := by
  obtain ⟨e, herror⟩ | ⟨-, hnone⟩ | ⟨row, row', t₁, hfind, hset, hput, hok⟩ :=
    updateRow_cases env t id changes
  · rw [herror] at h
    cases h
  · rw [hnone] at h
    cases h
  · rw [hok] at h
    cases h
    have hid : row'.id = id := (setFields_id hset).trans (NamedTable.find?_eq_some.1 hfind).2
    refine ⟨row, row', hfind, hset, rfl, fun i => ?_⟩
    have hthere : (t.find? row'.id).isSome = true := by rw [hid, hfind]; rfl
    rw [NamedTable.find?_replace? hput hthere]
    exact if_congr (by rw [← hid]) rfl rfl

/-- A status is always written: it meets no index and no limit. -/
theorem updateRow_status {t : NodeTable} {id : Uuid} {row : NodeRow} (h : t.find? id = some row)
    (status : NodeStatus) : ∃ t', updateRow env t id [.status (some status)] =
      .ok (some (t', { row with status := status, updatedAt := env.now })) := by
  have hfind : t.find? row.id = some row := by
    rw [(NamedTable.find?_eq_some.1 h).2]
    exact h
  have hplace : ∃ t', t.replace? { row with status := status, updatedAt := env.now } = some t' :=
    NamedTable.replace?_of_name_eq hfind rfl
  obtain ⟨t', hput⟩ := hplace
  refine ⟨t', ?_⟩
  have hset : setFields env.db row [.status (some status)] =
      .ok { row with status := status } := rfl
  simp only [updateRow, h, hset, writeRow, hput]
  rfl

end Leave

/-! ## A plain store -/

/-- A store that takes all texts, with hosts that answer nothing. -/
def plainStoreEnv : StoreEnv where
  db := plainColumns
  now := fleetMoment
  refused _ := ⟨.other, "refused"⟩
  encrypt value := .ok ("enc:v1:" ++ value)
  decrypt := .ok
  ensureHost _ _ := .ok ()
  remote _ _ := .ok ⟨"", "", 0⟩
  selects t := ⟨t.rows, t.rows⟩

/-- Services with all their collaborators. -/
def plainSetting : Setting where
  audit := true
  statusHistoryWriter := true
  knownHosts := true
  historyWriter := true
  nodeViewReader := true
  statusWriter := true
  printUuid := Nat.repr
  parseUuid := String.toNat?
  commandFingerprint _ := "fingerprint"

/-- No node and no history. -/
def emptyWorld : NodeWorld := ⟨.empty 1, [], []⟩

/-- A world with one node. -/
def oneNode : NodeWorld where
  nodes :=
    { rows := [fleetNode 1]
      nextId := 2
      ids_nodup := List.nodup_singleton _
      names_nodup := List.nodup_singleton _
      drawn := by
        intro row hrow
        rw [List.mem_singleton.1 hrow]
        decide }
  history := []
  commits := []

end Node
end NodeNexus
