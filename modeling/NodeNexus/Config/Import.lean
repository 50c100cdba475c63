import NodeNexus.Lib.NamedTable
import NodeNexus.Config.LoadAll

/-!
# Importing a configuration

`import_config` and its dry run `preview_import`.  Both read the names that are
taken and go through the nodes, the commands and the scripts of a payload.

* A `Kind` is what differs between the three loops: the words of the messages,
  the name of an entry and the row that is made of it.
* `Kind.importRows` is the loop of the import, `Kind.preview` that of the dry
  run; `importConfig` and `previewImport` go over the three kinds.
* The reads take the order of each SELECT as an argument, for they have none.
-/

namespace NodeNexus
namespace Config

open Content Node

/-! ## Payloads -/

/-- `CommandConfigDTO`. -/
structure CommandConfigDTO where
  name : String
  command : String
  description : Option String
  parameters : List Json
  tags : List String

/-- `ScriptConfigDTO`. -/
structure ScriptConfigDTO where
  name : String
  description : Option String
  steps : List Json
  tags : List String

/-- `ConfigTransferDTO`, what the gateway reads of it. -/
structure ConfigTransferDTO where
  nodes : List NodeConfigDTO
  commands : List CommandConfigDTO
  scripts : List ScriptConfigDTO

/-- The values that `import_config` gives to `CommandModel(…)`. -/
def CommandConfigDTO.values (data : CommandConfigDTO) : Values CommandBody where
  name := data.name
  description := optionalStr data.description
  body := ⟨data.command, .list data.parameters⟩
  tags := some (data.tags.map .str)
  timeout := defaultTimeout

/-- The values that `import_config` gives to `ScriptModel(…)`. -/
def ScriptConfigDTO.values (data : ScriptConfigDTO) : Values ScriptBody where
  name := data.name
  description := optionalStr data.description
  body := ⟨.list data.steps⟩
  tags := some (data.tags.map .str)
  timeout := defaultTimeout

/-! ## The loops -/

/-- What differs between the loops over nodes, commands and scripts. -/
structure Kind (α : Type) {ρ : Type} (id : ρ → Uuid) (name : ρ → String) where
  /-- How the messages call an entry. -/
  title : String
  /-- The unique index on the name. -/
  nameIndex : String
  /-- The name of an entry. -/
  entryName : α → String
  /-- The row that is made of an entry under a new id. -/
  make : Uuid → α → Except Failure ρ
  make_id : ∀ {i a r}, make i a = .ok r → id r = i

/-- What the loops rely on: a row has the name of its entry, and whether it can be
made does not depend on its id. -/
structure Kind.Lawful {α ρ : Type} {id : ρ → Uuid} {name : ρ → String} (k : Kind α id name) :
    Prop where
  make_name : ∀ {i a r}, k.make i a = .ok r → name r = k.entryName a
  make_any : ∀ {i a r} j, k.make i a = .ok r → ∃ r', k.make j a = .ok r'

section Loops

variable {α ρ : Type} {id : ρ → Uuid} {name : ρ → String}

/-- The message about an entry whose name is taken. -/
def Kind.duplicate (k : Kind α id name) (a : α) : String :=
  k.title ++ " '" ++ k.entryName a ++ "' already exists"

/-- `create` of the repository. -/
def Kind.create (k : Kind α id name) (t : NamedTable id name) (a : α) :
    Except Failure (NamedTable id name) :=
  match h : k.make t.nextId a with
  | .error e => .error e
  | .ok row => match t.insert? row (k.make_id h) with
      | none => .error (.integrityError k.nameIndex)
      | some t => .ok t

/-- The loop of `import_config` over the entries of a kind. -/
def Kind.importRows (k : Kind α id name) (t : NamedTable id name) (existing : List String) :
    List α → Except Failure (NamedTable id name × Nat × List String)
  | [] => .ok (t, 0, [])
  | a :: as =>
      if k.entryName a ∈ existing then do
        let (t, created, errors) ← k.importRows t existing as
        .ok (t, created, (k.duplicate a ++ ", skipped") :: errors)
      else do
        let t ← k.create t a
        let (t, created, errors) ← k.importRows t (k.entryName a :: existing) as
        .ok (t, created + 1, errors)

/-- The loop of `preview_import` over the entries of a kind: what would be
created, and the duplicates. -/
def Kind.preview (k : Kind α id name) (existing : List String) : List α → List α × List String
  | [] => ([], [])
  | a :: as =>
      let (wouldCreate, duplicates) := k.preview existing as
      if k.entryName a ∈ existing then (wouldCreate, k.duplicate a :: duplicates)
      else (a :: wouldCreate, duplicates)

end Loops

/-- The loop over the nodes. -/
def nodeKind (db : Columns) (now : DateTime) : Kind NodeConfigDTO NodeRow.id NodeRow.name where
  title := "Node"
  nameIndex := "ix_nodes_name"
  entryName := NodeConfigDTO.name
  make := bindNode db now
  make_id h := (bindNode_eq_ok h).1

/-- The loop over the commands. -/
def commandKind (db : Columns) :
    Kind CommandConfigDTO (@Row.id CommandBody) (@Row.name CommandBody) where
  title := EntityType.command.title
  nameIndex := commandModel.nameIndex
  entryName := CommandConfigDTO.name
  make i data := bindRow commandModel db i none data.values
  make_id h := (bindRow_eq_ok h).1

/-- The loop over the scripts. -/
def scriptKind (db : Columns) :
    Kind ScriptConfigDTO (@Row.id ScriptBody) (@Row.name ScriptBody) where
  title := EntityType.script.title
  nameIndex := scriptModel.nameIndex
  entryName := ScriptConfigDTO.name
  make i data := bindRow scriptModel db i none data.values
  make_id h := (bindRow_eq_ok h).1

theorem nodeKind_lawful {db : Columns} (hdb : db.Lawful) (now : DateTime) :
    (nodeKind db now).Lawful where
  make_name h := bindName_eq hdb (bindNode_eq_ok h).2.name
  make_any j h := ⟨_, bindNode_any h j⟩

theorem bindRow_any {Body : Type} {model : Model Body} {db : Columns} {i : Uuid}
    {packId : Option Uuid} {v : Values Body} {row : Row Body}
    (h : bindRow model db i packId v = .ok row) (j : Uuid) :
    bindRow model db j packId v = .ok { row with id := j } := by
  simp only [bindRow, bind_eq_ok] at h
  obtain ⟨name, hname, description, hdescription, body, hbody, tags, htags, timeout, htimeout,
    hrow⟩ := h
  cases hrow
  unfold bindRow
  rw [hname, hdescription, hbody, htags, htimeout]
  rfl

theorem commandKind_lawful {db : Columns} (hdb : db.Lawful) : (commandKind db).Lawful where
  make_name h := (bindRow_eq_ok h).2.2.name_eq hdb
  make_any j h := ⟨_, bindRow_any h j⟩

theorem scriptKind_lawful {db : Columns} (hdb : db.Lawful) : (scriptKind db).Lawful where
  make_name h := (bindRow_eq_ok h).2.2.name_eq hdb
  make_any j h := ⟨_, bindRow_any h j⟩

/-! ## The gateway -/

/-- The three tables under their indexes. -/
structure ConfigStore where
  nodes : NamedTable NodeRow.id NodeRow.name
  commands : NamedTable (@Row.id CommandBody) (@Row.name CommandBody)
  scripts : NamedTable (@Row.id ScriptBody) (@Row.name ScriptBody)

/-- What the operations have around them: the columns, the operator `ILIKE`, the
clock and the batch size of the gateway. -/
structure ConfigEnv where
  db : Columns
  ilike : Ilike
  now : DateTime
  batchSize : Nat

/-- The orders that the database chooses for the SELECTs of one call. -/
structure Orders where
  nodes : Nat → List NodeRow
  commands : Nat → List CommandRow
  scripts : Nat → List ScriptRow

/-- The orders are orders of the rows of a store. -/
structure Orders.Of (orders : Orders) (s : ConfigStore) : Prop where
  nodes : OrdersOf s.nodes.rows orders.nodes
  commands : OrdersOf s.commands.rows orders.commands
  scripts : OrdersOf s.scripts.rows orders.scripts

/-- A read of `_load_all`; no more SELECTs are made than there are rows, and
another one. -/
def load {ρ : Type} (getAll : Reader ρ) (batchSize : Nat) (orders : Nat → List ρ) : List ρ :=
  (loadAll getAll batchSize orders ((orders 0).length + 1)).getD []

/-- The names that a read finds; without entries nothing is read. -/
def existingNames {α ρ : Type} (entries : List α) (name : ρ → String) (read : List ρ) :
    List String :=
  if entries.isEmpty then [] else read.map name

/-- `existing_node_names`. -/
def existingNodeNames (env : ConfigEnv) (orders : Orders) (data : ConfigTransferDTO) :
    List String :=
  existingNames data.nodes NodeRow.name (load nodeGetAll env.batchSize orders.nodes)

/-- `existing_command_names`. -/
def existingCommandNames (env : ConfigEnv) (orders : Orders) (data : ConfigTransferDTO) :
    List String :=
  existingNames data.commands Row.name (load (commandGetAll env.ilike) env.batchSize orders.commands)

/-- `existing_script_names`. -/
def existingScriptNames (env : ConfigEnv) (orders : Orders) (data : ConfigTransferDTO) :
    List String :=
  existingNames data.scripts Row.name (load (scriptGetAll env.ilike) env.batchSize orders.scripts)

/-- `ConfigImportResultDTO`. -/
structure ConfigImportResult where
  nodesCreated : Nat
  commandsCreated : Nat
  scriptsCreated : Nat
  errors : List String

/-- `import_config`: one transaction, so where it raises nothing is written. -/
def importConfig (env : ConfigEnv) (orders : Orders) (s : ConfigStore) (data : ConfigTransferDTO) :
    Except Failure (ConfigStore × ConfigImportResult) := do
  let (nodes, nodesCreated, nodeErrors) ←
    (nodeKind env.db env.now).importRows s.nodes (existingNodeNames env orders data) data.nodes
  let (commands, commandsCreated, commandErrors) ←
    (commandKind env.db).importRows s.commands (existingCommandNames env orders data) data.commands
  let (scripts, scriptsCreated, scriptErrors) ←
    (scriptKind env.db).importRows s.scripts (existingScriptNames env orders data) data.scripts
  .ok (⟨nodes, commands, scripts⟩,
    ⟨nodesCreated, commandsCreated, scriptsCreated, nodeErrors ++ commandErrors ++ scriptErrors⟩)

/-- `DryRunPreviewDTO`; its errors stay empty. -/
structure DryRunPreview where
  wouldCreateNodes : List NodeConfigDTO
  wouldCreateCommands : List CommandConfigDTO
  wouldCreateScripts : List ScriptConfigDTO
  duplicates : List String
  errors : List String

/-- `preview_import`. -/
def previewImport (env : ConfigEnv) (orders : Orders) (data : ConfigTransferDTO) : DryRunPreview :=
  let (nodes, nodeDuplicates) :=
    (nodeKind env.db env.now).preview (existingNodeNames env orders data) data.nodes
  let (commands, commandDuplicates) :=
    (commandKind env.db).preview (existingCommandNames env orders data) data.commands
  let (scripts, scriptDuplicates) :=
    (scriptKind env.db).preview (existingScriptNames env orders data) data.scripts
  { wouldCreateNodes := nodes
    wouldCreateCommands := commands
    wouldCreateScripts := scripts
    duplicates := nodeDuplicates ++ commandDuplicates ++ scriptDuplicates
    errors := [] }

end Config
end NodeNexus
