import NodeNexus.Content.Formats
import NodeNexus.Core.Template
import NodeNexus.Lib.Json
import NodeNexus.Lib.Program
import NodeNexus.Lib.Table
import Mathlib.Data.Finmap

/-!
# Compose projects in the database

`SqlAlchemyComposeGateway` reads and writes the table `compose_projects`, each call in a
transaction of its own.

* `ComposeDb` — what the database has apart from the table, and which values its columns take; it
  is a parameter.
* `getProject`, `createProject`, `updateProject`, `deleteProject` — the calls, as one transaction
  each.
* `upsertProject` — the chain of calls, a `Program` that others may interrupt between two of them.
* `Upsertable` — the data that the database has nothing against, and with an environment; the
  lemmas after it say what each call does with such data.
-/

namespace NodeNexus
namespace Compose

open Content
open NodeNexus.Core

/-! ## Data -/

/-- `dict[str, str]`.  As where Python compares two of them, the order of the keys is no part
of it. -/
abbrev EnvDict := Finmap fun _ : String => String

/-- `dict(pairs)`. -/
def dictOf (pairs : List (String × String)) : EnvDict :=
  pairs.foldl (fun d p => d.insert p.1 p.2) ∅

/-- `ComposeCreateDTO`. -/
structure ComposeCreate where
  nodeId : Uuid
  projectName : String
  compose : String
  env : List (String × String) := []
  templatePackId : Option Uuid := none
  deriving DecidableEq

/-- `ComposeUpdateDTO`. -/
structure ComposeUpdate where
  compose : Option String := none
  env : Option (List (String × String)) := none
  templatePackId : Option Uuid := none
  hasEnv : Bool := false
  hasTemplatePackId : Bool := false

/-- The update that an upsert makes of its data. -/
def ComposeCreate.toUpdate (data : ComposeCreate) : ComposeUpdate where
  compose := some data.compose
  env := some data.env
  templatePackId := data.templatePackId
  hasEnv := true
  hasTemplatePackId := true

/-- `ComposeViewDTO`. -/
structure ComposeView where
  id : Uuid
  nodeId : Uuid
  projectName : String
  compose : String
  env : Option EnvDict
  templatePackId : Option Uuid
  createdAt : Nat
  updatedAt : Nat
  deriving DecidableEq

/-- `ComposeProjectModel`. -/
structure ComposeRow where
  id : Uuid
  nodeId : Uuid
  projectName : String
  compose : String
  env : Option EnvDict
  templatePackId : Option Uuid
  createdAt : Nat
  updatedAt : Nat
  deriving DecidableEq

/-- The columns of the unique index. -/
def ComposeRow.key (row : ComposeRow) : Uuid × String := (row.nodeId, row.projectName)

/-- The project of the data. -/
def ComposeCreate.key (data : ComposeCreate) : Uuid × String := (data.nodeId, data.projectName)

/-- `_to_dto`. -/
def toDto (row : ComposeRow) : ComposeView where
  id := row.id
  nodeId := row.nodeId
  projectName := row.projectName
  compose := row.compose
  env := row.env
  templatePackId := row.templatePackId
  createdAt := row.createdAt
  updatedAt := row.updatedAt

/-! ## The database -/

/-- The rest of the database, and the values its columns take. -/
structure ComposeDb where
  /-- Rows that the foreign keys refer to. -/
  nodes : Uuid → Bool
  packs : Uuid → Bool
  /-- The string can be bound as a text. -/
  text : String → Bool
  /-- The value can be bound as JSON. -/
  json : Option EnvDict → Bool
  fmt : Formats
  unicode : Unicode

/-- The exceptions of the gateway. -/
inductive ComposeFailure where
  /-- `ComposeProjectAlreadyExistsError`. -/
  | alreadyExists (text : String)
  /-- `IntegrityError`. -/
  | integrityError
  /-- `DataError`, for a value that a column does not take. -/
  | dataError
  deriving DecidableEq

/-- The table, and the first UUID that was never drawn. -/
structure ComposeStore where
  projects : Table ComposeRow.key
  nextId : Uuid

variable (db : ComposeDb)

/-- Rows of packs that a project may refer to. -/
def ComposeDb.packOk (pack : Option Uuid) : Bool := pack.all db.packs

/-- `get_project`. -/
def getProject (nodeId : Uuid) (projectName : String) (s : ComposeStore) :
    Except ComposeFailure (Option ComposeView) :=
  if db.text projectName then .ok ((s.projects.find? (nodeId, projectName)).map toDto)
  else .error .dataError

/-- The row that `create_project` adds. -/
def newRow (now : Nat) (data : ComposeCreate) (s : ComposeStore) : ComposeRow where
  id := s.nextId
  nodeId := data.nodeId
  projectName := data.projectName
  compose := data.compose
  env := if data.env = [] then none else some (dictOf data.env)
  templatePackId := data.templatePackId
  createdAt := now
  updatedAt := now

/-- The text of `ComposeProjectAlreadyExistsError`. -/
def existsText (data : ComposeCreate) : String :=
  "Project " ++ Json.reprStr db.unicode.isPrintable data.projectName ++
    " already exists for node " ++ db.fmt.printUuid data.nodeId

/-- `create_project`: every `IntegrityError` is taken for a violation of the unique index. -/
def createProject (now : Nat) (data : ComposeCreate) (s : ComposeStore) :
    Except ComposeFailure ComposeView × ComposeStore :=
  let row := newRow now data s
  if ¬(data.projectName.length ≤ 100 ∧ db.text data.projectName ∧ db.text data.compose ∧
      db.json row.env) then (.error .dataError, s)
  else if (s.projects.find? data.key).isSome ∨ ¬db.nodes data.nodeId ∨
      ¬db.packOk data.templatePackId then (.error (.alreadyExists (existsText db data)), s)
  else (.ok (toDto row), { projects := s.projects.put row, nextId := s.nextId + 1 })

/-- The attributes that `update_project` sets. -/
def ComposeUpdate.apply (data : ComposeUpdate) (row : ComposeRow) : ComposeRow :=
  { row with
    compose := data.compose.getD row.compose
    env := if data.hasEnv then data.env.map dictOf else row.env
    templatePackId := if data.hasTemplatePackId then data.templatePackId else row.templatePackId }

/-- `update_project`: an UPDATE sends the columns that have changed, and sets `updated_at`; an
`env` in another order has not changed. -/
def updateProject (now : Nat) (nodeId : Uuid) (projectName : String) (data : ComposeUpdate)
    (s : ComposeStore) : Except ComposeFailure (Option ComposeView) × ComposeStore :=
  if ¬db.text projectName then (.error .dataError, s)
  else
    match s.projects.find? (nodeId, projectName) with
    | none => (.ok none, s)
    | some row =>
        let changed := data.apply row
        if changed = row then (.ok (some (toDto row)), s)
        else if (changed.compose ≠ row.compose ∧ ¬db.text changed.compose) ∨
            (changed.env ≠ row.env ∧ ¬db.json changed.env) then (.error .dataError, s)
        else if changed.templatePackId ≠ row.templatePackId ∧
            ¬db.packOk changed.templatePackId then (.error .integrityError, s)
        else
          let updated := { changed with updatedAt := now }
          (.ok (some (toDto updated)), { s with projects := s.projects.put updated })

/-- `delete_project`: whether there was a row. -/
def deleteProject (nodeId : Uuid) (projectName : String) (s : ComposeStore) :
    Except ComposeFailure Bool × ComposeStore :=
  if ¬db.text projectName then (.error .dataError, s)
  else
    (.ok (s.projects.find? (nodeId, projectName)).isSome,
      { s with projects := s.projects.erase (nodeId, projectName) })

/-! ## The upsert -/

/-- The calls that `upsert_project` makes. -/
inductive Request where
  | get (nodeId : Uuid) (projectName : String)
  | create (data : ComposeCreate)
  | update (nodeId : Uuid) (projectName : String) (data : ComposeUpdate)

/-- What they return. -/
def Answer : Request → Type
  | .get _ _ => Option ComposeView
  | .create _ => ComposeView
  | .update _ _ _ => Option ComposeView

/-- One call, as one transaction. -/
def answer (now : Nat) : Program.Handler Answer ComposeFailure ComposeStore
  | .get nodeId projectName, s => (getProject db nodeId projectName s, s)
  | .create data, s => createProject db now data s
  | .update nodeId projectName data, s => updateProject db now nodeId projectName data s

/-- A running `upsert_project`. -/
abbrev Upsert := Program Answer ComposeFailure ComposeView

/-- `update_project`, and what is raised where there is no row. -/
def updateOrRaise (data : ComposeCreate) (text : String) : Upsert := do
  let updated : Option ComposeView ←
    Program.call (Request.update data.nodeId data.projectName data.toUpdate)
  match updated with
  | none => .raise (.alreadyExists text)
  | some view => pure view

/-- `create_project`, and after a lost race `update_project`. -/
def createOrUpdate (data : ComposeCreate) : Upsert := do
  let created : Except ComposeFailure ComposeView ← (Program.call (Request.create data)).attempt
  match created with
  | .ok view => pure view
  | .error (.alreadyExists text) => updateOrRaise data text
  | .error e => .raise e

/-- `update_project`, and after a lost race `create_project`. -/
def updateOrCreate (data : ComposeCreate) : Upsert := do
  let updated : Option ComposeView ←
    Program.call (Request.update data.nodeId data.projectName data.toUpdate)
  match updated with
  | none => createOrUpdate data
  | some view => pure view

/-- `upsert_project`. -/
def upsertProject (data : ComposeCreate) : Upsert := do
  let existing : Option ComposeView ← Program.call (Request.get data.nodeId data.projectName)
  match existing with
  | none => createOrUpdate data
  | some _ => updateOrCreate data

/-! ## What the calls do -/

/-- Data with an environment, that the database has nothing against. -/
structure Upsertable (data : ComposeCreate) : Prop where
  env : data.env ≠ []
  length : data.projectName.length ≤ 100
  name : db.text data.projectName = true
  compose : db.text data.compose = true
  json : db.json (some (dictOf data.env)) = true
  node : db.nodes data.nodeId = true
  pack : db.packOk data.templatePackId = true

variable {db} {data : ComposeCreate} {s : ComposeStore}

/-- The row is what the data says. -/
structure RowOf (data : ComposeCreate) (env : Option EnvDict) (row : ComposeRow) : Prop where
  key : row.key = data.key
  compose : row.compose = data.compose
  env : row.env = env
  pack : row.templatePackId = data.templatePackId

theorem getProject_of_text (h : db.text data.projectName = true) :
    getProject db data.nodeId data.projectName s = .ok ((s.projects.find? data.key).map toDto) := by
  rw [getProject, if_pos h]
  rfl

/-- Where there is no row, `create_project` adds the row of its data. -/
theorem createProject_of_none (now : Nat) (h : Upsertable db data)
    (hnone : s.projects.find? data.key = none) :
    createProject db now data s = (.ok (toDto (newRow now data s)),
      { projects := s.projects.put (newRow now data s), nextId := s.nextId + 1 }) := by
  have henv : (newRow now data s).env = some (dictOf data.env) := by
    simp [newRow, h.env]
  unfold createProject
  simp only [henv]
  rw [if_neg, if_neg]
  · simp [hnone, h.node, h.pack]
  · simp [h.length, h.name, h.compose, h.json]

/-- Where there is a row, `create_project` reports it. -/
theorem createProject_of_some (now : Nat) (h : Upsertable db data)
    (hsome : (s.projects.find? data.key).isSome = true) :
    createProject db now data s = (.error (.alreadyExists (existsText db data)), s) := by
  have henv : (newRow now data s).env = some (dictOf data.env) := by
    simp [newRow, h.env]
  unfold createProject
  simp only [henv]
  rw [if_neg, if_pos (Or.inl hsome)]
  simp [h.length, h.name, h.compose, h.json]

theorem rowOf_newRow (now : Nat) (h : data.env ≠ []) :
    RowOf data (some (dictOf data.env)) (newRow now data s) := by
  refine ⟨rfl, rfl, ?_, rfl⟩
  simp [newRow, h]

theorem updateProject_of_none (now : Nat) (update : ComposeUpdate)
    (h : db.text data.projectName = true) (hnone : s.projects.find? data.key = none) :
    updateProject db now data.nodeId data.projectName update s = (.ok none, s) := by
  rw [updateProject, if_neg (by simp [h])]
  simp only [ComposeCreate.key] at hnone
  rw [hnone]

/-- Setting the attributes of the data makes its row, whatever the row was before. -/
theorem rowOf_apply {row : ComposeRow} (hkey : row.key = data.key) :
    RowOf data (some (dictOf data.env)) (data.toUpdate.apply row) :=
  ⟨hkey, rfl, rfl, rfl⟩

/-- Where there is a row, `update_project` makes it the row of its data. -/
theorem updateProject_of_some (now : Nat) (h : Upsertable db data) {row : ComposeRow}
    (hsome : s.projects.find? data.key = some row) :
    ∃ row' s', updateProject db now data.nodeId data.projectName data.toUpdate s =
        (.ok (some (toDto row')), s') ∧
      s'.projects.find? data.key = some row' ∧ RowOf data (some (dictOf data.env)) row' := by
  have hkey : row.key = data.key := Table.key_of_find? hsome
  have hrow := rowOf_apply hkey
  have hfound : s.projects.find? (data.nodeId, data.projectName) = some row := hsome
  rw [updateProject, if_neg (by simp [h.name]), hfound]
  by_cases hsame : data.toUpdate.apply row = row
  · refine ⟨row, s, ?_, hsome, ?_⟩
    · simp [hsame]
    · rw [hsame] at hrow
      exact hrow
  · let updated : ComposeRow := { data.toUpdate.apply row with updatedAt := now }
    refine ⟨updated, { s with projects := s.projects.put updated }, ?_, ?_, ?_⟩
    · simp only [hsame, if_false]
      rw [if_neg, if_neg]
      · simp [hrow.pack, h.pack]
      · simp [hrow.compose, hrow.env, h.compose, h.json]
    · rw [Table.find?_put, if_pos]
      exact hrow.key.symm
    · exact ⟨hrow.key, hrow.compose, hrow.env, hrow.pack⟩

/-- **No call of an upsert deletes a row.** -/
theorem isSome_answer {key : Uuid × String} (now : Nat) (r : Request)
    (h : (s.projects.find? key).isSome = true) :
    ((answer db now r s).2.projects.find? key).isSome = true := by
  have hput : ∀ row : ComposeRow, ((s.projects.put row).find? key).isSome = true := by
    intro row
    rw [Table.find?_put]
    split_ifs
    · rfl
    · exact h
  cases r with
  | get nodeId projectName => exact h
  | create data =>
      simp only [answer, createProject]
      split
      · exact h
      · split
        · exact h
        · exact hput _
  | update nodeId projectName data =>
      simp only [answer, updateProject]
      split
      · exact h
      · cases hfind : s.projects.find? (nodeId, projectName) with
        | none => exact h
        | some row =>
            simp only
            split
            · exact h
            · split
              · exact h
              · split
                · exact h
                · exact hput _

theorem find?_deleteProject (nodeId : Uuid) (projectName : String) (key : Uuid × String) :
    ((deleteProject db nodeId projectName s).2.projects.find? key) =
      if db.text projectName = true ∧ key = (nodeId, projectName) then none
      else s.projects.find? key := by
  unfold deleteProject
  by_cases htext : db.text projectName = true
  · rw [if_neg (by simp [htext]), Table.find?_erase]
    simp [htext]
  · rw [if_pos htext, if_neg (by simp [htext])]

/-! ## The program, call by call -/

theorem updateOrRaise_eq (data : ComposeCreate) (text : String) :
    updateOrRaise data text =
      .ask (.update data.nodeId data.projectName data.toUpdate) fun
        | .ok none => .raise (.alreadyExists text)
        | .ok (some view) => .done view
        | .error e => .raise e := by
  refine congrArg (Program.ask _) (funext ?_)
  rintro (e | _ | view)
  · rfl
  · rfl
  · rfl

theorem createOrUpdate_eq (data : ComposeCreate) :
    createOrUpdate data =
      .ask (.create data) fun
        | .ok view => .done view
        | .error (.alreadyExists text) => updateOrRaise data text
        | .error e => .raise e := by
  refine congrArg (Program.ask _) (funext ?_)
  rintro ((text | _ | _) | view)
  · rfl
  · rfl
  · rfl
  · rfl

theorem updateOrCreate_eq (data : ComposeCreate) :
    updateOrCreate data =
      .ask (.update data.nodeId data.projectName data.toUpdate) fun
        | .ok none => createOrUpdate data
        | .ok (some view) => .done view
        | .error e => .raise e := by
  refine congrArg (Program.ask _) (funext ?_)
  rintro (e | _ | view)
  · rfl
  · rfl
  · rfl

theorem upsertProject_eq (data : ComposeCreate) :
    upsertProject data =
      .ask (.get data.nodeId data.projectName) fun
        | .ok none => createOrUpdate data
        | .ok (some _) => updateOrCreate data
        | .error e => .raise e := by
  refine congrArg (Program.ask _) (funext ?_)
  rintro (e | _ | view)
  · rfl
  · rfl
  · rfl

end Compose
end NodeNexus
