import NodeNexus.Lib.Table
import NodeNexus.Content.Schemas

/-!
# The tables of commands and scripts

`commands` and `scripts` have the same columns but for the body: a command has
its text and its parameters, a script its steps.  A row is written by binding
values to columns, and the database refuses values that do not fit.

* `Columns` is what the driver and the database make of a bound value; it is a
  parameter.  The lengths, the CHECK constraints and the unique index that the
  models declare are part of this file.
* `bindRow` makes a row from bound values, `Rows.save` writes it under the
  unique index on the name.
* `createCommand`, `updateCommand`, `deleteCommand`, the same for scripts, and
  the loop of `import_config` are the gateways.  Each is one transaction: where
  it raises, nothing is written.
-/

namespace NodeNexus
namespace Content

/-! ## Columns -/

-- tags are compared as the texts or NULLs of an array column
instance lawfulBEq_tag : LawfulBEq (Option String) := inferInstance

/-- What becomes of a value that is bound to a column of some type. -/
structure Columns where
  /-- A string in a text column. -/
  text : String → Except Failure String
  /-- Any value in a nullable text column. -/
  textOrNull : Json → Except Failure (Option String)
  /-- The elements of a list in an array of texts. -/
  texts : List Json → Except Failure (List (Option String))
  /-- A value in a JSON column. -/
  json : Json → Except Failure Json

/-- What is documented about columns: an accepted string or JSON value reads
back as it was, and an array has a NULL in it exactly when the list has `None`. -/
structure Columns.Lawful (db : Columns) : Prop where
  text_eq : ∀ s r, db.text s = .ok r → r = s
  json_eq : ∀ j r, db.json j = .ok r → r = j
  texts_isSome : ∀ ts r, db.texts ts = .ok r →
    ((∀ t ∈ r, Option.isSome t = true) ↔ ∀ t ∈ ts, t ≠ .null)

/-- A string without NUL is a text. -/
def plainText (s : String) : Except Failure String :=
  if Char.ofNat 0 ∈ s.toList then .error .dataError else .ok s

/-- A string without NUL or `None`. -/
def plainTextOrNull : Json → Except Failure (Option String)
  | .null => .ok none
  | .str s => (plainText s).map some
  | _ => .error .dataError

/-- Columns that take the values of their own type. -/
def plainColumns : Columns where
  text := plainText
  textOrNull := plainTextOrNull
  texts ts := ts.mapM plainTextOrNull
  json := .ok

theorem plainColumns_lawful : plainColumns.Lawful where
  text_eq s r h := by
    simp only [plainColumns, plainText] at h
    split at h
    · cases h
    · cases h
      rfl
  json_eq j r h := by
    cases h
    rfl
  texts_isSome ts r h := by
    have hrounds := mapM_eq_ok_iff.1 h
    constructor
    · rintro hall t ht rfl
      obtain ⟨o, ho, hto⟩ := exists_of_forall₂_left hrounds ht
      cases hto
      cases hall _ ho
    · intro hts o ho
      obtain ⟨t, ht, hto⟩ := exists_of_forall₂_right hrounds ho
      cases t with
      | null => exact absurd rfl (hts _ ht)
      | str s =>
          simp only [plainTextOrNull, map_eq_ok] at hto
          obtain ⟨s', -, rfl⟩ := hto
          rfl
      | bool _ | int _ | float _ | list _ | dict _ => cases hto

/-- `String(255)`, not null. -/
def bindName (db : Columns) (name : String) : Except Failure String :=
  if name.length ≤ 255 then db.text name else .error .dataError

/-- `ARRAY(String(100))`, nullable. -/
def bindTags (db : Columns) : Option (List Json) → Except Failure (Option (List (Option String)))
  | none => .ok none
  | some ts => (db.texts ts).map some

/-- `Integer` under the CHECK constraint `timeout >= 1 AND timeout <= 3600`. -/
def bindTimeout (check : String) (timeout : Int) : Except Failure Int :=
  if 1 ≤ timeout ∧ timeout ≤ 3600 then .ok timeout else .error (.integrityError check)

/-- `DEFAULT_TIMEOUT`. -/
def defaultTimeout : Int := 30

/-! ## Rows -/

/-- The two kinds of entities a pack can create. -/
inductive EntityType where
  | command
  | script
  deriving DecidableEq

/-- How the messages call an entity. -/
def EntityType.title : EntityType → String
  | .command => "Command"
  | .script => "Script"

/-- The name of an item that has none. -/
def EntityType.defaultName : EntityType → String
  | .command => "command"
  | .script => "script"

/-- The columns of a command that a script does not have. -/
structure CommandBody where
  command : String
  parameters : Json

/-- The column of a script that a command does not have. -/
structure ScriptBody where
  steps : Json

/-- A row of `commands` or of `scripts`. -/
structure Row (Body : Type) where
  id : Uuid
  name : String
  description : Option String
  body : Body
  tags : Option (List (Option String))
  timeout : Int
  templatePackId : Option Uuid

/-- `CommandModel`. -/
abbrev CommandRow : Type := Row CommandBody

/-- `ScriptModel`. -/
abbrev ScriptRow : Type := Row ScriptBody

/-- A table of rows under its primary key. -/
abbrev Rows (Body : Type) : Type := Table (@Row.id Body)

/-- What the models of the two tables declare differently. -/
structure Model (Body : Type) where
  /-- The unique index on the name. -/
  nameIndex : String
  /-- The CHECK constraint on the timeout. -/
  timeoutCheck : String
  /-- The columns of the body. -/
  bindBody : Columns → Body → Except Failure Body

/-- `CommandModel.__table_args__` and the columns of the body. -/
def commandModel : Model CommandBody where
  nameIndex := "ix_commands_name"
  timeoutCheck := "ck_commands_timeout"
  bindBody db body := do
    let command ← db.text body.command
    let parameters ← db.json body.parameters
    .ok ⟨command, parameters⟩

/-- `ScriptModel.__table_args__` and the column of the body. -/
def scriptModel : Model ScriptBody where
  nameIndex := "ix_scripts_name"
  timeoutCheck := "ck_scripts_timeout"
  bindBody db body := do
    let steps ← db.json body.steps
    .ok ⟨steps⟩

/-- The values given to `CommandModel(…)` or `ScriptModel(…)`. -/
structure Values (Body : Type) where
  name : String
  description : Json
  body : Body
  tags : Option (List Json)
  timeout : Int

variable {Body : Type}

/-- The row an INSERT of some values makes. -/
def bindRow (model : Model Body) (db : Columns) (id : Uuid) (templatePackId : Option Uuid)
    (v : Values Body) : Except Failure (Row Body) := do
  let name ← bindName db v.name
  let description ← db.textOrNull v.description
  let body ← model.bindBody db v.body
  let tags ← bindTags db v.tags
  let timeout ← bindTimeout model.timeoutCheck v.timeout
  .ok ⟨id, name, description, body, tags, timeout, templatePackId⟩

/-- What is known of a row made of some values. -/
structure Bound (model : Model Body) (db : Columns) (v : Values Body) (row : Row Body) : Prop where
  name : bindName db v.name = .ok row.name
  description : db.textOrNull v.description = .ok row.description
  body : model.bindBody db v.body = .ok row.body
  tags : bindTags db v.tags = .ok row.tags
  timeout : bindTimeout model.timeoutCheck v.timeout = .ok row.timeout

theorem bindRow_eq_ok {model : Model Body} {db : Columns} {id : Uuid} {packId : Option Uuid}
    {v : Values Body} {row : Row Body} (h : bindRow model db id packId v = .ok row) :
    row.id = id ∧ row.templatePackId = packId ∧ Bound model db v row := by
  simp only [bindRow, bind_eq_ok] at h
  obtain ⟨name, hname, description, hdescription, body, hbody, tags, htags, timeout, htimeout,
    hrow⟩ := h
  cases hrow
  exact ⟨rfl, rfl, hname, hdescription, hbody, htags, htimeout⟩

/-- With the documented columns the name is the one that was given. -/
theorem Bound.name_eq {model : Model Body} {db : Columns} (hdb : db.Lawful) {v : Values Body}
    {row : Row Body} (h : Bound model db v row) : row.name = v.name := by
  have hname := h.name
  unfold bindName at hname
  split at hname
  · exact hdb.text_eq _ _ hname
  · cases hname

namespace Rows

/-- The names in a table. -/
def names (rows : Rows Body) : List String :=
  rows.rows.map (·.name)

/-- Write a row: a new one, or in the place of the one with its id.  The unique
index refuses a name that another row has. -/
def save (model : Model Body) (rows : Rows Body) (row : Row Body) : Except Failure (Rows Body) :=
  if rows.rows.any fun r => r.id ≠ row.id && r.name = row.name then
    .error (.integrityError model.nameIndex)
  else
    .ok (rows.put row)

/-- Write rows one after the other. -/
def saveAll (model : Model Body) (rows : Rows Body) : List (Row Body) → Except Failure (Rows Body)
  | [] => .ok rows
  | r :: rs => do
      let rows ← rows.save model r
      rows.saveAll model rs

/-- `ON DELETE SET NULL` of `template_pack_id`. -/
def clearPack (rows : Rows Body) (packId : Uuid) : Rows Body :=
  rows.mapRows
    (fun r => if r.templatePackId = some packId then { r with templatePackId := none } else r)
    fun r => by split <;> rfl

theorem save_eq_ok {model : Model Body} {rows rows' : Rows Body} {row : Row Body} :
    rows.save model row = .ok rows' ↔
      (∀ r ∈ rows.rows, r.id ≠ row.id → r.name ≠ row.name) ∧ rows' = rows.put row := by
  unfold save
  split
  · rename_i h
    simp only [reduceCtorEq, false_iff, not_and]
    intro hall
    obtain ⟨r, hr, hp⟩ := List.any_eq_true.1 h
    simp only [ne_eq, Bool.and_eq_true, decide_eq_true_eq] at hp
    exact absurd hp.2 (hall r hr hp.1)
  · rename_i h
    rw [Except.ok.injEq]
    constructor
    · rintro rfl
      refine ⟨fun r hr hid hname => h ?_, rfl⟩
      exact List.any_eq_true.2 ⟨r, hr, by simp [hid, hname]⟩
    · rintro ⟨-, rfl⟩
      rfl

end Rows

/-! ## Partial updates -/

/-- The fields a partial update sets; the outer `none` is a field that is not
set, the inner one `None`. -/
structure Changes (BodyChanges : Type) where
  name : Option (Option String)
  description : Option (Option String)
  body : BodyChanges
  tags : Option (Option (List String))
  timeout : Option (Option Int)

/-- A column that is not set keeps its value; otherwise the new one is bound. -/
def setColumn {α β : Type} (bind : α → Except Failure β) (old : β) : Option α → Except Failure β
  | none => .ok old
  | some new => bind new

/-- Binding a value to a column that is not null. -/
def notNull {α β : Type} (bind : α → Except Failure β) : Option α → Except Failure β
  | none => .error (.integrityError "not null")
  | some a => bind a

/-- The row after `setattr` of the fields of an update and a flush. -/
def updateRow {BodyChanges : Type} (model : Model Body)
    (setBody : BodyChanges → Body → Except Failure Body) (db : Columns)
    (changes : Changes BodyChanges) (row : Row Body) : Except Failure (Row Body) := do
  let name ← setColumn (notNull (bindName db)) row.name changes.name
  let description ← setColumn (fun d => db.textOrNull (optionalStr d)) row.description
    changes.description
  let body ← setBody changes.body row.body
  let tags ← setColumn (fun ts => bindTags db (ts.map (List.map Json.str))) row.tags changes.tags
  let timeout ← setColumn (notNull (bindTimeout model.timeoutCheck)) row.timeout changes.timeout
  .ok { row with name, description, body, tags, timeout }

/-! ## The command gateway -/

/-- `CommandViewDTO`, without its timestamps. -/
structure CommandView where
  id : Uuid
  name : String
  description : Option String
  command : String
  parameters : List CommandParameterDTO
  tags : List (Option String)
  timeout : Int

/-- Iterating over `parameters or ()`. -/
def iterateOrEmpty (x : Json) : Except Failure (List Json) :=
  if x.truthy then
    match x.toList? with
    | some items => .ok items
    | none => .error .typeError
  else .ok []

theorem iterateOrEmpty_list (items : List Json) : iterateOrEmpty (.list items) = .ok items := by
  cases items with
  | nil => rfl
  | cons x xs => rfl

/-- `SqlAlchemyCommandGateway._to_view`. -/
def commandToView (row : CommandRow) : Except Failure CommandView := do
  let stored ← iterateOrEmpty row.body.parameters
  let parameters ← stored.mapM parameterFromJson
  .ok ⟨row.id, row.name, row.description, row.body.command, parameters, row.tags.getD [],
    row.timeout⟩

/-- `CommandCreateDTO`. -/
structure CommandCreateDTO where
  name : String
  description : Option String
  command : String
  parameters : List CommandParameterDTO
  tags : List String
  timeout : Int

/-- The list stored in the column `parameters`. -/
def storedParameters (parameters : List CommandParameterDTO) : Json :=
  .list (parameters.map fun p => .dict (parameterToDict p))

/-- The values `create_command` gives to `CommandModel(…)`. -/
def CommandCreateDTO.values (data : CommandCreateDTO) : Values CommandBody where
  name := data.name
  description := optionalStr data.description
  body := ⟨data.command, storedParameters data.parameters⟩
  tags := some (data.tags.map .str)
  timeout := data.timeout

/-- `create_command`; `id` is the id the new row gets. -/
def createCommand (db : Columns) (rows : Rows CommandBody) (id : Uuid) (data : CommandCreateDTO) :
    Except Failure (Rows CommandBody × CommandView) := do
  let row ← bindRow commandModel db id none data.values
  let rows ← rows.save commandModel row
  let view ← commandToView row
  .ok (rows, view)

/-- The changes to the columns of a command's body. -/
structure CommandBodyChanges where
  command : Option (Option String)
  parameters : Option (Option (List CommandParameterDTO))

/-- Set the columns of a command's body; `None` for the parameters is the JSON
value `null`. -/
def setCommandBody (db : Columns) (changes : CommandBodyChanges) (body : CommandBody) :
    Except Failure CommandBody := do
  let command ← setColumn (notNull db.text) body.command changes.command
  let parameters ← setColumn (fun ps => db.json (ps.elim .null storedParameters)) body.parameters
    changes.parameters
  .ok ⟨command, parameters⟩

/-- `update_command`. -/
def updateCommand (db : Columns) (rows : Rows CommandBody) (id : Uuid)
    (changes : Changes CommandBodyChanges) :
    Except Failure (Rows CommandBody × Option CommandView) :=
  match rows.find? id with
  | none => .ok (rows, none)
  | some row => do
      let row ← updateRow commandModel (setCommandBody db) db changes row
      let rows ← rows.save commandModel row
      let view ← commandToView row
      .ok (rows, some view)

/-- `delete_command`, `delete_script`. -/
def deleteRow (rows : Rows Body) (id : Uuid) : Rows Body × Bool :=
  match rows.find? id with
  | none => (rows, false)
  | some _ => (rows.erase id, true)

/-! ## The script gateway -/

/-- `ScriptViewDTO`, without its timestamps. -/
structure ScriptView where
  id : Uuid
  name : String
  description : Option String
  steps : List ScriptStepDTO
  tags : List (Option String)
  timeout : Int

/-- Iterating over a value. -/
def iterate (x : Json) : Except Failure (List Json) :=
  match x.toList? with
  | some items => .ok items
  | none => .error .typeError

/-- `SqlAlchemyScriptGateway._to_view`. -/
def scriptToView (fmt : Formats) (row : ScriptRow) : Except Failure ScriptView := do
  let stored ← iterate row.body.steps
  let steps ← stored.mapM (stepFromDict fmt)
  .ok ⟨row.id, row.name, row.description, steps, row.tags.getD [], row.timeout⟩

/-- `ScriptCreateDTO`. -/
structure ScriptCreateDTO where
  name : String
  description : Option String
  steps : List ScriptStepDTO
  tags : List String
  timeout : Int

/-- The list stored in the column `steps`. -/
def storedSteps (fmt : Formats) (steps : List ScriptStepDTO) : Json :=
  .list (steps.map fun s => .dict (stepToDict fmt s))

/-- The values `create_script` gives to `ScriptModel(…)`. -/
def ScriptCreateDTO.values (fmt : Formats) (data : ScriptCreateDTO) : Values ScriptBody where
  name := data.name
  description := optionalStr data.description
  body := ⟨storedSteps fmt data.steps⟩
  tags := some (data.tags.map .str)
  timeout := data.timeout

/-- `create_script`; `id` is the id the new row gets. -/
def createScript (fmt : Formats) (db : Columns) (rows : Rows ScriptBody) (id : Uuid)
    (data : ScriptCreateDTO) : Except Failure (Rows ScriptBody × ScriptView) := do
  let row ← bindRow scriptModel db id none (data.values fmt)
  let rows ← rows.save scriptModel row
  let view ← scriptToView fmt row
  .ok (rows, view)

/-- Set the column of a script's body; `None` is the JSON value `null`. -/
def setScriptBody (fmt : Formats) (db : Columns) (changes : Option (Option (List ScriptStepDTO)))
    (body : ScriptBody) : Except Failure ScriptBody := do
  let steps ← setColumn (fun ss => db.json (ss.elim .null (storedSteps fmt))) body.steps changes
  .ok ⟨steps⟩

/-- `update_script`. -/
def updateScript (fmt : Formats) (db : Columns) (rows : Rows ScriptBody) (id : Uuid)
    (changes : Changes (Option (Option (List ScriptStepDTO)))) :
    Except Failure (Rows ScriptBody × Option ScriptView) :=
  match rows.find? id with
  | none => .ok (rows, none)
  | some row => do
      let row ← updateRow scriptModel (setScriptBody fmt db) db changes row
      let rows ← rows.save scriptModel row
      let view ← scriptToView fmt row
      .ok (rows, some view)

/-! ## Configuration import -/

/-- One of the loops of `import_config`: an entity whose name is taken is
skipped, any other one becomes a row; `nextId` is the id the next row gets.
The result counts the rows. -/
def importRows (model : Model Body) (db : Columns) (kind : String) (rows : Rows Body)
    (existing : List String) (nextId : Uuid) :
    List (Values Body) → Except Failure (Rows Body × Uuid × Nat × List String)
  | [] => .ok (rows, nextId, 0, [])
  | v :: vs =>
      if v.name ∈ existing then do
        let (rows, next, created, errors) ← importRows model db kind rows existing nextId vs
        .ok (rows, next, created, (kind ++ " '" ++ v.name ++ "' already exists, skipped") :: errors)
      else do
        let row ← bindRow model db nextId none v
        let rows ← rows.save model row
        let (rows, next, created, errors) ←
          importRows model db kind rows (v.name :: existing) (nextId + 1) vs
        .ok (rows, next, created + 1, errors)

end Content
end NodeNexus
