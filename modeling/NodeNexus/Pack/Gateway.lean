import NodeNexus.Pack.Assets
import NodeNexus.Pack.Payload

/-!
# The template pack gateway

`SqlAlchemyTemplatePackGateway`, method by method.  Every public method is one
transaction: it maps the store to a new store and a result, or raises, and then
nothing of what it did is kept.

* `planNames`, `validatePlanned`, `bindRows` and `linkRows` are the phases of
  `_install_in_session`; `installInSession` puts them together.
* `uninstallInSession` removes the linked rows and the links.
* `installPack`, `uninstallPack`, `updatePack`, `createPack`,
  `upsertSyncedPack`, `patchPack` and `deletePack` are the transactions.
-/

namespace NodeNexus
namespace Pack

open Content

/-! ## Results of an installation -/

/-- `PackInstallItemDTO.status`. -/
inductive ItemStatus where
  | success
  | error
  deriving DecidableEq

/-- `PackInstallItemDTO`. -/
structure PackInstallItem where
  entityType : EntityType
  entityId : Option Uuid
  name : String
  status : ItemStatus
  error : String
  deriving DecidableEq

/-- `PackInstallResultDTO`. -/
structure PackInstallResult where
  packId : Uuid
  version : String
  total : Nat
  succeeded : Nat
  failed : Nat
  results : List PackInstallItem

/-- The parameter `on_conflict`. -/
inductive OnConflict where
  | fail
  | rename
  deriving DecidableEq

/-- `sanitize_bulk_error`, for the exceptions that occur here: a domain error
shows its message. -/
def sanitizeBulkError : Failure → String
  | .domainError message | .packConflictError message | .packNotFoundError message
  | .commandNotFoundError message | .templateRenderError message => message
  | _ => "Internal error"

/-! ## Installation: the phases -/

section Phases

variable {Body : Type}

/-- The name an item asks for. -/
def wantedName (env : Env) (entity : EntityType) (raw : Json.Fields) : String :=
  (Json.getD raw "name" (.str entity.defaultName)).toStr env.unicode.isPrintable

/-- Phase 1: resolve the names of the items against the existing names and the
names planned so far. -/
def planNames (env : Env) (entity : EntityType) (onConflict : OnConflict)
    (existing : List String) (planned : List (String × Json.Fields)) :
    List Json.Fields → Except Failure (List (String × Json.Fields))
  | [] => .ok planned
  | raw :: rest =>
      let name := wantedName env entity raw
      let used := existing ++ planned.map (·.1)
      if name ∈ used then
        match onConflict with
        | .fail =>
            .error (.packConflictError (entity.title ++ " name '" ++ name ++ "' already exists"))
        | .rename =>
            planNames env entity onConflict existing (planned ++ [(uniqueName name used, raw)]) rest
      else planNames env entity onConflict existing (planned ++ [(name, raw)]) rest

/-- The payload that is checked: the item under its planned name. -/
def plannedPayload (p : String × Json.Fields) : Json.Fields :=
  Json.set p.2 "name" (.str p.1)

theorem getD_plannedPayload_name (p : String × Json.Fields) (default : Json) :
    Json.getD (plannedPayload p) "name" default = .str p.1 := by
  rw [plannedPayload, Json.getD, Json.get_set, if_pos rfl, Option.getD_some]

/-- The planned name is the only field of the payload that is not the item's. -/
theorem getD_plannedPayload (p : String × Json.Fields) {key : String} (hkey : key ≠ "name")
    (default : Json) : Json.getD (plannedPayload p) key default = Json.getD p.2 key default := by
  rw [plannedPayload, Json.getD, Json.get_set, if_neg hkey, Json.getD]

/-- Phase 2: the valid items with the values of their rows. -/
def validPlanned (validate : Json.Fields → Except Failure (Values Body))
    (planned : List (String × Json.Fields)) : List (String × Values Body) :=
  planned.filterMap fun p => match validate (plannedPayload p) with
    | .ok values => some (p.1, values)
    | .error _ => none

/-- Phase 2: the error items. -/
def errorItems (entity : EntityType) (validate : Json.Fields → Except Failure (Values Body))
    (planned : List (String × Json.Fields)) : List PackInstallItem :=
  planned.filterMap fun p => match validate (plannedPayload p) with
    | .ok _ => none
    | .error e => some ⟨entity, none, p.1, .error, sanitizeBulkError e⟩

/-- Phase 3: the new rows; `next` is the id of the first one. -/
def bindRows (model : Model Body) (db : Columns) (packId : Uuid) (next : Uuid) :
    List (String × Values Body) → Except Failure (List (Row Body))
  | [] => .ok []
  | (name, values) :: rest => do
      let row ← bindRow model db next (some packId) { values with name := name }
      let rows ← bindRows model db packId (next + 1) rest
      .ok (row :: rows)

/-- Phase 3: the items of the rows that are written. -/
def okItems (entity : EntityType) (next : Uuid) :
    List (String × Values Body) → List PackInstallItem
  | [] => []
  | (name, _) :: rest => ⟨entity, some next, name, .success, ""⟩ :: okItems entity (next + 1) rest

/-- Phase 3: the links of the rows. -/
def linkRows (now : Time) (packId : Uuid) (next : Uuid) :
    List PackInstallItem → List Installation
  | [] => []
  | item :: rest =>
      match item.entityId with
      | some entityId =>
          ⟨next, packId, item.entityType, entityId, now⟩ :: linkRows now packId (next + 1) rest
      | none => linkRows now packId next rest

end Phases

/-- `_install_in_session`. -/
def installInSession (env : Env) (now : Time) (onConflict : OnConflict) (s : Store)
    (pack : PackRow) : Except Failure (Store × PackInstallResult) :=
  if pack.installedVersion.isSome then
    .error (.packConflictError ("Pack " ++ env.fmt.printUuid pack.id ++ " already installed"))
  else if pack.commands.isEmpty && pack.scripts.isEmpty then
    .ok (s, ⟨pack.id, pack.version, 0, 0, 0, []⟩)
  else do
    let plannedCommands ← planNames env .command onConflict s.commands.names [] pack.commands
    let plannedScripts ← planNames env .script onConflict s.scripts.names [] pack.scripts
    let printable := env.unicode.isPrintable
    let validCommands := validPlanned (validateCommandPayload printable) plannedCommands
    let validScripts := validPlanned (validateScriptPayload printable) plannedScripts
    let results := errorItems .command (validateCommandPayload printable) plannedCommands ++
      errorItems .script (validateScriptPayload printable) plannedScripts
    let nextScript := s.nextId + validCommands.length
    let nextLink := nextScript + validScripts.length
    let ok := okItems .command s.nextId validCommands ++ okItems .script nextScript validScripts
    let newCommands ← bindRows commandModel env.db pack.id s.nextId validCommands
    let newScripts ← bindRows scriptModel env.db pack.id nextScript validScripts
    let commands ← s.commands.saveAll commandModel newCommands
    let scripts ← s.scripts.saveAll scriptModel newScripts
    let links := linkRows now pack.id nextLink ok
    let packs := if ok.isEmpty then s.packs
      else s.packs.put { pack with
        installedVersion := some pack.version, installedAt := some now, updatedAt := now }
    .ok
      ({ s with
          packs := packs
          installations := s.installations.putAll links
          commands := commands
          scripts := scripts
          nextId := nextLink + links.length },
        { packId := pack.id
          version := pack.version
          total := ok.length + results.length
          succeeded := ok.length
          failed := results.length
          results := ok ++ results })

/-! ## Uninstallation -/

/-- The loop of `_uninstall_in_session` over the links of a pack. -/
def removeLinks (s : Store) : List Installation → Store
  | [] => s
  | link :: rest =>
      let s := s.eraseEntity link.entityType link.entityId
      removeLinks { s with installations := s.installations.erase link.id } rest

/-- A pack that is not installed any more. -/
def PackRow.uninstalled (now : Time) (pack : PackRow) : PackRow :=
  { pack with installedVersion := none, installedAt := none, updatedAt := now }

/-- `_uninstall_in_session`. -/
def uninstallInSession (now : Time) (s : Store) (pack : PackRow) : Store :=
  let links := s.installations.rows.filter fun link => link.packId = pack.id
  let s := removeLinks s links
  { s with packs := s.packs.put (pack.uninstalled now) }

/-! ## The transactions -/

/-- `PackNotFoundError(f"Pack {pack_id} not found")`. -/
def packNotFound (env : Env) (packId : Uuid) : Failure :=
  .packNotFoundError ("Pack " ++ env.fmt.printUuid packId ++ " not found")

/-- `install_pack`. -/
def installPack (env : Env) (now : Time) (s : Store) (packId : Uuid) (onConflict : OnConflict) :
    Except Failure (Store × PackInstallResult) :=
  match s.packs.find? packId with
  | none => .error (packNotFound env packId)
  | some pack => installInSession env now onConflict s pack

/-- `uninstall_pack`. -/
def uninstallPack (env : Env) (now : Time) (s : Store) (packId : Uuid) : Except Failure Store :=
  match s.packs.find? packId with
  | none => .error (packNotFound env packId)
  | some pack => .ok (uninstallInSession now s pack)

/-- `update_pack`. -/
def updatePack (env : Env) (now : Time) (s : Store) (packId : Uuid) (onConflict : OnConflict) :
    Except Failure (Store × PackInstallResult) :=
  match s.packs.find? packId with
  | none => .error (packNotFound env packId)
  | some pack =>
      installInSession env now onConflict (uninstallInSession now s pack) (pack.uninstalled now)

/-- `validate_pack_id`: does it accept the text? -/
def isPackId (packId : String) : Bool :=
  match packId.toList with
  | [] => false
  | c :: cs => packId.length ≤ 100 && c.isAlphanum &&
      cs.all fun c => c.isAlphanum || c = '_' || c = '.' || c = '-'

/-- `validate_pack_id`. -/
def validatePackId (env : Env) (packId : String) : Except Failure String :=
  if isPackId packId then .ok packId
  else .error (.domainError
    ("Invalid pack_id: " ++ Json.reprStr env.unicode.isPrintable packId))

/-- An item of the content that `create_pack` gets. -/
inductive ContentItem where
  /-- A dictionary, or an object that is turned into one. -/
  | object (fields : Json.Fields)
  /-- Anything else, with its `repr`. -/
  | other (repr : String)

/-- `_content_to_dicts`. -/
def contentToDicts (items : List ContentItem) : Except Failure (List Json.Fields) :=
  items.mapM fun
    | .object fields => .ok fields
    | .other repr => .error (.domainError ("Invalid pack content item: " ++ repr))

/-- `PackCreateDTO`, its manifest included. -/
structure PackCreate extends PackFields where
  packId : String
  registryId : Option Uuid
  commands : List ContentItem
  scripts : List ContentItem
  assets : List PackAssetCreate

/-- A pack before its metadata and content are set. -/
def newPack (now : Time) (id : Uuid) (registryId : Option Uuid) (packId : String) : PackRow where
  id := id
  registryId := registryId
  packId := packId
  name := ""
  description := none
  version := ""
  author := none
  tags := none
  manifestSha := none
  readme := none
  commands := []
  scripts := []
  installedVersion := none
  installedAt := none
  createdAt := now
  updatedAt := now

/-- `TemplatePackModel(…)` and its flush; the new pack is not installed. -/
def insertPack (env : Env) (now : Time) (s : Store) (registryId : Option Uuid) (packId : String)
    (data : PackFields) (commands scripts : List Json.Fields) : Except Failure Store := do
  let packId ← bindString env.db 100 packId
  let row ← (newPack now s.nextId registryId packId).setFields env.db data
  let row ← row.setContent env.db commands scripts
  let s ← s.savePack row
  .ok { s with nextId := s.nextId + 1 }

/-- `create_pack`. -/
def createPack (env : Env) (now : Time) (s : Store) (data : PackCreate) :
    Except Failure Store := do
  let packId ← validatePackId env data.packId
  let commands ← contentToDicts data.commands
  let scripts ← contentToDicts data.scripts
  let decoded ← decodeAssets env data.assets
  if s.packs.rows.any fun p => p.packId = packId && p.registryId = data.registryId then
    .error (.packConflictError ("Pack " ++ packId ++ " already exists for registry"))
  else do
    let stored ← insertPack env now s data.registryId packId data.toPackFields commands scripts
    if decoded.isEmpty then .ok stored
    else writeAssets env now s.nextId stored (decoded.map (·.1))

/-- `SyncedPackDTO`. -/
structure SyncedPack extends PackFields where
  registryId : Uuid
  packId : String
  commands : List Json.Fields
  scripts : List Json.Fields
  assets : List PackAssetCreate

/-- The second result of `upsert_synced_pack`. -/
inductive SyncOutcome where
  | created
  | updated
  | unchanged
  deriving DecidableEq

/-- `upsert_synced_pack`. -/
def upsertSyncedPack (env : Env) (now : Time) (s : Store) (data : SyncedPack) :
    Except Failure (Store × Uuid × SyncOutcome) := do
  let packId ← validatePackId env data.packId
  let decoded ← decodeAssets env data.assets
  match s.packs.rows.find? fun p => p.registryId = some data.registryId && p.packId = packId with
  | some row =>
      if row.manifestSha = data.manifestSha then .ok (s, row.id, .unchanged)
      else do
        let row ← row.setFields env.db data.toPackFields
        let row ← row.setContent env.db data.commands data.scripts
        let stored ← s.savePack { row with updatedAt := now }
        let stored := { stored with assets := stored.assets.keep fun a => a.packId ≠ row.id }
        let stored ← if decoded.isEmpty then .ok stored
          else writeAssets env now row.id stored (decoded.map (·.1))
        .ok (stored, row.id, .updated)
  | none => do
      let stored ← insertPack env now s (some data.registryId) packId data.toPackFields
        data.commands data.scripts
      let stored ← if decoded.isEmpty then .ok stored
        else writeAssets env now s.nextId stored (decoded.map (·.1))
      .ok (stored, s.nextId, .created)

/-- `PackUpdateDTO`: the fields that are `None` are left alone. -/
structure PackUpdate where
  name : Option String
  description : Option String
  version : Option String
  author : Option String
  tags : Option (List String)
  manifestSha : Option String
  readme : Option String

/-- Set the metadata columns that an update names. -/
def PackRow.patch (db : Columns) (row : PackRow) (data : PackUpdate) : Except Failure PackRow := do
  let name ← setColumn (bindString db 255) row.name data.name
  let description ← setColumn (fun d => (db.text d).map some) row.description data.description
  let version ← setColumn (bindString db 50) row.version data.version
  let author ← setColumn (fun a => bindStringOrNull db 255 (some a)) row.author data.author
  let tags ← setColumn (fun ts => bindTags db (some (ts.map .str))) row.tags data.tags
  let manifestSha ← setColumn (fun m => bindStringOrNull db 64 (some m)) row.manifestSha
    data.manifestSha
  let readme ← setColumn (fun r => (db.text r).map some) row.readme data.readme
  .ok { row with name, description, version, author, tags, manifestSha, readme }

/-- `patch_pack`. -/
def patchPack (env : Env) (now : Time) (s : Store) (packId : Uuid) (data : PackUpdate) :
    Except Failure (Store × PackRow) :=
  match s.packs.find? packId with
  | none => .error (packNotFound env packId)
  | some pack => do
      let row ← pack.patch env.db data
      let row := { row with updatedAt := now }
      .ok ({ s with packs := s.packs.put row }, row)

/-- `DELETE FROM template_packs`, with what the foreign keys do: the links and
the assets of the pack go, `template_pack_id` of remaining rows becomes NULL. -/
def Store.deletePackRow (s : Store) (packId : Uuid) : Store :=
  { s with
    packs := s.packs.erase packId
    installations := s.installations.keep fun link => link.packId ≠ packId
    assets := s.assets.keep fun a => a.packId ≠ packId
    commands := s.commands.clearPack packId
    scripts := s.scripts.clearPack packId }

/-- `delete_pack`. -/
def deletePack (env : Env) (now : Time) (s : Store) (packId : Uuid) : Except Failure Store :=
  match s.packs.find? packId with
  | none => .error (packNotFound env packId)
  | some pack => .ok ((uninstallInSession now s pack).deletePackRow packId)

end Pack
end NodeNexus
