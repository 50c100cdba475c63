import NodeNexus.Content.Store
import NodeNexus.Core.Template

/-!
# The store of template packs

The tables a pack touches: the packs with their content, the links from a pack
to the rows its installation made, the assets, and the commands and scripts.

* `PackRow`, `Installation` and `AssetRow` are the rows of `template_packs`,
  `template_installations` and `template_assets`.
* `Store` holds all tables and the ids drawn so far.  `uuid4` is modelled by a
  counter: an id is never drawn twice.
* `Env` collects what comes from outside: the text forms, the Unicode database,
  the columns of the database, and the codecs.
-/

namespace NodeNexus
namespace Pack

open Content
open NodeNexus.Core

/-- A moment, as `datetime.now(UTC)` gives it. -/
abbrev Time : Type := Nat

/-- The codecs used for assets. -/
structure Codec where
  /-- `base64.b64decode(text, validate=True)`; the error is `str(exc)`. -/
  b64decode : String → Except String (List UInt8)
  /-- `base64.b64encode(raw).decode()`. -/
  b64encode : List UInt8 → String
  /-- `raw.decode("utf-8")`; `none` is a `UnicodeDecodeError`. -/
  utf8decode : List UInt8 → Option String
  /-- `hashlib.sha256(raw).hexdigest()`. -/
  sha256 : List UInt8 → String

/-- What comes from outside of the repository. -/
structure Env where
  fmt : Formats
  unicode : Unicode
  db : Columns
  codec : Codec

/-- Canonical texts, ASCII, columns that take what fits, and no assets. -/
def plainEnv : Env where
  fmt := canonicalFormats
  unicode := asciiUnicode
  db := plainColumns
  codec :=
    { b64decode := fun _ => .error "Incorrect padding"
      b64encode := fun _ => ""
      utf8decode := fun _ => none
      sha256 := fun _ => "" }

theorem safeName_uptime : safeNameIn 1 255 "uptime" = true := by decide

/-! ## Rows -/

/-- A row of `template_packs`. -/
structure PackRow where
  id : Uuid
  registryId : Option Uuid
  packId : String
  name : String
  description : Option String
  version : String
  author : Option String
  tags : Option (List (Option String))
  manifestSha : Option String
  readme : Option String
  /-- The content of `commands.json`. -/
  commands : List Json.Fields
  /-- The content of `scripts.json`. -/
  scripts : List Json.Fields
  installedVersion : Option String
  installedAt : Option Time
  createdAt : Time
  updatedAt : Time

/-- A row of `template_installations`: a link from a pack to an entity. -/
structure Installation where
  id : Uuid
  packId : Uuid
  entityType : EntityType
  entityId : Uuid
  createdAt : Time
  deriving DecidableEq

/-- A row of `template_assets`. -/
structure AssetRow where
  id : Uuid
  packId : Uuid
  path : String
  content : String
  size : Nat
  sha : String
  createdAt : Time
  updatedAt : Time

/-! ## The store -/

/-- The tables. -/
structure Store where
  packs : Table PackRow.id
  installations : Table Installation.id
  assets : Table AssetRow.id
  commands : Rows CommandBody
  scripts : Rows ScriptBody
  /-- The ids in `template_registries`, which the foreign key asks for. -/
  registries : List Uuid
  /-- The next id that `uuid4` draws. -/
  nextId : Uuid

/-- A store without packs and rows. -/
def Store.empty (registries : List Uuid) : Store where
  packs := .empty
  installations := .empty
  assets := .empty
  commands := .empty
  scripts := .empty
  registries := registries
  nextId := 0

/-- No id in use can be drawn again. -/
structure Store.Drawn (s : Store) : Prop where
  packs : ∀ p ∈ s.packs.rows, p.id < s.nextId
  installations : ∀ link ∈ s.installations.rows, link.id < s.nextId
  commands : ∀ r ∈ s.commands.rows, r.id < s.nextId
  scripts : ∀ r ∈ s.scripts.rows, r.id < s.nextId

/-- `session.get(…)` and `session.delete(…)` of a linked entity: a row that is
gone is tolerated. -/
def Store.eraseEntity (s : Store) : EntityType → Uuid → Store
  | .command, id => { s with commands := s.commands.erase id }
  | .script, id => { s with scripts := s.scripts.erase id }

/-! ## Writing packs and assets -/

/-- `String(limit)`, not null. -/
def bindString (db : Columns) (limit : Nat) (s : String) : Except Failure String :=
  if s.length ≤ limit then db.text s else .error .dataError

/-- `String(limit)`, nullable. -/
def bindStringOrNull (db : Columns) (limit : Nat) : Option String → Except Failure (Option String)
  | none => .ok none
  | some s => (bindString db limit s).map some

/-- A JSON column that holds a list of dictionaries. -/
def bindContent (db : Columns) (items : List Json.Fields) : Except Failure (List Json.Fields) :=
  (db.json (.list (items.map .dict))).map fun _ => items

/-- The fields of a pack that a client or a registry gives. -/
structure PackFields where
  name : String
  description : Option String
  version : String
  author : Option String
  tags : List String
  manifestSha : Option String
  readme : Option String

/-- Set the metadata columns of a pack. -/
def PackRow.setFields (db : Columns) (row : PackRow) (data : PackFields) :
    Except Failure PackRow := do
  let name ← bindString db 255 data.name
  let description ← db.textOrNull (optionalStr data.description)
  let version ← bindString db 50 data.version
  let author ← bindStringOrNull db 255 data.author
  let tags ← bindTags db (some (data.tags.map .str))
  let manifestSha ← bindStringOrNull db 64 data.manifestSha
  let readme ← db.textOrNull (optionalStr data.readme)
  .ok { row with name, description, version, author, tags, manifestSha, readme }

/-- Set the content columns of a pack. -/
def PackRow.setContent (db : Columns) (row : PackRow) (commands scripts : List Json.Fields) :
    Except Failure PackRow := do
  let commands ← bindContent db commands
  let scripts ← bindContent db scripts
  .ok { row with commands, scripts }

/-- Write a pack under its unique indexes and its foreign key. -/
def Store.savePack (s : Store) (row : PackRow) : Except Failure Store :=
  if s.packs.rows.any fun p =>
      p.id ≠ row.id && p.registryId = row.registryId && p.packId = row.packId then
    .error (.integrityError (if row.registryId.isSome then "ix_template_packs_registry_pack"
      else "uq_template_packs_local_pack_id"))
  else if row.registryId.any fun id => id ∉ s.registries then
    .error (.integrityError "template_packs_registry_id_fkey")
  else
    .ok { s with packs := s.packs.put row }

/-- What `savePack` leaves. -/
theorem Store.savePack_eq_ok {s s' : Store} {row : PackRow} (h : s.savePack row = .ok s') :
    s' = { s with packs := s.packs.put row } := by
  unfold Store.savePack at h
  split at h
  · cases h
  · split at h
    · cases h
    · cases h
      rfl

/-- Setting the metadata touches none of the other columns. -/
theorem PackRow.setFields_eq_ok {db : Columns} {row row' : PackRow} {data : PackFields}
    (h : row.setFields db data = .ok row') :
    row'.id = row.id ∧ row'.installedVersion = row.installedVersion := by
  simp only [PackRow.setFields, bind_eq_ok] at h
  obtain ⟨_, -, _, -, _, -, _, -, _, -, _, -, _, -, hrow⟩ := h
  cases hrow
  exact ⟨rfl, rfl⟩

/-- Setting the content touches none of the other columns. -/
theorem PackRow.setContent_eq_ok {db : Columns} {row row' : PackRow}
    {commands scripts : List Json.Fields} (h : row.setContent db commands scripts = .ok row') :
    row' = { row with commands, scripts } := by
  simp only [PackRow.setContent, bindContent, bind_eq_ok] at h
  obtain ⟨cs, hcs, ss, hss, hrow⟩ := h
  cases hc : db.json (.list (commands.map .dict)) with
  | error e =>
      rw [hc] at hcs
      cases hcs
  | ok j =>
      rw [hc] at hcs
      cases hcs
      cases hs : db.json (.list (scripts.map .dict)) with
      | error e =>
          rw [hs] at hss
          cases hss
      | ok j =>
          rw [hs] at hss
          cases hss
          cases hrow
          rfl

end Pack
end NodeNexus
