import NodeNexus.Pack.Upsert
import NodeNexus.Registry.Source

/-!
# Synchronising a registry

`sync_registry` reads the packs of a repository and upserts them one after the
other.  A pack that cannot be stored becomes an error item, and the loop goes
on; nothing handles a directory that cannot be read.

* `syncedPack` checks what was read of a directory, `upsertFetchedPack` stores
  it.
* `syncPacks` is the loop and `syncRegistry` the method.
* `checked_iff` — the checks of service and gateway accept exactly the valid
  packs.
* `syncPack_cases` — the two ways a round of the loop can go.
-/

namespace NodeNexus
namespace Registry

open Content Pack

/-! ## Checking what was read -/

/-- `x if isinstance(x, str) else None`. -/
def strOrNone : Option Json → Option String
  | some (.str s) => some s
  | _ => none

/-- A string that is not empty. -/
def nonEmptyStr (value : Option Json) : Option String :=
  (strOrNone value).filter (· ≠ "")

/-- A list of strings. -/
def strings : Json → Option (List String)
  | .list items => items.mapM fun item => strOrNone (some item)
  | _ => none

/-- The dictionaries of a list. -/
def dictionaries (items : List Json) : List Json.Fields :=
  items.filterMap fun
    | .dict fields => some fields
    | _ => none

/-- `str(manifest.get("pack_id") or pack.dirname)`. -/
def packIdOf (printable : Char → Bool) (pack : FetchedPack) : String :=
  ((Json.getD pack.manifest "pack_id" .null).orElse (.str pack.dirname)).toStr printable

/-- `manifest.get("tags") or []`. -/
def tagsOf (pack : FetchedPack) : Json :=
  (Json.getD pack.manifest "tags" .null).orElse (.list [])

/-- The hash that decides whether a pack is skipped: the one of the blob, or what
the manifest calls so. -/
def shaOf (pack : FetchedPack) : Option String :=
  match pack.manifestSha with
  | some sha => some sha
  | none => strOrNone (Json.get pack.manifest "manifest_sha")

/-- An asset as it is handed on. -/
def assetOf (codec : Codec) (a : FetchedAsset) : PackAssetCreate :=
  ⟨a.path, codec.b64encode a.content⟩

/-- The part of `_upsert_fetched_pack` before the gateway is called.  That
commands and scripts are lists is part of what a fetched pack is here. -/
def syncedPack (env : Env) (registryId : Uuid) (pack : FetchedPack) : Except Failure SyncedPack :=
  match nonEmptyStr (Json.get pack.manifest "name") with
  | none => .error (.domainError ("Pack " ++ pack.dirname ++ ": manifest missing name"))
  | some name => match nonEmptyStr (Json.get pack.manifest "version") with
      | none => .error (.domainError ("Pack " ++ pack.dirname ++ ": manifest missing version"))
      | some version => match strings (tagsOf pack) with
          | none =>
              .error (.domainError ("Pack " ++ pack.dirname ++ ": manifest tags must be strings"))
          | some tags => .ok
              { registryId := registryId
                packId := packIdOf env.unicode.isPrintable pack
                name := name
                version := version
                description := strOrNone (Json.get pack.manifest "description")
                author := strOrNone (Json.get pack.manifest "author")
                tags := tags
                manifestSha := shaOf pack
                readme := pack.readme
                commands := dictionaries pack.commands
                scripts := dictionaries pack.scripts
                assets := pack.assets.map (assetOf env.codec) }

/-- `_upsert_fetched_pack`. -/
def upsertFetchedPack (env : Env) (now : Time) (registryId : Uuid) (s : Store)
    (pack : FetchedPack) : Except Failure (Store × Uuid × SyncOutcome) := do
  let data ← syncedPack env registryId pack
  upsertSyncedPack env now s data

/-! ## The loop -/

/-- The text of an outcome. -/
def outcomeText : SyncOutcome → String
  | .created => "created"
  | .updated => "updated"
  | .unchanged => "unchanged"

/-- `RegistrySyncItemDTO`. -/
structure RegistrySyncItem where
  packId : String
  status : ItemStatus
  error : String
  message : String

/-- `RegistrySyncResultDTO`. -/
structure RegistrySyncResult where
  registryId : Uuid
  total : Nat
  succeeded : Nat
  failed : Nat
  results : List RegistrySyncItem

/-- The variables of the loop, and the store. -/
structure SyncState where
  store : Store
  succeeded : Nat
  results : List RegistrySyncItem

/-- One round: each pack is stored in a transaction of its own, and what it
raises becomes an item. -/
def syncPack (env : Env) (clock : Nat → Time) (registryId : Uuid) (acc : SyncState)
    (pack : FetchedPack) : SyncState :=
  match upsertFetchedPack env (clock acc.results.length) registryId acc.store pack with
  | .ok (store, _, outcome) =>
      { store := store
        succeeded := acc.succeeded + 1
        results := acc.results ++ [⟨pack.dirname, .success, "", outcomeText outcome⟩] }
  | .error exc =>
      { store := acc.store
        succeeded := acc.succeeded
        results := acc.results ++ [⟨pack.dirname, .error, sanitizeBulkError exc, ""⟩] }

/-- The loop of `sync_registry`. -/
def syncPacks (env : Env) (clock : Nat → Time) (registryId : Uuid) (acc : SyncState)
    (packs : List FetchedPack) : SyncState :=
  packs.foldl (syncPack env clock registryId) acc

/-! ## The method -/

/-- The catalog with the tables of another store. -/
def withStore (c : Catalog) (s : Store) : Catalog where
  store := { s with registries := c.registries.rows.map (·.id) }
  registries := c.registries
  ids := rfl

/-- What comes from outside of the service: the clock, the cipher and GitHub. -/
structure Outside where
  /-- `datetime.now(UTC)`, reading by reading. -/
  clock : Nat → Time
  /-- `cipher.decrypt`. -/
  decrypt : Option String → Except Failure (Option String)
  /-- What the API serves under an owner, a name, a branch and a token. -/
  templates : String → String → String → Option String → Templates
  /-- What it serves instead of a path that a URL does not keep. -/
  astray : String → Served

/-- What `sync_registry` makes of an exception of the source. -/
def sourceFailure : SourceError → RegistryFailure
  | .domainError message => .failure (.domainError message)
  | .exception message => .failure (.domainError ("Registry sync failed: " ++ message))

/-- `sync_registry` after the packs have been read. -/
def syncFetched (env : Env) (outside : Outside) (c : Catalog) (id : Uuid)
    (fetched : List FetchedPack) : Catalog × Except RegistryFailure RegistrySyncResult :=
  let done := syncPacks env outside.clock id ⟨c.store, 0, []⟩ fetched
  let c := withStore c done.store
  match touchSynced env (outside.clock fetched.length) c id with
  | .error e => (c, .error e)
  | .ok c => (c, .ok
      { registryId := id
        total := fetched.length
        succeeded := done.succeeded
        failed := fetched.length - done.succeeded
        results := done.results })

/-- `sync_registry`; the catalog is what its transactions have left, also where
it raises. -/
def syncRegistry (env : Env) (reader : JsonReader) (outside : Outside) (c : Catalog) (id : Uuid) :
    Catalog × Except RegistryFailure RegistrySyncResult :=
  match c.registries.find? id with
  | none => (c, .error (registryNotFound env id))
  | some view => match outside.decrypt view.githubTokenEncrypted with
      | .error e => (c, .error (.failure e))
      | .ok token =>
          match fetchPacks env.codec reader outside.astray view.owner view.name
              (outside.templates view.owner view.name view.defaultBranch token) with
          | .error e => (c, .error (sourceFailure e))
          | .ok fetched => syncFetched env outside c id fetched

/-! ## Which packs pass the checks -/

/-- Base64 reads back what was written, as documented. -/
def DecodesEncoded (codec : Codec) : Prop :=
  ∀ raw, codec.b64decode (codec.b64encode raw) = .ok raw

/-- The assets of a pack that the gateway accepts. -/
structure ValidAssets (assets : List FetchedAsset) : Prop where
  count : assets.length ≤ maxAssetsPerPack
  size : ∀ a ∈ assets, a.content.length ≤ Pack.maxAssetBytes
  total : bytesOf assets ≤ Pack.maxPackAssetsBytes
  paths : ∀ a ∈ assets, isAssetPath a.path = true
  distinct : (assets.map (·.path)).Nodup

/-- The packs that the checks of service and gateway accept. -/
structure ValidPack (printable : Char → Bool) (pack : FetchedPack) : Prop where
  name : ∃ name, Json.get pack.manifest "name" = some (.str name) ∧ name ≠ ""
  version : ∃ version, Json.get pack.manifest "version" = some (.str version) ∧ version ≠ ""
  tags : ∃ tags : List String, tagsOf pack = .list (tags.map .str)
  packId : isPackId (packIdOf printable pack) = true
  assets : ValidAssets pack.assets

theorem nonEmptyStr_eq_some {value : Option Json} {s : String} :
    nonEmptyStr value = some s ↔ value = some (.str s) ∧ s ≠ "" := by
  unfold nonEmptyStr
  rw [Option.filter_eq_some_iff]
  cases value with
  | none => simp [strOrNone]
  | some x => cases x <;> simp [strOrNone]

theorem strings_eq_some {x : Json} {ts : List String} :
    strings x = some ts ↔ x = .list (ts.map .str) := by
  cases x with
  | list items =>
      simp only [strings, Json.list.injEq]
      induction items generalizing ts with
      | nil => cases ts <;> simp
      | cons item items ih =>
          rw [List.mapM_cons]
          cases item with
          | str s =>
              show ((items.mapM fun item => strOrNone (some item)).bind
                fun rest => some (s :: rest)) = some ts ↔ _
              rw [Option.bind_eq_some_iff]
              constructor
              · rintro ⟨rest, hrest, h⟩
                cases h
                rw [ih.1 hrest]
                rfl
              · intro h
                cases ts with
                | nil => cases h
                | cons t ts =>
                    obtain ⟨hst, hrest⟩ := List.cons.inj h
                    cases hst
                    exact ⟨ts, ih.2 hrest, rfl⟩
          | null | bool _ | int _ | float _ | list _ | dict _ => cases ts <;> simp [strOrNone]
  | null | bool _ | int _ | float _ | str _ | dict _ => simp [strings]

/-- What the service hands to the gateway. -/
structure Synced (env : Env) (registryId : Uuid) (pack : FetchedPack) (data : SyncedPack) :
    Prop where
  registryId : data.registryId = registryId
  packId : data.packId = packIdOf env.unicode.isPrintable pack
  name : Json.get pack.manifest "name" = some (.str data.name) ∧ data.name ≠ ""
  version : Json.get pack.manifest "version" = some (.str data.version) ∧ data.version ≠ ""
  description : data.description = strOrNone (Json.get pack.manifest "description")
  author : data.author = strOrNone (Json.get pack.manifest "author")
  tags : tagsOf pack = .list (data.tags.map .str)
  manifestSha : data.manifestSha = shaOf pack
  readme : data.readme = pack.readme
  commands : data.commands = dictionaries pack.commands
  scripts : data.scripts = dictionaries pack.scripts
  assets : data.assets = pack.assets.map (assetOf env.codec)

theorem syncedPack_eq_ok {env : Env} {registryId : Uuid} {pack : FetchedPack} {data : SyncedPack}
    (h : syncedPack env registryId pack = .ok data) : Synced env registryId pack data := by
  unfold syncedPack at h
  split at h
  · cases h
  · rename_i name hname
    split at h
    · cases h
    · rename_i version hversion
      split at h
      · cases h
      · rename_i tags htags
        cases h
        exact ⟨rfl, rfl, nonEmptyStr_eq_some.1 hname, nonEmptyStr_eq_some.1 hversion, rfl, rfl,
          strings_eq_some.1 htags, rfl, rfl, rfl, rfl, rfl⟩

/-- The assets with the contents that they are decoded to. -/
def decodedOf (codec : Codec) (assets : List FetchedAsset) :
    List (PackAssetCreate × List UInt8) :=
  assets.map fun a => (assetOf codec a, a.content)

theorem forall₂_decoded_iff {env : Env} (hcodec : DecodesEncoded env.codec)
    {assets : List FetchedAsset} {decoded : List (PackAssetCreate × List UInt8)} :
    List.Forall₂ (Decoded env) (assets.map (assetOf env.codec)) decoded ↔
      (∀ a ∈ assets, a.content.length ≤ Pack.maxAssetBytes) ∧
        decoded = decodedOf env.codec assets := by
  induction assets generalizing decoded with
  | nil =>
      constructor
      · intro h
        cases h
        exact ⟨by simp, rfl⟩
      · rintro ⟨-, rfl⟩
        exact .nil
  | cons a assets ih =>
      rw [List.map_cons, List.forall_mem_cons]
      constructor
      · intro h
        cases h with
        | @cons _ d _ ds hd hds =>
            obtain ⟨asset, raw⟩ := d
            obtain ⟨rfl, hcontent, hsize⟩ := hd
            obtain ⟨hsizes, rfl⟩ := ih.1 hds
            have hraw : Except.ok a.content = Except.ok raw := (hcodec a.content).symm.trans hcontent
            cases hraw
            exact ⟨⟨hsize, hsizes⟩, rfl⟩
      · rintro ⟨⟨hsize, hsizes⟩, rfl⟩
        exact .cons ⟨rfl, hcodec a.content, hsize⟩ (ih.2 ⟨hsizes, rfl⟩)

theorem decodeAssets_iff {env : Env} (hcodec : DecodesEncoded env.codec)
    {assets : List FetchedAsset} {decoded : List (PackAssetCreate × List UInt8)} :
    decodeAssets env (assets.map (assetOf env.codec)) = .ok decoded ↔
      ValidAssets assets ∧ decoded = decodedOf env.codec assets := by
  have hbytes : decodedBytes (decodedOf env.codec assets) = bytesOf assets := by
    unfold decodedBytes decodedOf bytesOf
    rw [List.map_map]
    rfl
  have hpaths : (assets.map (assetOf env.codec)).map (·.path) = assets.map (·.path) := by
    rw [List.map_map]
    rfl
  rw [decodeAssets_eq_ok_iff, List.length_map]
  constructor
  · rintro ⟨hcount, h⟩
    obtain ⟨hsizes, rfl⟩ := (forall₂_decoded_iff hcodec).1 h.contents
    refine ⟨⟨hcount, hsizes, ?_, ?_, hpaths ▸ h.distinct⟩, rfl⟩
    · have htotal := h.total
      rw [hbytes, Nat.zero_add] at htotal
      exact htotal
    · intro a ha
      exact (h.paths _ (List.mem_map_of_mem ha)).1
  · rintro ⟨h, rfl⟩
    refine ⟨h.count, ?_, hpaths ▸ h.distinct, (forall₂_decoded_iff hcodec).2 ⟨h.size, rfl⟩, ?_⟩
    · intro a ha
      obtain ⟨b, hb, rfl⟩ := List.mem_map.1 ha
      exact ⟨h.paths b hb, List.not_mem_nil⟩
    · rw [hbytes, Nat.zero_add]
      exact h.total

/-- **The checks of service and gateway accept exactly the valid packs.** -/
theorem checked_iff {env : Env} (hcodec : DecodesEncoded env.codec) {registryId : Uuid}
    {pack : FetchedPack} {data : SyncedPack} (hdata : syncedPack env registryId pack = .ok data)
    {decoded : List (PackAssetCreate × List UInt8)} :
    SyncChecked env data decoded ↔
      ValidPack env.unicode.isPrintable pack ∧ decoded = decodedOf env.codec pack.assets := by
  have hsynced := syncedPack_eq_ok hdata
  have hassets : decodeAssets env data.assets = .ok decoded ↔
      ValidAssets pack.assets ∧ decoded = decodedOf env.codec pack.assets := by
    rw [hsynced.assets]
    exact decodeAssets_iff hcodec
  constructor
  · intro h
    obtain ⟨hvalid, hdecoded⟩ := hassets.1 h.assets
    exact ⟨⟨⟨_, hsynced.name⟩, ⟨_, hsynced.version⟩, ⟨_, hsynced.tags⟩, hsynced.packId ▸ h.packId,
      hvalid⟩, hdecoded⟩
  · rintro ⟨hvalid, hdecoded⟩
    exact ⟨hsynced.packId ▸ hvalid.packId, hassets.2 ⟨hvalid.assets, hdecoded⟩⟩

/-! ## Rounds -/

/-- The state in which packs can be stored: the keys are in order and the
registry is there. -/
structure SyncReady (s : Store) (registryId : Uuid) : Prop where
  keyed : s.Keyed
  registry : registryId ∈ s.registries

/-- There is a pack of the registry under a `pack_id`. -/
def HasPack (s : Store) (registryId : Uuid) (packId : String) : Prop :=
  ∃ p ∈ s.packs.rows, p.registryId = some registryId ∧ p.packId = packId

section Rounds

variable {env : Env} {registryId : Uuid}

theorem upsertFetchedPack_eq_ok {now : Time} {s : Store} {pack : FetchedPack}
    {result : Store × Uuid × SyncOutcome} :
    upsertFetchedPack env now registryId s pack = .ok result ↔
      ∃ data, syncedPack env registryId pack = .ok data ∧
        upsertSyncedPack env now s data = .ok result :=
  bind_eq_ok

/-- Storing a pack leaves a state in which packs can be stored. -/
theorem SyncReady.upserted {now : Time} {s : Store} {data : SyncedPack}
    {result : Store × Uuid × SyncOutcome} (h : SyncReady s registryId)
    (hok : upsertSyncedPack env now s data = .ok result) : SyncReady result.1 registryId where
  keyed := h.keyed.kept (indexKept_upsertSyncedPack hok) (keysKept_upsertSyncedPack h.keyed hok)
  registry := by
    rw [(indexKept_upsertSyncedPack hok).registries]
    exact h.registry

/-- The two ways a round can go. -/
theorem syncPack_cases (env : Env) (clock : Nat → Time) (registryId : Uuid) (acc : SyncState)
    (pack : FetchedPack) :
    (∃ data result, syncedPack env registryId pack = .ok data ∧
      upsertSyncedPack env (clock acc.results.length) acc.store data = .ok result ∧
      syncPack env clock registryId acc pack =
        ⟨result.1, acc.succeeded + 1,
          acc.results ++ [⟨pack.dirname, .success, "", outcomeText result.2.2⟩]⟩) ∨
    (∃ exc, ¬Returns (upsertFetchedPack env (clock acc.results.length) registryId acc.store pack) ∧
      syncPack env clock registryId acc pack =
        ⟨acc.store, acc.succeeded,
          acc.results ++ [⟨pack.dirname, .error, sanitizeBulkError exc, ""⟩]⟩) := by
  unfold syncPack
  cases h : upsertFetchedPack env (clock acc.results.length) registryId acc.store pack with
  | ok result =>
      obtain ⟨data, hdata, hok⟩ := upsertFetchedPack_eq_ok.1 h
      exact .inl ⟨data, result, hdata, hok, rfl⟩
  | error exc => exact .inr ⟨exc, not_returns_error exc, rfl⟩

theorem SyncReady.round {clock : Nat → Time} {acc : SyncState} (h : SyncReady acc.store registryId)
    (pack : FetchedPack) :
    SyncReady (syncPack env clock registryId acc pack).store registryId := by
  rcases syncPack_cases env clock registryId acc pack with ⟨data, result, -, hok, heq⟩ |
    ⟨exc, -, heq⟩
  · rw [heq]
    exact h.upserted hok
  · rw [heq]
    exact h

end Rounds

end Registry
end NodeNexus
