import NodeNexus.Pack.LinksRemoved
import NodeNexus.Pack.Runs

/-!
# Template registries

A registry is a GitHub repository that packs are synchronised from.  Deleting it
keeps its packs: the foreign key sets their `registry_id` to NULL, and with that
they come under the partial unique index on the `pack_id` of local packs.

* `RegistryRow` is a row of `template_registries`, `Catalog` the store together
  with the registries, whose ids are the ones its foreign key asks for.
* `createRegistry`, `patchRegistry`, `touchSynced` and `deleteRegistry` are the
  transactions of `SqlAlchemyTemplateRegistryGateway`.
* `catalogSystem` is the system of all operations on a catalog.
* `packsIndexed_of_reachable` — the unique index on registry and `pack_id` holds
  in every reachable catalog.
* `delete_registry_iff` — a registry can be deleted exactly when none of its
  packs shares its `pack_id` with a pack that has no registry.
-/

namespace NodeNexus
namespace Pack

open Content

/-! ## Rows and gateway -/

/-- A row of `template_registries`. -/
structure RegistryRow where
  id : Uuid
  owner : String
  name : String
  githubTokenEncrypted : Option String
  defaultBranch : String
  lastSyncedAt : Option Time
  createdAt : Time
  updatedAt : Time

/-- The store and the registries. -/
structure Catalog where
  store : Store
  registries : Table RegistryRow.id
  /-- The foreign key of the packs asks for the ids of the registries. -/
  ids : store.registries = registries.rows.map (·.id)

/-- A catalog without rows. -/
def Catalog.empty : Catalog := ⟨Store.empty [], .empty, rfl⟩

/-- The exceptions of the registries. -/
inductive RegistryFailure where
  | registryNotFoundError (message : String)
  | registryConflictError (message : String)
  /-- Any other exception. -/
  | failure (f : Failure)
  deriving DecidableEq

/-- `RegistryNotFoundError(f"Registry {registry_id} not found")`. -/
def registryNotFound (env : Env) (id : Uuid) : RegistryFailure :=
  .registryNotFoundError ("Registry " ++ env.fmt.printUuid id ++ " not found")

/-- `RegistryConflictError(f"Registry {owner}/{name} already exists")`. -/
def registryConflict (owner name : String) : RegistryFailure :=
  .registryConflictError ("Registry " ++ owner ++ "/" ++ name ++ " already exists")

/-- `RegistryCreateDTO`. -/
structure RegistryCreate where
  owner : String
  name : String
  githubToken : Option String
  defaultBranch : String

/-- `RegistryUpdateDTO`: the fields that are `None` are left alone. -/
structure RegistryUpdate where
  owner : Option String
  name : Option String
  githubToken : Option String
  defaultBranch : Option String

/-- `cipher.encrypt(token) if token else None`. -/
def encryptToken (encrypt : String → String) (token : Option String) : Option String :=
  (token.filter (· ≠ "")).map encrypt

/-- The row an INSERT or an UPDATE writes: the values are bound to their columns. -/
def bindRegistry (db : Columns) (row : RegistryRow) : Except Failure RegistryRow := do
  let owner ← bindString db 255 row.owner
  let name ← bindString db 255 row.name
  let githubTokenEncrypted ← db.textOrNull (optionalStr row.githubTokenEncrypted)
  let defaultBranch ← bindString db 100 row.defaultBranch
  .ok { row with owner, name, githubTokenEncrypted, defaultBranch }

/-- Is there a registry with this owner and name, other than the given one? -/
def Catalog.registryExists (c : Catalog) (other : Option Uuid) (owner name : String) : Bool :=
  c.registries.rows.any fun r => some r.id ≠ other && r.owner = owner && r.name = name

/-- Write a registry: a new one, or in the place of the one with its id. -/
def Catalog.putRegistry (c : Catalog) (row : RegistryRow) (nextId : Uuid) : Catalog where
  store := { c.store with
    registries := (c.registries.put row).rows.map (·.id)
    nextId := nextId }
  registries := c.registries.put row
  ids := rfl

/-- `create_registry`. -/
def createRegistry (env : Env) (encrypt : String → String) (now : Time) (c : Catalog)
    (data : RegistryCreate) : Except RegistryFailure Catalog :=
  let id := c.store.nextId
  if c.registryExists none data.owner data.name then .error (registryConflict data.owner data.name)
  else do
    let row ← (bindRegistry env.db
      { id := id
        owner := data.owner
        name := data.name
        githubTokenEncrypted := encryptToken encrypt data.githubToken
        defaultBranch := if data.defaultBranch = "" then "main" else data.defaultBranch
        lastSyncedAt := none
        createdAt := now
        updatedAt := now }).mapError .failure
    .ok (c.putRegistry row (id + 1))

/-- `patch_registry`. -/
def patchRegistry (env : Env) (encrypt : String → String) (now : Time) (c : Catalog) (id : Uuid)
    (data : RegistryUpdate) : Except RegistryFailure Catalog :=
  match c.registries.find? id with
  | none => .error (registryNotFound env id)
  | some model =>
      let owner := data.owner.getD model.owner
      let name := data.name.getD model.name
      if (owner ≠ model.owner || name ≠ model.name) && c.registryExists (some id) owner name then
        .error (registryConflict owner name)
      else do
        let row ← (bindRegistry env.db
          { model with
            owner := owner
            name := name
            defaultBranch := data.defaultBranch.getD model.defaultBranch
            githubTokenEncrypted := if data.githubToken.isSome
              then encryptToken encrypt data.githubToken else model.githubTokenEncrypted
            updatedAt := now }).mapError .failure
        .ok (c.putRegistry row c.store.nextId)

/-- `touch_synced`. -/
def touchSynced (env : Env) (now : Time) (c : Catalog) (id : Uuid) :
    Except RegistryFailure Catalog :=
  match c.registries.find? id with
  | none => .error (registryNotFound env id)
  | some model =>
      .ok (c.putRegistry { model with lastSyncedAt := some now, updatedAt := now } c.store.nextId)

/-- `ON DELETE SET NULL` of `registry_id`. -/
def PackRow.clearRegistry (id : Uuid) (p : PackRow) : PackRow :=
  if p.registryId = some id then { p with registryId := none } else p

@[simp] theorem PackRow.clearRegistry_id (id : Uuid) (p : PackRow) :
    (p.clearRegistry id).id = p.id := by
  unfold PackRow.clearRegistry
  split <;> rfl

@[simp] theorem PackRow.clearRegistry_packId (id : Uuid) (p : PackRow) :
    (p.clearRegistry id).packId = p.packId := by
  unfold PackRow.clearRegistry
  split <;> rfl

theorem PackRow.clearRegistry_registryId (id : Uuid) (p : PackRow) :
    (p.clearRegistry id).registryId = none ↔ p.registryId = some id ∨ p.registryId = none := by
  unfold PackRow.clearRegistry
  split
  · rename_i h
    simp [h]
  · rename_i h
    simp [h]

/-- The catalog without a registry; its packs have no registry any more. -/
def Catalog.eraseRegistry (c : Catalog) (id : Uuid) : Catalog where
  store := { c.store with
    packs := c.store.packs.mapRows (PackRow.clearRegistry id) (PackRow.clearRegistry_id id)
    registries := (c.registries.erase id).rows.map (·.id) }
  registries := c.registries.erase id
  ids := rfl

theorem mem_eraseRegistry {c : Catalog} {id : Uuid} {p : PackRow} :
    p ∈ (c.eraseRegistry id).store.packs.rows ↔
      ∃ p₀ ∈ c.store.packs.rows, p₀.clearRegistry id = p :=
  List.mem_map

/-- The partial unique index `uq_template_packs_local_pack_id`. -/
def localPackIds (packs : Table PackRow.id) : List String :=
  (packs.rows.filter fun p => p.registryId.isNone).map (·.packId)

/-- `delete_registry`: the database runs the foreign key's action under its
indexes. -/
def deleteRegistry (env : Env) (c : Catalog) (id : Uuid) : Except RegistryFailure Catalog :=
  match c.registries.find? id with
  | none => .error (registryNotFound env id)
  | some _ =>
      if (localPackIds (c.eraseRegistry id).store.packs).Nodup then .ok (c.eraseRegistry id)
      else .error (.failure (.integrityError "uq_template_packs_local_pack_id"))

/-! ## Runs -/

/-- The operations on a catalog. -/
inductive CatalogEvent where
  /-- An operation on the store. -/
  | store (e : Event)
  | createRegistry (now : Time) (data : RegistryCreate)
  | patchRegistry (now : Time) (id : Uuid) (data : RegistryUpdate)
  | touchSynced (now : Time) (id : Uuid)
  | deleteRegistry (id : Uuid)

/-! ### The store keeps the registries and the index -/

/-- The unique index on registry and `pack_id`, with local packs among
themselves. -/
def PacksIndexed (packs : Table PackRow.id) : Prop :=
  ∀ p ∈ packs.rows, ∀ q ∈ packs.rows,
    p.registryId = q.registryId → p.packId = q.packId → p.id = q.id

/-- A pack that shares registry and `pack_id` with no other one may be written. -/
theorem PacksIndexed.put {packs : Table PackRow.id} {row : PackRow} (h : PacksIndexed packs)
    (hrow : ∀ p ∈ packs.rows, p.id ≠ row.id → p.registryId = row.registryId →
      p.packId ≠ row.packId) : PacksIndexed (packs.put row) := by
  intro p hp q hq hreg hpack
  rcases Table.mem_put.1 hp with hprow | ⟨hpold, hpne⟩
  · rcases Table.mem_put.1 hq with hqrow | ⟨hqold, hqne⟩
    · rw [hprow, hqrow]
    · rw [hprow] at hreg hpack
      exact absurd hpack.symm (hrow q hqold hqne hreg.symm)
  · rcases Table.mem_put.1 hq with hqrow | ⟨hqold, hqne⟩
    · rw [hqrow] at hreg hpack
      exact absurd hpack (hrow p hpold hpne hreg)
    · exact h p hpold q hqold hreg hpack

/-- A pack may be rewritten under its registry and `pack_id`. -/
theorem PacksIndexed.rewrite {packs : Table PackRow.id} {old row : PackRow}
    (h : PacksIndexed packs) (hold : old ∈ packs.rows) (hid : row.id = old.id)
    (hreg : row.registryId = old.registryId) (hpack : row.packId = old.packId) :
    PacksIndexed (packs.put row) := by
  apply h.put
  intro p hp hne hpreg hppack
  rw [hreg] at hpreg
  rw [hpack] at hppack
  exact hne ((h p hp old hold hpreg hppack).trans hid.symm)

theorem PacksIndexed.erase {packs : Table PackRow.id} (h : PacksIndexed packs) (id : Uuid) :
    PacksIndexed (packs.erase id) :=
  fun p hp q hq => h p (Table.mem_erase.1 hp).1 q (Table.mem_erase.1 hq).1

/-- What the index lets through. -/
theorem Store.savePack_unique {s s' : Store} {row : PackRow} (h : s.savePack row = .ok s') :
    ∀ p ∈ s.packs.rows, p.id ≠ row.id → p.registryId = row.registryId →
      p.packId ≠ row.packId := by
  unfold Store.savePack at h
  split at h
  · cases h
  · rename_i hany
    intro p hp hid hreg hpack
    refine hany (List.any_eq_true.2 ⟨p, hp, ?_⟩)
    simp [hid, hreg, hpack]

/-- The registries stay and the index is kept. -/
structure IndexKept (s s' : Store) : Prop where
  registries : s'.registries = s.registries
  indexed : PacksIndexed s.packs → PacksIndexed s'.packs

theorem IndexKept.refl (s : Store) : IndexKept s s := ⟨rfl, id⟩

theorem IndexKept.trans {s t u : Store} (h₁ : IndexKept s t) (h₂ : IndexKept t u) :
    IndexKept s u :=
  ⟨h₂.registries.trans h₁.registries, fun h => h₂.indexed (h₁.indexed h)⟩

/-- Everything but the packs may change. -/
theorem IndexKept.ofPacks {s s' : Store} (hreg : s'.registries = s.registries)
    (hpacks : s'.packs = s.packs) : IndexKept s s' := by
  refine ⟨hreg, fun h => ?_⟩
  rw [hpacks]
  exact h

/-- Inserting a pack, with its assets. -/
theorem IndexKept.insertPack {env : Env} {now : Time} {s stored : Store}
    {registryId : Option Uuid} {packId : String} {data : PackFields}
    {commands scripts : List Json.Fields}
    (h : Pack.insertPack env now s registryId packId data commands scripts = .ok stored)
    (assets : Table AssetRow.id) (n : Nat) :
    IndexKept s { stored with assets, nextId := stored.nextId + n } := by
  simp only [Pack.insertPack, bind_eq_ok] at h
  obtain ⟨packId', -, row, -, row', -, saved, hsave, h⟩ := h
  cases h
  have hunique := Store.savePack_unique hsave
  have hsaved := Store.savePack_eq_ok hsave
  subst hsaved
  exact ⟨rfl, fun h => h.put hunique⟩

/-- Writing a stored pack under its registry and `pack_id`. -/
theorem IndexKept.rewrite {s s' : Store} {old row : PackRow} (hold : old ∈ s.packs.rows)
    (hregs : s'.registries = s.registries) (hs' : s'.packs = s.packs.put row)
    (hid : row.id = old.id) (hreg : row.registryId = old.registryId)
    (hpack : row.packId = old.packId) : IndexKept s s' := by
  refine ⟨hregs, fun h => ?_⟩
  rw [hs']
  exact h.rewrite hold hid hreg hpack

theorem PackRow.setFields_keys {db : Columns} {row row' : PackRow} {data : PackFields}
    (h : row.setFields db data = .ok row') :
    row'.registryId = row.registryId ∧ row'.packId = row.packId := by
  simp only [PackRow.setFields, bind_eq_ok] at h
  obtain ⟨_, -, _, -, _, -, _, -, _, -, _, -, _, -, hrow⟩ := h
  cases hrow
  exact ⟨rfl, rfl⟩

theorem PackRow.patch_keys {db : Columns} {row row' : PackRow} {data : PackUpdate}
    (h : row.patch db data = .ok row') :
    row'.registryId = row.registryId ∧ row'.packId = row.packId := by
  simp only [PackRow.patch, bind_eq_ok] at h
  obtain ⟨_, -, _, -, _, -, _, -, _, -, _, -, _, -, hrow⟩ := h
  cases hrow
  exact ⟨rfl, rfl⟩

theorem indexKept_createPack {env : Env} {now : Time} {s s' : Store} {data : PackCreate}
    (h : createPack env now s data = .ok s') : IndexKept s s' := by
  simp only [createPack, bind_eq_ok] at h
  obtain ⟨packId, -, commands, -, scripts, -, decoded, -, h⟩ := h
  split at h
  · cases h
  · simp only [bind_eq_ok] at h
    obtain ⟨stored, hstored, h⟩ := h
    obtain ⟨rows, n, rfl⟩ := writeAssets_of_ite h
    exact IndexKept.insertPack hstored rows n

theorem indexKept_upsertSyncedPack {env : Env} {now : Time} {s : Store} {data : SyncedPack}
    {result : Store × Uuid × SyncOutcome} (h : upsertSyncedPack env now s data = .ok result) :
    IndexKept s result.1 := by
  simp only [upsertSyncedPack, bind_eq_ok] at h
  obtain ⟨packId, -, decoded, -, h⟩ := h
  split at h
  · rename_i row hfind
    split at h
    · cases h
      exact IndexKept.refl s
    · simp only [bind_eq_ok] at h
      obtain ⟨row₁, hrow₁, row₂, hrow₂, stored, hstored, h⟩ := h
      obtain ⟨rows, n, rfl⟩ := storeAssets_eq_ok h
      have hid := (PackRow.setFields_eq_ok hrow₁).1
      obtain ⟨hreg, hpack⟩ := PackRow.setFields_keys hrow₁
      have hcontent := PackRow.setContent_eq_ok hrow₂
      have hstored := Store.savePack_eq_ok hstored
      subst hstored hcontent
      exact IndexKept.rewrite (List.mem_of_find?_eq_some hfind) rfl rfl hid hreg hpack
  · simp only [bind_eq_ok] at h
    obtain ⟨stored, hstored, h⟩ := h
    obtain ⟨rows, n, rfl⟩ := storeAssets_eq_ok h
    exact IndexKept.insertPack hstored rows n

theorem indexKept_patchPack {env : Env} {now : Time} {s : Store} {packId : Uuid}
    {data : PackUpdate} {result : Store × PackRow}
    (h : patchPack env now s packId data = .ok result) :
    IndexKept s result.1 := by
  unfold patchPack at h
  split at h
  · cases h
  · rename_i pack hfind
    simp only [bind_eq_ok] at h
    obtain ⟨row, hrow, h⟩ := h
    cases h
    obtain ⟨hreg, hpack⟩ := PackRow.patch_keys hrow
    exact IndexKept.rewrite (Table.mem_of_find? hfind) rfl rfl (PackRow.patch_eq_ok hrow).1 hreg
      hpack

theorem Installed.indexKept {now : Time} {s s' : Store} {pack : PackRow}
    {newCommands : List CommandRow} {newScripts : List ScriptRow} {links : List Installation}
    (hmem : ∃ old ∈ s.packs.rows, old.id = pack.id ∧ old.registryId = pack.registryId ∧
      old.packId = pack.packId)
    (hi : Installed now s s' pack newCommands newScripts links) : IndexKept s s' := by
  obtain ⟨old, hold, hid, hreg, hpack⟩ := hmem
  have hpacks := hi.packs
  split at hpacks
  · exact IndexKept.ofPacks hi.registries hpacks
  · exact IndexKept.rewrite hold hi.registries hpacks hid.symm hreg.symm hpack.symm

theorem Uninstalled.indexKept {now : Time} {s s' : Store} {pack : PackRow}
    (hmem : pack ∈ s.packs.rows) (hu : Uninstalled now s s' pack) : IndexKept s s' :=
  IndexKept.rewrite hmem hu.registries hu.packs rfl rfl rfl

/-- **Every operation on the store keeps the registries and the index.** -/
theorem indexKept_of_transaction {env : Env} {s s' : Store} {e : Event}
    (h : transaction env s e = .ok s') : IndexKept s s' := by
  cases e with
  | createPack now data => exact indexKept_createPack h
  | installPack now packId onConflict =>
      obtain ⟨⟨t, result⟩, hresult, rfl⟩ := map_eq_ok.1 h
      unfold installPack at hresult
      split at hresult
      · cases hresult
      · rename_i pack hfind
        obtain ⟨-, _, _, _, hi⟩ := installInSession_eq_ok hresult
        exact hi.indexKept ⟨pack, Table.mem_of_find? hfind, rfl, rfl, rfl⟩
  | uninstallPack now packId =>
      obtain ⟨pack, hmem, -, hu⟩ := uninstallPack_eq_ok h
      exact hu.indexKept hmem
  | updatePack now packId onConflict =>
      obtain ⟨⟨t, result⟩, hresult, rfl⟩ := map_eq_ok.1 h
      unfold updatePack at hresult
      split at hresult
      · cases hresult
      · rename_i pack hfind
        obtain ⟨-, _, _, _, hi⟩ := installInSession_eq_ok hresult
        have hu := uninstalled_uninstallInSession now s pack
        refine (hu.indexKept (Table.mem_of_find? hfind)).trans (hi.indexKept ?_)
        refine ⟨pack.uninstalled now, ?_, rfl, rfl, rfl⟩
        rw [hu.packs]
        exact Table.mem_put.2 (.inl rfl)
  | deletePack now packId =>
      obtain ⟨pack, hmem, -, t, hu, rfl⟩ := deletePack_eq_ok h
      exact (hu.indexKept hmem).trans ⟨rfl, fun ht => ht.erase pack.id⟩
  | upsertSyncedPack now data =>
      obtain ⟨result, hresult, rfl⟩ := map_eq_ok.1 h
      exact indexKept_upsertSyncedPack hresult
  | patchPack now packId data =>
      obtain ⟨result, hresult, rfl⟩ := map_eq_ok.1 h
      exact indexKept_patchPack hresult
  | createCommand data | updateCommand id data | createScript data | updateScript id data =>
      simp only [transaction, bind_eq_ok] at h
      obtain ⟨_, -, h⟩ := h
      cases h
      exact IndexKept.ofPacks rfl rfl
  | deleteCommand id | deleteScript id =>
      cases h
      exact IndexKept.ofPacks rfl rfl
  | importConfig commands scripts =>
      simp only [transaction, importConfig, bind_eq_ok] at h
      obtain ⟨_, -, _, -, h⟩ := h
      cases h
      exact IndexKept.ofPacks rfl rfl

theorem indexKept_perform (env : Env) (s : Store) (e : Event) : IndexKept s (perform env s e) := by
  rcases perform_cases env s e with hok | hsame
  · exact indexKept_of_transaction hok
  · rw [hsame]
    exact IndexKept.refl s

/-! ### The system -/

/-- What an operation makes of the catalog, when it does not raise. -/
def Catalog.apply (env : Env) (encrypt : String → String) (c : Catalog) :
    CatalogEvent → Except RegistryFailure Catalog
  | .store e => .ok
      { store := perform env c.store e
        registries := c.registries
        ids := (indexKept_perform env c.store e).registries.trans c.ids }
  | .createRegistry now data => createRegistry env encrypt now c data
  | .patchRegistry now id data => patchRegistry env encrypt now c id data
  | .touchSynced now id => touchSynced env now c id
  | .deleteRegistry id => deleteRegistry env c id

/-- The catalog after an operation: one that raises changes nothing. -/
def Catalog.perform (env : Env) (encrypt : String → String) (c : Catalog) (e : CatalogEvent) :
    Catalog :=
  match c.apply env encrypt e with
  | .ok c' => c'
  | .error _ => c

/-- The runs of the catalog, from an empty one. -/
def catalogSystem (env : Env) (encrypt : String → String) : System Catalog CatalogEvent where
  init c := c = Catalog.empty
  step c e := some (c.perform env encrypt e)

/-- The index after a registry was deleted: the packs that had it are local now,
and the partial index let them through. -/
theorem PacksIndexed.eraseRegistry {c : Catalog} {id : Uuid} (h : PacksIndexed c.store.packs)
    (hlocal : (localPackIds (c.eraseRegistry id).store.packs).Nodup) :
    PacksIndexed (c.eraseRegistry id).store.packs := by
  intro p hp q hq hreg hpack
  obtain ⟨p₀, hp₀, rfl⟩ := mem_eraseRegistry.1 hp
  obtain ⟨q₀, hq₀, rfl⟩ := mem_eraseRegistry.1 hq
  cases hnone : (p₀.clearRegistry id).registryId with
  | none =>
      have hpl : p₀.clearRegistry id ∈
          ((c.eraseRegistry id).store.packs.rows.filter fun p => p.registryId.isNone) :=
        List.mem_filter.2 ⟨hp, by rw [hnone]; rfl⟩
      have hql : q₀.clearRegistry id ∈
          ((c.eraseRegistry id).store.packs.rows.filter fun p => p.registryId.isNone) :=
        List.mem_filter.2 ⟨hq, by rw [← hreg, hnone]; rfl⟩
      rw [List.inj_on_of_nodup_map hlocal hpl hql hpack]
  | some r =>
      have hkeep : ∀ x : PackRow, (x.clearRegistry id).registryId = some r →
          x.registryId = some r := by
        intro x hx
        unfold PackRow.clearRegistry at hx
        split at hx
        · cases hx
        · exact hx
      have hp₁ := hkeep p₀ hnone
      have hq₁ := hkeep q₀ (hreg ▸ hnone)
      simp only [PackRow.clearRegistry_id, PackRow.clearRegistry_packId] at hpack ⊢
      exact h p₀ hp₀ q₀ hq₀ (hp₁.trans hq₁.symm) hpack

theorem packsIndexed_apply {env : Env} {encrypt : String → String} {c c' : Catalog}
    {e : CatalogEvent} (h : PacksIndexed c.store.packs) (ha : c.apply env encrypt e = .ok c') :
    PacksIndexed c'.store.packs := by
  cases e with
  | store e =>
      cases ha
      exact (indexKept_perform env c.store e).indexed h
  | createRegistry now data =>
      simp only [Catalog.apply, createRegistry] at ha
      split at ha
      · cases ha
      · obtain ⟨row, -, ha⟩ := bind_eq_ok.1 ha
        cases ha
        exact h
  | patchRegistry now id data =>
      simp only [Catalog.apply, patchRegistry] at ha
      split at ha
      · cases ha
      · split at ha
        · cases ha
        · obtain ⟨row, -, ha⟩ := bind_eq_ok.1 ha
          cases ha
          exact h
  | touchSynced now id =>
      simp only [Catalog.apply, touchSynced] at ha
      split at ha
      · cases ha
      · cases ha
        exact h
  | deleteRegistry id =>
      simp only [Catalog.apply, deleteRegistry] at ha
      split at ha
      · cases ha
      · split at ha
        · rename_i hlocal
          cases ha
          exact h.eraseRegistry hlocal
        · cases ha

/-- **The unique index holds in every reachable catalog.** -/
theorem packsIndexed_of_reachable {env : Env} {encrypt : String → String} {c : Catalog}
    (h : (catalogSystem env encrypt).Reachable c) : PacksIndexed c.store.packs := by
  refine h.invariant (I := fun c => PacksIndexed c.store.packs) ?_ ?_
  · rintro c rfl p hp
    cases hp
  · intro c e c' hc _ hstep
    cases hstep
    unfold Catalog.perform
    cases ha : c.apply env encrypt e with
    | ok c' => exact packsIndexed_apply hc ha
    | error f => exact hc

/-! ## Deleting a registry -/

/-- A registry is deleted: its row is gone, exactly its packs have no registry
any more, and nothing else has changed. -/
structure RegistryDeleted (c c' : Catalog) (id : Uuid) : Prop where
  registries : c'.registries = c.registries.erase id
  packs : c'.store.packs.rows = c.store.packs.rows.map (PackRow.clearRegistry id)
  rest : c'.store =
    { c.store with packs := c'.store.packs, registries := c'.store.registries }

theorem registryDeleted_eraseRegistry (c : Catalog) (id : Uuid) :
    RegistryDeleted c (c.eraseRegistry id) id :=
  ⟨rfl, rfl, rfl⟩

/-- No pack of the registry has the `pack_id` of a pack without registry. -/
def NoLocalTwin (c : Catalog) (id : Uuid) : Prop :=
  ∀ p ∈ c.store.packs.rows, p.registryId = some id →
    ∀ q ∈ c.store.packs.rows, q.registryId = none → q.packId ≠ p.packId

/-- The partial index lets the packs of a registry through exactly when none of
them has a local twin. -/
theorem localPackIds_nodup_iff {c : Catalog} {id : Uuid} (h : PacksIndexed c.store.packs) :
    (localPackIds (c.eraseRegistry id).store.packs).Nodup ↔ NoLocalTwin c id := by
  constructor
  · intro hnodup p hp hpid q hq hqnone hpack
    have hlocal : ∀ x ∈ c.store.packs.rows, x.registryId = some id ∨ x.registryId = none →
        x.clearRegistry id ∈
          ((c.eraseRegistry id).store.packs.rows.filter fun p => p.registryId.isNone) := by
      intro x hx hxreg
      refine List.mem_filter.2 ⟨mem_eraseRegistry.2 ⟨x, hx, rfl⟩, ?_⟩
      rw [(PackRow.clearRegistry_registryId id x).2 hxreg]
      rfl
    have heq := List.inj_on_of_nodup_map hnodup (hlocal q hq (.inr hqnone))
      (hlocal p hp (.inl hpid)) (by simpa using hpack)
    have hid : q.id = p.id := by
      have := congrArg PackRow.id heq
      simpa using this
    have hqp := c.store.packs.eq_of_key_eq hq hp hid
    rw [hqp, hpid] at hqnone
    cases hqnone
  · intro htwin
    refine (List.nodup_map_iff_inj_on ?_).2 ?_
    · exact (c.eraseRegistry id).store.packs.rows_nodup.filter _
    · intro p hp q hq hpack
      obtain ⟨hp, hpnone⟩ := List.mem_filter.1 hp
      obtain ⟨hq, hqnone⟩ := List.mem_filter.1 hq
      obtain ⟨p₀, hp₀, rfl⟩ := mem_eraseRegistry.1 hp
      obtain ⟨q₀, hq₀, rfl⟩ := mem_eraseRegistry.1 hq
      rw [Option.isNone_iff_eq_none, PackRow.clearRegistry_registryId] at hpnone hqnone
      simp only [PackRow.clearRegistry_packId] at hpack
      -- both are packs of the registry, both are local, or they are twins
      have hids : p₀.id = q₀.id := by
        rcases hpnone with hpid | hpnone
        · rcases hqnone with hqid | hqnone
          · exact h p₀ hp₀ q₀ hq₀ (hpid.trans hqid.symm) hpack
          · exact absurd hpack.symm (htwin p₀ hp₀ hpid q₀ hq₀ hqnone)
        · rcases hqnone with hqid | hqnone
          · exact absurd hpack (htwin q₀ hq₀ hqid p₀ hp₀ hpnone)
          · exact h p₀ hp₀ q₀ hq₀ (hpnone.trans hqnone.symm) hpack
      rw [c.store.packs.eq_of_key_eq hp₀ hq₀ hids]

/-- Deleting an existing registry is decided by the partial index. -/
theorem deleteRegistry_of_mem {env : Env} {c : Catalog} {id : Uuid}
    (hid : id ∈ c.store.registries) : deleteRegistry env c id =
      if (localPackIds (c.eraseRegistry id).store.packs).Nodup then .ok (c.eraseRegistry id)
      else .error (.failure (.integrityError "uq_template_packs_local_pack_id")) := by
  rw [c.ids] at hid
  obtain ⟨row, hrow, hrowid⟩ := List.mem_map.1 hid
  have hfind : c.registries.find? id = some row := Table.find?_eq_some.2 ⟨hrow, hrowid⟩
  unfold deleteRegistry
  rw [hfind]

/-- Deleting the registry succeeds and does what it is to do. -/
def RegistryDeletable (env : Env) (c : Catalog) (id : Uuid) : Prop :=
  ∃ c', deleteRegistry env c id = .ok c' ∧ RegistryDeleted c c' id

/-- **When a registry can be deleted.**  In every reachable catalog, deleting an
existing registry succeeds, and then removes it and clears its packs, exactly
when none of its packs shares its `pack_id` with a pack without registry. -/
theorem delete_registry_iff {env : Env} {encrypt : String → String} {c : Catalog}
    (hc : (catalogSystem env encrypt).Reachable c) {id : Uuid} (hid : id ∈ c.store.registries) :
    RegistryDeletable env c id ↔ NoLocalTwin c id := by
  rw [← localPackIds_nodup_iff (packsIndexed_of_reachable hc)]
  unfold RegistryDeletable
  rw [deleteRegistry_of_mem hid]
  constructor
  · rintro ⟨c', hok, -⟩
    by_contra hnot
    rw [if_neg hnot] at hok
    cases hok
  · intro hnodup
    exact ⟨_, if_pos hnodup, registryDeleted_eraseRegistry c id⟩

/-! ### A local twin -/

/-- The metadata of a pack. -/
def plainFields : PackFields where
  name := "Tools"
  description := none
  version := "1.0"
  author := none
  tags := []
  manifestSha := none
  readme := none

/-- A registry is created, and a pack is synchronised from it. -/
def syncedRun : List CatalogEvent :=
  [.createRegistry 0 ⟨"acme", "templates", none, "main"⟩,
    .store (.upsertSyncedPack 1 { plainFields with
      registryId := 0, packId := "tools", commands := [], scripts := [], assets := [] })]

/-- Then a local pack is created under the same `pack_id`. -/
def twinRun : List CatalogEvent :=
  syncedRun ++ [.store (.createPack 2 { plainFields with
    packId := "tools", registryId := none, commands := [], scripts := [], assets := [] })]

/-- The catalog after some operations. -/
def runCatalog (env : Env) (encrypt : String → String) (es : List CatalogEvent) : Catalog :=
  es.foldl (Catalog.perform env encrypt) Catalog.empty

theorem reachable_runCatalog (env : Env) (encrypt : String → String) (es : List CatalogEvent) :
    (catalogSystem env encrypt).Reachable (runCatalog env encrypt es) := by
  induction es using List.reverseRecOn with
  | nil => exact .start rfl
  | append_singleton es e ih =>
      unfold runCatalog at ih ⊢
      rw [List.foldl_append]
      exact .next ih trivial rfl

/-- Every existing registry of a reachable catalog can be deleted. -/
def RegistriesDeletable (env : Env) (encrypt : String → String) : Prop :=
  ∀ c, (catalogSystem env encrypt).Reachable c → ∀ id ∈ c.store.registries,
    RegistryDeletable env c id

/-- With a local twin of its pack, the registry stays. -/
theorem not_registriesDeletable : ¬ RegistriesDeletable plainEnv id := by
  intro h
  have hmem : 0 ∈ (runCatalog plainEnv id twinRun).store.registries := by decide
  obtain ⟨c', hok, -⟩ := h _ (reachable_runCatalog plainEnv id twinRun) 0 hmem
  have hraise : deleteRegistry plainEnv (runCatalog plainEnv id twinRun) 0 =
      .error (.failure (.integrityError "uq_template_packs_local_pack_id")) := rfl
  rw [hraise] at hok
  cases hok

/-- Without it, the registry can be deleted. -/
theorem registryDeletable_synced :
    RegistryDeletable plainEnv (runCatalog plainEnv id syncedRun) 0 := by
  refine (delete_registry_iff (reachable_runCatalog plainEnv id syncedRun) (by decide)).2 ?_
  unfold NoLocalTwin
  decide

end Pack
end NodeNexus
