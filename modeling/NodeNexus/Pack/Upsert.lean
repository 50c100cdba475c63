import NodeNexus.Pack.AssetRows
import NodeNexus.Pack.Keyed

/-!
# Synchronising one pack

What `upsert_synced_pack` does in a store whose keys are in order.

* `Holds` says that a pack and its assets hold the content that was
  synchronised, `Written` that nothing but this pack has changed.
* `upsert_eq_ok` — where it returns, the pack was left alone because its
  `manifest_sha` is the one that was given, or it was written.
* `returns_upsert_iff` — it returns exactly when the checks accept the content
  and the pack is left alone or the values fit their columns.
-/

namespace NodeNexus
namespace Pack

open Content

/-! ## Columns -/

/-- What is documented about columns, texts that may be NULL and arrays of texts
included: what is accepted reads back. -/
structure ExactColumns (db : Columns) : Prop extends db.Lawful where
  textOrNull_eq : ∀ (o r : Option String), db.textOrNull (optionalStr o) = .ok r → r = o
  texts_eq : ∀ (ts : List String) (r : List (Option String)), db.texts (ts.map .str) = .ok r → r = ts.map some

theorem plainColumns_exact : ExactColumns plainColumns where
  toLawful := plainColumns_lawful
  textOrNull_eq o r h := by
    cases o with
    | none =>
        cases h
        rfl
    | some s =>
        obtain ⟨s', hs', rfl⟩ := map_eq_ok.1 h
        rw [plainColumns_lawful.text_eq s s' hs']
  texts_eq ts r h := by
    have hrounds := mapM_eq_ok_iff.1 h
    rw [List.forall₂_map_left_iff] at hrounds
    clear h
    induction hrounds with
    | nil => rfl
    | cons hround _ ih =>
        obtain ⟨s', hs', rfl⟩ := map_eq_ok.1 hround
        rw [plainColumns_lawful.text_eq _ _ hs', List.map_cons, ih]

theorem bindString_eq {db : Columns} (hdb : db.Lawful) {limit : Nat} {s r : String}
    (h : bindString db limit s = .ok r) : r = s := by
  unfold bindString at h
  split at h
  · exact hdb.text_eq s r h
  · cases h

theorem bindStringOrNull_eq {db : Columns} (hdb : db.Lawful) {limit : Nat} {o r : Option String}
    (h : bindStringOrNull db limit o = .ok r) : r = o := by
  cases o with
  | none =>
      cases h
      rfl
  | some s =>
      obtain ⟨s', hs', rfl⟩ := map_eq_ok.1 h
      rw [bindString_eq hdb hs']

/-- The values of the metadata fit their columns. -/
structure FieldsFit (db : Columns) (data : PackFields) : Prop where
  name : Returns (bindString db 255 data.name)
  description : Returns (db.textOrNull (optionalStr data.description))
  version : Returns (bindString db 50 data.version)
  author : Returns (bindStringOrNull db 255 data.author)
  tags : Returns (bindTags db (some (data.tags.map .str)))
  manifestSha : Returns (bindStringOrNull db 64 data.manifestSha)
  readme : Returns (db.textOrNull (optionalStr data.readme))

theorem returns_setFields {db : Columns} (row : PackRow) {data : PackFields} :
    Returns (row.setFields db data) ↔ FieldsFit db data := by
  unfold PackRow.setFields
  simp only [returns_bind]
  constructor
  · rintro ⟨_, hn, _, hd, _, hv, _, ha, _, ht, _, hm, _, hr, -⟩
    exact ⟨⟨_, hn⟩, ⟨_, hd⟩, ⟨_, hv⟩, ⟨_, ha⟩, ⟨_, ht⟩, ⟨_, hm⟩, ⟨_, hr⟩⟩
  · rintro ⟨⟨_, hn⟩, ⟨_, hd⟩, ⟨_, hv⟩, ⟨_, ha⟩, ⟨_, ht⟩, ⟨_, hm⟩, ⟨_, hr⟩⟩
    exact ⟨_, hn, _, hd, _, hv, _, ha, _, ht, _, hm, _, hr, returns_ok _⟩

/-- The row with the metadata in it. -/
def PackRow.withFields (row : PackRow) (data : PackFields) : PackRow :=
  { row with
    name := data.name
    description := data.description
    version := data.version
    author := data.author
    tags := some (data.tags.map some)
    manifestSha := data.manifestSha
    readme := data.readme }

theorem setFields_eq {db : Columns} (hdb : ExactColumns db) {row row' : PackRow}
    {data : PackFields} (h : row.setFields db data = .ok row') : row' = row.withFields data := by
  simp only [PackRow.setFields, bind_eq_ok] at h
  obtain ⟨_, hn, _, hd, _, hv, _, ha, _, ht, _, hm, _, hr, h⟩ := h
  cases h
  obtain ⟨ts, hts, rfl⟩ := map_eq_ok.1 ht
  rw [bindString_eq hdb.toLawful hn, hdb.textOrNull_eq _ _ hd, bindString_eq hdb.toLawful hv,
    bindStringOrNull_eq hdb.toLawful ha, hdb.texts_eq _ _ hts,
    bindStringOrNull_eq hdb.toLawful hm, hdb.textOrNull_eq _ _ hr]
  rfl

theorem returns_setContent {db : Columns} (row : PackRow) {commands scripts : List Json.Fields} :
    Returns (row.setContent db commands scripts) ↔
      Returns (bindContent db commands) ∧ Returns (bindContent db scripts) := by
  unfold PackRow.setContent
  simp only [returns_bind]
  constructor
  · rintro ⟨_, hc, _, hs, -⟩
    exact ⟨⟨_, hc⟩, _, hs⟩
  · rintro ⟨⟨_, hc⟩, _, hs⟩
    exact ⟨_, hc, _, hs, returns_ok _⟩

/-! ## What is written -/

section Synced

variable {env : Env}

/-- The pack `p` and its assets hold what was synchronised. -/
structure Holds (env : Env) (s : Store) (data : SyncedPack)
    (decoded : List (PackAssetCreate × List UInt8)) (p : PackRow) : Prop where
  mem : p ∈ s.packs.rows
  registryId : p.registryId = some data.registryId
  packId : p.packId = data.packId
  fields : p = p.withFields data.toPackFields
  commands : p.commands = data.commands
  scripts : p.scripts = data.scripts
  assets : (s.assets.rows.filter fun a => a.packId = p.id).map AssetRow.file =
    decoded.map (assetFile env.codec)

/-- Nothing but the pack `id` and its assets has changed. -/
structure OnlyPack (s s' : Store) (id : Uuid) : Prop where
  registries : s'.registries = s.registries
  packs : ∀ q : PackRow, q.id ≠ id → (q ∈ s'.packs.rows ↔ q ∈ s.packs.rows)
  assets : ∀ k, k ≠ id → (s'.assets.rows.filter fun a => a.packId = k) =
    s.assets.rows.filter fun a => a.packId = k

theorem OnlyPack.refl (s : Store) (id : Uuid) : OnlyPack s s id :=
  ⟨rfl, fun _ _ => Iff.rfl, fun _ _ => rfl⟩

/-- The content fits the columns of a pack row and of its assets. -/
structure ContentFits (env : Env) (data : SyncedPack)
    (decoded : List (PackAssetCreate × List UInt8)) : Prop where
  fields : FieldsFit env.db data.toPackFields
  commands : Returns (bindContent env.db data.commands)
  scripts : Returns (bindContent env.db data.scripts)
  assets : ∀ d ∈ decoded, AssetFits env d

/-- The checks before the transaction accept the content. -/
structure SyncChecked (env : Env) (data : SyncedPack)
    (decoded : List (PackAssetCreate × List UInt8)) : Prop where
  packId : isPackId data.packId = true
  assets : decodeAssets env data.assets = .ok decoded

/-- The pack that a synchronisation looks for. -/
def SyncedPack.Names (data : SyncedPack) (p : PackRow) : Prop :=
  p.registryId = some data.registryId ∧ p.packId = data.packId

/-! ### The assets of the pack -/

/-- Writing the assets of a pack that has none: they are its assets, and those
of other packs stay. -/
theorem saveAssets_replaces (hdb : env.db.Lawful) {now : Time} {packId : Uuid} {s s' : Store}
    {decoded : List (PackAssetCreate × List UInt8)}
    (hfresh : ∀ a ∈ s.assets.rows, a.id < s.nextId)
    (hnone : ∀ a ∈ s.assets.rows, a.packId ≠ packId)
    (h : saveAssets env now packId s decoded = .ok s') :
    s'.packs = s.packs ∧ s'.registries = s.registries ∧
      (s'.assets.rows.filter fun a => a.packId = packId).map AssetRow.file =
        decoded.map (assetFile env.codec) ∧
      ∀ k, k ≠ packId → (s'.assets.rows.filter fun a => a.packId = k) =
        s.assets.rows.filter fun a => a.packId = k := by
  obtain ⟨rows, hrows, -, -, rfl⟩ := (saveAssets_eq_ok_iff hdb hfresh).1 h
  obtain ⟨hids, hpacks, hfiles⟩ := bindAssets_eq_ok hdb hrows
  have hnew : (rows.map (·.id)).Nodup := by
    rw [hids]
    exact List.nodup_range'
  have hafter : (s.assets.putAll rows).rows = s.assets.rows ++ rows := by
    refine Table.rows_putAll_of_fresh hnew ?_
    intro r hr a ha hid
    have hmem : r.id ∈ List.range' s.nextId decoded.length := by
      rw [← hids]
      exact List.mem_map_of_mem hr
    have hge := (List.mem_range'_1.1 hmem).1
    have hlt := hfresh a ha
    rw [hid] at hlt
    exact absurd hge (Nat.not_le.2 hlt)
  refine ⟨rfl, rfl, ?_, ?_⟩
  · show ((s.assets.putAll rows).rows.filter _).map _ = _
    rw [hafter, List.filter_append, List.filter_eq_nil_iff.2, List.filter_eq_self.2, List.nil_append,
      hfiles]
    · intro r hr
      exact decide_eq_true (hpacks r hr)
    · intro a ha
      simpa using hnone a ha
  · intro k hk
    show (s.assets.putAll rows).rows.filter _ = _
    rw [hafter, List.filter_append]
    have hother : (rows.filter fun a => a.packId = k) = [] := by
      refine List.filter_eq_nil_iff.2 fun r hr => ?_
      rw [hpacks r hr]
      simpa using hk.symm
    rw [hother, List.append_nil]

/-- They can be written exactly when their values fit. -/
theorem returns_saveAssets (hdb : env.db.Lawful) (now : Time) {packId : Uuid} {s : Store}
    {assets : List PackAssetCreate} {decoded : List (PackAssetCreate × List UInt8)}
    (hdecoded : List.Forall₂ (Decoded env) assets decoded)
    (hdistinct : (assets.map (·.path)).Nodup)
    (hfresh : ∀ a ∈ s.assets.rows, a.id < s.nextId)
    (hnone : ∀ a ∈ s.assets.rows, a.packId ≠ packId) :
    Returns (saveAssets env now packId s decoded) ↔ ∀ d ∈ decoded, AssetFits env d := by
  rw [← returns_bindAssets now packId s.nextId]
  constructor
  · rintro ⟨s', h⟩
    obtain ⟨rows, hrows, -⟩ := (saveAssets_eq_ok_iff hdb hfresh).1 h
    exact ⟨rows, hrows⟩
  · rintro ⟨rows, hrows⟩
    refine ⟨_, (saveAssets_eq_ok_iff hdb hfresh).2 ⟨rows, hrows, ?_, ?_, rfl⟩⟩
    · intro r hr a ha hpack
      exact absurd hpack (hnone a ha)
    · -- the paths of the rows are those that were accepted
      have hfiles := (bindAssets_eq_ok hdb hrows).files
      have hpaths : rows.map (·.path) = decoded.map (·.1.path) := by
        have hfst := congrArg (List.map Prod.fst) hfiles
        rw [List.map_map, List.map_map] at hfst
        exact hfst
      have hassets : decoded.map (·.1.path) = assets.map (·.path) := by
        rw [← map_fst_of_decoded hdecoded, List.map_map]
        rfl
      rw [hpaths, hassets]
      exact hdistinct

/-- The last part of `upsert_synced_pack`: the accepted assets are written. -/
theorem storeAssets_iff {now : Time} {packId : Uuid} {s : Store} {assets : List PackAssetCreate}
    {decoded : List (PackAssetCreate × List UInt8)} {outcome : SyncOutcome}
    {result : Store × Uuid × SyncOutcome} (hdecoded : List.Forall₂ (Decoded env) assets decoded) :
    (do
      let stored ← if decoded.isEmpty then .ok s
        else writeAssets env now packId s (decoded.map (·.1))
      .ok (stored, packId, outcome) : Except Failure _) = .ok result ↔
      ∃ s', saveAssets env now packId s decoded = .ok s' ∧ result = (s', packId, outcome) := by
  rw [← writeAssets_decoded hdecoded]
  split
  · simp only [bind_eq_ok]
    constructor
    · rintro ⟨s', hs', h⟩
      cases h
      exact ⟨s', hs', rfl⟩
    · rintro ⟨s', hs', rfl⟩
      exact ⟨s', hs', rfl⟩
  · simp only [bind_eq_ok]
    constructor
    · rintro ⟨s', hs', h⟩
      cases h
      exact ⟨s', hs', rfl⟩
    · rintro ⟨s', hs', rfl⟩
      exact ⟨s', hs', rfl⟩

/-! ### The pack -/

theorem find?_named {s : Store} {data : SyncedPack} {p : PackRow}
    (h : s.packs.rows.find? (fun p => p.registryId = some data.registryId && p.packId = data.packId)
      = some p) : p ∈ s.packs.rows ∧ data.Names p := by
  refine ⟨List.mem_of_find?_eq_some h, ?_⟩
  have hp := List.find?_some h
  simpa [SyncedPack.Names] using hp

theorem find?_unnamed {s : Store} {data : SyncedPack} :
    s.packs.rows.find? (fun p => p.registryId = some data.registryId && p.packId = data.packId)
      = none ↔ ∀ p ∈ s.packs.rows, ¬data.Names p := by
  simp [SyncedPack.Names, List.find?_eq_none]

/-- A row may be saved where no other pack has its registry and its `pack_id`. -/
theorem savePack_of_unique {s : Store} {row : PackRow} {registryId : Uuid}
    (hreg : row.registryId = some registryId) (hmem : registryId ∈ s.registries)
    (hunique : ∀ p ∈ s.packs.rows, p.registryId = row.registryId → p.packId = row.packId →
      p.id = row.id) : s.savePack row = .ok { s with packs := s.packs.put row } := by
  unfold Store.savePack
  rw [if_neg, if_neg]
  · rw [hreg]
    simpa using hmem
  · intro hany
    obtain ⟨p, hp, hsame⟩ := List.any_eq_true.1 hany
    simp only [Bool.and_eq_true, decide_eq_true_eq] at hsame
    exact hsame.1.1 (hunique p hp hsame.1.2 hsame.2)

/-- The row of a synchronised pack. -/
def PackRow.synced (row : PackRow) (data : SyncedPack) : PackRow :=
  { row.withFields data.toPackFields with commands := data.commands, scripts := data.scripts }

/-- The row under which a pack is stored now: an old one of the pack, or a new
one. -/
structure StoredRow (s : Store) (data : SyncedPack) (row : PackRow) : Prop where
  names : data.Names row
  synced : row = row.synced data
  /-- It takes the place of the pack that there was. -/
  replaces : ∀ q ∈ s.packs.rows, data.Names q → q.id = row.id

/-- What is written with a row and its assets. -/
theorem holds_of_saveAssets (hdb : env.db.Lawful) {now : Time} {s s' : Store} (t : Store)
    {data : SyncedPack} {row : PackRow} {decoded : List (PackAssetCreate × List UInt8)}
    (hrow : StoredRow s data row) (hpacks : t.packs = s.packs.put row)
    (hregs : t.registries = s.registries)
    (hassets : ∀ k, k ≠ row.id → (t.assets.rows.filter fun a => a.packId = k) =
      s.assets.rows.filter fun a => a.packId = k)
    (hfresh : ∀ a ∈ t.assets.rows, a.id < t.nextId)
    (hnone : ∀ a ∈ t.assets.rows, a.packId ≠ row.id)
    (h : saveAssets env now row.id t decoded = .ok s') :
    Holds env s' data decoded row ∧ OnlyPack s s' row.id := by
  obtain ⟨hp, hr, hfiles, hother⟩ := saveAssets_replaces hdb hfresh hnone h
  constructor
  · refine ⟨?_, hrow.names.1, hrow.names.2, ?_, ?_, ?_, hfiles⟩
    · rw [hp, hpacks]
      exact Table.mem_put.2 (.inl rfl)
    · rw [hrow.synced]
      rfl
    · rw [hrow.synced]
      rfl
    · rw [hrow.synced]
      rfl
  · refine ⟨hr.trans hregs, ?_, fun k hk => (hother k hk).trans (hassets k hk)⟩
    intro q hq
    rw [hp, hpacks, Table.mem_put]
    constructor
    · rintro (rfl | ⟨hmem, -⟩)
      · exact absurd rfl hq
      · exact hmem
    · exact fun hmem => .inr ⟨hmem, hq⟩

/-- The store with the pack `old` rewritten and its assets deleted. -/
def rewrittenStore (now : Time) (s : Store) (data : SyncedPack) (old : PackRow) : Store :=
  { s with
    packs := s.packs.put { old.synced data with updatedAt := now }
    assets := s.assets.keep fun a => a.packId ≠ old.id }

/-- The store with the pack inserted. -/
def insertedStore (now : Time) (s : Store) (data : SyncedPack) : Store :=
  { s with
    packs := s.packs.put ((newPack now s.nextId (some data.registryId) data.packId).synced data)
    nextId := s.nextId + 1 }

theorem rewrittenStore_assets (now : Time) {s : Store} (hs : s.Keyed) (data : SyncedPack)
    (old : PackRow) : ∀ a ∈ (rewrittenStore now s data old).assets.rows,
      a.id < (rewrittenStore now s data old).nextId ∧ a.packId ≠ old.id := by
  intro a ha
  obtain ⟨hmem, hne⟩ := Table.mem_keep.1 ha
  exact ⟨(hs.assets a hmem).1, by simpa using hne⟩

theorem insertedStore_assets (now : Time) {s : Store} (hs : s.Keyed) (data : SyncedPack) :
    ∀ a ∈ (insertedStore now s data).assets.rows,
      a.id < (insertedStore now s data).nextId ∧ a.packId ≠ s.nextId := by
  intro a ha
  obtain ⟨hid, hpack⟩ := hs.assets a ha
  exact ⟨Nat.lt_succ_of_lt hid, Nat.ne_of_lt hpack⟩

/-- Without the assets of one pack, those of the others are what they were. -/
theorem filter_keep_assets (assets : Table AssetRow.id) {id k : Uuid} (hk : k ≠ id) :
    ((assets.keep fun a => a.packId ≠ id).rows.filter fun a => a.packId = k) =
      assets.rows.filter fun a => a.packId = k := by
  show (assets.rows.filter _).filter _ = _
  rw [List.filter_filter]
  refine List.filter_congr fun a _ => ?_
  by_cases h : a.packId = k
  · simp [h, hk]
  · simp [h]

/-! ### The transaction -/

/-- The pack was written. -/
structure UpsertWritten (env : Env) (s : Store) (data : SyncedPack)
    (decoded : List (PackAssetCreate × List UInt8)) (result : Store × Uuid × SyncOutcome) :
    Prop where
  fits : ContentFits env data decoded
  outcome : result.2.2 ≠ .unchanged
  /-- Where the pack was there, it was this one, with another hash. -/
  before : ∀ q ∈ s.packs.rows, data.Names q →
    q.id = result.2.1 ∧ q.manifestSha ≠ data.manifestSha
  /-- The id is that of no other pack. -/
  own : ∀ q ∈ s.packs.rows, q.id = result.2.1 → data.Names q
  bound : (∃ p ∈ s.packs.rows, data.Names p) ∨ Returns (bindString env.db 100 data.packId)
  after : ∃ p, Holds env result.1 data decoded p ∧ p.id = result.2.1
  rest : OnlyPack s result.1 result.2.1

/-- The pack was left alone. -/
def UpsertUnchanged (s : Store) (data : SyncedPack) (result : Store × Uuid × SyncOutcome) : Prop :=
  ∃ p ∈ s.packs.rows, data.Names p ∧ p.manifestSha = data.manifestSha ∧
    result = (s, p.id, .unchanged)

theorem validatePackId_eq_ok {packId r : String} :
    validatePackId env packId = .ok r ↔ isPackId packId = true ∧ r = packId := by
  unfold validatePackId
  split
  · rename_i h
    simp [h, eq_comm]
  · rename_i h
    simp [h]

theorem SyncChecked.decoded {data : SyncedPack} {decoded : List (PackAssetCreate × List UInt8)}
    (h : SyncChecked env data decoded) : List.Forall₂ (Decoded env) data.assets decoded :=
  (decodeAssets_eq_ok_iff.1 h.assets).2.contents

theorem SyncChecked.distinct {data : SyncedPack} {decoded : List (PackAssetCreate × List UInt8)}
    (h : SyncChecked env data decoded) : (data.assets.map (·.path)).Nodup :=
  (decodeAssets_eq_ok_iff.1 h.assets).2.distinct

/-- **What `upsert_synced_pack` has done where it returns.** -/
theorem upsert_eq_ok (hdb : ExactColumns env.db) {now : Time} {s : Store} {data : SyncedPack}
    {result : Store × Uuid × SyncOutcome} (hs : s.Keyed)
    (h : upsertSyncedPack env now s data = .ok result) :
    ∃ decoded, SyncChecked env data decoded ∧
      (UpsertUnchanged s data result ∨ UpsertWritten env s data decoded result) := by
  simp only [upsertSyncedPack, bind_eq_ok] at h
  obtain ⟨packId, hpackId, decoded, hdecoded, h⟩ := h
  obtain ⟨hvalid, rfl⟩ := validatePackId_eq_ok.1 hpackId
  have hchecked : SyncChecked env data decoded := ⟨hvalid, hdecoded⟩
  refine ⟨decoded, hchecked, ?_⟩
  split at h
  · rename_i old hfind
    obtain ⟨hold, hnames⟩ := find?_named hfind
    split at h
    · rename_i hsha
      cases h
      exact .inl ⟨old, hold, hnames, hsha, rfl⟩
    · rename_i hsha
      right
      simp only [bind_eq_ok] at h
      obtain ⟨row₁, hrow₁, row₂, hrow₂, stored, hstored, h⟩ := h
      obtain ⟨s', hs', rfl⟩ := (storeAssets_iff hchecked.decoded).1 h
      have hfits : FieldsFit env.db data.toPackFields := (returns_setFields _).1 ⟨_, hrow₁⟩
      obtain ⟨hcommands, hscripts⟩ := (returns_setContent _).1 ⟨_, hrow₂⟩
      have hrow₁' := setFields_eq hdb hrow₁
      have hrow₂' := PackRow.setContent_eq_ok hrow₂
      have hstored' := Store.savePack_eq_ok hstored
      subst hrow₁' hrow₂' hstored'
      have hs'' : saveAssets env now old.id (rewrittenStore now s data old) decoded = .ok s' := hs'
      have hbefore : ∀ q ∈ s.packs.rows, data.Names q → q.id = old.id := fun q hq hq' =>
        hs.indexed q hq old hold (hq'.1.trans hnames.1.symm) (hq'.2.trans hnames.2.symm)
      have hrow : StoredRow s data { old.synced data with updatedAt := now } :=
        ⟨hnames, rfl, hbefore⟩
      -- the old assets are gone before the new ones are written
      have hold' := rewrittenStore_assets now hs data old
      obtain ⟨hholds, honly⟩ := holds_of_saveAssets hdb.toLawful
        (rewrittenStore now s data old) hrow rfl rfl (fun k hk => filter_keep_assets s.assets hk)
        (fun a ha => (hold' a ha).1) (fun a ha => (hold' a ha).2) hs''
      have hassets : ∀ d ∈ decoded, AssetFits env d :=
        (returns_saveAssets hdb.toLawful now hchecked.decoded hchecked.distinct
          (fun a ha => (hold' a ha).1) (fun a ha => (hold' a ha).2)).1 ⟨s', hs''⟩
      refine ⟨⟨hfits, hcommands, hscripts, hassets⟩, ?_, ?_, ?_, .inl ⟨old, hold, hnames⟩,
        ⟨_, hholds, rfl⟩, honly⟩
      · intro hsame
        cases hsame
      · intro q hq hq'
        have hid := hbefore q hq hq'
        refine ⟨hid, ?_⟩
        rw [s.packs.eq_of_key_eq hq hold hid]
        exact hsha
      · intro q hq hid
        rw [s.packs.eq_of_key_eq hq hold hid]
        exact hnames
  · rename_i hfind
    have hnew := find?_unnamed.1 hfind
    right
    simp only [bind_eq_ok, insertPack] at h
    obtain ⟨stored, ⟨packId, hbound, row₁, hrow₁, row₂, hrow₂, saved, hsaved, hstored⟩, h⟩ := h
    cases hstored
    obtain ⟨s', hs', rfl⟩ := (storeAssets_iff hchecked.decoded).1 h
    have hfits : FieldsFit env.db data.toPackFields := (returns_setFields _).1 ⟨_, hrow₁⟩
    obtain ⟨hcommands, hscripts⟩ := (returns_setContent _).1 ⟨_, hrow₂⟩
    have hpackId := bindString_eq hdb.toLawful hbound
    have hrow₁' := setFields_eq hdb hrow₁
    have hrow₂' := PackRow.setContent_eq_ok hrow₂
    have hsaved' := Store.savePack_eq_ok hsaved
    subst hpackId hrow₁' hrow₂' hsaved'
    have hs'' : saveAssets env now s.nextId (insertedStore now s data) decoded = .ok s' := hs'
    have hrow : StoredRow s data
        ((newPack now s.nextId (some data.registryId) data.packId).synced data) :=
      ⟨⟨rfl, rfl⟩, rfl, fun q hq hq' => absurd hq' (hnew q hq)⟩
    have hold' := insertedStore_assets now hs data
    obtain ⟨hholds, honly⟩ := holds_of_saveAssets hdb.toLawful (insertedStore now s data) hrow rfl rfl
      (fun _ _ => rfl)
      (fun a ha => (hold' a ha).1) (fun a ha => (hold' a ha).2) hs''
    have hassets : ∀ d ∈ decoded, AssetFits env d :=
      (returns_saveAssets hdb.toLawful now hchecked.decoded hchecked.distinct
        (fun a ha => (hold' a ha).1) (fun a ha => (hold' a ha).2)).1 ⟨s', hs''⟩
    refine ⟨⟨hfits, hcommands, hscripts, hassets⟩, ?_, fun q hq hq' => absurd hq' (hnew q hq), ?_,
      .inr ⟨_, hbound⟩, ⟨_, hholds, rfl⟩, honly⟩
    · intro hsame
      cases hsame
    · intro q hq hid
      exact absurd hid (Nat.ne_of_lt (hs.packs q hq))

/-- **When `upsert_synced_pack` returns**: the checks accept the content, and
the pack is left alone or the values fit their columns. -/
theorem returns_upsert_iff (hdb : ExactColumns env.db) (now : Time) {s : Store}
    {data : SyncedPack} (hs : s.Keyed) (hreg : data.registryId ∈ s.registries) :
    Returns (upsertSyncedPack env now s data) ↔ ∃ decoded, SyncChecked env data decoded ∧
      ((∃ p ∈ s.packs.rows, data.Names p ∧ p.manifestSha = data.manifestSha) ∨
        ContentFits env data decoded ∧ ((∃ p ∈ s.packs.rows, data.Names p) ∨
          Returns (bindString env.db 100 data.packId))) := by
  constructor
  · rintro ⟨result, h⟩
    obtain ⟨decoded, hchecked, hcase⟩ := upsert_eq_ok hdb hs h
    refine ⟨decoded, hchecked, ?_⟩
    rcases hcase with ⟨p, hp, hnames, hsha, -⟩ | hwritten
    · exact .inl ⟨p, hp, hnames, hsha⟩
    · exact .inr ⟨hwritten.fits, hwritten.bound⟩
  · rintro ⟨decoded, hchecked, hcase⟩
    unfold upsertSyncedPack
    rw [bind_of_eq_ok (validatePackId_eq_ok.2 ⟨hchecked.packId, rfl⟩),
      bind_of_eq_ok hchecked.assets]
    split
    · rename_i old hfind
      obtain ⟨hold, hnames⟩ := find?_named hfind
      split
      · exact returns_ok _
      · rename_i hsha
        have hbefore : ∀ q ∈ s.packs.rows, data.Names q → q.id = old.id := fun q hq hq' =>
          hs.indexed q hq old hold (hq'.1.trans hnames.1.symm) (hq'.2.trans hnames.2.symm)
        have hfits : ContentFits env data decoded := by
          rcases hcase with ⟨p, hp, hp', hsame⟩ | ⟨hfits, -⟩
          · rw [s.packs.eq_of_key_eq hp hold (hbefore p hp hp')] at hsame
            exact absurd hsame hsha
          · exact hfits
        obtain ⟨row₁, hrow₁⟩ := (returns_setFields old).2 hfits.fields
        obtain ⟨row₂, hrow₂⟩ := (returns_setContent row₁).2 ⟨hfits.commands, hfits.scripts⟩
        rw [bind_of_eq_ok hrow₁, bind_of_eq_ok hrow₂]
        have hrow₁' := setFields_eq hdb hrow₁
        have hrow₂' := PackRow.setContent_eq_ok hrow₂
        subst hrow₁' hrow₂'
        refine returns_bind.2 ⟨_, savePack_of_unique hnames.1 hreg fun p hp hr hk =>
          hbefore p hp ⟨hr.trans hnames.1, hk.trans hnames.2⟩, ?_⟩
        have hold' := rewrittenStore_assets now hs data old
        obtain ⟨s', hs'⟩ := (returns_saveAssets hdb.toLawful now hchecked.decoded
          hchecked.distinct (fun a ha => (hold' a ha).1) (fun a ha => (hold' a ha).2)).2
          hfits.assets
        exact ⟨_, (storeAssets_iff hchecked.decoded).2 ⟨s', hs', rfl⟩⟩
    · rename_i hfind
      have hnew := find?_unnamed.1 hfind
      have hfits : ContentFits env data decoded ∧ Returns (bindString env.db 100 data.packId) := by
        rcases hcase with ⟨p, hp, hp', -⟩ | ⟨hfits, ⟨p, hp, hp'⟩ | hbound⟩
        · exact absurd hp' (hnew p hp)
        · exact absurd hp' (hnew p hp)
        · exact ⟨hfits, hbound⟩
      obtain ⟨hfits, packId, hbound⟩ := hfits
      obtain ⟨row₁, hrow₁⟩ :=
        (returns_setFields (newPack now s.nextId (some data.registryId) packId)).2 hfits.fields
      obtain ⟨row₂, hrow₂⟩ := (returns_setContent row₁).2 ⟨hfits.commands, hfits.scripts⟩
      have hpackId := bindString_eq hdb.toLawful hbound
      have hrow₁' := setFields_eq hdb hrow₁
      have hrow₂' := PackRow.setContent_eq_ok hrow₂
      subst hpackId hrow₁' hrow₂'
      have hsaved : insertPack env now s (some data.registryId) data.packId data.toPackFields
          data.commands data.scripts = .ok (insertedStore now s data) := by
        unfold insertPack
        rw [bind_of_eq_ok hbound, bind_of_eq_ok hrow₁, bind_of_eq_ok hrow₂]
        exact bind_of_eq_ok (savePack_of_unique rfl hreg fun p hp hr hk =>
          absurd ⟨hr, hk⟩ (hnew p hp))
      rw [bind_of_eq_ok hsaved]
      have hold' := insertedStore_assets now hs data
      obtain ⟨s', hs'⟩ := (returns_saveAssets hdb.toLawful now hchecked.decoded
        hchecked.distinct (fun a ha => (hold' a ha).1) (fun a ha => (hold' a ha).2)).2
        hfits.assets
      exact ⟨_, (storeAssets_iff hchecked.decoded).2 ⟨s', hs', rfl⟩⟩

end Synced

end Pack
end NodeNexus
