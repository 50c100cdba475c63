import NodeNexus.Registry.Sync

/-!
# The rounds of a synchronisation

A directory is skipped where the pack of its `pack_id` has the hash of its
manifest, whatever is in the other files, and several directories may name one
`pack_id`.

* `StoredAs` says that a pack holds the content of a directory.
* `Round` is what one round of the loop can do, and the item that it adds;
  `syncPack_round` says that every round is one of these.
* `Run` is a run of the loop with what was fetched and the items, and
  `syncPacks_run` says that the loop is one.
-/

namespace NodeNexus
namespace Registry

open Content Pack

/-! ## Packs and directories -/

/-- The file that is stored of an asset: path, content, size and hash. -/
def fetchedFile (codec : Codec) (a : FetchedAsset) : String × String × Nat × String :=
  (a.path, storedContent codec a.content, a.content.length, codec.sha256 a.content)

/-- The pack has the registry and the `pack_id` of a directory. -/
def NamedBy (env : Env) (registryId : Uuid) (pack : FetchedPack) (p : PackRow) : Prop :=
  p.registryId = some registryId ∧ p.packId = packIdOf env.unicode.isPrintable pack

/-- The pack and its assets hold what was fetched of a directory. -/
structure StoredAs (env : Env) (s : Store) (registryId : Uuid) (pack : FetchedPack) (p : PackRow) :
    Prop where
  mem : p ∈ s.packs.rows
  named : NamedBy env registryId pack p
  name : Json.get pack.manifest "name" = some (.str p.name)
  version : Json.get pack.manifest "version" = some (.str p.version)
  description : p.description = strOrNone (Json.get pack.manifest "description")
  author : p.author = strOrNone (Json.get pack.manifest "author")
  tags : ∃ tags : List String, tagsOf pack = .list (tags.map .str) ∧ p.tags = some (tags.map some)
  manifestSha : p.manifestSha = shaOf pack
  readme : p.readme = pack.readme
  commands : p.commands = dictionaries pack.commands
  scripts : p.scripts = dictionaries pack.scripts
  assets : (s.assets.rows.filter fun a => a.packId = p.id).map AssetRow.file =
    pack.assets.map (fetchedFile env.codec)

/-- The pack of a `pack_id` has this hash. -/
def HasHash (s : Store) (registryId : Uuid) (packId : String) (sha : Option String) : Prop :=
  ∃ p ∈ s.packs.rows, p.registryId = some registryId ∧ p.packId = packId ∧ p.manifestSha = sha

theorem HasHash.hasPack {s : Store} {registryId : Uuid} {packId : String} {sha : Option String}
    (h : HasHash s registryId packId sha) : HasPack s registryId packId := by
  obtain ⟨p, hp, hr, hk, -⟩ := h
  exact ⟨p, hp, hr, hk⟩

/-- A `pack_id` has one hash. -/
theorem HasHash.unique {s : Store} (hs : s.Keyed) {registryId : Uuid} {packId : String}
    {sha sha' : Option String} (h : HasHash s registryId packId sha)
    (h' : HasHash s registryId packId sha') : sha = sha' := by
  obtain ⟨p, hp, hr, hk, rfl⟩ := h
  obtain ⟨q, hq, hr', hk', rfl⟩ := h'
  have hid : p.id = q.id := hs.indexed p hp q hq (hr.trans hr'.symm) (hk.trans hk'.symm)
  rw [s.packs.eq_of_key_eq hp hq hid]

/-- The pack `q` is as it was, or is still not there, and so are its assets. -/
structure Kept (s s' : Store) (q : PackRow) : Prop where
  pack : q ∈ s'.packs.rows ↔ q ∈ s.packs.rows
  assets : q ∈ s.packs.rows → (s'.assets.rows.filter fun a => a.packId = q.id) =
    s.assets.rows.filter fun a => a.packId = q.id

theorem Kept.refl (s : Store) (q : PackRow) : Kept s s q := ⟨Iff.rfl, fun _ => rfl⟩

theorem Kept.trans {s t u : Store} {q : PackRow} (h : Kept s t q) (h' : Kept t u q) :
    Kept s u q where
  pack := h'.pack.trans h.pack
  assets hq := (h'.assets (h.pack.2 hq)).trans (h.assets hq)

/-- A pack that is kept holds what it held. -/
theorem StoredAs.kept {env : Env} {s s' : Store} {registryId : Uuid} {pack : FetchedPack}
    {p : PackRow} (h : StoredAs env s registryId pack p) (hkept : Kept s s' p) :
    StoredAs env s' registryId pack p :=
  { h with
    mem := hkept.pack.2 h.mem
    assets := by
      rw [hkept.assets h.mem]
      exact h.assets }

theorem StoredAs.hasHash {env : Env} {s : Store} {registryId : Uuid} {pack : FetchedPack}
    {p : PackRow} (h : StoredAs env s registryId pack p) :
    HasHash s registryId (packIdOf env.unicode.isPrintable pack) (shaOf pack) :=
  ⟨p, h.mem, h.named.1, h.named.2, h.manifestSha⟩

/-! ## Items -/

/-- The directory was written. -/
def RegistrySyncItem.Wrote (item : RegistrySyncItem) : Prop :=
  item.status = .success ∧ (item.message = "created" ∨ item.message = "updated")

/-- The directory was left alone. -/
def RegistrySyncItem.Skipped (item : RegistrySyncItem) : Prop :=
  item.status = .success ∧ item.message = "unchanged"

theorem RegistrySyncItem.Skipped.not_wrote {item : RegistrySyncItem} (h : item.Skipped) :
    ¬item.Wrote := by
  rintro ⟨-, hmessage⟩
  rw [h.2] at hmessage
  revert hmessage
  decide

theorem outcomeText_of_ne {outcome : SyncOutcome} (h : outcome ≠ .unchanged) :
    outcomeText outcome = "created" ∨ outcomeText outcome = "updated" := by
  cases outcome with
  | created => exact .inl rfl
  | updated => exact .inr rfl
  | unchanged => exact absurd rfl h

/-! ## One round -/

/-- A directory that can be written: it is valid, its values fit, and its
`pack_id` is there or can be inserted. -/
structure Storable (env : Env) (registryId : Uuid) (s : Store) (pack : FetchedPack) : Prop where
  valid : ValidPack env.unicode.isPrintable pack
  fits : ∃ data, syncedPack env registryId pack = .ok data ∧
    ContentFits env data (decodedOf env.codec pack.assets)
  bound : HasPack s registryId (packIdOf env.unicode.isPrintable pack) ∨
    Returns (bindString env.db 100 (packIdOf env.unicode.isPrintable pack))

/-- What a round can do, and the item that it adds. -/
inductive Round (env : Env) (registryId : Uuid) (s : Store) (pack : FetchedPack) :
    RegistrySyncItem → Store → Prop
  /-- The hash is the stored one. -/
  | skipped : ValidPack env.unicode.isPrintable pack →
      HasHash s registryId (packIdOf env.unicode.isPrintable pack) (shaOf pack) →
      Round env registryId s pack ⟨pack.dirname, .success, "", "unchanged"⟩ s
  /-- The directory is written; the other packs are kept. -/
  | written {s' : Store} {p : PackRow} {outcome : SyncOutcome} : outcome ≠ .unchanged →
      ¬HasHash s registryId (packIdOf env.unicode.isPrintable pack) (shaOf pack) →
      Storable env registryId s pack → StoredAs env s' registryId pack p →
      (∀ q, ¬NamedBy env registryId pack q → Kept s s' q) →
      Round env registryId s pack ⟨pack.dirname, .success, "", outcomeText outcome⟩ s'
  /-- The directory could not be written. -/
  | failed {message : String} :
      (ValidPack env.unicode.isPrintable pack →
        ¬HasHash s registryId (packIdOf env.unicode.isPrintable pack) (shaOf pack)) →
      ¬Storable env registryId s pack →
      Round env registryId s pack ⟨pack.dirname, .error, message, ""⟩ s

section Round

variable {env : Env} {registryId : Uuid}

/-- What the gateway holds of the content is what was fetched. -/
theorem storedAs_of_holds {s : Store} {pack : FetchedPack} {data : SyncedPack} {p : PackRow}
    (hdata : Synced env registryId pack data)
    (h : Holds env s data (decodedOf env.codec pack.assets) p) :
    StoredAs env s registryId pack p := by
  have hfields := h.fields
  have hname : p.name = data.name := congrArg PackRow.name hfields
  have hversion : p.version = data.version := congrArg PackRow.version hfields
  have hdescription : p.description = data.description := congrArg PackRow.description hfields
  have hauthor : p.author = data.author := congrArg PackRow.author hfields
  have htags : p.tags = some (data.tags.map some) := congrArg PackRow.tags hfields
  have hsha : p.manifestSha = data.manifestSha := congrArg PackRow.manifestSha hfields
  have hreadme : p.readme = data.readme := congrArg PackRow.readme hfields
  refine ⟨h.mem, ⟨?_, ?_⟩, ?_, ?_, ?_, ?_, ⟨data.tags, hdata.tags, htags⟩, ?_, ?_, ?_, ?_, ?_⟩
  · rw [h.registryId, hdata.registryId]
  · rw [h.packId, hdata.packId]
  · rw [hname, hdata.name.1]
  · rw [hversion, hdata.version.1]
  · rw [hdescription, hdata.description]
  · rw [hauthor, hdata.author]
  · rw [hsha, hdata.manifestSha]
  · rw [hreadme, hdata.readme]
  · rw [h.commands, hdata.commands]
  · rw [h.scripts, hdata.scripts]
  · rw [h.assets, decodedOf, List.map_map]
    rfl

/-- The packs with other names are kept. -/
theorem kept_of_written {s : Store} {pack : FetchedPack} {data : SyncedPack}
    {decoded : List (PackAssetCreate × List UInt8)} {result : Store × Uuid × SyncOutcome}
    (hdata : Synced env registryId pack data) (h : UpsertWritten env s data decoded result)
    {q : PackRow} (hq : ¬NamedBy env registryId pack q) : Kept s result.1 q := by
  have hnames : ¬data.Names q := by
    unfold SyncedPack.Names
    rw [hdata.registryId, hdata.packId]
    exact hq
  by_cases hid : q.id = result.2.1
  · have hold : q ∉ s.packs.rows := fun hmem => hnames (h.own q hmem hid)
    have hnew : q ∉ result.1.packs.rows := by
      intro hmem
      obtain ⟨p, hholds, hp⟩ := h.after
      rw [result.1.packs.eq_of_key_eq hmem hholds.mem (hid.trans hp.symm)] at hnames
      exact hnames ⟨hholds.registryId, hholds.packId⟩
    exact ⟨iff_of_false hnew hold, fun hmem => absurd hmem hold⟩
  · exact ⟨h.rest.packs q hid, fun _ => h.rest.assets q.id hid⟩

/-- The service makes something of a valid directory. -/
theorem exists_syncedPack {pack : FetchedPack} (h : ValidPack env.unicode.isPrintable pack) :
    ∃ data, syncedPack env registryId pack = .ok data := by
  obtain ⟨name, hname⟩ := h.name
  obtain ⟨version, hversion⟩ := h.version
  obtain ⟨tags, htags⟩ := h.tags
  unfold syncedPack
  rw [nonEmptyStr_eq_some.2 hname, nonEmptyStr_eq_some.2 hversion, strings_eq_some.2 htags]
  exact ⟨_, rfl⟩

/-- The gateway finds the hash where the pack of the directory has it. -/
theorem hasHash_iff {s : Store} {pack : FetchedPack} {data : SyncedPack}
    (hdata : Synced env registryId pack data) :
    HasHash s registryId (packIdOf env.unicode.isPrintable pack) (shaOf pack) ↔
      ∃ p ∈ s.packs.rows, data.Names p ∧ p.manifestSha = data.manifestSha := by
  unfold HasHash SyncedPack.Names
  rw [hdata.registryId, hdata.packId, hdata.manifestSha]
  simp only [and_assoc]

/-- The gateway finds the pack where there is one under the names of the
directory. -/
theorem hasPack_iff {s : Store} {pack : FetchedPack} {data : SyncedPack}
    (hdata : Synced env registryId pack data) :
    HasPack s registryId (packIdOf env.unicode.isPrintable pack) ↔
      ∃ p ∈ s.packs.rows, data.Names p := by
  unfold HasPack SyncedPack.Names
  rw [hdata.registryId, hdata.packId]

/-- **Which directories are stored**: the valid ones whose hash is there or that
can be written. -/
theorem returns_upsertFetchedPack_iff (hdb : ExactColumns env.db)
    (hcodec : DecodesEncoded env.codec) (now : Time) {s : Store} {pack : FetchedPack}
    (hready : SyncReady s registryId) :
    Returns (upsertFetchedPack env now registryId s pack) ↔
      ValidPack env.unicode.isPrintable pack ∧
        HasHash s registryId (packIdOf env.unicode.isPrintable pack) (shaOf pack) ∨
      Storable env registryId s pack := by
  have hreturns : ∀ data, syncedPack env registryId pack = .ok data →
      (Returns (upsertFetchedPack env now registryId s pack) ↔
        ValidPack env.unicode.isPrintable pack ∧
          (HasHash s registryId (packIdOf env.unicode.isPrintable pack) (shaOf pack) ∨
            ContentFits env data (decodedOf env.codec pack.assets) ∧
              (HasPack s registryId (packIdOf env.unicode.isPrintable pack) ∨
                Returns (bindString env.db 100 (packIdOf env.unicode.isPrintable pack))))) := by
    intro data hdata
    have hsynced := syncedPack_eq_ok hdata
    have hreg : data.registryId ∈ s.registries := by
      rw [hsynced.registryId]
      exact hready.registry
    unfold upsertFetchedPack
    rw [bind_of_eq_ok hdata, returns_upsert_iff hdb now hready.keyed hreg, hasHash_iff hsynced,
      hasPack_iff hsynced, ← hsynced.packId]
    constructor
    · rintro ⟨decoded, hchecked, h⟩
      obtain ⟨hvalid, rfl⟩ := (checked_iff hcodec hdata).1 hchecked
      exact ⟨hvalid, h⟩
    · rintro ⟨hvalid, h⟩
      exact ⟨_, (checked_iff hcodec hdata).2 ⟨hvalid, rfl⟩, h⟩
  constructor
  · intro h
    obtain ⟨data, hdata, -⟩ := upsertFetchedPack_eq_ok.1 h.choose_spec
    obtain ⟨hvalid, hhash | ⟨hfits, hbound⟩⟩ := (hreturns data hdata).1 h
    · exact .inl ⟨hvalid, hhash⟩
    · exact .inr ⟨hvalid, ⟨data, hdata, hfits⟩, hbound⟩
  · rintro (⟨hvalid, hhash⟩ | ⟨hvalid, ⟨data, hdata, hfits⟩, hbound⟩)
    · have hsynced : ∃ data, syncedPack env registryId pack = .ok data := exists_syncedPack hvalid
      obtain ⟨data, hdata⟩ := hsynced
      exact (hreturns data hdata).2 ⟨hvalid, .inl hhash⟩
    · exact (hreturns data hdata).2 ⟨hvalid, .inr ⟨hfits, hbound⟩⟩

/-- **Every round of the loop is one of these.** -/
theorem syncPack_round (hdb : ExactColumns env.db) (hcodec : DecodesEncoded env.codec)
    (clock : Nat → Time) {acc : SyncState} (hready : SyncReady acc.store registryId)
    (pack : FetchedPack) :
    ∃ item, (syncPack env clock registryId acc pack).results = acc.results ++ [item] ∧
      Round env registryId acc.store pack item (syncPack env clock registryId acc pack).store := by
  rcases syncPack_cases env clock registryId acc pack with ⟨data, result, hdata, hok, heq⟩ |
    ⟨exc, hraises, heq⟩
  · have hsynced := syncedPack_eq_ok hdata
    obtain ⟨decoded, hchecked, hcase⟩ := upsert_eq_ok hdb hready.keyed hok
    obtain ⟨hvalid, rfl⟩ := (checked_iff hcodec hdata).1 hchecked
    rw [heq]
    refine ⟨_, rfl, ?_⟩
    rcases hcase with ⟨p, hp, hnames, hsha, rfl⟩ | hwritten
    · exact .skipped hvalid ((hasHash_iff hsynced).2 ⟨p, hp, hnames, hsha⟩)
    · obtain ⟨p, hholds, -⟩ := hwritten.after
      refine .written hwritten.outcome ?_ ⟨hvalid, ⟨data, hdata, hwritten.fits⟩, ?_⟩
        (storedAs_of_holds hsynced hholds) fun q hq => kept_of_written hsynced hwritten hq
      · intro hhash
        obtain ⟨q, hq, hnames, hsha⟩ := (hasHash_iff hsynced).1 hhash
        exact (hwritten.before q hq hnames).2 hsha
      · rw [hasPack_iff hsynced, ← hsynced.packId]
        exact hwritten.bound
  · rw [returns_upsertFetchedPack_iff hdb hcodec _ hready, not_or, not_and] at hraises
    rw [heq]
    exact ⟨_, rfl, .failed hraises.1 hraises.2⟩

variable {s t : Store} {pack : FetchedPack} {item : RegistrySyncItem}

theorem Round.packId_eq (h : Round env registryId s pack item t) : item.packId = pack.dirname := by
  cases h <;> rfl

/-- A success was written or left alone. -/
theorem Round.wrote_or_skipped (h : Round env registryId s pack item t)
    (hsuccess : item.status = .success) : item.Wrote ∨ item.Skipped := by
  cases h with
  | skipped _ _ => exact .inr ⟨rfl, rfl⟩
  | written houtcome _ _ _ _ => exact .inl ⟨rfl, outcomeText_of_ne houtcome⟩
  | failed _ _ => cases hsuccess

/-- What was not written is not changed. -/
theorem Round.eq_of_not_wrote (h : Round env registryId s pack item t) (hitem : ¬item.Wrote) :
    t = s := by
  cases h with
  | skipped _ _ => rfl
  | written houtcome _ _ _ _ => exact absurd ⟨rfl, outcomeText_of_ne houtcome⟩ hitem
  | failed _ _ => rfl

/-- What was written is stored. -/
theorem Round.stored (h : Round env registryId s pack item t) (hitem : item.Wrote) :
    ∃ p, StoredAs env t registryId pack p := by
  cases h with
  | skipped _ _ => exact absurd hitem (RegistrySyncItem.Skipped.not_wrote ⟨rfl, rfl⟩)
  | written _ _ _ hstored _ => exact ⟨_, hstored⟩
  | failed _ _ => cases hitem.1

/-- Only what can be written is written. -/
theorem Round.storable_of_wrote (h : Round env registryId s pack item t) (hitem : item.Wrote) :
    Storable env registryId s pack := by
  cases h with
  | skipped _ _ => exact absurd hitem (RegistrySyncItem.Skipped.not_wrote ⟨rfl, rfl⟩)
  | written _ _ hstorable _ _ => exact hstorable
  | failed _ _ => cases hitem.1

/-- What is not a success could not be written. -/
theorem Round.success_of_storable (h : Round env registryId s pack item t)
    (hstorable : Storable env registryId s pack) : item.status = .success := by
  cases h with
  | skipped _ _ => rfl
  | written _ _ _ _ _ => rfl
  | failed _ hfailed => exact absurd hstorable hfailed

/-- A success is valid, and its hash is there. -/
theorem Round.hasHash (h : Round env registryId s pack item t) (hsuccess : item.status = .success) :
    ValidPack env.unicode.isPrintable pack ∧
      HasHash t registryId (packIdOf env.unicode.isPrintable pack) (shaOf pack) := by
  cases h with
  | skipped hvalid hhash => exact ⟨hvalid, hhash⟩
  | written _ _ hstorable hstored _ => exact ⟨hstorable.valid, hstored.hasHash⟩
  | failed _ _ => cases hsuccess

/-- A valid directory whose hash is there is left alone. -/
theorem Round.skips (h : Round env registryId s pack item t)
    (hvalid : ValidPack env.unicode.isPrintable pack)
    (hhash : HasHash s registryId (packIdOf env.unicode.isPrintable pack) (shaOf pack)) :
    item = ⟨pack.dirname, .success, "", "unchanged"⟩ := by
  cases h with
  | skipped _ _ => rfl
  | written _ hnew _ _ _ => exact absurd hhash hnew
  | failed hnew _ => exact absurd hhash (hnew hvalid)

/-- The packs that the directory does not name are kept. -/
theorem Round.kept (h : Round env registryId s pack item t) {q : PackRow}
    (hq : item.Wrote → ¬NamedBy env registryId pack q) : Kept s t q := by
  by_cases hitem : item.Wrote
  · cases h with
    | skipped _ _ => exact .refl _ q
    | written _ _ _ _ hkept => exact hkept q (hq hitem)
    | failed _ _ => exact .refl _ q
  · rw [h.eq_of_not_wrote hitem]
    exact .refl s q

/-- A hash stays unless the directory has its `pack_id` and another one. -/
theorem Round.keepsHash (h : Round env registryId s pack item t) {packId : String}
    {sha : Option String} (hhash : HasHash s registryId packId sha)
    (hsame : item.Wrote → packIdOf env.unicode.isPrintable pack = packId → shaOf pack = sha) :
    HasHash t registryId packId sha := by
  by_cases hitem : item.Wrote
  · by_cases hpack : packIdOf env.unicode.isPrintable pack = packId
    · rw [← hpack, ← hsame hitem hpack]
      exact (h.hasHash hitem.1).2
    · obtain ⟨p, hp, hr, hk, hsha⟩ := hhash
      have hnamed : ¬NamedBy env registryId pack p := fun hnamed =>
        hpack (hnamed.2.symm.trans hk)
      exact ⟨p, (h.kept fun _ => hnamed).pack.2 hp, hr, hk, hsha⟩
  · rw [h.eq_of_not_wrote hitem]
    exact hhash

/-- What can be written after a round could be written before. -/
theorem Round.storable_before (h : Round env registryId s pack item t) {other : FetchedPack}
    (hafter : Storable env registryId t other) : Storable env registryId s other := by
  by_cases hitem : item.Wrote
  · refine { hafter with bound := ?_ }
    rcases hafter.bound with ⟨p, hp, hr, hk⟩ | hbound
    · by_cases hpack : packIdOf env.unicode.isPrintable pack =
          packIdOf env.unicode.isPrintable other
      · rw [← hpack]
        exact (h.storable_of_wrote hitem).bound
      · have hnamed : ¬NamedBy env registryId pack p := fun hnamed =>
          hpack (hnamed.2.symm.trans hk)
        exact .inl ⟨p, (h.kept fun _ => hnamed).pack.1 hp, hr, hk⟩
    · exact .inr hbound
  · rw [h.eq_of_not_wrote hitem] at hafter
    exact hafter

end Round

/-! ## A run of the loop -/

/-- The rounds of a loop, with what was fetched and the items. -/
inductive Run (env : Env) (registryId : Uuid) :
    Store → List (FetchedPack × RegistrySyncItem) → Store → Prop
  | nil {s : Store} : Run env registryId s [] s
  | cons {s t u : Store} {pack : FetchedPack} {item : RegistrySyncItem}
      {log : List (FetchedPack × RegistrySyncItem)} : Round env registryId s pack item t →
      Run env registryId t log u → Run env registryId s ((pack, item) :: log) u

/-- The stored directories of one `pack_id` have one hash. -/
def OneHash (env : Env) (log : List (FetchedPack × RegistrySyncItem)) : Prop :=
  ∀ x ∈ log, ∀ y ∈ log, x.2.status = .success → y.2.status = .success →
    packIdOf env.unicode.isPrintable x.1 = packIdOf env.unicode.isPrintable y.1 →
    shaOf x.1 = shaOf y.1

/-- No directory of this `pack_id` was written. -/
def NotWritten (env : Env) (log : List (FetchedPack × RegistrySyncItem)) (packId : String) : Prop :=
  ∀ x ∈ log, x.2.Wrote → packIdOf env.unicode.isPrintable x.1 ≠ packId

section Run

variable {env : Env} {registryId : Uuid} {s u : Store}
  {log before after : List (FetchedPack × RegistrySyncItem)}

/-- **The loop is such a run.** -/
theorem syncPacks_run (hdb : ExactColumns env.db) (hcodec : DecodesEncoded env.codec)
    (clock : Nat → Time) (acc : SyncState) (hready : SyncReady acc.store registryId)
    (packs : List FetchedPack) :
    ∃ items, (syncPacks env clock registryId acc packs).results = acc.results ++ items ∧
      items.length = packs.length ∧
      Run env registryId acc.store (packs.zip items)
        (syncPacks env clock registryId acc packs).store := by
  induction packs generalizing acc with
  | nil => exact ⟨[], (List.append_nil _).symm, rfl, .nil⟩
  | cons pack packs ih =>
      obtain ⟨item, hresults, hround⟩ := syncPack_round hdb hcodec clock hready pack
      obtain ⟨items, hresults', hlength, hrun⟩ := ih _ (hready.round pack)
      refine ⟨item :: items, ?_, congrArg (· + 1) hlength, .cons hround hrun⟩
      show (syncPacks env clock registryId (syncPack env clock registryId acc pack) packs).results
        = _
      rw [hresults', hresults, List.append_assoc]
      rfl

/-- A run goes through the state between two parts of it. -/
theorem Run.split (h : Run env registryId s (before ++ after) u) :
    ∃ t, Run env registryId s before t ∧ Run env registryId t after u := by
  induction before generalizing s with
  | nil => exact ⟨s, .nil, h⟩
  | cons x before ih =>
      cases h with
      | cons hround hrest =>
          obtain ⟨t, hbefore, hafter⟩ := ih hrest
          exact ⟨t, .cons hround hbefore, hafter⟩

/-- Each directory has had its round. -/
theorem Run.exists_round (h : Run env registryId s log u) {x : FetchedPack × RegistrySyncItem}
    (hx : x ∈ log) : ∃ t t', Round env registryId t x.1 x.2 t' := by
  induction h with
  | nil => cases hx
  | cons hround _ ih =>
      rcases List.mem_cons.1 hx with rfl | hx
      · exact ⟨_, _, hround⟩
      · exact ih hx

/-- The packs that no written directory names are kept. -/
theorem Run.kept (h : Run env registryId s log u) {q : PackRow}
    (hq : ∀ x ∈ log, x.2.Wrote → ¬NamedBy env registryId x.1 q) : Kept s u q := by
  induction h with
  | nil => exact .refl _ q
  | cons hround _ ih =>
      rw [List.forall_mem_cons] at hq
      exact (hround.kept hq.1).trans (ih hq.2)

/-- What can be written after a run could be written before. -/
theorem Run.storable_before (h : Run env registryId s log u) {pack : FetchedPack}
    (hafter : Storable env registryId u pack) : Storable env registryId s pack := by
  induction h with
  | nil => exact hafter
  | cons hround _ ih => exact hround.storable_before (ih hafter)

/-- A directory that can be written after a run was a success in it. -/
theorem Run.success_of_storable (h : Run env registryId s log u)
    {x : FetchedPack × RegistrySyncItem} (hx : x ∈ log)
    (hafter : Storable env registryId u x.1) : x.2.status = .success := by
  induction h with
  | nil => cases hx
  | cons hround hrest ih =>
      rcases List.mem_cons.1 hx with rfl | hx
      · exact hround.success_of_storable (hround.storable_before (hrest.storable_before hafter))
      · exact ih hx hafter

/-- A hash stays where every directory of its `pack_id` that is written has it. -/
theorem Run.keepsHash (h : Run env registryId s log u) {packId : String} {sha : Option String}
    (hhash : HasHash s registryId packId sha)
    (hsame : ∀ x ∈ log, x.2.Wrote → packIdOf env.unicode.isPrintable x.1 = packId →
      shaOf x.1 = sha) : HasHash u registryId packId sha := by
  induction h with
  | nil => exact hhash
  | cons hround _ ih =>
      rw [List.forall_mem_cons] at hsame
      exact ih (hround.keepsHash hhash hsame.1) hsame.2

/-- Where the directories of one `pack_id` have one hash, the hash of every success
is there at the end. -/
theorem Run.hasHash_of_oneHash (h : Run env registryId s log u) (hone : OneHash env log)
    {x : FetchedPack × RegistrySyncItem} (hx : x ∈ log) (hsuccess : x.2.status = .success) :
    HasHash u registryId (packIdOf env.unicode.isPrintable x.1) (shaOf x.1) := by
  obtain ⟨pack, item⟩ := x
  obtain ⟨before, after, rfl⟩ := List.append_of_mem hx
  obtain ⟨t, -, hrest⟩ := h.split
  cases hrest with
  | cons hround hafter =>
      refine hafter.keepsHash (hround.hasHash hsuccess).2 fun y hy hwrote hpack => ?_
      exact hone y (List.mem_append_right _ (List.mem_cons_of_mem _ hy)) _ hx hwrote.1 hsuccess hpack

/-- Where nothing is written, nothing changes. -/
theorem Run.eq_of_not_wrote (h : Run env registryId s log u) (hlog : ∀ x ∈ log, ¬x.2.Wrote) :
    u = s := by
  induction h with
  | nil => rfl
  | cons hround _ ih =>
      rw [List.forall_mem_cons] at hlog
      exact (ih hlog.2).trans (hround.eq_of_not_wrote hlog.1)

end Run

end Registry
end NodeNexus
