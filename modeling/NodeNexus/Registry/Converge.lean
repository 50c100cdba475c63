import NodeNexus.Registry.SyncReport

/-!
# What a synchronisation leaves

* `Converged` says what the items of a synchronisation mean for the packs, and
  `NothingToDo` that a later one skips what was stored.
* `Run.leftAlone_iff` — a second run skips every success exactly when the stored
  directories of one `pack_id` have one hash.
* `sync_converges` — a directory that was written last under its `pack_id` is
  stored as it was fetched, and a later synchronisation has nothing to do under
  the same condition.
-/

namespace NodeNexus
namespace Registry

open Content Pack

section Run

variable {env : Env} {registryId : Uuid} {s u : Store}
  {log : List (FetchedPack × RegistrySyncItem)}

/-! ## What the items mean -/

/-- What the items of a synchronisation mean for the packs of its registry. -/
structure Converged (env : Env) (registryId : Uuid) (s u : Store)
    (log : List (FetchedPack × RegistrySyncItem)) : Prop where
  /-- Each directory has an item of its name. -/
  names : ∀ x ∈ log, x.2.packId = x.1.dirname
  success : ∀ x ∈ log, x.2.status = .success → x.2.Wrote ∨ x.2.Skipped
  /-- What was written last under a `pack_id` is stored. -/
  stored : ∀ before pack item after, log = before ++ (pack, item) :: after → item.Wrote →
    NotWritten env after (packIdOf env.unicode.isPrintable pack) →
    ∃ p, StoredAs env u registryId pack p
  /-- The hash of what was left alone is stored. -/
  skipped : ∀ before pack item after, log = before ++ (pack, item) :: after → item.Skipped →
    NotWritten env after (packIdOf env.unicode.isPrintable pack) →
    HasHash u registryId (packIdOf env.unicode.isPrintable pack) (shaOf pack)
  /-- The packs that no written directory names are as they were. -/
  kept : ∀ q, (∀ x ∈ log, x.2.Wrote → ¬NamedBy env registryId x.1 q) → Kept s u q

/-- **What a run of the loop leaves.** -/
theorem Run.converged (h : Run env registryId s log u) : Converged env registryId s u log where
  names x hx := by
    obtain ⟨t, t', hround⟩ := h.exists_round hx
    exact hround.packId_eq
  success x hx hsuccess := by
    obtain ⟨t, t', hround⟩ := h.exists_round hx
    exact hround.wrote_or_skipped hsuccess
  stored before pack item after hlog hwrote hlast := by
    subst hlog
    obtain ⟨t, -, hrest⟩ := h.split
    cases hrest with
    | cons hround hafter =>
        obtain ⟨p, hp⟩ := hround.stored hwrote
        exact ⟨p, hp.kept (hafter.kept fun x hx hx' hnamed =>
          hlast x hx hx' (hnamed.2.symm.trans hp.named.2))⟩
  skipped before pack item after hlog hskipped hlast := by
    subst hlog
    obtain ⟨t, -, hrest⟩ := h.split
    cases hrest with
    | cons hround hafter =>
        exact hafter.keepsHash (hround.hasHash hskipped.1).2 fun x hx hx' hpack =>
          absurd hpack (hlast x hx hx')
  kept _ hq := h.kept hq

/-! ## The same directories again -/

/-- The packs of the registry have the same hashes. -/
def SameHashes (registryId : Uuid) (s s' : Store) : Prop :=
  ∀ packId sha, HasHash s' registryId packId sha ↔ HasHash s registryId packId sha

theorem SameHashes.hasPack_iff {s s' : Store} (h : SameHashes registryId s s') (packId : String) :
    HasPack s' registryId packId ↔ HasPack s registryId packId := by
  constructor
  · rintro ⟨p, hp, hr, hk⟩
    exact ((h packId p.manifestSha).1 ⟨p, hp, hr, hk, rfl⟩).hasPack
  · rintro ⟨p, hp, hr, hk⟩
    exact ((h packId p.manifestSha).2 ⟨p, hp, hr, hk, rfl⟩).hasPack

/-- Every success of the log is left alone now. -/
def LeftAlone (log : List (FetchedPack × RegistrySyncItem)) (items : List RegistrySyncItem) :
    Prop :=
  ∀ x ∈ log.zip items, x.1.2.status = .success → x.2 = ⟨x.1.1.dirname, .success, "", "unchanged"⟩

/-- A run that writes nothing has all its rounds in one state. -/
theorem Run.round_of_not_wrote (h : Run env registryId s log u) (hlog : ∀ x ∈ log, ¬x.2.Wrote) :
    ∀ x ∈ log, Round env registryId s x.1 x.2 s := by
  induction h with
  | nil => exact fun x hx => nomatch hx
  | cons hround _ ih =>
      rw [List.forall_mem_cons] at hlog ⊢
      have hstate := hround.eq_of_not_wrote hlog.1
      subst hstate
      exact ⟨hround, ih hlog.2⟩

/-- What is written could be written before the run. -/
theorem Run.storable_of_wrote (h : Run env registryId s log u)
    {x : FetchedPack × RegistrySyncItem} (hx : x ∈ log) (hwrote : x.2.Wrote) :
    Storable env registryId s x.1 := by
  induction h with
  | nil => cases hx
  | cons hround _ ih =>
      rcases List.mem_cons.1 hx with rfl | hx
      · exact hround.storable_of_wrote hwrote
      · exact hround.storable_before (ih hx)

/-- Nothing is written where each directory has its hash or cannot be written. -/
theorem Run.not_wrote (h : Run env registryId s log u)
    (hlog : ∀ x ∈ log, ValidPack env.unicode.isPrintable x.1 ∧
        HasHash s registryId (packIdOf env.unicode.isPrintable x.1) (shaOf x.1) ∨
      ¬Storable env registryId s x.1) : ∀ x ∈ log, ¬x.2.Wrote := by
  induction h with
  | nil => exact fun x hx => nomatch hx
  | @cons s t u pack item log hround _ ih =>
      rw [List.forall_mem_cons] at hlog ⊢
      have hitem : ¬item.Wrote := by
        rcases hlog.1 with ⟨hvalid, hhash⟩ | hstorable
        · rw [hround.skips hvalid hhash]
          exact RegistrySyncItem.Skipped.not_wrote ⟨rfl, rfl⟩
        · exact fun hwrote => hstorable (hround.storable_of_wrote hwrote)
      have hstate := hround.eq_of_not_wrote hitem
      subst hstate
      exact ⟨hitem, ih hlog.2⟩

section Again

variable {s' u' : Store} {items : List RegistrySyncItem}

/-- What failed in a run cannot be written in a state with the same hashes. -/
theorem Run.not_storable_again (h : Run env registryId s log u) (hsame : SameHashes registryId u s')
    {x : FetchedPack × RegistrySyncItem} (hx : x ∈ log) (hfailed : x.2.status ≠ .success) :
    ¬Storable env registryId s' x.1 := by
  intro hstorable
  refine hfailed (h.success_of_storable hx { hstorable with bound := ?_ })
  rw [← hsame.hasPack_iff]
  exact hstorable.bound

theorem exists_mem_zip {α β : Type} {xs : List α} {ys : List β} (h : xs.length = ys.length) {x : α}
    (hx : x ∈ xs) : ∃ y, (x, y) ∈ xs.zip ys := by
  rw [← List.map_fst_zip (Nat.le_of_eq h), List.mem_map] at hx
  obtain ⟨⟨x, y⟩, hxy, rfl⟩ := hx
  exact ⟨y, hxy⟩

/-- What an earlier item and a later one are about. -/
theorem mem_zip_fst {y : FetchedPack × RegistrySyncItem} :
    y ∈ (log.map Prod.fst).zip items ↔ ∃ x ∈ log.zip items, (x.1.1, x.2) = y := by
  rw [List.zip_map_left, List.mem_map]
  rfl

/-- Where every success is left alone, the second run writes nothing. -/
theorem Run.not_wrote_of_leftAlone (h : Run env registryId s log u)
    (hsame : SameHashes registryId u s')
    (h' : Run env registryId s' ((log.map Prod.fst).zip items) u') (halone : LeftAlone log items) :
    ∀ y ∈ (log.map Prod.fst).zip items, ¬y.2.Wrote := by
  intro y hy hwrote
  have hstorable := h'.storable_of_wrote hy hwrote
  obtain ⟨x, hx, rfl⟩ := mem_zip_fst.1 hy
  by_cases hsuccess : x.1.2.status = .success
  · rw [halone x hx hsuccess] at hwrote
    exact RegistrySyncItem.Skipped.not_wrote ⟨rfl, rfl⟩ hwrote
  · exact h.not_storable_again hsame (List.of_mem_zip hx).1 hsuccess hstorable

/-- **When a second run leaves every success alone.** -/
theorem Run.leftAlone_iff (hs' : s'.Keyed) (h : Run env registryId s log u)
    (hsame : SameHashes registryId u s') (hlength : items.length = log.length)
    (h' : Run env registryId s' ((log.map Prod.fst).zip items) u') :
    LeftAlone log items ↔ OneHash env log := by
  constructor
  · intro halone
    have hrounds := h'.round_of_not_wrote (h.not_wrote_of_leftAlone hsame h' halone)
    -- the hash of every success is there, and a `pack_id` has one hash
    have hhash : ∀ x ∈ log, x.2.status = .success →
        HasHash s' registryId (packIdOf env.unicode.isPrintable x.1) (shaOf x.1) := by
      intro x hx hsuccess
      obtain ⟨item, hitem⟩ := exists_mem_zip hlength.symm hx
      refine ((hrounds _ (mem_zip_fst.2 ⟨_, hitem, rfl⟩)).hasHash ?_).2
      have hleft : item = _ := halone _ hitem hsuccess
      rw [hleft]
    intro x hx y hy hsuccess hsuccess' hpack
    have hx' := hhash x hx hsuccess
    rw [hpack] at hx'
    exact hx'.unique hs' (hhash y hy hsuccess')
  · intro hone
    have hhash : ∀ x ∈ log, x.2.status = .success → ValidPack env.unicode.isPrintable x.1 ∧
        HasHash s' registryId (packIdOf env.unicode.isPrintable x.1) (shaOf x.1) := by
      intro x hx hsuccess
      obtain ⟨t, t', hround⟩ := h.exists_round hx
      exact ⟨(hround.hasHash hsuccess).1, (hsame _ _).2 (h.hasHash_of_oneHash hone hx hsuccess)⟩
    have hrounds := h'.round_of_not_wrote <| h'.not_wrote <| by
      intro y hy
      obtain ⟨x, hx, rfl⟩ := mem_zip_fst.1 hy
      have hmem := (List.of_mem_zip hx).1
      by_cases hsuccess : x.1.2.status = .success
      · exact .inl (hhash x.1 hmem hsuccess)
      · exact .inr (h.not_storable_again hsame (x := x.1) hmem hsuccess)
    intro x hx hsuccess
    obtain ⟨hvalid, hsha⟩ := hhash _ (List.of_mem_zip hx).1 hsuccess
    exact (hrounds _ (mem_zip_fst.2 ⟨x, hx, rfl⟩)).skips hvalid hsha

end Again

end Run

/-! ## The method -/

section Method

variable {env : Env} {reader : JsonReader} {outside : Outside} {encrypt : String → String}
  {c : Catalog} {id : Uuid} {fetched : List FetchedPack}

/-- The registry is there, and these are the directories of its repository. -/
def Fetches (env : Env) (reader : JsonReader) (outside : Outside) (c : Catalog) (id : Uuid)
    (fetched : List FetchedPack) : Prop :=
  ∃ view token, c.registries.find? id = some view ∧
    outside.decrypt view.githubTokenEncrypted = .ok token ∧
    fetchPacks env.codec reader outside.astray view.owner view.name
      (outside.templates view.owner view.name view.defaultBranch token) = .ok fetched

/-- A round is a step of the catalog, or changes nothing. -/
theorem reachable_syncPack (clock : Nat → Time) (id : Uuid) (acc : SyncState)
    (hc : (catalogSystem env encrypt).Reachable c) (hstore : c.store = acc.store)
    (pack : FetchedPack) :
    ∃ d, (catalogSystem env encrypt).Reachable d ∧
      d.store = (syncPack env clock id acc pack).store ∧ d.registries = c.registries := by
  rcases syncPack_cases env clock id acc pack with ⟨data, result, -, hok, heq⟩ | ⟨exc, -, heq⟩
  · refine ⟨c.perform env encrypt (.store (.upsertSyncedPack (clock acc.results.length) data)),
      .next hc trivial rfl, ?_, rfl⟩
    have htransaction : transaction env acc.store
        (.upsertSyncedPack (clock acc.results.length) data) = .ok result.1 := by
      show (upsertSyncedPack env (clock acc.results.length) acc.store data).map _ = _
      rw [hok]
      rfl
    rw [heq]
    show perform env c.store _ = result.1
    unfold perform
    rw [hstore, htransaction]
  · exact ⟨c, hc, by rw [heq, hstore], rfl⟩

/-- The loop goes through reachable catalogs. -/
theorem reachable_syncPacks (clock : Nat → Time) (id : Uuid) (acc : SyncState)
    (hc : (catalogSystem env encrypt).Reachable c) (hstore : c.store = acc.store)
    (packs : List FetchedPack) :
    ∃ d, (catalogSystem env encrypt).Reachable d ∧
      d.store = (syncPacks env clock id acc packs).store ∧ d.registries = c.registries := by
  induction packs generalizing c acc with
  | nil => exact ⟨c, hc, hstore, rfl⟩
  | cons pack packs ih =>
      obtain ⟨d, hd, hstored, hregistries⟩ := reachable_syncPack clock id acc hc hstore pack
      obtain ⟨e, he, hstored', hregistries'⟩ := ih _ hd hstored
      exact ⟨e, he, hstored', hregistries'.trans hregistries⟩

theorem withStore_eq {d : Catalog} {s : Store} (hstore : d.store = s)
    (hregistries : d.registries = c.registries) : withStore c s = d := by
  obtain ⟨store, registries, hids⟩ := d
  subst hstore hregistries
  have hstore : { store with registries := c.registries.rows.map (·.id) } = store := by
    rw [← hids]
  simp only [withStore, Catalog.mk.injEq, and_true]
  exact hstore

/-- A synchronisation leaves a reachable catalog. -/
theorem reachable_syncFetched (hc : (catalogSystem env encrypt).Reachable c) {row : RegistryRow}
    (hrow : c.registries.find? id = some row) {c' : Catalog}
    {result : Except RegistryFailure RegistrySyncResult}
    (h : syncFetched env outside c id fetched = (c', result)) :
    (catalogSystem env encrypt).Reachable c' := by
  obtain ⟨d, hd, hstore, hregistries⟩ :=
    reachable_syncPacks outside.clock id ⟨c.store, 0, []⟩ hc rfl fetched
  have htouch : touchSynced env (outside.clock fetched.length) d id = .ok _ :=
    touchSynced_of_find? ((congrArg (Table.find? · id) hregistries).trans hrow)
  unfold syncFetched at h
  dsimp only at h
  rw [withStore_eq hstore hregistries, htouch] at h
  cases h
  refine .next (e := .touchSynced (outside.clock fetched.length) id) hd trivial ?_
  have happly : d.apply env encrypt (.touchSynced (outside.clock fetched.length) id) = .ok _ :=
    htouch
  show some (Catalog.perform env encrypt d _) = _
  unfold Catalog.perform
  rw [happly]

/-- What the method does with the directories of its repository. -/
theorem syncRegistry_of_fetches (h : Fetches env reader outside c id fetched) :
    syncRegistry env reader outside c id = syncFetched env outside c id fetched := by
  obtain ⟨view, token, hview, htoken, hfetched⟩ := h
  unfold syncRegistry
  simp only [hview, htoken, hfetched]

/-- Stores with the same packs have the same hashes. -/
theorem sameHashes_of_packs {s s' : Store} (h : s'.packs = s.packs) : SameHashes id s s' := by
  intro packId sha
  unfold HasHash
  rw [h]

theorem SameHashes.trans {s t u : Store} (h : SameHashes id s t) (h' : SameHashes id t u) :
    SameHashes id s u :=
  fun packId sha => (h' packId sha).trans (h packId sha)

/-- What the items mean does not depend on the other tables. -/
theorem Converged.congr {s u u' : Store} {log : List (FetchedPack × RegistrySyncItem)}
    (h : Converged env id s u log) (hpacks : u'.packs = u.packs) (hassets : u'.assets = u.assets) :
    Converged env id s u' log := by
  have hkept : ∀ q, Kept u u' q := by
    intro q
    constructor
    · rw [hpacks]
    · intro _
      rw [hassets]
  refine { h with stored := ?_, skipped := ?_, kept := ?_ }
  · intro before pack item after hlog hwrote hlast
    obtain ⟨p, hp⟩ := h.stored before pack item after hlog hwrote hlast
    exact ⟨p, hp.kept (hkept p)⟩
  · intro before pack item after hlog hskipped hlast
    exact (sameHashes_of_packs hpacks _ _).2 (h.skipped before pack item after hlog hskipped hlast)
  · intro q hq
    exact (h.kept q hq).trans (hkept q)

/-- A synchronisation with these directories is a run of the loop. -/
theorem syncRegistry_run (hdb : ExactColumns env.db) (hcodec : DecodesEncoded env.codec)
    (hc : (catalogSystem env encrypt).Reachable c) (h : Fetches env reader outside c id fetched) :
    ∃ c' result u, syncRegistry env reader outside c id = (c', .ok result) ∧
      (catalogSystem env encrypt).Reachable c' ∧ result.results.length = fetched.length ∧
      Run env id c.store (fetched.zip result.results) u ∧
      c'.store.packs = u.packs ∧ c'.store.assets = u.assets := by
  have hsync := syncRegistry_of_fetches h
  obtain ⟨row, token, hrow, -⟩ := h
  obtain ⟨items, hitems, hlength, hrun⟩ := syncPacks_run hdb hcodec outside.clock ⟨c.store, 0, []⟩
    (syncReady_of_reachable hc hrow) fetched
  obtain ⟨c', heq, hstore, -⟩ := syncFetched_eq env outside hrow fetched
  rw [hitems, List.nil_append] at heq
  refine ⟨c', _, _, hsync.trans heq, reachable_syncFetched hc hrow heq,
    hlength, hrun, ?_, ?_⟩
  · rw [hstore]
  · rw [hstore]

/-- The synchronisation changes no pack, and leaves every success of the log alone. -/
def NothingToDo (env : Env) (reader : JsonReader) (outside : Outside) (c : Catalog) (id : Uuid)
    (log : List (FetchedPack × RegistrySyncItem)) : Prop :=
  ∃ c' result, syncRegistry env reader outside c id = (c', .ok result) ∧
    result.results.length = log.length ∧ c'.store.packs = c.store.packs ∧
    c'.store.assets = c.store.assets ∧ LeftAlone log result.results

/-- The synchronisation returns; its items mean what they say, and later, with the
same directories and the same hashes, there is nothing to do exactly when the
stored directories of one `pack_id` have one hash. -/
def Converges (env : Env) (encrypt : String → String) (reader : JsonReader) (outside : Outside)
    (c : Catalog) (id : Uuid) (fetched : List FetchedPack) : Prop :=
  ∃ c' result, syncRegistry env reader outside c id = (c', .ok result) ∧
    (catalogSystem env encrypt).Reachable c' ∧ result.results.length = fetched.length ∧
    Converged env id c.store c'.store (fetched.zip result.results) ∧
    ∀ reader' outside' later, (catalogSystem env encrypt).Reachable later →
      SameHashes id c'.store later.store → Fetches env reader' outside' later id fetched →
      (NothingToDo env reader' outside' later id (fetched.zip result.results) ↔
        OneHash env (fetched.zip result.results))

/-- **What a synchronisation leaves**, and when a later one has nothing to do. -/
theorem sync_converges (hdb : ExactColumns env.db) (hcodec : DecodesEncoded env.codec)
    (hc : (catalogSystem env encrypt).Reachable c)
    (hfetches : Fetches env reader outside c id fetched) :
    Converges env encrypt reader outside c id fetched := by
  obtain ⟨c', result, u, hsync, hc', hlength, hrun, hpacks, hassets⟩ :=
    syncRegistry_run hdb hcodec hc hfetches
  refine ⟨c', result, hsync, hc', hlength, hrun.converged.congr hpacks hassets, ?_⟩
  intro reader' outside' later hlater hsame hfetches'
  have hsame' : SameHashes id u later.store := (sameHashes_of_packs hpacks).trans hsame
  obtain ⟨c'', again, u', hagain, -, hlength', hrun', hpacks', hassets'⟩ :=
    syncRegistry_run hdb hcodec hlater hfetches'
  have hfst : (fetched.zip result.results).map Prod.fst = fetched :=
    List.map_fst_zip (Nat.le_of_eq hlength.symm)
  have hlog : again.results.length = (fetched.zip result.results).length := by
    rw [hlength', ← congrArg List.length hfst, List.length_map]
  have hkeyed := keyed_of_reachable hlater
  rw [← hfst] at hrun'
  rw [← hrun.leftAlone_iff hkeyed hsame' hlog hrun']
  constructor
  · rintro ⟨d, result', heq, -, -, -, halone⟩
    cases hagain.symm.trans heq
    exact halone
  · intro halone
    have hstate := hrun'.eq_of_not_wrote (hrun.not_wrote_of_leftAlone hsame' hrun' halone)
    refine ⟨c'', again, hagain, hlog, ?_, ?_, halone⟩
    · rw [hpacks', hstate]
    · rw [hassets', hstate]

end Method

/-! ### A README beside an old manifest -/

/-- A directory that is alone in its repository is what is fetched. -/
theorem fetches_single {d : Directory} {pack : FetchedPack}
    (hsafe : SafeDirectory d) (h : Reads libraryCodec libraryReader d pack) {c : Catalog} {id : Uuid} {view : RegistryRow}
    (hview : c.registries.find? id = some view) :
    Fetches libraryEnv libraryReader (serving [.dir d]) c id [pack] := by
  refine ⟨view, none, hview, rfl, ?_⟩
  show fetchFrom libraryCodec libraryReader (fun _ => .missing) [] [.dir d] = _
  unfold fetchFrom
  rw [if_neg (by decide), bind_of_eq_ok ((fetchPack_eq_some_iff hsafe).2 h)]
  rfl

/-- A command of a pack. -/
def diskCommand : Json := .dict [("name", .str "disk"), ("command", .str "df -h")]

/-- A script of a pack. -/
def disksScript : Json :=
  .dict [("name", .str "disks"), ("steps", .list [.dict [("label", .str "a"),
    ("type", .str "inline"), ("command", .str "df -h")]])]

/-- A directory with all that a pack can have. -/
def toolkit : Directory where
  name := "toolkit"
  manifest := some (Utf8.encode (Json.dump (.dict toolsManifest)), some "toolkit")
  commands := some (Utf8.encode (Json.dump (.list [diskCommand])))
  scripts := some (Utf8.encode (Json.dump (.list [disksScript])))
  readme := some (Utf8.encode "Usage".toList)
  assets := [.dir "icons" [.file "disk.txt" (some [100, 102])]]

/-- What is read of it. -/
def toolkitPack : FetchedPack where
  dirname := "toolkit"
  manifest := toolsManifest
  commands := [diskCommand]
  scripts := [disksScript]
  readme := some "Usage"
  assets := [⟨"assets/icons/disk.txt", [100, 102]⟩]
  manifestSha := some "toolkit"

theorem readsJson_dump {x : Json} (hplain : Json.Plain x) :
    ReadsJson libraryCodec libraryReader (Utf8.encode (Json.dump x)) x :=
  ⟨_, strictDecode_encode _, libraryReader_loads (Json.loads_dumps id hplain)⟩

theorem reads_toolkit : Reads libraryCodec libraryReader toolkit toolkitPack where
  dirname := rfl
  manifest := by
    refine ⟨_, rfl, readsJson_dump ?_⟩
    unfold toolsManifest
    simp [Json.Plain, Json.PlainFields]
  commands := by
    refine readsJson_dump ?_
    unfold diskCommand
    simp [Json.Plain, Json.PlainFields, Json.PlainItems]
  scripts := by
    refine readsJson_dump ?_
    unfold disksScript
    simp [Json.Plain, Json.PlainFields, Json.PlainItems]
  readme := by
    show _ = strictDecode (Utf8.encode "Usage".toList)
    rw [strictDecode_encode, String.ofList_toList]
    rfl
  assetsFit := by
    show FitsAfter 0 0 [("icons/disk.txt", some [100, 102])]
    exact fitsAfter_cons_some.2 ⟨by decide, by decide, fitsAfter_nil.2 (by decide)⟩
  assets := rfl

/-- Synchronising a directory with a command, a script, a README and an asset. -/
theorem sync_converges_tools : Converges libraryEnv id libraryReader (serving [.dir toolkit])
    (runCatalog libraryEnv id registryRun) 0 [toolkitPack] :=
  sync_converges plainColumns_exact libraryCodec_decodesEncoded (reachable_runCatalog _ _ _)
    (fetches_single ⟨by decide, by decide⟩ reads_toolkit rfl)

/-- The directory `tools` with a README. -/
def toolsWithReadme : Directory := { tools with readme := some (Utf8.encode "Usage".toList) }

/-- What is read of it. -/
def toolsWithReadmePack : FetchedPack := { toolsPack with readme := some "Usage" }

theorem reads_toolsWithReadme : Reads libraryCodec libraryReader toolsWithReadme toolsWithReadmePack :=
  { reads_tools with
    readme := by
      show _ = strictDecode (Utf8.encode "Usage".toList)
      rw [strictDecode_encode, String.ofList_toList]
      rfl }

/-- A registry, and the pack that a synchronisation of `tools` stores. -/
def toolsRun : List CatalogEvent :=
  registryRun ++ [.store (.upsertSyncedPack 1 { plainFields with
    manifestSha := some "tools"
    registryId := 0, packId := "tools", commands := [], scripts := [], assets := [] })]

/-- The row of this pack. -/
def toolsRow : PackRow :=
  { newPack 1 1 (some 0) "tools" with
    name := "Tools"
    version := "1.0"
    tags := some []
    manifestSha := some "tools" }

theorem packs_toolsRun : (runCatalog libraryEnv id toolsRun).store.packs.rows = [toolsRow] := rfl

/-- Every success is stored as it was fetched, and then there is nothing to do. -/
def AlwaysConverges : Prop :=
  ∀ (env : Env) (encrypt : String → String) (reader : JsonReader) (outside : Outside) (c : Catalog)
    (id : Uuid) (fetched : List FetchedPack), ExactColumns env.db → DecodesEncoded env.codec →
    (catalogSystem env encrypt).Reachable c → Fetches env reader outside c id fetched →
    ∃ c' result, syncRegistry env reader outside c id = (c', .ok result) ∧
      (∀ x ∈ fetched.zip result.results, x.2.status = .success →
        ∃ p, StoredAs env c'.store id x.1 p) ∧
      ∀ outside', Fetches env reader outside' c' id fetched →
        NothingToDo env reader outside' c' id (fetched.zip result.results)

theorem validPack_toolsWithReadme : ValidPack libraryEnv.unicode.isPrintable toolsWithReadmePack where
  name := ⟨"Tools", rfl, by decide⟩
  version := ⟨"1.0", rfl, by decide⟩
  tags := ⟨[], rfl⟩
  packId := by decide
  assets :=
    { count := Nat.zero_le _
      size := by simp [toolsWithReadmePack, toolsPack]
      total := Nat.zero_le _
      paths := by simp [toolsWithReadmePack, toolsPack]
      distinct := List.nodup_nil }

/-- Where the manifest has not changed, a new README is not stored. -/
theorem not_alwaysConverges : ¬AlwaysConverges := by
  intro h
  have hc := reachable_runCatalog libraryEnv id toolsRun
  have hfetches : Fetches libraryEnv libraryReader (serving [.dir toolsWithReadme])
      (runCatalog libraryEnv id toolsRun) 0 [toolsWithReadmePack] :=
    fetches_single ⟨by decide, rfl⟩ reads_toolsWithReadme rfl
  obtain ⟨c', result, hsync, hstored, -⟩ := h libraryEnv id libraryReader
    (serving [.dir toolsWithReadme]) _ 0 _ plainColumns_exact libraryCodec_decodesEncoded hc hfetches
  obtain ⟨c'', result', u, hsync', -, hlength, hrun, hpacks, -⟩ :=
    syncRegistry_run plainColumns_exact libraryCodec_decodesEncoded hc hfetches
  cases hsync.symm.trans hsync'
  obtain ⟨item, hitem⟩ := List.length_eq_one_iff.1 hlength
  rw [hitem] at hstored hrun
  cases hrun with
  | cons hround hrest =>
      cases hrest
      have hmem : toolsRow ∈ (runCatalog libraryEnv id toolsRun).store.packs.rows := by
        rw [packs_toolsRun]
        exact List.mem_singleton_self _
      have hunchanged := hround.skips validPack_toolsWithReadme ⟨toolsRow, hmem, rfl, rfl, rfl⟩
      subst hunchanged
      have hstate := hround.eq_of_not_wrote (RegistrySyncItem.Skipped.not_wrote ⟨rfl, rfl⟩)
      obtain ⟨p, hp⟩ := hstored _ (List.mem_singleton_self _) rfl
      have hrow := hp.mem
      rw [hpacks, hstate, packs_toolsRun, List.mem_singleton] at hrow
      subst hrow
      cases hp.readme

end Registry
end NodeNexus
