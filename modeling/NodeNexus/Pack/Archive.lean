import NodeNexus.Lib.Base64
import NodeNexus.Lib.Utf8
import NodeNexus.Pack.Upsert

/-!
# Archives of a pack's assets

The bytes of an asset are stored as text, in one of two conventions, and the two gateways tell
from the stored size which one it was when they build an archive.

* `pythonCodec` — base64 and UTF-8 as Python has them.
* `decodeStoredContent` — how stored text is read back; `decodeStoredContent_storedContent` — it
  gives the bytes that were stored, whatever they are.
* `assetGatewayTar`, `packGatewayTar` — the two archives.
* `AssetsComeBack` — a pack is created, and both archives have its assets.
* `assets_come_back_iff` — they do exactly when PostgreSQL can store them: no path has a NUL, and
  no content that is stored as the text it is.
-/

namespace NodeNexus
namespace Pack

open Content

/-! ## Codecs -/

/-- The codecs of Python. -/
def pythonCodec (sha256 : List UInt8 → String) : Codec where
  b64decode text := (Base64.decodeValidating text.toList).mapError Base64.Malformed.message
  b64encode raw := String.ofList (Base64.encode raw)
  utf8decode raw := (Utf8.decode? raw).map String.ofList
  sha256 := sha256

/-- What a content is stored as: itself, where it is UTF-8, else its base64 text. -/
theorem storedContent_cases (sha256 : List UInt8 → String) (raw : List UInt8) :
    (∃ text, Utf8.decode? raw = some text ∧
        storedContent (pythonCodec sha256) raw = String.ofList text) ∨
      Utf8.decode? raw = none ∧
        storedContent (pythonCodec sha256) raw = String.ofList (Base64.encode raw) := by
  cases hdecode : Utf8.decode? raw with
  | some text => exact .inl ⟨text, rfl, by simp [storedContent, pythonCodec, hdecode]⟩
  | none => exact .inr ⟨rfl, by simp [storedContent, pythonCodec, hdecode]⟩

theorem b64decode_b64encode (sha256 : List UInt8 → String) (raw : List UInt8) :
    (pythonCodec sha256).b64decode (String.ofList (Base64.encode raw)) = .ok raw := by
  simp [pythonCodec, Base64.decodeValidating_encode, Except.mapError]

/-! ## Reading a stored content -/

/-- `_decode_stored_content`.  Its last resort is for texts that UTF-8 cannot encode, which no
database has. -/
def decodeStoredContent (codec : Codec) (content : String) (size : Nat) : List UInt8 :=
  let raw := Utf8.encode content.toList
  if size ≠ raw.length then
    match codec.b64decode content with
    | .ok decoded => if decoded.length = size then decoded else raw
    | .error _ => raw
  else raw

/-- A base64 text is longer than what it stands for. -/
theorem length_ne_of_not_utf8 {raw : List UInt8} (h : Utf8.decode? raw = none) :
    raw.length ≠ (Utf8.encode (Base64.encode raw)).length := by
  have hascii : (Utf8.encode (Base64.encode raw)).length = (Base64.encode raw).length :=
    Utf8.length_encode_of_ascii fun c hc => (Base64.mem_encode_ascii hc).1
  have hne : raw ≠ [] := by
    rintro rfl
    have hempty : Utf8.decode? [] = some [] := Utf8.decode?_eq_some_iff.2 rfl
    rw [hempty] at h
    cases h
  have hpos := List.length_pos_of_ne_nil hne
  rw [hascii, Base64.length_encode]
  omega

/-- **The reader gives back what was stored**, in whichever convention. -/
theorem decodeStoredContent_storedContent (sha256 : List UInt8 → String) (raw : List UInt8) :
    decodeStoredContent (pythonCodec sha256) (storedContent (pythonCodec sha256) raw) raw.length =
      raw := by
  rcases storedContent_cases sha256 raw with ⟨text, hdecode, hstored⟩ | ⟨hdecode, hstored⟩
  · have hbytes : Utf8.encode text = raw := Utf8.decode?_eq_some_iff.1 hdecode
    rw [hstored, decodeStoredContent, String.toList_ofList, hbytes, if_neg (by simp)]
  · rw [hstored, decodeStoredContent, String.toList_ofList, if_pos (length_ne_of_not_utf8 hdecode),
      b64decode_b64encode]
    exact if_pos rfl

/-! ## The archives -/

/-- A member of an archive: its `TarInfo` and its bytes. -/
structure Member where
  name : String
  size : Nat
  mtime : Int
  mode : Nat
  content : List UInt8

section Archives

variable (seconds : Time → Int)

/-- `tar.addfile(info, io.BytesIO(raw))`; `seconds` is `int(created_at.timestamp())`. -/
def addFile (name : String) (createdAt : Time) (raw : List UInt8) : Member where
  name := name
  size := raw.length
  mtime := seconds createdAt
  mode := 0o644
  content := raw

/-- `SqlAlchemyTemplateAssetGateway.get_assets_tar`, for the rows that it selects. -/
def assetGatewayTar (codec : Codec) (rows : List AssetRow) : List Member :=
  rows.map fun a => addFile seconds a.path a.createdAt (decodeStoredContent codec a.content a.size)

/-- `sanitize_tar_name`. -/
def sanitizeTarName (env : Env) (path : String) : Option String :=
  match validateAssetPath env path with
  | .ok _ => some path
  | .error _ => none

/-- `SqlAlchemyTemplatePackGateway.get_assets_tar`: a row with an unsafe path is left out. -/
def packGatewayTar (env : Env) (s : Store) (packId : Uuid) (rows : List AssetRow) :
    Except Failure (List Member) :=
  match s.packs.find? packId with
  | none => .error (packNotFound env packId)
  | some _ => .ok (rows.filterMap fun a => (sanitizeTarName env a.path).map fun safe =>
      addFile seconds safe a.createdAt (decodeStoredContent env.codec a.content a.size))

/-- What the database may select for a pack: its assets in any order. -/
def Selects (s : Store) (packId : Uuid) (rows : List AssetRow) : Prop :=
  rows.Perm (s.assets.rows.filter fun a => a.packId = packId)

/-- The archive has one member for each asset, with its path and its bytes. -/
def Archives (decoded : List (PackAssetCreate × List UInt8)) (archive : List Member) : Prop :=
  (archive.map fun m => (m.name, m.content)).Perm (decoded.map fun d => (d.1.path, d.2))

/-- **Assets come back byte for byte**: the pack is created, and both archives have them. -/
def AssetsComeBack (env : Env) (now : Time) (s : Store) (data : PackCreate)
    (decoded : List (PackAssetCreate × List UInt8)) : Prop :=
  ∃ s', createPack env now s data = .ok s' ∧ ∀ rows, Selects s' s.nextId rows →
    Archives decoded (assetGatewayTar seconds env.codec rows) ∧
      ∃ archive, packGatewayTar seconds env s' s.nextId rows = .ok archive ∧
        Archives decoded archive

end Archives

/-! ## What the database can store -/

/-- The codecs are those of Python, and a text of PostgreSQL holds anything but NUL. -/
structure Deployed (env : Env) : Prop where
  lawful : env.db.Lawful
  text : env.db.text = plainText
  codec : ∃ sha256, env.codec = pythonCodec sha256

theorem returns_plainText {s : String} : Returns (plainText s) ↔ Char.ofNat 0 ∉ s.toList := by
  unfold plainText
  by_cases hnul : Char.ofNat 0 ∈ s.toList
  · simp [hnul]
  · simp [hnul]

/-- The asset can be stored: there is no NUL in its path, nor in a content that is UTF-8. -/
def FitsText (d : PackAssetCreate × List UInt8) : Prop :=
  Char.ofNat 0 ∉ d.1.path.toList ∧ (0 ∈ d.2 → Utf8.decode? d.2 = none)

/-- A content is stored as a text with a NUL exactly when it is UTF-8 and has a zero byte. -/
theorem nul_not_mem_storedContent (sha256 : List UInt8 → String) (raw : List UInt8) :
    Char.ofNat 0 ∉ (storedContent (pythonCodec sha256) raw).toList ↔
      (0 ∈ raw → Utf8.decode? raw = none) := by
  rcases storedContent_cases sha256 raw with ⟨text, hdecode, hstored⟩ | ⟨hdecode, hstored⟩
  · have hbytes : Utf8.encode text = raw := Utf8.decode?_eq_some_iff.1 hdecode
    rw [hstored, String.toList_ofList, hdecode, ← Utf8.zero_mem_encode, hbytes]
    simp
  · rw [hstored, String.toList_ofList]
    refine iff_of_true ?_ fun _ => hdecode
    intro hmem
    exact (Base64.mem_encode_ascii hmem).2 rfl

theorem length_le_of_isAssetPath {path : String} (h : isAssetPath path = true) :
    path.length ≤ 255 := by
  simp only [isAssetPath, Bool.and_eq_true, decide_eq_true_eq] at h
  exact h.1.1.1.2

/-- **Which accepted assets fit their columns.** -/
theorem assetFits_iff {env : Env} (henv : Deployed env) {d : PackAssetCreate × List UInt8}
    (hpath : isAssetPath d.1.path = true) : AssetFits env d ↔ FitsText d := by
  rcases henv.codec with ⟨sha256, hcodec⟩
  unfold AssetFits FitsText bindString
  rw [if_pos (length_le_of_isAssetPath hpath), henv.text, hcodec, returns_plainText,
    returns_plainText, nul_not_mem_storedContent]

/-! ## Creating the pack -/

section Create

variable {env : Env} {now : Time} {s : Store} {data : PackCreate}
  {decoded : List (PackAssetCreate × List UInt8)}

/-- The store with a new pack in it. -/
def Store.inserted (s : Store) (row : PackRow) : Store :=
  { s with packs := s.packs.put row, nextId := s.nextId + 1 }

/-- The new pack has no assets. -/
theorem inserted_assets (hs : s.Keyed) (row : PackRow) :
    ∀ a ∈ (s.inserted row).assets.rows,
      a.id < (s.inserted row).nextId ∧ a.packId ≠ s.nextId := by
  intro a ha
  rcases hs.assets a ha with ⟨hid, hpack⟩
  exact ⟨Nat.lt_succ_of_lt hid, Nat.ne_of_lt hpack⟩

/-- Where the pack can be created without its assets, what is left to do with them is to write
them. -/
theorem createPack_with (hdecoded : decodeAssets env data.assets = .ok decoded)
    (hpack : Returns (createPack env now s { data with assets := [] })) :
    ∃ row : PackRow, row.id = s.nextId ∧
      createPack env now s data = saveAssets env now s.nextId (s.inserted row) decoded := by
  have hcontents := (decodeAssets_eq_ok_iff.1 hdecoded).2.contents
  rcases hpack with ⟨bare, hbare⟩
  simp only [createPack, bind_eq_ok] at hbare
  rcases hbare with ⟨packId, hid, commands, hcommands, scripts, hscripts, none, hnone, hbare⟩
  cases hnone
  split at hbare
  · cases hbare
  · rename_i hnew
    rcases bind_eq_ok.1 hbare with ⟨stored, hstored, -⟩
    rcases insertPack_eq_ok hstored with ⟨row, hrow, -, rfl⟩
    refine ⟨row, hrow, ?_⟩
    rw [createPack, bind_of_eq_ok hid, bind_of_eq_ok hcommands, bind_of_eq_ok hscripts,
      bind_of_eq_ok hdecoded, if_neg hnew, bind_of_eq_ok hstored]
    exact writeAssets_decoded hcontents

/-- The pack of the assets that were written has exactly their rows. -/
theorem assetRows_of_saveAssets (henv : Deployed env) (hs : s.Keyed) {row : PackRow}
    (hrow : row.id = s.nextId) {s' : Store}
    (h : saveAssets env now s.nextId (s.inserted row) decoded = .ok s') :
    s'.packs.find? s.nextId = some row ∧
      (s'.assets.rows.filter fun a => a.packId = s.nextId).map AssetRow.file =
        decoded.map (assetFile env.codec) := by
  have hassets := inserted_assets hs row
  rcases saveAssets_replaces henv.lawful (fun a ha => (hassets a ha).1)
    (fun a ha => (hassets a ha).2) h with ⟨hpacks, -, hfiles, -⟩
  refine ⟨?_, hfiles⟩
  rw [hpacks, ← hrow]
  exact Table.find?_of_mem (Table.mem_put.2 (.inl rfl))

/-- A row that was written for an asset is read back as the asset. -/
theorem map_read_of_files (henv : Deployed env) {rows : List AssetRow}
    (h : (rows.map AssetRow.file).Perm (decoded.map (assetFile env.codec))) :
    (rows.map fun a => (a.path, decodeStoredContent env.codec a.content a.size)).Perm
      (decoded.map fun d => (d.1.path, d.2)) := by
  rcases henv.codec with ⟨sha256, hcodec⟩
  have hread := h.map fun f : String × String × Nat × String =>
    (f.1, decodeStoredContent env.codec f.2.1 f.2.2.1)
  rw [List.map_map, List.map_map] at hread
  have hback : ∀ d : PackAssetCreate × List UInt8,
      decodeStoredContent env.codec (storedContent env.codec d.2) d.2.length = d.2 := by
    intro d
    rw [hcodec]
    exact decodeStoredContent_storedContent sha256 d.2
  have hright : (decoded.map ((fun f : String × String × Nat × String =>
      (f.1, decodeStoredContent env.codec f.2.1 f.2.2.1)) ∘ assetFile env.codec)) =
        decoded.map fun d => (d.1.path, d.2) := by
    refine List.map_congr_left fun d _ => ?_
    show (d.1.path, decodeStoredContent env.codec (storedContent env.codec d.2) d.2.length) = _
    rw [hback]
  rw [hright] at hread
  exact hread

/-- No accepted path is left out of an archive. -/
theorem sanitizeTarName_of_isAssetPath {path : String} (h : isAssetPath path = true) :
    sanitizeTarName env path = some path := by
  rw [sanitizeTarName, validateAssetPath, if_pos h]

/-- **Both archives have the assets that were written.** -/
theorem archives_of_saveAssets (seconds : Time → Int) (henv : Deployed env) (hs : s.Keyed)
    (hdecoded : decodeAssets env data.assets = .ok decoded) {row : PackRow}
    (hrow : row.id = s.nextId) {s' : Store}
    (h : saveAssets env now s.nextId (s.inserted row) decoded = .ok s') {rows : List AssetRow} (hrows : Selects s' s.nextId rows) :
    Archives decoded (assetGatewayTar seconds env.codec rows) ∧
      ∃ archive, packGatewayTar seconds env s' s.nextId rows = .ok archive ∧
        Archives decoded archive := by
  rcases assetRows_of_saveAssets henv hs hrow h with ⟨hpack, hfiles⟩
  have hperm : (rows.map AssetRow.file).Perm (decoded.map (assetFile env.codec)) := by
    rw [← hfiles]
    exact hrows.map AssetRow.file
  have hread := map_read_of_files henv hperm
  have hasset : Archives decoded (assetGatewayTar seconds env.codec rows) := by
    unfold Archives assetGatewayTar
    rw [List.map_map]
    exact hread
  -- the paths of the rows are accepted ones
  have hpaths : ∀ a ∈ rows, isAssetPath a.path = true := by
    intro a ha
    have hmem := (hread.mem_iff (a := (a.path, _))).1 (List.mem_map_of_mem ha)
    rcases List.mem_map.1 hmem with ⟨d, hd, hsame⟩
    have hdecodes := (decodeAssets_eq_ok_iff.1 hdecoded).2
    have hd' : d.1 ∈ data.assets := by
      rw [← map_fst_of_decoded hdecodes.contents]
      exact List.mem_map_of_mem hd
    have hpath : d.1.path = a.path := congrArg Prod.fst hsame
    rw [← hpath]
    exact (hdecodes.paths d.1 hd').1
  refine ⟨hasset, assetGatewayTar seconds env.codec rows, ?_, hasset⟩
  rw [packGatewayTar, hpack]
  show Except.ok _ = Except.ok _
  congr 1
  unfold assetGatewayTar
  rw [← List.filterMap_eq_map]
  refine List.filterMap_congr fun a ha => ?_
  rw [sanitizeTarName_of_isAssetPath (hpaths a ha)]
  rfl

/-- **When assets come back byte for byte**: in every reachable catalog, for all assets that are
accepted for a pack that could be created without them, exactly when no path has a NUL and no
content that is UTF-8 has a zero byte. -/
theorem assets_come_back_iff (seconds : Time → Int) (henv : Deployed env)
    {encrypt : String → String} {c : Catalog} (hc : (catalogSystem env encrypt).Reachable c)
    (hdecoded : decodeAssets env data.assets = .ok decoded)
    (hpack : Returns (createPack env now c.store { data with assets := [] })) :
    AssetsComeBack seconds env now c.store data decoded ↔ ∀ d ∈ decoded, FitsText d := by
  have hs := keyed_of_reachable hc
  have hdecodes := (decodeAssets_eq_ok_iff.1 hdecoded).2
  rcases createPack_with hdecoded hpack with ⟨row, hrow, hcreate⟩
  have hassets := inserted_assets hs row
  have hfits : Returns (createPack env now c.store data) ↔ ∀ d ∈ decoded, FitsText d := by
    rw [hcreate, returns_saveAssets henv.lawful now hdecodes.contents hdecodes.distinct
      (fun a ha => (hassets a ha).1) (fun a ha => (hassets a ha).2)]
    refine forall₂_congr fun d hd => assetFits_iff henv ?_
    refine (hdecodes.paths d.1 ?_).1
    rw [← map_fst_of_decoded hdecodes.contents]
    exact List.mem_map_of_mem hd
  rw [← hfits]
  constructor
  · rintro ⟨s', hs', -⟩
    exact ⟨s', hs'⟩
  · rintro ⟨s', hs'⟩
    refine ⟨s', hs', fun rows hrows => ?_⟩
    rw [hcreate] at hs'
    exact archives_of_saveAssets seconds henv hs hdecoded hrow hs' hrows

end Create

/-! ### Two assets with a zero byte -/

/-- The hashes of the two contents. -/
def zeroSha256 (raw : List UInt8) : String :=
  if raw = [0] then "6e340b9cffb37a989ca544e6bb780a2c78901d3fb33738768511a30617afa01d"
  else "06eb7d6a69ee19e5fbdf749018d3d2abfa04bcbd1365db312eb86dc7169389b8"

/-- Python and PostgreSQL. -/
def deployedEnv : Env := { plainEnv with codec := pythonCodec zeroSha256 }

theorem deployed_deployedEnv : Deployed deployedEnv :=
  ⟨plainColumns_lawful, rfl, zeroSha256, rfl⟩

/-- A pack without assets. -/
def barePack : PackCreate :=
  { plainFields with packId := "tools", registryId := none, commands := [], scripts := [], assets := [] }

theorem returns_createPack_barePack :
    Returns (createPack deployedEnv 0 Catalog.empty.store barePack) := by
  have hok : (createPack deployedEnv 0 Catalog.empty.store barePack).isOk = true := by
    decide
  cases h : createPack deployedEnv 0 Catalog.empty.store barePack with
  | ok s => exact returns_ok s
  | error e =>
      rw [h] at hok
      cases hok

/-- The pack with one asset. -/
def packWith (contentBase64 : String) : PackCreate :=
  { barePack with assets := [⟨"logo.bin", contentBase64⟩] }

/-- Bytes that are no UTF-8 come back. -/
theorem assets_come_back_binary :
    AssetsComeBack Int.ofNat deployedEnv 0 Catalog.empty.store (packWith "AP8=")
      [(⟨"logo.bin", "AP8="⟩, [0, 255])] := by
  have hdecoded : decodeAssets deployedEnv (packWith "AP8=").assets =
      .ok [(⟨"logo.bin", "AP8="⟩, [0, 255])] := rfl
  have hstart : (catalogSystem deployedEnv id).Reachable Catalog.empty := .start rfl
  refine (assets_come_back_iff Int.ofNat deployed_deployedEnv hstart hdecoded
    returns_createPack_barePack).2 ?_
  intro d hd
  rw [List.mem_singleton.1 hd]
  unfold FitsText
  decide

/-- Every list of accepted assets comes back. -/
def AssetsAlwaysComeBack (env : Env) (encrypt : String → String) (seconds : Time → Int) : Prop :=
  ∀ c, (catalogSystem env encrypt).Reachable c → ∀ now data decoded,
    decodeAssets env data.assets = .ok decoded →
    Returns (createPack env now c.store { data with assets := [] }) →
      AssetsComeBack seconds env now c.store data decoded

/-- A single zero byte is UTF-8, so it is stored as a NUL, which PostgreSQL refuses. -/
theorem not_assetsAlwaysComeBack : ¬AssetsAlwaysComeBack deployedEnv id Int.ofNat := by
  intro h
  have hdecoded : decodeAssets deployedEnv (packWith "AA==").assets =
      .ok [(⟨"logo.bin", "AA=="⟩, [0])] := rfl
  rcases h Catalog.empty (.start rfl) 0 (packWith "AA==") _ hdecoded returns_createPack_barePack with
    ⟨s', hs', -⟩
  have herror : (createPack deployedEnv 0 Catalog.empty.store (packWith "AA==")).isOk = false := by
    decide
  rw [hs'] at herror
  cases herror

end Pack
end NodeNexus
