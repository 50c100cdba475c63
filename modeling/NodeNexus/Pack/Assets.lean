import NodeNexus.Pack.Store

/-!
# Assets of a pack

The files that come with a pack are given as base64 texts.  Before anything is
written their paths, their number and their sizes are checked
(`_decode_assets`); they are stored as text where they are UTF-8 and as base64
otherwise (`write_assets_in_session`).
-/

namespace NodeNexus
namespace Pack

open Content

/-- `MAX_ASSETS_PER_PACK`. -/
def maxAssetsPerPack : Nat := 100

/-- `MAX_ASSET_BYTES`. -/
def maxAssetBytes : Nat := 1048576

/-- `MAX_PACK_ASSETS_BYTES`. -/
def maxPackAssetsBytes : Nat := 10485760

/-- `PackAssetCreateDTO`. -/
structure PackAssetCreate where
  path : String
  contentBase64 : String

/-- Is the path one `validate_asset_path` accepts? -/
def isAssetPath (path : String) : Bool :=
  path ≠ "" && path.length ≤ 255 && path.toList.head? ≠ some '/' && '\\' ∉ path.toList &&
    (path.toList.splitOn '/').all fun part => part ≠ [] && part ≠ ['.'] && part ≠ ['.', '.']

/-- `validate_asset_path`. -/
def validateAssetPath (env : Env) (path : String) : Except Failure String :=
  if isAssetPath path then .ok path
  else .error (.domainError
    ("Invalid asset path: " ++ Json.reprStr env.unicode.isPrintable path))

/-- The loop of `_decode_assets`; `seen` are the paths and `total` the bytes so
far. -/
def decodeAssetsFrom (env : Env) (seen : List String) (total : Nat) :
    List PackAssetCreate → Except Failure (List (PackAssetCreate × List UInt8))
  | [] => .ok []
  | asset :: rest => do
      let path ← validateAssetPath env asset.path
      if path ∈ seen then
        .error (.domainError
          ("Duplicate asset path: " ++ Json.reprStr env.unicode.isPrintable path))
      else match env.codec.b64decode asset.contentBase64 with
        | .error exc =>
            .error (.domainError ("Invalid base64 for asset " ++ path ++ ": " ++ exc))
        | .ok raw =>
            if raw.length > maxAssetBytes then
              .error (.domainError ("Asset " ++ path ++ " too large: " ++ toString raw.length ++
                " bytes (max " ++ toString maxAssetBytes ++ ")"))
            else if total + raw.length > maxPackAssetsBytes then
              .error (.domainError ("Pack assets too large: " ++ toString (total + raw.length) ++
                " bytes (max " ++ toString maxPackAssetsBytes ++ ")"))
            else do
              let decoded ← decodeAssetsFrom env (path :: seen) (total + raw.length) rest
              .ok ((asset, raw) :: decoded)

/-- `_decode_assets`. -/
def decodeAssets (env : Env) (assets : List PackAssetCreate) :
    Except Failure (List (PackAssetCreate × List UInt8)) :=
  if assets.length > maxAssetsPerPack then
    .error (.domainError ("Too many assets: " ++ toString assets.length ++
      " (max " ++ toString maxAssetsPerPack ++ ")"))
  else decodeAssetsFrom env [] 0 assets

/-- The text an asset is stored as. -/
def storedContent (codec : Codec) (raw : List UInt8) : String :=
  match codec.utf8decode raw with
  | some text => text
  | none => codec.b64encode raw

/-- The row of one asset. -/
def bindAsset (env : Env) (now : Time) (id packId : Uuid) (asset : PackAssetCreate)
    (raw : List UInt8) : Except Failure AssetRow := do
  let path ← bindString env.db 255 asset.path
  let content ← env.db.text (storedContent env.codec raw)
  .ok ⟨id, packId, path, content, raw.length, env.codec.sha256 raw, now, now⟩

/-- Write the assets of a pack, each under the unique index on pack and path. -/
def saveAssets (env : Env) (now : Time) (packId : Uuid) (s : Store) :
    List (PackAssetCreate × List UInt8) → Except Failure Store
  | [] => .ok s
  | (asset, raw) :: rest => do
      let row ← bindAsset env now s.nextId packId asset raw
      if s.assets.rows.any fun a => a.packId = packId && a.path = row.path then
        .error (.integrityError "ix_template_assets_pack_path")
      else
        saveAssets env now packId
          { s with assets := s.assets.put row, nextId := s.nextId + 1 } rest

/-- `write_assets_in_session`: the assets are decoded once more. -/
def writeAssets (env : Env) (now : Time) (packId : Uuid) (s : Store)
    (assets : List PackAssetCreate) : Except Failure Store := do
  let decoded ← assets.mapM fun asset =>
    match env.codec.b64decode asset.contentBase64 with
    | .error exc => .error (.domainError ("Invalid base64 for asset " ++ asset.path ++ ": " ++ exc))
    | .ok raw => .ok (asset, raw)
  saveAssets env now packId s decoded

/-- Writing assets touches the assets and draws ids, nothing else. -/
theorem saveAssets_eq_ok {env : Env} {now : Time} {packId : Uuid} {s s' : Store}
    {assets : List (PackAssetCreate × List UInt8)}
    (h : saveAssets env now packId s assets = .ok s') :
    ∃ rows n, s' = { s with assets := rows, nextId := s.nextId + n } := by
  induction assets generalizing s with
  | nil =>
      cases h
      exact ⟨_, 0, rfl⟩
  | cons a rest ih =>
      simp only [saveAssets, bind_eq_ok] at h
      obtain ⟨row, -, h⟩ := h
      split at h
      · cases h
      · obtain ⟨rows, n, rfl⟩ := ih h
        exact ⟨rows, 1 + n, by simp only [Nat.add_assoc]⟩

theorem writeAssets_eq_ok {env : Env} {now : Time} {packId : Uuid} {s s' : Store}
    {assets : List PackAssetCreate} (h : writeAssets env now packId s assets = .ok s') :
    ∃ rows n, s' = { s with assets := rows, nextId := s.nextId + n } := by
  simp only [writeAssets, bind_eq_ok] at h
  obtain ⟨decoded, -, h⟩ := h
  exact saveAssets_eq_ok h

end Pack
end NodeNexus
