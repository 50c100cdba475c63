import NodeNexus.Lib.LexicalPath
import NodeNexus.Pack.Archive

/-!
# The paths of assets

The path of an asset is checked three times: by the schema of the request, by
`_decode_assets` before anything is written, and by `sanitize_tar_name` before the
path becomes the name of a member of an archive.

* `assetPathField` — the field of the schema, with the checks of pydantic before
  `_check_asset_path`.
* `AssetPathSafe`, `AssetsWithinLimits` — what is promised of one path, and of the
  assets of a pack.
* `asset_paths_safe` — both hold of every path and of all assets that are accepted.
-/

namespace NodeNexus
namespace Pack

open Content
open LexicalPath (IsName StaysBelow staysBelow_of_names)

/-! ## The schema -/

/-- Why the schema refuses a path. -/
inductive PathRefusal where
  | stringTooShort
  | stringTooLong
  | valueError (text : String)

/-- `_check_asset_path`. -/
def checkAssetPath (env : Env) (value : String) : Except PathRefusal String :=
  if value = "" || value.toList.head? = some '/' || '\\' ∈ value.toList ||
      (value.toList.splitOn '/').any fun part => part = [] || part = ['.'] || part = ['.', '.'] then
    .error (.valueError
      ("Invalid asset path: " ++ Json.reprStr env.unicode.isPrintable value))
  else .ok value

/-- The field `path` of `PackAssetCreate`. -/
def assetPathField (env : Env) (value : String) : Except PathRefusal String :=
  if value.length < 1 then .error .stringTooShort
  else if 255 < value.length then .error .stringTooLong
  else checkAssetPath env value

/-! ## Accepted paths -/

/-- What `validate_asset_path` accepts. -/
structure IsAssetPath (path : String) : Prop where
  nonempty : path ≠ ""
  length : path.length ≤ 255
  relative : path.toList.head? ≠ some '/'
  backslash : '\\' ∉ path.toList
  names : ∀ part ∈ path.toList.splitOn '/', IsName part

/-- What is promised of a path. -/
structure AssetPathSafe (env : Env) (path : String) : Prop where
  /-- The schema and the gateway accept the same paths. -/
  accepted : validateAssetPath env path = .ok path ↔ assetPathField env path = .ok path
  /-- An accepted path is the name of its member. -/
  kept : validateAssetPath env path = .ok path → sanitizeTarName env path = some path
  /-- An accepted path stays below the directory that the archive is extracted to. -/
  below : validateAssetPath env path = .ok path → ∀ root, StaysBelow root path.toList

section Paths

variable {env : Env} {path : String}

theorem isAssetPath_iff : isAssetPath path = true ↔ IsAssetPath path := by
  unfold isAssetPath
  simp only [Bool.and_eq_true, decide_eq_true_eq, List.all_eq_true]
  constructor
  · rintro ⟨⟨⟨⟨hne, hlength⟩, hrelative⟩, hbackslash⟩, hnames⟩
    exact ⟨hne, hlength, hrelative, hbackslash, fun part hpart =>
      ⟨(hnames part hpart).1.1, (hnames part hpart).1.2, (hnames part hpart).2⟩⟩
  · rintro ⟨hne, hlength, hrelative, hbackslash, hnames⟩
    exact ⟨⟨⟨⟨hne, hlength⟩, hrelative⟩, hbackslash⟩, fun part hpart =>
      ⟨⟨(hnames part hpart).1, (hnames part hpart).2.1⟩, (hnames part hpart).2.2⟩⟩

theorem validateAssetPath_eq_ok_iff :
    validateAssetPath env path = .ok path ↔ IsAssetPath path := by
  rw [← isAssetPath_iff]
  unfold validateAssetPath
  constructor
  · intro h
    split at h
    · assumption
    · cases h
  · intro h
    rw [if_pos h]

/-- `_check_asset_path` is `validate_asset_path` without the length. -/
theorem checkAssetPath_eq_ok_iff (hlength : path.length ≤ 255) :
    checkAssetPath env path = .ok path ↔ IsAssetPath path := by
  unfold checkAssetPath
  constructor
  · intro h
    split at h
    · cases h
    · rename_i hok
      simp only [Bool.or_eq_true, decide_eq_true_eq, List.any_eq_true, not_or, not_exists,
        not_and] at hok
      obtain ⟨⟨⟨hne, hrelative⟩, hbackslash⟩, hnames⟩ := hok
      exact ⟨hne, hlength, hrelative, hbackslash, fun part hpart =>
        ⟨(hnames part hpart).1.1, (hnames part hpart).1.2, (hnames part hpart).2⟩⟩
  · rintro ⟨hne, -, hrelative, hbackslash, hnames⟩
    rw [if_neg]
    simp only [Bool.or_eq_true, decide_eq_true_eq, List.any_eq_true, not_or, not_exists, not_and]
    exact ⟨⟨⟨hne, hrelative⟩, hbackslash⟩, fun part hpart =>
      ⟨⟨(hnames part hpart).1, (hnames part hpart).2.1⟩, (hnames part hpart).2.2⟩⟩

theorem assetPathField_eq_ok_iff : assetPathField env path = .ok path ↔ IsAssetPath path := by
  unfold assetPathField
  by_cases hshort : path.length < 1
  · rw [if_pos hshort]
    constructor
    · intro h
      cases h
    · intro h
      have hempty : path.length = 0 := by omega
      exact absurd (String.length_eq_zero_iff.1 hempty) h.nonempty
  · rw [if_neg hshort]
    by_cases hlong : 255 < path.length
    · rw [if_pos hlong]
      constructor
      · intro h
        cases h
      · intro h
        exact absurd h.length (Nat.not_le.2 hlong)
    · rw [if_neg hlong, checkAssetPath_eq_ok_iff (Nat.not_lt.1 hlong)]

/-- **Every path is safe.** -/
theorem assetPathSafe (env : Env) (path : String) : AssetPathSafe env path where
  accepted := validateAssetPath_eq_ok_iff.trans assetPathField_eq_ok_iff.symm
  kept h := sanitizeTarName_of_isAssetPath (isAssetPath_iff.2 (validateAssetPath_eq_ok_iff.1 h))
  below h _ :=
    staysBelow_of_names (validateAssetPath_eq_ok_iff.1 h).relative
      (validateAssetPath_eq_ok_iff.1 h).names

end Paths

/-! ## Accepted assets -/

/-- What is promised of assets and their decoded contents. -/
structure AssetsWithinLimits (assets : List PackAssetCreate)
    (decoded : List (PackAssetCreate × List UInt8)) : Prop where
  same : decoded.map (·.1) = assets
  paths : (assets.map (·.path)).Nodup
  number : assets.length ≤ maxAssetsPerPack
  single : ∀ d ∈ decoded, d.2.length ≤ maxAssetBytes
  total : (decoded.map fun d => d.2.length).sum ≤ maxPackAssetsBytes

theorem size_le_of_decoded {env : Env} {assets : List PackAssetCreate}
    {decoded : List (PackAssetCreate × List UInt8)}
    (h : List.Forall₂ (Decoded env) assets decoded) :
    ∀ d ∈ decoded, d.2.length ≤ maxAssetBytes := by
  induction h with
  | nil => exact fun d hd => absurd hd List.not_mem_nil
  | cons hd _ ih => exact List.forall_mem_cons.2 ⟨hd.size, ih⟩

/-- The assets that `_decode_assets` accepts are within the limits. -/
theorem assetsWithinLimits {env : Env} {assets : List PackAssetCreate}
    {decoded : List (PackAssetCreate × List UInt8)} (h : decodeAssets env assets = .ok decoded) :
    AssetsWithinLimits assets decoded := by
  obtain ⟨hnumber, hall⟩ := decodeAssets_eq_ok_iff.1 h
  have htotal := hall.total
  rw [Nat.zero_add] at htotal
  exact ⟨map_fst_of_decoded hall.contents, hall.distinct, hnumber,
    size_le_of_decoded hall.contents, htotal⟩

/-- What is promised of paths and of assets. -/
def AssetPathsSafe (env : Env) : Prop :=
  (∀ path, AssetPathSafe env path) ∧
    ∀ assets decoded, decodeAssets env assets = .ok decoded → AssetsWithinLimits assets decoded

/-- **Accepted paths stay inside the directory of the extraction**, and accepted
assets within the limits. -/
theorem asset_paths_safe (env : Env) : AssetPathsSafe env :=
  ⟨assetPathSafe env, fun _ _ h => assetsWithinLimits h⟩

-- dots inside a name do not climb
example : isAssetPath "a/..b/c.." = true ∧ isAssetPath "a/../b" = false := by decide

end Pack
end NodeNexus
