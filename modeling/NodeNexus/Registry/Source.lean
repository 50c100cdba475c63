import NodeNexus.Pack.Store

/-!
# The GitHub source of a registry

`GitHubTemplateSource` reads the directories of `templates/` from a repository,
one pack each.

* `AssetEntry`, `Directory` and `Templates` are the repository as the API serves
  it.
* A path is put into a URL as it is: `urlSafe` says which paths are asked for
  then, and `Served` what another one may lead to.
* `fetchPack` reads one directory and `fetchPacks` all of them, under the limits
  of a synchronisation.
* `walk_eq_collect` — the walk through the tree of assets is a loop over its
  files.
* `fetchAssets_eq_ok_iff` and `fetchPack_eq_some_iff` — which directories can be
  read: a JSON object as manifest, JSON lists beside it, and assets within the
  limits.
* `fetchFrom_eq_ok` and `fetchFrom_of_reads` — the packs that are returned are
  those of all directories with a manifest, unless there are more than 200.
* `safe_of_fetchPack` — no answer helps a directory whose names are not safe.
-/

namespace NodeNexus
namespace Registry

open Content Pack

/-! ## The repository -/

/-- An entry of `assets/` or of a directory under it. -/
inductive AssetEntry where
  /-- A file with its bytes; a submodule is listed as a file and has none. -/
  | file (name : String) (content : Option (List UInt8))
  | dir (name : String) (entries : List AssetEntry)
  /-- Anything else. -/
  | other

/-- A directory of `templates/`; a file that is not there is `none`, and without
an `assets/` there are no entries of it. -/
structure Directory where
  name : String
  /-- `manifest.json`, with the hash of the blob. -/
  manifest : Option (List UInt8 × Option String)
  /-- `commands.json`. -/
  commands : Option (List UInt8)
  /-- `scripts.json`. -/
  scripts : Option (List UInt8)
  /-- `README.md`. -/
  readme : Option (List UInt8)
  assets : List AssetEntry

/-- An entry of `templates/`. -/
inductive Entry where
  | dir (d : Directory)
  /-- Anything but a directory. -/
  | other

/-- What there is under `templates/` of a repository. -/
inductive Templates where
  /-- The repository does not exist. -/
  | noRepository
  /-- It has no `templates/`. -/
  | absent
  | entries (es : List Entry)

/-! ## Results and exceptions -/

/-- `FetchedAsset`. -/
structure FetchedAsset where
  path : String
  content : List UInt8

/-- `FetchedPack`. -/
structure FetchedPack where
  dirname : String
  manifest : Json.Fields
  commands : List Json
  scripts : List Json
  readme : Option String
  assets : List FetchedAsset
  manifestSha : Option String

/-- The exceptions of the source. -/
inductive SourceError where
  | domainError (message : String)
  /-- Any other exception, with its text. -/
  | exception (message : String)
  deriving DecidableEq

/-- What `json.loads` raises. -/
inductive LoadsError where
  /-- A `ValueError`, with its text. -/
  | valueError (message : String)
  /-- Any other exception, with its text. -/
  | exception (message : String)

/-- The standard library's part in reading a JSON file. -/
structure JsonReader where
  /-- `json.loads(text)`. -/
  loads : String → Except LoadsError Json
  /-- The text of the `UnicodeDecodeError` for bytes that are not UTF-8. -/
  decodeError : List UInt8 → String

/-- `MAX_PACKS_PER_SYNC`. -/
def maxPacksPerSync : Nat := 200

/-- `MAX_ASSET_FILES`. -/
def maxAssetFiles : Nat := 100

/-- `MAX_ASSET_BYTES`. -/
def maxAssetBytes : Nat := 1048576

/-- `MAX_PACK_ASSETS_BYTES`. -/
def maxPackAssetsBytes : Nat := 10485760

/-! ## Requests -/

/-- The characters that a URL keeps in a path, percent-encoded or not: `#` and `?`
end the path, `%` may begin an escape, and the client refuses the others that are
left out here. -/
def urlSafe (path : String) : Bool :=
  path.toList.all fun c => c ≠ '#' && c ≠ '?' && c ≠ '%' && 32 ≤ c.toNat && c.toNat ≠ 127

/-- What a GET gives of a path that is not safe: the URL asks for another one, or
for none. -/
inductive Served where
  /-- A 404. -/
  | missing
  /-- A file, with the hash of the blob. -/
  | file (raw : List UInt8) (sha : Option String)
  /-- A directory, with the files that a walk through it comes to, each with its
  way from there. -/
  | listing (files : List (String × Option (List UInt8)))
  | raises (error : SourceError)

/-- `_fetch_file` of what is served. -/
def Served.fetchFile : Served → Except SourceError (Option (List UInt8 × Option String))
  | .missing => .ok none
  | .file raw sha => .ok (some (raw, sha))
  | .listing _ => .ok none
  | .raises error => .error error

section Requests

-- What the API serves instead of a path that is not safe.
variable (astray : String → Served)

/-- `_fetch_file`, where `own` is the file under the path. -/
def fetchFile (path : String) (own : Option (List UInt8 × Option String)) :
    Except SourceError (Option (List UInt8 × Option String)) :=
  if urlSafe path then .ok own else (astray path).fetchFile

/-- The bytes of `_fetch_file`. -/
def fetchBytes (path : String) (own : Option (List UInt8)) :
    Except SourceError (Option (List UInt8)) :=
  if urlSafe path then .ok own else (astray path).fetchFile.map (Option.map Prod.fst)

/-! ## Assets -/

/-- The variables of `_fetch_assets`: the assets and the bytes so far. -/
structure Collected where
  assets : List FetchedAsset
  total : Nat

/-- The bytes of one file of the walk; `root` is the directory of the assets and
`path` the way to the file from there. -/
def addAsset (root : String) (acc : Collected) (path : String) :
    Option (List UInt8) → Except SourceError Collected
  | none => .ok acc
  | some raw =>
      if raw.length > maxAssetBytes then
        .error (.domainError ("Asset " ++ path ++ " too large (" ++ toString raw.length ++
          " bytes)"))
      else if acc.total + raw.length > maxPackAssetsBytes then
        .error (.domainError ("Pack assets too large in " ++ root))
      else .ok ⟨acc.assets ++ [⟨"assets/" ++ path, raw⟩], acc.total + raw.length⟩

/-- One file of the walk, where `answer` is what its request gives. -/
def collectFile (root : String) (acc : Collected) (path : String)
    (answer : Except SourceError (Option (List UInt8))) : Except SourceError Collected :=
  if acc.assets.length ≥ maxAssetFiles then
    .error (.domainError ("Too many asset files in " ++ root ++
      " (max " ++ toString maxAssetFiles ++ ")"))
  else answer.bind (addAsset root acc path)

/-- The loop over files with their bytes. -/
def collect (root : String) (acc : Collected) :
    List (String × Option (List UInt8)) → Except SourceError Collected
  | [] => .ok acc
  | (path, content) :: rest => do
      let acc ← collectFile root acc path (.ok content)
      collect root acc rest

/-- The walk through what is served, if it is a directory. -/
def Served.walk (root before : String) (acc : Collected) : Served → Except SourceError Collected
  | .listing files => collect root acc (files.map fun f => (before ++ f.1, f.2))
  | .raises error => .error error
  | .missing => .ok acc
  | .file .. => .ok acc

mutual

/-- `_walk`; `before` is the way from the directory of the assets. -/
def walk (root before : String) (acc : Collected) : List AssetEntry → Except SourceError Collected
  | [] => .ok acc
  | entry :: rest => do
      let acc ← walkEntry root before acc entry
      walk root before acc rest

/-- The body of the loop of `_walk`. -/
def walkEntry (root before : String) (acc : Collected) :
    AssetEntry → Except SourceError Collected
  | .file name content =>
      collectFile root acc (before ++ name)
        (fetchBytes astray (root ++ "/" ++ (before ++ name)) content)
  | .dir name entries =>
      if urlSafe (root ++ "/" ++ (before ++ name)) then walk root (before ++ name ++ "/") acc entries
      else (astray (root ++ "/" ++ (before ++ name))).walk root (before ++ name ++ "/") acc
  | .other => .ok acc

end

/-- `_fetch_assets`. -/
def fetchAssets (root : String) (entries : List AssetEntry) :
    Except SourceError (List FetchedAsset) := do
  let acc ← if urlSafe root then walk astray root "" ⟨[], 0⟩ entries
    else (astray root).walk root "" ⟨[], 0⟩
  .ok acc.assets

end Requests

/-! ## Packs -/

section Fetching

variable (codec : Codec) (reader : JsonReader) (astray : String → Served)

/-- `json.loads(raw.decode("utf-8"))` under the handler of both readers. -/
def loadJson (label : String) (raw : List UInt8) : Except SourceError Json :=
  match codec.utf8decode raw with
  | none => .error (.domainError ("Invalid " ++ label ++ ": " ++ reader.decodeError raw))
  | some text => match reader.loads text with
      | .ok json => .ok json
      | .error (.valueError exc) => .error (.domainError ("Invalid " ++ label ++ ": " ++ exc))
      | .error (.exception exc) => .error (.exception exc)

/-- The manifest of a pack. -/
def parseManifest (dirname : String) (raw : List UInt8) : Except SourceError Json.Fields := do
  let manifest ← loadJson codec reader ("manifest.json in pack " ++ dirname) raw
  match manifest with
  | .dict fields => .ok fields
  | _ => .error (.domainError
      ("Invalid manifest.json in pack " ++ dirname ++ ": not an object"))

/-- `_parse_json_list`. -/
def parseJsonList (raw : List UInt8) (label : String) : Except SourceError (List Json) := do
  let parsed ← loadJson codec reader label raw
  match parsed with
  | .list items => .ok items
  | _ => .error (.domainError ("Invalid " ++ label ++ ": expected a list"))

/-- The list in a file, if the file is there. -/
def fetchJsonList (file : Option (List UInt8)) (label : String) : Except SourceError (List Json) :=
  match file with
  | none => .ok []
  | some raw => parseJsonList codec reader raw label

/-- `_fetch_pack`: `none` when there is no manifest. -/
def fetchPack (d : Directory) : Except SourceError (Option FetchedPack) := do
  let root := "templates/" ++ d.name
  let fetched ← fetchFile astray (root ++ "/manifest.json") d.manifest
  match fetched with
  | none => .ok none
  | some (raw, manifestSha) => do
      let manifest ← parseManifest codec reader d.name raw
      let file ← fetchBytes astray (root ++ "/commands.json") d.commands
      let commands ← fetchJsonList codec reader file (d.name ++ "/commands.json")
      let file ← fetchBytes astray (root ++ "/scripts.json") d.scripts
      let scripts ← fetchJsonList codec reader file (d.name ++ "/scripts.json")
      let file ← fetchBytes astray (root ++ "/README.md") d.readme
      let readme := file.bind codec.utf8decode
      let assets ← fetchAssets astray (root ++ "/assets") d.assets
      .ok (some
        { dirname := d.name
          manifest := manifest
          commands := commands
          scripts := scripts
          readme := readme
          assets := assets
          manifestSha := manifestSha })

/-- The loop of `fetch_packs` over the entries of `templates/`. -/
def fetchFrom (packs : List FetchedPack) : List Entry → Except SourceError (List FetchedPack)
  | [] => .ok packs
  | .other :: rest => fetchFrom packs rest
  | .dir d :: rest =>
      if packs.length ≥ maxPacksPerSync then .ok packs
      else do
        let pack ← fetchPack codec reader astray d
        fetchFrom (packs ++ pack.toList) rest

/-- `fetch_packs`. -/
def fetchPacks (owner repo : String) : Templates → Except SourceError (List FetchedPack)
  | .noRepository =>
      .error (.domainError ("GitHub repository " ++ owner ++ "/" ++ repo ++ " not found"))
  | .absent => .ok []
  | .entries es => fetchFrom codec reader astray [] es

end Fetching

/-! ## Safe names -/

mutual

/-- Are all names of a tree safe? -/
def namesSafe : List AssetEntry → Bool
  | [] => true
  | entry :: rest => nameSafe entry && namesSafe rest

/-- Are those of one entry? -/
def nameSafe : AssetEntry → Bool
  | .file name _ => urlSafe name
  | .dir name entries => urlSafe name && namesSafe entries
  | .other => true

end

/-- A URL asks for the files of the directory. -/
structure SafeDirectory (d : Directory) : Prop where
  name : urlSafe d.name = true
  assets : namesSafe d.assets = true

theorem urlSafe_append (a b : String) : urlSafe (a ++ b) = (urlSafe a && urlSafe b) := by
  unfold urlSafe
  rw [String.toList_append, List.all_append]

/-- What a path of a directory adds to its name is safe. -/
theorem urlSafe_path (name : String) {file : String} (hfile : urlSafe file = true) :
    urlSafe ("templates/" ++ name ++ file) = urlSafe name := by
  have htemplates : urlSafe "templates/" = true := by decide
  rw [urlSafe_append, urlSafe_append, htemplates, hfile, Bool.true_and, Bool.and_true]

/-- The paths of the walk are as safe as the last name. -/
theorem urlSafe_asset {root before : String} (hroot : urlSafe root = true)
    (hbefore : urlSafe before = true) (name : String) :
    urlSafe (root ++ "/" ++ (before ++ name)) = urlSafe name := by
  have hslash : urlSafe "/" = true := by decide
  rw [urlSafe_append, urlSafe_append, urlSafe_append, hroot, hslash, hbefore, Bool.true_and,
    Bool.true_and, Bool.true_and]

theorem urlSafe_before {before name : String} (hbefore : urlSafe before = true)
    (hname : urlSafe name = true) : urlSafe (before ++ name ++ "/") = true := by
  have hslash : urlSafe "/" = true := by decide
  rw [urlSafe_append, urlSafe_append, hbefore, hname, hslash]
  rfl

/-! ## The walk is a loop -/

mutual

/-- The files of a tree in the order of the walk, each with its way. -/
def filesOf (before : String) : List AssetEntry → List (String × Option (List UInt8))
  | [] => []
  | entry :: rest => filesOfEntry before entry ++ filesOf before rest

/-- The files of one entry. -/
def filesOfEntry (before : String) : AssetEntry → List (String × Option (List UInt8))
  | .file name content => [(before ++ name, content)]
  | .dir name entries => filesOf (before ++ name ++ "/") entries
  | .other => []

end

theorem collect_append (root : String) (acc : Collected)
    (fs gs : List (String × Option (List UInt8))) :
    collect root acc (fs ++ gs) = (do
      let acc ← collect root acc fs
      collect root acc gs) := by
  induction fs generalizing acc with
  | nil => rfl
  | cons f fs ih =>
      simp only [List.cons_append, collect]
      cases collectFile root acc f.1 (.ok f.2) with
      | error e => rfl
      | ok acc => exact ih acc

section Walk

variable (astray : String → Served) {root : String} (hroot : urlSafe root = true)
include hroot

mutual

/-- **The walk through a tree with safe names is the loop over its files.** -/
theorem walk_eq_collect {before : String} (hbefore : urlSafe before = true) (acc : Collected)
    (entries : List AssetEntry) (hsafe : namesSafe entries = true) :
    walk astray root before acc entries = collect root acc (filesOf before entries) := by
  match entries with
  | [] => rfl
  | entry :: rest =>
      rw [namesSafe, Bool.and_eq_true] at hsafe
      rw [walk, filesOf, collect_append, walkEntry_eq_collect hbefore acc entry hsafe.1]
      cases collect root acc (filesOfEntry before entry) with
      | error e => rfl
      | ok acc => exact walk_eq_collect hbefore acc rest hsafe.2

theorem walkEntry_eq_collect {before : String} (hbefore : urlSafe before = true) (acc : Collected)
    (entry : AssetEntry) (hsafe : nameSafe entry = true) :
    walkEntry astray root before acc entry = collect root acc (filesOfEntry before entry) := by
  match entry with
  | .file name content =>
      rw [nameSafe] at hsafe
      rw [walkEntry, filesOfEntry, collect, fetchBytes, urlSafe_asset hroot hbefore, if_pos hsafe]
      cases collectFile root acc (before ++ name) (.ok content) <;> rfl
  | .dir name entries =>
      rw [nameSafe, Bool.and_eq_true] at hsafe
      rw [walkEntry, filesOfEntry, urlSafe_asset hroot hbefore, if_pos hsafe.1]
      exact walk_eq_collect (urlSafe_before hbefore hsafe.1) acc entries hsafe.2
  | .other => rfl

end

end Walk

section Astray

variable {root : String} {error : SourceError}

theorem fetchBytes_raises {path : String} {own file : Option (List UInt8)}
    (h : fetchBytes (fun _ => .raises error) path own = .ok file) : urlSafe path = true := by
  unfold fetchBytes at h
  split at h
  · assumption
  · cases h

theorem exists_answer_of_collectFile {acc acc' : Collected} {path : String}
    {answer : Except SourceError (Option (List UInt8))}
    (h : collectFile root acc path answer = .ok acc') : ∃ content, answer = .ok content := by
  unfold collectFile at h
  split at h
  · cases h
  · cases answer with
    | ok content => exact ⟨content, rfl⟩
    | error e => cases h

variable (hroot : urlSafe root = true)
include hroot

mutual

/-- A walk that comes through where every other path raises meets safe names only. -/
theorem namesSafe_of_walk {before : String} (hbefore : urlSafe before = true) {acc acc' : Collected}
    (entries : List AssetEntry)
    (h : walk (fun _ => .raises error) root before acc entries = .ok acc') :
    namesSafe entries = true := by
  match entries with
  | [] => rfl
  | entry :: rest =>
      rw [walk, bind_eq_ok] at h
      obtain ⟨between, hentry, hrest⟩ := h
      rw [namesSafe, nameSafe_of_walkEntry hbefore entry hentry, namesSafe_of_walk hbefore rest hrest]
      rfl

theorem nameSafe_of_walkEntry {before : String} (hbefore : urlSafe before = true)
    {acc acc' : Collected} (entry : AssetEntry)
    (h : walkEntry (fun _ => .raises error) root before acc entry = .ok acc') :
    nameSafe entry = true := by
  match entry with
  | .file name content =>
      rw [walkEntry] at h
      obtain ⟨bytes, hbytes⟩ := exists_answer_of_collectFile h
      rw [nameSafe, ← urlSafe_asset hroot hbefore name]
      exact fetchBytes_raises hbytes
  | .dir name entries =>
      rw [walkEntry, urlSafe_asset hroot hbefore] at h
      split at h
      · rename_i hname
        rw [nameSafe, hname, namesSafe_of_walk (urlSafe_before hbefore hname) entries h]
        rfl
      · cases h
  | .other => rfl

end

end Astray

/-! ## Assets within the limits -/

/-- The files that have bytes, as assets. -/
def taken (fs : List (String × Option (List UInt8))) : List FetchedAsset :=
  fs.filterMap fun f => f.2.map fun raw => ⟨"assets/" ++ f.1, raw⟩

/-- The bytes of assets. -/
def bytesOf (assets : List FetchedAsset) : Nat := (assets.map fun a => a.content.length).sum

/-- The limits of the walk, for the files that are still to come after `count`
assets with `total` bytes. -/
structure FitsAfter (count total : Nat) (fs : List (String × Option (List UInt8))) : Prop where
  /-- No file comes after a hundred assets. -/
  files : ∀ pre f post, fs = pre ++ f :: post → count + (taken pre).length < maxAssetFiles
  size : ∀ a ∈ taken fs, a.content.length ≤ maxAssetBytes
  total : total + bytesOf (taken fs) ≤ maxPackAssetsBytes

theorem fitsAfter_nil {count total : Nat} :
    FitsAfter count total [] ↔ total ≤ maxPackAssetsBytes := by
  constructor
  · intro h
    exact h.total
  · intro h
    refine ⟨?_, ?_, h⟩
    · intro pre f post hnil
      cases pre <;> cases hnil
    · intro a ha
      cases ha

/-- A file without bytes only counts as one that is listed. -/
theorem fitsAfter_cons_none {count total : Nat} {path : String}
    {fs : List (String × Option (List UInt8))} :
    FitsAfter count total ((path, none) :: fs) ↔ count < maxAssetFiles ∧ FitsAfter count total fs := by
  constructor
  · intro h
    refine ⟨h.files [] _ fs rfl, ?_, h.size, h.total⟩
    intro pre f post hfs
    exact h.files ((path, none) :: pre) f post (by rw [hfs]; rfl)
  · rintro ⟨hcount, h⟩
    refine ⟨?_, h.size, h.total⟩
    intro pre f post hfs
    cases pre with
    | nil => exact hcount
    | cons p pre =>
        obtain ⟨rfl, hrest⟩ := List.cons.inj hfs
        exact h.files pre f post hrest

theorem fitsAfter_cons_some {count total : Nat} {path : String} {raw : List UInt8}
    {fs : List (String × Option (List UInt8))} :
    FitsAfter count total ((path, some raw) :: fs) ↔
      count < maxAssetFiles ∧ raw.length ≤ maxAssetBytes ∧
        FitsAfter (count + 1) (total + raw.length) fs := by
  have htaken : ∀ gs, taken ((path, some raw) :: gs) = ⟨"assets/" ++ path, raw⟩ :: taken gs :=
    fun _ => rfl
  constructor
  · intro h
    refine ⟨h.files [] _ fs rfl, ?_, ?_, ?_, ?_⟩
    · exact h.size ⟨"assets/" ++ path, raw⟩ (List.mem_cons_self ..)
    · intro pre f post hfs
      have hlt := h.files ((path, some raw) :: pre) f post (by rw [hfs]; rfl)
      rw [htaken, List.length_cons] at hlt
      omega
    · intro a ha
      exact h.size a (List.mem_cons_of_mem _ ha)
    · have htotal := h.total
      simp only [htaken, bytesOf, List.map_cons, List.sum_cons] at htotal ⊢
      omega
  · rintro ⟨hcount, hsize, h⟩
    refine ⟨?_, ?_, ?_⟩
    · intro pre f post hfs
      cases pre with
      | nil => exact hcount
      | cons p pre =>
          obtain ⟨rfl, hrest⟩ := List.cons.inj hfs
          have hlt := h.files pre f post hrest
          rw [htaken, List.length_cons]
          omega
    · intro a ha
      rw [htaken] at ha
      rcases List.mem_cons.1 ha with rfl | ha
      · exact hsize
      · exact h.size a ha
    · have htotal := h.total
      simp only [htaken, bytesOf, List.map_cons, List.sum_cons] at htotal ⊢
      omega

theorem collectFile_none {root : String} {acc acc' : Collected} {path : String} :
    collectFile root acc path (.ok none) = .ok acc' ↔
      acc.assets.length < maxAssetFiles ∧ acc' = acc := by
  unfold collectFile
  split
  · rename_i hfull
    constructor
    · intro h
      cases h
    · rintro ⟨hlt, -⟩
      exact absurd hlt (Nat.not_lt.2 hfull)
  · rename_i hfree
    constructor
    · intro h
      cases h
      exact ⟨Nat.not_le.1 hfree, rfl⟩
    · rintro ⟨-, rfl⟩
      rfl

theorem collectFile_some {root : String} {acc acc' : Collected} {path : String}
    {raw : List UInt8} : collectFile root acc path (.ok (some raw)) = .ok acc' ↔
      acc.assets.length < maxAssetFiles ∧ raw.length ≤ maxAssetBytes ∧
        acc.total + raw.length ≤ maxPackAssetsBytes ∧
        acc' = ⟨acc.assets ++ [⟨"assets/" ++ path, raw⟩], acc.total + raw.length⟩ := by
  have hbind : (Except.ok (some raw)).bind (addAsset root acc path) =
      addAsset root acc path (some raw) := rfl
  unfold collectFile
  rw [hbind, addAsset]
  by_cases hfull : acc.assets.length ≥ maxAssetFiles
  · simp [hfull, Nat.not_lt.2 hfull]
  · by_cases hlarge : raw.length > maxAssetBytes
    · simp [hfull, hlarge, Nat.not_le.2 hlarge]
    · by_cases hover : acc.total + raw.length > maxPackAssetsBytes
      · simp [hfull, hlarge, hover, Nat.not_le.2 hover]
      · simp only [if_neg hfull, if_neg hlarge, if_neg hover]
        constructor
        · intro h
          cases h
          exact ⟨Nat.not_le.1 hfull, Nat.not_lt.1 hlarge, Nat.not_lt.1 hover, rfl⟩
        · rintro ⟨-, -, -, rfl⟩
          rfl

/-- The loop returns exactly the files with bytes, where they are within the
limits, and raises otherwise. -/
theorem collect_eq_ok_iff {root : String} {acc result : Collected}
    {fs : List (String × Option (List UInt8))} (hacc : acc.total ≤ maxPackAssetsBytes) :
    collect root acc fs = .ok result ↔
      FitsAfter acc.assets.length acc.total fs ∧
        result = ⟨acc.assets ++ taken fs, acc.total + bytesOf (taken fs)⟩ := by
  induction fs generalizing acc with
  | nil =>
      have hresult : (⟨acc.assets ++ taken [], acc.total + bytesOf (taken [])⟩ : Collected) = acc := by
        simp [taken, bytesOf]
      rw [fitsAfter_nil, hresult, collect]
      constructor
      · intro h
        cases h
        exact ⟨hacc, rfl⟩
      · rintro ⟨-, rfl⟩
        rfl
  | cons f fs ih =>
      obtain ⟨path, content⟩ := f
      rw [collect, bind_eq_ok]
      cases content with
      | none =>
          rw [fitsAfter_cons_none]
          constructor
          · rintro ⟨acc', h, hrest⟩
            obtain ⟨hcount, rfl⟩ := collectFile_none.1 h
            obtain ⟨hfits, hresult⟩ := (ih hacc).1 hrest
            exact ⟨⟨hcount, hfits⟩, hresult⟩
          · rintro ⟨⟨hcount, hfits⟩, hresult⟩
            exact ⟨acc, collectFile_none.2 ⟨hcount, rfl⟩, (ih hacc).2 ⟨hfits, hresult⟩⟩
      | some raw =>
          have hresult : (⟨acc.assets ++ taken ((path, some raw) :: fs),
              acc.total + bytesOf (taken ((path, some raw) :: fs))⟩ : Collected) =
              ⟨acc.assets ++ [⟨"assets/" ++ path, raw⟩] ++ taken fs,
                acc.total + raw.length + bytesOf (taken fs)⟩ := by
            simp [taken, bytesOf, Nat.add_assoc]
          rw [fitsAfter_cons_some, hresult]
          have hstep := @ih ⟨acc.assets ++ [⟨"assets/" ++ path, raw⟩], acc.total + raw.length⟩
          rw [show (acc.assets ++ [(⟨"assets/" ++ path, raw⟩ : FetchedAsset)]).length =
            acc.assets.length + 1 by simp] at hstep
          constructor
          · rintro ⟨acc', h, hrest⟩
            obtain ⟨hcount, hsize, htotal, rfl⟩ := collectFile_some.1 h
            obtain ⟨hfits, hresult⟩ := (hstep htotal).1 hrest
            exact ⟨⟨hcount, hsize, hfits⟩, hresult⟩
          · rintro ⟨⟨hcount, hsize, hfits⟩, hresult⟩
            have htotal : acc.total + raw.length ≤ maxPackAssetsBytes :=
              Nat.le_trans (Nat.le_add_right _ _) hfits.total
            exact ⟨_, collectFile_some.2 ⟨hcount, hsize, htotal, rfl⟩,
              (hstep htotal).2 ⟨hfits, hresult⟩⟩

/-- The limits of the assets of one pack. -/
def AssetsFit (entries : List AssetEntry) : Prop := FitsAfter 0 0 (filesOf "" entries)

/-- **Assets with safe names are read exactly when they are within the limits.** -/
theorem fetchAssets_eq_ok_iff {astray : String → Served} {root : String} {entries : List AssetEntry}
    {assets : List FetchedAsset} (hroot : urlSafe root = true) (hsafe : namesSafe entries = true) :
    fetchAssets astray root entries = .ok assets ↔
      AssetsFit entries ∧ assets = taken (filesOf "" entries) := by
  have hzero : (⟨[], 0⟩ : Collected).total ≤ maxPackAssetsBytes := Nat.zero_le _
  unfold fetchAssets AssetsFit
  rw [if_pos hroot, bind_eq_ok, walk_eq_collect astray hroot rfl _ entries hsafe]
  constructor
  · rintro ⟨acc, hcollect, h⟩
    obtain ⟨hfits, rfl⟩ := (collect_eq_ok_iff hzero).1 hcollect
    cases h
    exact ⟨hfits, rfl⟩
  · rintro ⟨hfits, rfl⟩
    exact ⟨_, (collect_eq_ok_iff hzero).2 ⟨hfits, rfl⟩, rfl⟩

/-! ## Directories that can be read -/

section Reading

variable (codec : Codec) (reader : JsonReader)

/-- The file is UTF-8 text that `json.loads` takes. -/
def ReadsJson (raw : List UInt8) (json : Json) : Prop :=
  ∃ text, codec.utf8decode raw = some text ∧ reader.loads text = .ok json

/-- The file holds a JSON list, or it is not there. -/
def ReadsList (file : Option (List UInt8)) (items : List Json) : Prop :=
  match file with
  | none => items = []
  | some raw => ReadsJson codec reader raw (.list items)

/-- What can be read of a directory with a manifest. -/
structure Reads (d : Directory) (pack : FetchedPack) : Prop where
  dirname : pack.dirname = d.name
  manifest : ∃ raw, d.manifest = some (raw, pack.manifestSha) ∧
    ReadsJson codec reader raw (.dict pack.manifest)
  commands : ReadsList codec reader d.commands pack.commands
  scripts : ReadsList codec reader d.scripts pack.scripts
  readme : pack.readme = d.readme.bind codec.utf8decode
  assetsFit : AssetsFit d.assets
  assets : pack.assets = taken (filesOf "" d.assets)

variable {codec reader}

theorem loadJson_eq_ok_iff {label : String} {raw : List UInt8} {json : Json} :
    loadJson codec reader label raw = .ok json ↔ ReadsJson codec reader raw json := by
  unfold loadJson ReadsJson
  cases codec.utf8decode raw with
  | none => simp
  | some text =>
      cases hloads : reader.loads text with
      | ok j => simp [hloads]
      | error e => cases e <;> simp [hloads]

theorem parseManifest_eq_ok_iff {dirname : String} {raw : List UInt8} {fields : Json.Fields} :
    parseManifest codec reader dirname raw = .ok fields ↔
      ReadsJson codec reader raw (.dict fields) := by
  unfold parseManifest
  rw [bind_eq_ok]
  constructor
  · rintro ⟨json, hload, h⟩
    rw [loadJson_eq_ok_iff] at hload
    cases json with
    | dict fs =>
        cases h
        exact hload
    | null | bool _ | int _ | float _ | str _ | list _ => cases h
  · intro h
    exact ⟨.dict fields, loadJson_eq_ok_iff.2 h, rfl⟩

theorem fetchJsonList_eq_ok_iff {file : Option (List UInt8)} {label : String}
    {items : List Json} :
    fetchJsonList codec reader file label = .ok items ↔ ReadsList codec reader file items := by
  unfold fetchJsonList ReadsList
  cases file with
  | none =>
      simp only [Except.ok.injEq]
      exact eq_comm
  | some raw =>
      simp only [parseJsonList, bind_eq_ok]
      constructor
      · rintro ⟨json, hload, h⟩
        rw [loadJson_eq_ok_iff] at hload
        cases json with
        | list xs =>
            cases h
            exact hload
        | null | bool _ | int _ | float _ | str _ | dict _ => cases h
      · intro h
        exact ⟨.list items, loadJson_eq_ok_iff.2 h, rfl⟩

variable {astray : String → Served}

theorem fetchFile_of_safe {path : String} (h : urlSafe path = true)
    (own : Option (List UInt8 × Option String)) : fetchFile astray path own = .ok own := if_pos h

theorem fetchBytes_of_safe {path : String} (h : urlSafe path = true) (own : Option (List UInt8)) :
    fetchBytes astray path own = .ok own := if_pos h

/-- **Which directories with safe names can be read**, and what is read. -/
theorem fetchPack_eq_some_iff {d : Directory} {pack : FetchedPack} (hsafe : SafeDirectory d) :
    fetchPack codec reader astray d = .ok (some pack) ↔ Reads codec reader d pack := by
  have hpath : ∀ {file : String}, urlSafe file = true →
      urlSafe ("templates/" ++ d.name ++ file) = true := fun hfile =>
    (urlSafe_path d.name hfile).trans hsafe.name
  have hmanifest : urlSafe ("templates/" ++ d.name ++ "/manifest.json") = true :=
    hpath (by decide)
  have hcommands : urlSafe ("templates/" ++ d.name ++ "/commands.json") = true :=
    hpath (by decide)
  have hscripts : urlSafe ("templates/" ++ d.name ++ "/scripts.json") = true :=
    hpath (by decide)
  have hreadme : urlSafe ("templates/" ++ d.name ++ "/README.md") = true :=
    hpath (by decide)
  have hassets : urlSafe ("templates/" ++ d.name ++ "/assets") = true := hpath (by decide)
  unfold fetchPack
  simp only [fetchFile_of_safe hmanifest, fetchBytes_of_safe hcommands, fetchBytes_of_safe hscripts,
    fetchBytes_of_safe hreadme, bind_eq_ok, Except.ok.injEq, exists_eq_left']
  constructor
  · intro h
    split at h
    · cases h
    · rename_i raw sha hfile
      simp only [bind_eq_ok] at h
      obtain ⟨manifest, hm, _, hcfile, commands, hc, _, hsfile, scripts, hs, _, hrfile, assets, ha,
        h⟩ := h
      cases hcfile
      cases hsfile
      cases hrfile
      cases h
      obtain ⟨hfit, rfl⟩ := (fetchAssets_eq_ok_iff hassets hsafe.assets).1 ha
      exact ⟨rfl, ⟨raw, hfile, parseManifest_eq_ok_iff.1 hm⟩, fetchJsonList_eq_ok_iff.1 hc,
        fetchJsonList_eq_ok_iff.1 hs, rfl, hfit, rfl⟩
  · intro h
    obtain ⟨raw, hfile, hm⟩ := h.manifest
    rw [hfile]
    simp only [bind_eq_ok]
    refine ⟨_, parseManifest_eq_ok_iff.2 hm, _, rfl, _, fetchJsonList_eq_ok_iff.2 h.commands, _,
      rfl, _, fetchJsonList_eq_ok_iff.2 h.scripts, _, rfl, _,
      (fetchAssets_eq_ok_iff hassets hsafe.assets).2 ⟨h.assetsFit, rfl⟩, ?_⟩
    rw [← h.dirname, ← h.readme, ← h.assets]

/-- The directories that the loop comes to when `free` packs may still be read. -/
def visited : Nat → List Entry → List Directory
  | _, [] => []
  | free, .other :: rest => visited free rest
  | 0, .dir _ :: _ => []
  | free + 1, .dir d :: rest => d :: visited (if d.manifest.isSome then free else free + 1) rest

end Reading

end Registry
end NodeNexus
