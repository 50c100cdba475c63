import NodeNexus.Pack.Assets

/-!
# The rows of the assets

What decoding and writing the assets of a pack comes to.

* `decodeAssets_eq_ok_iff` — the assets are accepted exactly when they are not
  too many, their paths are valid and different, and their contents are base64
  texts within the limits.
* `saveAssets_eq_ok_iff` — they are written exactly when their rows can be bound
  and meet no row of the pack under the same path; they are then added to the
  table.
-/

namespace NodeNexus
namespace Pack

open Content

/-! ## Decoding -/

/-- The bytes of decoded assets. -/
def decodedBytes (decoded : List (PackAssetCreate × List UInt8)) : Nat :=
  (decoded.map fun d => d.2.length).sum

/-- An asset and its decoded content. -/
structure Decoded (env : Env) (a : PackAssetCreate) (d : PackAssetCreate × List UInt8) : Prop where
  asset : d.1 = a
  content : env.codec.b64decode a.contentBase64 = .ok d.2
  size : d.2.length ≤ maxAssetBytes

/-- What the loop of `_decode_assets` asks for, after the paths `seen` and
`total` bytes. -/
structure DecodesAfter (env : Env) (seen : List String) (total : Nat)
    (assets : List PackAssetCreate) (decoded : List (PackAssetCreate × List UInt8)) : Prop where
  paths : ∀ a ∈ assets, isAssetPath a.path = true ∧ a.path ∉ seen
  distinct : (assets.map (·.path)).Nodup
  contents : List.Forall₂ (Decoded env) assets decoded
  total : total + decodedBytes decoded ≤ maxPackAssetsBytes

section Decoding

variable {env : Env} {seen : List String} {total : Nat}

theorem decodeAssetsFrom_cons {asset : PackAssetCreate} {rest : List PackAssetCreate}
    {decoded : List (PackAssetCreate × List UInt8)} :
    decodeAssetsFrom env seen total (asset :: rest) = .ok decoded ↔
      isAssetPath asset.path = true ∧ asset.path ∉ seen ∧ ∃ raw tail,
        env.codec.b64decode asset.contentBase64 = .ok raw ∧ raw.length ≤ maxAssetBytes ∧
        total + raw.length ≤ maxPackAssetsBytes ∧
        decodeAssetsFrom env (asset.path :: seen) (total + raw.length) rest = .ok tail ∧
        decoded = (asset, raw) :: tail := by
  rw [decodeAssetsFrom, validateAssetPath]
  by_cases hpath : isAssetPath asset.path = true
  · simp only [hpath, if_true, true_and]
    show (if asset.path ∈ seen then _ else _) = _ ↔ _
    by_cases hseen : asset.path ∈ seen
    · simp [hseen]
    · rw [if_neg hseen]
      cases hraw : env.codec.b64decode asset.contentBase64 with
      | error exc => simp
      | ok raw =>
          by_cases hlarge : raw.length > maxAssetBytes
          · simp [hlarge, Nat.not_le.2 hlarge]
          · by_cases hover : total + raw.length > maxPackAssetsBytes
            · simp [hlarge, hover, Nat.not_le.2 hover]
            · simp only [if_neg hlarge, if_neg hover, bind_eq_ok]
              constructor
              · rintro ⟨tail, htail, h⟩
                cases h
                exact ⟨hseen, raw, tail, rfl, Nat.not_lt.1 hlarge, Nat.not_lt.1 hover, htail, rfl⟩
              · rintro ⟨-, raw', tail, hraw', -, -, htail, rfl⟩
                cases hraw'
                exact ⟨tail, htail, rfl⟩
  · rw [if_neg hpath]
    constructor
    · intro h
      cases h
    · rintro ⟨h, -⟩
      exact absurd h hpath

theorem decodeAssetsFrom_eq_ok_iff {assets : List PackAssetCreate}
    {decoded : List (PackAssetCreate × List UInt8)} (htotal : total ≤ maxPackAssetsBytes) :
    decodeAssetsFrom env seen total assets = .ok decoded ↔
      DecodesAfter env seen total assets decoded := by
  induction assets generalizing seen total decoded with
  | nil =>
      constructor
      · intro h
        cases h
        exact ⟨by simp, List.nodup_nil, .nil, htotal⟩
      · intro h
        cases h.contents
        rfl
  | cons asset rest ih =>
      rw [decodeAssetsFrom_cons]
      constructor
      · rintro ⟨hpath, hseen, raw, tail, hraw, hsize, hwithin, htail, rfl⟩
        have hrest := (ih hwithin).1 htail
        refine ⟨?_, ?_, .cons ⟨rfl, hraw, hsize⟩ hrest.contents, ?_⟩
        · intro a ha
          rcases List.mem_cons.1 ha with rfl | ha
          · exact ⟨hpath, hseen⟩
          · exact ⟨(hrest.paths a ha).1, fun hmem => (hrest.paths a ha).2 (.tail _ hmem)⟩
        · rw [List.map_cons, List.nodup_cons]
          refine ⟨?_, hrest.distinct⟩
          intro hmem
          obtain ⟨a, ha, hsame⟩ := List.mem_map.1 hmem
          exact (hrest.paths a ha).2 (hsame ▸ List.mem_cons_self ..)
        · have hbytes := hrest.total
          simp only [decodedBytes, List.map_cons, List.sum_cons] at hbytes ⊢
          omega
      · intro h
        obtain ⟨hpaths, hdistinct, hcontents, hbytes⟩ := h
        cases hcontents with
        | @cons _ d _ tail hd htail =>
            obtain ⟨a, raw⟩ := d
            obtain ⟨rfl, hraw, hsize⟩ := hd
            rw [List.map_cons, List.nodup_cons] at hdistinct
            simp only [decodedBytes, List.map_cons, List.sum_cons] at hbytes
            have hwithin : total + raw.length ≤ maxPackAssetsBytes := by omega
            have hself := hpaths a (List.mem_cons_self ..)
            refine ⟨hself.1, hself.2, raw, tail, hraw, hsize, hwithin, (ih hwithin).2 ?_, rfl⟩
            refine ⟨?_, hdistinct.2, htail, ?_⟩
            · intro x hx
              have hx' := hpaths x (List.mem_cons_of_mem _ hx)
              refine ⟨hx'.1, ?_⟩
              intro hmem
              rcases List.mem_cons.1 hmem with hsame | hmem
              · exact hdistinct.1 (hsame ▸ List.mem_map_of_mem hx)
              · exact hx'.2 hmem
            · simp only [decodedBytes]
              omega

/-- **Which assets are accepted.** -/
theorem decodeAssets_eq_ok_iff {assets : List PackAssetCreate}
    {decoded : List (PackAssetCreate × List UInt8)} :
    decodeAssets env assets = .ok decoded ↔
      assets.length ≤ maxAssetsPerPack ∧ DecodesAfter env [] 0 assets decoded := by
  unfold decodeAssets
  by_cases hmany : assets.length > maxAssetsPerPack
  · simp [hmany, Nat.not_le.2 hmany]
  · rw [if_neg hmany, decodeAssetsFrom_eq_ok_iff (Nat.zero_le _)]
    simp [Nat.not_lt.1 hmany]

theorem map_fst_of_decoded {assets : List PackAssetCreate}
    {decoded : List (PackAssetCreate × List UInt8)}
    (h : List.Forall₂ (Decoded env) assets decoded) : decoded.map (·.1) = assets := by
  induction h with
  | nil => rfl
  | cons hd _ ih => rw [List.map_cons, hd.asset, ih]

/-- Writing decodes the accepted assets once more, to the same contents. -/
theorem writeAssets_decoded {now : Time} {packId : Uuid} {s : Store}
    {assets : List PackAssetCreate} {decoded : List (PackAssetCreate × List UInt8)}
    (h : List.Forall₂ (Decoded env) assets decoded) :
    (if decoded.isEmpty then .ok s else writeAssets env now packId s (decoded.map (·.1))) =
      saveAssets env now packId s decoded := by
  rw [map_fst_of_decoded h]
  split
  · rename_i hempty
    rw [List.isEmpty_iff] at hempty
    rw [hempty]
    rfl
  · refine bind_of_eq_ok (mapM_eq_ok_iff.2 (h.imp ?_))
    rintro a ⟨a', raw⟩ ⟨rfl, hraw, -⟩
    rw [hraw]

end Decoding

/-! ## Writing -/

/-- The rows of decoded assets; `next` is the id of the first one. -/
def bindAssets (env : Env) (now : Time) (packId : Uuid) (next : Uuid) :
    List (PackAssetCreate × List UInt8) → Except Failure (List AssetRow)
  | [] => .ok []
  | (asset, raw) :: rest => do
      let row ← bindAsset env now next packId asset raw
      let rows ← bindAssets env now packId (next + 1) rest
      .ok (row :: rows)

/-- The file of a row: its path and what is stored of its content. -/
def AssetRow.file (a : AssetRow) : String × String × Nat × String :=
  (a.path, a.content, a.size, a.sha)

/-- The file of a decoded asset. -/
def assetFile (codec : Codec) (d : PackAssetCreate × List UInt8) : String × String × Nat × String :=
  (d.1.path, storedContent codec d.2, d.2.length, codec.sha256 d.2)

/-- The row of one asset. -/
theorem bindAsset_eq_ok {env : Env} (hdb : env.db.Lawful) {now : Time} {id packId : Uuid}
    {asset : PackAssetCreate} {raw : List UInt8} {row : AssetRow}
    (h : bindAsset env now id packId asset raw = .ok row) :
    row.id = id ∧ row.packId = packId ∧ row.file = assetFile env.codec (asset, raw) := by
  simp only [bindAsset, bindString, bind_eq_ok] at h
  obtain ⟨path, hpath, content, hcontent, h⟩ := h
  cases h
  split at hpath
  · rw [hdb.text_eq _ _ hpath, hdb.text_eq _ _ hcontent]
    exact ⟨rfl, rfl, rfl⟩
  · cases hpath

section Rows

variable {env : Env} {now : Time} {packId : Uuid}

/-- The rows have the ids from `next` on and the files of the assets. -/
structure AssetRows (env : Env) (packId next : Uuid)
    (decoded : List (PackAssetCreate × List UInt8)) (rows : List AssetRow) : Prop where
  ids : rows.map (·.id) = List.range' next decoded.length
  packId : ∀ r ∈ rows, r.packId = packId
  files : rows.map AssetRow.file = decoded.map (assetFile env.codec)

theorem bindAssets_eq_ok (hdb : env.db.Lawful) {next : Uuid}
    {decoded : List (PackAssetCreate × List UInt8)} {rows : List AssetRow}
    (h : bindAssets env now packId next decoded = .ok rows) :
    AssetRows env packId next decoded rows := by
  induction decoded generalizing next rows with
  | nil =>
      cases h
      exact ⟨rfl, by simp, rfl⟩
  | cons d rest ih =>
      obtain ⟨asset, raw⟩ := d
      simp only [bindAssets, bind_eq_ok] at h
      obtain ⟨row, hrow, rows', hrows', h⟩ := h
      cases h
      obtain ⟨hid, hpack, hfile⟩ := bindAsset_eq_ok hdb hrow
      obtain ⟨hids, hpacks, hfiles⟩ := ih hrows'
      refine ⟨?_, ?_, ?_⟩
      · rw [List.map_cons, hid, hids]
        rfl
      · intro r hr
        rcases List.mem_cons.1 hr with rfl | hr
        · exact hpack
        · exact hpacks r hr
      · rw [List.map_cons, hfile, hfiles]
        rfl

/-- The values of an asset fit their columns. -/
def AssetFits (env : Env) (d : PackAssetCreate × List UInt8) : Prop :=
  Returns (bindString env.db 255 d.1.path) ∧ Returns (env.db.text (storedContent env.codec d.2))

theorem returns_bindAsset (now : Time) (id packId : Uuid) {asset : PackAssetCreate}
    {raw : List UInt8} :
    Returns (bindAsset env now id packId asset raw) ↔ AssetFits env (asset, raw) := by
  unfold bindAsset AssetFits
  simp only [returns_bind, returns_ok, and_true]
  constructor
  · rintro ⟨path, hpath, content, hcontent⟩
    exact ⟨⟨path, hpath⟩, content, hcontent⟩
  · rintro ⟨⟨path, hpath⟩, content, hcontent⟩
    exact ⟨path, hpath, content, hcontent⟩

/-- The rows can be bound exactly when the values of each asset fit. -/
theorem returns_bindAssets (now : Time) (packId next : Uuid)
    {decoded : List (PackAssetCreate × List UInt8)} :
    Returns (bindAssets env now packId next decoded) ↔ ∀ d ∈ decoded, AssetFits env d := by
  induction decoded generalizing next with
  | nil => simp [bindAssets]
  | cons d rest ih =>
      obtain ⟨asset, raw⟩ := d
      rw [List.forall_mem_cons, ← returns_bindAsset now next packId, ← ih (next + 1), bindAssets]
      simp only [returns_bind, returns_ok, and_true]
      constructor
      · rintro ⟨row, hrow, rows, hrows⟩
        exact ⟨⟨row, hrow⟩, rows, hrows⟩
      · rintro ⟨⟨row, hrow⟩, rows, hrows⟩
        exact ⟨row, hrow, rows, hrows⟩

end Rows

/-! ### Into the table -/

section Saving

variable {env : Env} {now : Time} {packId : Uuid}

/-- **Assets are written** exactly when their rows can be bound and none meets a
row of the pack under its path, be it an old or a new one. -/
theorem saveAssets_eq_ok_iff (hdb : env.db.Lawful) {s s' : Store}
    (hfresh : ∀ a ∈ s.assets.rows, a.id < s.nextId)
    {decoded : List (PackAssetCreate × List UInt8)} :
    saveAssets env now packId s decoded = .ok s' ↔
      ∃ rows, bindAssets env now packId s.nextId decoded = .ok rows ∧
        (∀ r ∈ rows, ∀ a ∈ s.assets.rows, a.packId = packId → a.path ≠ r.path) ∧
        (rows.map (·.path)).Nodup ∧
        s' = { s with assets := s.assets.putAll rows, nextId := s.nextId + rows.length } := by
  induction decoded generalizing s s' with
  | nil =>
      constructor
      · intro h
        cases h
        exact ⟨[], rfl, by simp, List.nodup_nil, rfl⟩
      · rintro ⟨rows, hrows, -, -, rfl⟩
        cases hrows
        rfl
  | cons d rest ih =>
      obtain ⟨asset, raw⟩ := d
      simp only [saveAssets, bindAssets, bind_eq_ok]
      have hput : ∀ row : AssetRow, row.id = s.nextId →
          ∀ a ∈ (s.assets.put row).rows, a.id < s.nextId + 1 := by
        intro row hid a ha
        rcases Table.mem_put.1 ha with rfl | ⟨ha, -⟩
        · rw [hid]
          exact Nat.lt_succ_self _
        · exact Nat.lt_succ_of_lt (hfresh a ha)
      constructor
      · rintro ⟨row, hrow, h⟩
        obtain ⟨hid, hpack, -⟩ := bindAsset_eq_ok hdb hrow
        split at h
        · cases h
        · rename_i hany
          obtain ⟨rows, hrows, hold, hnew, rfl⟩ := (ih (hput row hid)).1 h
          have hkeep : ∀ a ∈ s.assets.rows, a ∈ (s.assets.put row).rows := by
            intro a ha
            refine Table.mem_put.2 (.inr ⟨ha, ?_⟩)
            rw [hid]
            exact Nat.ne_of_lt (hfresh a ha)
          refine ⟨row :: rows, ⟨row, hrow, rows, hrows, rfl⟩, ?_, ?_, ?_⟩
          · intro r hr a ha hap hpath
            rcases List.mem_cons.1 hr with rfl | hr
            · exact hany (List.any_eq_true.2 ⟨a, ha, by simp [hap, hpath]⟩)
            · exact hold r hr a (hkeep a ha) hap hpath
          · rw [List.map_cons, List.nodup_cons]
            refine ⟨?_, hnew⟩
            intro hmem
            obtain ⟨r, hr, hpath⟩ := List.mem_map.1 hmem
            exact hold r hr row (Table.mem_put.2 (.inl rfl)) hpack hpath.symm
          · simp only [List.length_cons, Nat.add_assoc, Nat.add_comm 1]
            rfl
      · rintro ⟨rows, ⟨row, hrow, rows', hrows', h⟩, hold, hnew, rfl⟩
        cases h
        obtain ⟨hid, hpack, -⟩ := bindAsset_eq_ok hdb hrow
        rw [List.map_cons, List.nodup_cons] at hnew
        refine ⟨row, hrow, ?_⟩
        rw [if_neg]
        · refine (ih (hput row hid)).2 ⟨rows', hrows', ?_, hnew.2, ?_⟩
          · intro r hr a ha hap hpath
            rcases Table.mem_put.1 ha with rfl | ⟨ha, -⟩
            · exact hnew.1 (hpath ▸ List.mem_map_of_mem hr)
            · exact hold r (List.mem_cons_of_mem _ hr) a ha hap hpath
          · simp only [List.length_cons, Nat.add_assoc, Nat.add_comm 1]
            rfl
        · intro hany
          obtain ⟨a, ha, hsame⟩ := List.any_eq_true.1 hany
          simp only [Bool.and_eq_true, decide_eq_true_eq] at hsame
          exact hold row (List.mem_cons_self ..) a ha hsame.1 hsame.2

end Saving

end Pack
end NodeNexus
