import NodeNexus.Pack.Invariant

/-!
# Operations that leave the links alone

Creating, synchronising and patching packs, and everything users do to commands
and scripts, makes and removes no link.  For each of these operations this file
says that a transaction that does not raise is a `Frame`.

* `RowsFrame.insert`, `RowsFrame.update`, `RowsFrame.delete`,
  `RowsFrame.importRows` — what users do to one table.
* `PacksWritten` — packs are written; `createPack_eq_ok`, `upsertSyncedPack_eq_ok` and
  `patchPack_eq_ok` say which operations do this.
* `Event.keepsLinks` and `frame_of_transaction` — the operations and the result.
-/

namespace NodeNexus
namespace Pack

open Content

variable {Body : Type}

/-! ## One table -/

theorem RowsFrame.put {rows : Rows Body} {row : Row Body} {next next' : Uuid}
    (h : (∃ r ∈ rows.rows, r.id = row.id ∧ r.templatePackId = row.templatePackId) ∨
      next ≤ row.id ∧ row.id < next' ∧ row.templatePackId = none) :
    RowsFrame rows (rows.put row) next next' := by
  intro r hr
  rcases Table.mem_put.1 hr with rfl | ⟨hr, -⟩
  · exact h
  · exact .inl ⟨r, hr, rfl, rfl⟩

/-- New ids may be taken from a larger range. -/
theorem RowsFrame.mono {old new : Rows Body} {a b a' b' : Uuid} (h : RowsFrame old new a b)
    (ha : a' ≤ a) (hb : b ≤ b') : RowsFrame old new a' b' := by
  intro r hr
  rcases h r hr with hold | ⟨hge, hlt, hnone⟩
  · exact .inl hold
  · exact .inr ⟨Nat.le_trans ha hge, Nat.lt_of_lt_of_le hlt hb, hnone⟩

theorem RowsFrame.trans {old mid new : Rows Body} {a b : Uuid} (h₁ : RowsFrame old mid a b)
    (h₂ : RowsFrame mid new a b) : RowsFrame old new a b := by
  intro r hr
  rcases h₂ r hr with ⟨m, hm, hid, hpack⟩ | hnew
  · rw [← hid, ← hpack]
    exact h₁ m hm
  · exact .inr hnew

/-- A row is created. -/
theorem RowsFrame.insert {model : Model Body} {db : Columns} {id : Uuid} {v : Values Body}
    {row : Row Body} {rows rows' : Rows Body} (hrow : bindRow model db id none v = .ok row)
    (hsave : rows.save model row = .ok rows') : RowsFrame rows rows' id (id + 1) := by
  obtain ⟨hid, hpack, -⟩ := bindRow_eq_ok hrow
  obtain ⟨-, rfl⟩ := Rows.save_eq_ok.1 hsave
  refine RowsFrame.put (.inr ⟨?_, ?_, hpack⟩)
  · exact Nat.le_of_eq hid.symm
  · rw [hid]
    exact Nat.lt_succ_self id

/-- A row is updated: id and pack stay. -/
theorem updateRow_eq_ok {BodyChanges : Type} {model : Model Body}
    {setBody : BodyChanges → Body → Except Failure Body} {db : Columns}
    {changes : Changes BodyChanges} {row row' : Row Body}
    (h : updateRow model setBody db changes row = .ok row') :
    row'.id = row.id ∧ row'.templatePackId = row.templatePackId := by
  simp only [updateRow, bind_eq_ok] at h
  obtain ⟨_, -, _, -, _, -, _, -, _, -, hrow⟩ := h
  cases hrow
  exact ⟨rfl, rfl⟩

theorem RowsFrame.update {BodyChanges : Type} {model : Model Body}
    {setBody : BodyChanges → Body → Except Failure Body} {db : Columns}
    {changes : Changes BodyChanges} {row row' : Row Body} {rows rows' : Rows Body} {id : Uuid}
    (hfind : rows.find? id = some row) (hrow : updateRow model setBody db changes row = .ok row')
    (hsave : rows.save model row' = .ok rows') (next next' : Uuid) :
    RowsFrame rows rows' next next' := by
  obtain ⟨hid, hpack⟩ := updateRow_eq_ok hrow
  obtain ⟨-, rfl⟩ := Rows.save_eq_ok.1 hsave
  exact RowsFrame.put (.inl ⟨row, Table.mem_of_find? hfind, hid.symm, hpack.symm⟩)

theorem RowsFrame.delete (rows : Rows Body) (id next next' : Uuid) :
    RowsFrame rows (deleteRow rows id).1 next next' := by
  unfold deleteRow
  cases rows.find? id with
  | none => exact RowsFrame.refl rows next next'
  | some row => exact fun r hr => .inl ⟨r, (Table.mem_erase.1 hr).1, rfl, rfl⟩

/-- A loop of `import_config` creates rows with ids it draws. -/
theorem RowsFrame.importRows {model : Model Body} {db : Columns} {kind : String}
    {rows rows' : Rows Body} {existing : List String} {next next' : Uuid}
    {values : List (Values Body)} {created : Nat} {errors : List String}
    (h : Content.importRows model db kind rows existing next values =
      .ok (rows', next', created, errors)) :
    next ≤ next' ∧ RowsFrame rows rows' next next' := by
  induction values generalizing rows existing next created errors with
  | nil =>
      cases h
      exact ⟨Nat.le_refl _, RowsFrame.refl _ _ _⟩
  | cons v vs ih =>
      unfold Content.importRows at h
      split at h
      · simp only [bind_eq_ok] at h
        obtain ⟨⟨rows₁, next₁, created₁, errors₁⟩, hrest, h⟩ := h
        cases h
        exact ih hrest
      · simp only [bind_eq_ok] at h
        obtain ⟨row, hrow, rows₁, hsave, ⟨rows₂, next₂, created₁, errors₁⟩, hrest, h⟩ := h
        cases h
        obtain ⟨hle, hframe⟩ := ih hrest
        refine ⟨Nat.le_trans (Nat.le_succ _) hle, ?_⟩
        exact ((RowsFrame.insert hrow hsave).mono (Nat.le_refl _) hle).trans
          (hframe.mono (Nat.le_succ _) (Nat.le_refl _))

/-! ## The store -/

/-- The tables of commands and scripts change. -/
theorem Frame.ofRows {s : Store} {commands : Rows CommandBody} {scripts : Rows ScriptBody}
    {next : Uuid} (hle : s.nextId ≤ next) (hc : RowsFrame s.commands commands s.nextId next)
    (hs : RowsFrame s.scripts scripts s.nextId next) :
    Frame s { s with commands, scripts, nextId := next } where
  installations := rfl
  nextId := hle
  packs p hp := .inl ⟨p, hp, rfl, rfl⟩
  commands := hc
  scripts := hs

/-- Packs and assets are written, nothing else. -/
structure PacksWritten (s s' : Store) : Prop where
  installations : s'.installations = s.installations
  commands : s'.commands = s.commands
  scripts : s'.scripts = s.scripts
  nextId : s.nextId ≤ s'.nextId
  packs : ∀ p' ∈ s'.packs.rows,
    (∃ p ∈ s.packs.rows, p.id = p'.id ∧ p.installedVersion = p'.installedVersion) ∨
      s.nextId ≤ p'.id ∧ p'.id < s'.nextId ∧ p'.installedVersion = none

theorem PacksWritten.frame {s s' : Store} (h : PacksWritten s s') : Frame s s' where
  installations := h.installations
  nextId := h.nextId
  packs := h.packs
  commands := by
    rw [h.commands]
    exact RowsFrame.refl _ _ _
  scripts := by
    rw [h.scripts]
    exact RowsFrame.refl _ _ _

/-- A pack is written, with its assets. -/
theorem PacksWritten.put {s : Store} {row : PackRow} {n : Nat} (assets : Table AssetRow.id)
    (h : (∃ p ∈ s.packs.rows, p.id = row.id ∧ p.installedVersion = row.installedVersion) ∨
      s.nextId ≤ row.id ∧ row.id < s.nextId + n ∧ row.installedVersion = none) :
    PacksWritten s { s with packs := s.packs.put row, assets, nextId := s.nextId + n } where
  installations := rfl
  commands := rfl
  scripts := rfl
  nextId := Nat.le_add_right s.nextId n
  packs p hp := by
    rcases Table.mem_put.1 hp with rfl | ⟨hp, -⟩
    · exact h
    · exact .inl ⟨p, hp, rfl, rfl⟩

theorem PacksWritten.refl (s : Store) : PacksWritten s s :=
  ⟨rfl, rfl, rfl, Nat.le_refl _, fun p hp => .inl ⟨p, hp, rfl, rfl⟩⟩

/-! ## Packs -/

/-- Inserting a pack: the new row has a new id and is not installed. -/
theorem insertPack_eq_ok {env : Env} {now : Time} {s s' : Store} {registryId : Option Uuid}
    {packId : String} {data : PackFields} {commands scripts : List Json.Fields}
    (h : insertPack env now s registryId packId data commands scripts = .ok s') :
    ∃ row : PackRow, row.id = s.nextId ∧ row.installedVersion = none ∧
      s' = { s with packs := s.packs.put row, nextId := s.nextId + 1 } := by
  simp only [insertPack, bind_eq_ok] at h
  obtain ⟨packId', -, row, hrow, row', hrow', stored, hsave, h⟩ := h
  cases h
  obtain ⟨hid, hversion⟩ := PackRow.setFields_eq_ok hrow
  have hcontent := PackRow.setContent_eq_ok hrow'
  have hstored := Store.savePack_eq_ok hsave
  refine ⟨row', ?_, ?_, ?_⟩
  · rw [hcontent]
    exact hid
  · rw [hcontent]
    exact hversion
  · rw [hstored]

/-- Setting the metadata keeps the id and the installed version. -/
theorem PackRow.patch_eq_ok {db : Columns} {row row' : PackRow} {data : PackUpdate}
    (h : row.patch db data = .ok row') :
    row'.id = row.id ∧ row'.installedVersion = row.installedVersion := by
  simp only [PackRow.patch, bind_eq_ok] at h
  obtain ⟨_, -, _, -, _, -, _, -, _, -, _, -, _, -, hrow⟩ := h
  cases hrow
  exact ⟨rfl, rfl⟩

/-- Writing the assets that a pack comes with, if it comes with any. -/
theorem writeAssets_of_ite {env : Env} {now : Time} {packId : Uuid} {s s' : Store}
    {decoded : List (PackAssetCreate × List UInt8)}
    (h : (if decoded.isEmpty = true then .ok s
      else writeAssets env now packId s (decoded.map (·.1))) = .ok s') :
    ∃ rows n, s' = { s with assets := rows, nextId := s.nextId + n } := by
  split at h
  · cases h
    exact ⟨s.assets, 0, rfl⟩
  · exact writeAssets_eq_ok h

/-- Inserting a pack with its assets. -/
theorem PacksWritten.insertPack {env : Env} {now : Time} {s stored s' : Store}
    {registryId : Option Uuid}
    {packId : String} {data : PackFields} {commands scripts : List Json.Fields}
    {rows : Table AssetRow.id} {n : Nat}
    (h : Pack.insertPack env now s registryId packId data commands scripts = .ok stored)
    (hassets : s' = { stored with assets := rows, nextId := stored.nextId + n }) :
    PacksWritten s s' := by
  obtain ⟨row, hid, hversion, rfl⟩ := insertPack_eq_ok h
  have hwritten : PacksWritten s { s with
      packs := s.packs.put row, assets := rows, nextId := s.nextId + (1 + n) } := by
    refine PacksWritten.put rows (.inr ⟨?_, ?_, hversion⟩)
    · exact Nat.le_of_eq hid.symm
    · rw [hid]
      exact Nat.lt_add_of_pos_right (Nat.add_pos_left Nat.one_pos n)
  rw [hassets]
  rw [← Nat.add_assoc] at hwritten
  exact hwritten

/-- The same as a part of `upsert_synced_pack`. -/
theorem storeAssets_eq_ok {env : Env} {now : Time} {packId : Uuid} {s : Store}
    {decoded : List (PackAssetCreate × List UInt8)} {outcome : SyncOutcome}
    {result : Store × Uuid × SyncOutcome}
    (h : (do
      let stored ← if decoded.isEmpty then .ok s
        else writeAssets env now packId s (decoded.map (·.1))
      .ok (stored, packId, outcome) : Except Failure _) = .ok result) :
    ∃ rows n, result = ({ s with assets := rows, nextId := s.nextId + n }, packId, outcome) := by
  split at h
  · cases h
    exact ⟨s.assets, 0, rfl⟩
  · obtain ⟨stored, hstored, h⟩ := bind_eq_ok.1 h
    obtain ⟨rows, n, rfl⟩ := writeAssets_eq_ok hstored
    cases h
    exact ⟨rows, n, rfl⟩

theorem createPack_eq_ok {env : Env} {now : Time} {s s' : Store} {data : PackCreate}
    (h : createPack env now s data = .ok s') : PacksWritten s s' := by
  simp only [createPack, bind_eq_ok] at h
  obtain ⟨packId, -, commands, -, scripts, -, decoded, -, h⟩ := h
  split at h
  · cases h
  · simp only [bind_eq_ok] at h
    obtain ⟨stored, hstored, h⟩ := h
    obtain ⟨rows, n, hs'⟩ := writeAssets_of_ite h
    exact PacksWritten.insertPack hstored hs'

theorem upsertSyncedPack_eq_ok {env : Env} {now : Time} {s : Store} {data : SyncedPack}
    {result : Store × Uuid × SyncOutcome} (h : upsertSyncedPack env now s data = .ok result) :
    PacksWritten s result.1 := by
  simp only [upsertSyncedPack, bind_eq_ok] at h
  obtain ⟨packId, -, decoded, -, h⟩ := h
  split at h
  · rename_i row hfind
    split at h
    · cases h
      exact PacksWritten.refl s
    · simp only [bind_eq_ok] at h
      obtain ⟨row₁, hrow₁, row₂, hrow₂, stored, hstored, h⟩ := h
      obtain ⟨rows, n, rfl⟩ := storeAssets_eq_ok h
      obtain ⟨hid, hversion⟩ := PackRow.setFields_eq_ok hrow₁
      have hcontent := PackRow.setContent_eq_ok hrow₂
      have hstored := Store.savePack_eq_ok hstored
      subst hstored
      -- the row that is written is the old one, but for metadata and content
      have hold : ({ row₂ with updatedAt := now } : PackRow).id = row.id ∧
          ({ row₂ with updatedAt := now } : PackRow).installedVersion = row.installedVersion := by
        rw [hcontent]
        exact ⟨hid, hversion⟩
      exact PacksWritten.put rows
        (.inl ⟨row, List.mem_of_find?_eq_some hfind, hold.1.symm, hold.2.symm⟩)
  · simp only [bind_eq_ok] at h
    obtain ⟨stored, hstored, h⟩ := h
    obtain ⟨rows, n, rfl⟩ := storeAssets_eq_ok h
    exact PacksWritten.insertPack hstored rfl

theorem patchPack_eq_ok {env : Env} {now : Time} {s : Store} {packId : Uuid} {data : PackUpdate}
    {result : Store × PackRow} (h : patchPack env now s packId data = .ok result) :
    PacksWritten s result.1 := by
  unfold patchPack at h
  split at h
  · cases h
  · rename_i pack hfind
    simp only [bind_eq_ok] at h
    obtain ⟨row, hrow, h⟩ := h
    cases h
    obtain ⟨hid, hversion⟩ := PackRow.patch_eq_ok hrow
    exact PacksWritten.put (n := 0) s.assets
      (.inl ⟨pack, Table.mem_of_find? hfind, hid.symm, hversion.symm⟩)

/-! ## Transactions -/

/-- Is it one of the operations that make and remove no link? -/
def Event.keepsLinks : Event → Bool
  | .installPack .. | .uninstallPack .. | .updatePack .. | .deletePack .. => false
  | _ => true

/-- **Every operation but those that install or uninstall is a frame.** -/
theorem frame_of_transaction {env : Env} {s s' : Store} {e : Event} (hkeeps : e.keepsLinks = true)
    (h : transaction env s e = .ok s') : Frame s s' := by
  cases e with
  | createPack now data => exact (createPack_eq_ok h).frame
  | installPack now packId onConflict => cases hkeeps
  | uninstallPack now packId => cases hkeeps
  | updatePack now packId onConflict => cases hkeeps
  | deletePack now packId => cases hkeeps
  | upsertSyncedPack now data =>
      obtain ⟨result, hresult, rfl⟩ := map_eq_ok.1 h
      exact (upsertSyncedPack_eq_ok hresult).frame
  | patchPack now packId data =>
      obtain ⟨result, hresult, rfl⟩ := map_eq_ok.1 h
      exact (patchPack_eq_ok hresult).frame
  | createCommand data =>
      simp only [transaction, createCommand, bind_eq_ok] at h
      obtain ⟨⟨commands, view⟩, ⟨row, hrow, rows, hsave, _, -, hres⟩, h⟩ := h
      cases hres
      cases h
      exact Frame.ofRows (Nat.le_succ _) (RowsFrame.insert hrow hsave) (RowsFrame.refl _ _ _)
  | updateCommand id data =>
      simp only [transaction, bind_eq_ok] at h
      obtain ⟨⟨commands, view⟩, hupdate, h⟩ := h
      cases h
      refine Frame.ofRows (Nat.le_refl _) ?_ (RowsFrame.refl _ _ _)
      unfold updateCommand at hupdate
      split at hupdate
      · cases hupdate
        exact RowsFrame.refl _ _ _
      · rename_i row hfind
        simp only [bind_eq_ok] at hupdate
        obtain ⟨row', hrow, rows, hsave, _, -, hres⟩ := hupdate
        cases hres
        exact RowsFrame.update hfind hrow hsave _ _
  | deleteCommand id =>
      cases h
      exact Frame.ofRows (Nat.le_refl _) (RowsFrame.delete _ _ _ _) (RowsFrame.refl _ _ _)
  | createScript data =>
      simp only [transaction, createScript, bind_eq_ok] at h
      obtain ⟨⟨scripts, view⟩, ⟨row, hrow, rows, hsave, _, -, hres⟩, h⟩ := h
      cases hres
      cases h
      exact Frame.ofRows (Nat.le_succ _) (RowsFrame.refl _ _ _) (RowsFrame.insert hrow hsave)
  | updateScript id data =>
      simp only [transaction, bind_eq_ok] at h
      obtain ⟨⟨scripts, view⟩, hupdate, h⟩ := h
      cases h
      refine Frame.ofRows (Nat.le_refl _) (RowsFrame.refl _ _ _) ?_
      unfold updateScript at hupdate
      split at hupdate
      · cases hupdate
        exact RowsFrame.refl _ _ _
      · rename_i row hfind
        simp only [bind_eq_ok] at hupdate
        obtain ⟨row', hrow, rows, hsave, _, -, hres⟩ := hupdate
        cases hres
        exact RowsFrame.update hfind hrow hsave _ _
  | deleteScript id =>
      cases h
      exact Frame.ofRows (Nat.le_refl _) (RowsFrame.refl _ _ _) (RowsFrame.delete _ _ _ _)
  | importConfig commands scripts =>
      simp only [transaction, importConfig, bind_eq_ok] at h
      obtain ⟨⟨commandRows, next₁, _, _⟩, hc, ⟨scriptRows, next₂, _, _⟩, hs, h⟩ := h
      cases h
      obtain ⟨hle₁, hframe₁⟩ := RowsFrame.importRows hc
      obtain ⟨hle₂, hframe₂⟩ := RowsFrame.importRows hs
      exact Frame.ofRows (Nat.le_trans hle₁ hle₂) (hframe₁.mono (Nat.le_refl _) hle₂)
        (hframe₂.mono hle₁ (Nat.le_refl _))

end Pack
end NodeNexus
