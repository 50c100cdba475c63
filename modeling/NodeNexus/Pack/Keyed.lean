import NodeNexus.Pack.Registries

/-!
# The keys of packs and assets

No pack and no asset has an id that is still to be drawn, no asset belongs to a
pack that is still to come, and the unique index of the packs holds.

* `Store.Keyed` is the invariant, `KeysKept` what every operation does to the
  ids.
* `keyed_of_reachable` — it holds in every reachable catalog.
-/

namespace NodeNexus
namespace Pack

open Content

/-- The keys of packs and assets are in order. -/
structure Store.Keyed (s : Store) : Prop where
  indexed : PacksIndexed s.packs
  packs : ∀ p ∈ s.packs.rows, p.id < s.nextId
  assets : ∀ a ∈ s.assets.rows, a.id < s.nextId ∧ a.packId < s.nextId

/-- New packs and new assets have ids that have been drawn. -/
structure KeysKept (s s' : Store) : Prop where
  nextId : s.nextId ≤ s'.nextId
  packs : ∀ p' ∈ s'.packs.rows, (∃ p ∈ s.packs.rows, p.id = p'.id) ∨ p'.id < s'.nextId
  assets : ∀ a' ∈ s'.assets.rows,
    a' ∈ s.assets.rows ∨ a'.id < s'.nextId ∧ a'.packId < s'.nextId

theorem KeysKept.refl (s : Store) : KeysKept s s :=
  ⟨Nat.le_refl _, fun p hp => .inl ⟨p, hp, rfl⟩, fun _ ha => .inl ha⟩

theorem KeysKept.trans {s t u : Store} (h₁ : KeysKept s t) (h₂ : KeysKept t u) : KeysKept s u where
  nextId := Nat.le_trans h₁.nextId h₂.nextId
  packs p hp := by
    rcases h₂.packs p hp with ⟨q, hq, hid⟩ | hlt
    · rw [← hid]
      rcases h₁.packs q hq with hold | hlt
      · exact .inl hold
      · exact .inr (Nat.lt_of_lt_of_le hlt h₂.nextId)
    · exact .inr hlt
  assets a ha := by
    rcases h₂.assets a ha with ha | hlt
    · rcases h₁.assets a ha with hold | ⟨hid, hpack⟩
      · exact .inl hold
      · exact .inr ⟨Nat.lt_of_lt_of_le hid h₂.nextId, Nat.lt_of_lt_of_le hpack h₂.nextId⟩
    · exact .inr hlt

/-- The keys stay in order where the index is kept and new ids are drawn. -/
theorem Store.Keyed.kept {s s' : Store} (h : s.Keyed) (hindex : IndexKept s s')
    (hkeys : KeysKept s s') : s'.Keyed where
  indexed := hindex.indexed h.indexed
  packs p hp := by
    rcases hkeys.packs p hp with ⟨q, hq, hid⟩ | hlt
    · rw [← hid]
      exact Nat.lt_of_lt_of_le (h.packs q hq) hkeys.nextId
    · exact hlt
  assets a ha := by
    rcases hkeys.assets a ha with ha | hlt
    · obtain ⟨hid, hpack⟩ := h.assets a ha
      exact ⟨Nat.lt_of_lt_of_le hid hkeys.nextId, Nat.lt_of_lt_of_le hpack hkeys.nextId⟩
    · exact hlt

/-! ## Operations -/

/-- Packs change as in a frame, assets not at all. -/
theorem Frame.keysKept {s s' : Store} (h : Frame s s') (hassets : s'.assets = s.assets) :
    KeysKept s s' where
  nextId := h.nextId
  packs p hp := by
    rcases h.packs p hp with ⟨q, hq, hid, -⟩ | ⟨-, hlt, -⟩
    · exact .inl ⟨q, hq, hid⟩
    · exact .inr hlt
  assets a ha := .inl (hassets ▸ ha)

/-- A stored pack is rewritten, assets do not change. -/
theorem KeysKept.rewrite {s s' : Store} {old row : PackRow} (hold : old ∈ s.packs.rows)
    (hpacks : s'.packs = s.packs.put row) (hid : old.id = row.id) (hassets : s'.assets = s.assets)
    (hnext : s.nextId ≤ s'.nextId) : KeysKept s s' where
  nextId := hnext
  packs p hp := by
    rw [hpacks] at hp
    rcases Table.mem_put.1 hp with rfl | ⟨hp, -⟩
    · exact .inl ⟨old, hold, hid⟩
    · exact .inl ⟨p, hp, rfl⟩
  assets a ha := .inl (hassets ▸ ha)

theorem Uninstalled.keysKept {now : Time} {s s' : Store} {pack : PackRow}
    (hmem : pack ∈ s.packs.rows) (hu : Uninstalled now s s' pack) : KeysKept s s' :=
  KeysKept.rewrite hmem hu.packs rfl hu.assets (Nat.le_of_eq hu.nextId.symm)

theorem Installed.keysKept {now : Time} {s s' : Store} {pack : PackRow}
    {newCommands : List CommandRow} {newScripts : List ScriptRow} {links : List Installation}
    (hmem : ∃ old ∈ s.packs.rows, old.id = pack.id)
    (hi : Installed now s s' pack newCommands newScripts links) : KeysKept s s' := by
  obtain ⟨old, hold, hid⟩ := hmem
  have hnext : s.nextId ≤ s'.nextId := by
    rw [hi.nextId, Nat.add_assoc, Nat.add_assoc]
    exact Nat.le_add_right _ _
  have hpacks := hi.packs
  split at hpacks
  · exact ⟨hnext, fun p hp => .inl ⟨p, hpacks ▸ hp, rfl⟩, fun a ha => .inl (hi.assets ▸ ha)⟩
  · exact KeysKept.rewrite hold hpacks hid hi.assets hnext

/-- The assets that are written belong to their pack. -/
theorem saveAssets_keys {env : Env} {now : Time} {packId : Uuid} {s s' : Store}
    {assets : List (PackAssetCreate × List UInt8)}
    (h : saveAssets env now packId s assets = .ok s') :
    s.nextId ≤ s'.nextId ∧ ∀ a ∈ s'.assets.rows,
      a ∈ s.assets.rows ∨ a.id < s'.nextId ∧ a.packId = packId := by
  induction assets generalizing s with
  | nil =>
      cases h
      exact ⟨Nat.le_refl _, fun _ ha => .inl ha⟩
  | cons d rest ih =>
      obtain ⟨asset, raw⟩ := d
      simp only [saveAssets, bind_eq_ok] at h
      obtain ⟨row, hrow, h⟩ := h
      split at h
      · cases h
      · obtain ⟨hle, hassets⟩ := ih h
        have hlt : s.nextId < s'.nextId := Nat.lt_of_succ_le hle
        refine ⟨Nat.le_of_lt hlt, ?_⟩
        intro a ha
        rcases hassets a ha with ha | hnew
        · rcases Table.mem_put.1 ha with rfl | ⟨ha, -⟩
          · simp only [bindAsset, bind_eq_ok] at hrow
            obtain ⟨_, -, _, -, hrow⟩ := hrow
            cases hrow
            exact .inr ⟨hlt, rfl⟩
          · exact .inl ha
        · exact .inr hnew

/-- The same for the assets that a pack comes with. -/
theorem writeAssets_keys {env : Env} {now : Time} {packId : Uuid} {s s' : Store}
    {decoded : List (PackAssetCreate × List UInt8)}
    (h : (if decoded.isEmpty = true then .ok s
      else writeAssets env now packId s (decoded.map (·.1))) = .ok s') :
    s.nextId ≤ s'.nextId ∧ ∀ a ∈ s'.assets.rows,
      a ∈ s.assets.rows ∨ a.id < s'.nextId ∧ a.packId = packId := by
  split at h
  · cases h
    exact ⟨Nat.le_refl _, fun _ ha => .inl ha⟩
  · simp only [writeAssets, bind_eq_ok] at h
    obtain ⟨_, -, h⟩ := h
    exact saveAssets_keys h

/-- The same as a part of `upsert_synced_pack`. -/
theorem storeAssets_keys {env : Env} {now : Time} {packId : Uuid} {s : Store}
    {decoded : List (PackAssetCreate × List UInt8)} {outcome : SyncOutcome}
    {result : Store × Uuid × SyncOutcome}
    (h : (do
      let stored ← if decoded.isEmpty then .ok s
        else writeAssets env now packId s (decoded.map (·.1))
      .ok (stored, packId, outcome) : Except Failure _) = .ok result) :
    s.nextId ≤ result.1.nextId ∧ ∀ a ∈ result.1.assets.rows,
      a ∈ s.assets.rows ∨ a.id < result.1.nextId ∧ a.packId = packId := by
  split at h
  · cases h
    exact ⟨Nat.le_refl _, fun _ ha => .inl ha⟩
  · simp only [writeAssets, bind_eq_ok] at h
    obtain ⟨stored, ⟨_, -, hstored⟩, h⟩ := h
    cases h
    exact saveAssets_keys hstored

theorem keysKept_createPack {env : Env} {now : Time} {s s' : Store} {data : PackCreate}
    (h : createPack env now s data = .ok s') : KeysKept s s' := by
  have hframe := (createPack_eq_ok h).frame
  simp only [createPack, bind_eq_ok] at h
  obtain ⟨packId, -, commands, -, scripts, -, decoded, -, h⟩ := h
  split at h
  · cases h
  · simp only [bind_eq_ok] at h
    obtain ⟨stored, hstored, h⟩ := h
    obtain ⟨row, -, -, rfl⟩ := insertPack_eq_ok hstored
    obtain ⟨hle, hassets⟩ := writeAssets_keys h
    refine ⟨hframe.nextId, ?_, ?_⟩
    · intro p hp
      rcases hframe.packs p hp with ⟨q, hq, hid, -⟩ | ⟨-, hlt, -⟩
      · exact .inl ⟨q, hq, hid⟩
      · exact .inr hlt
    · intro a ha
      rcases hassets a ha with ha | ⟨hid, hpack⟩
      · exact .inl ha
      · refine .inr ⟨hid, ?_⟩
        rw [hpack]
        exact Nat.lt_of_succ_le hle

theorem keysKept_upsertSyncedPack {env : Env} {now : Time} {s : Store} {data : SyncedPack}
    {result : Store × Uuid × SyncOutcome} (hs : s.Keyed)
    (h : upsertSyncedPack env now s data = .ok result) : KeysKept s result.1 := by
  have hframe := (upsertSyncedPack_eq_ok h).frame
  have hpacks : ∀ p' ∈ result.1.packs.rows,
      (∃ p ∈ s.packs.rows, p.id = p'.id) ∨ p'.id < result.1.nextId := by
    intro p hp
    rcases hframe.packs p hp with ⟨q, hq, hid, -⟩ | ⟨-, hlt, -⟩
    · exact .inl ⟨q, hq, hid⟩
    · exact .inr hlt
  simp only [upsertSyncedPack, bind_eq_ok] at h
  obtain ⟨packId, -, decoded, -, h⟩ := h
  split at h
  · rename_i row hfind
    split at h
    · cases h
      exact KeysKept.refl s
    · simp only [bind_eq_ok] at h
      obtain ⟨row₁, hrow₁, row₂, hrow₂, stored, hstored, h⟩ := h
      have hid := (PackRow.setFields_eq_ok hrow₁).1
      have hcontent := PackRow.setContent_eq_ok hrow₂
      have hstored := Store.savePack_eq_ok hstored
      subst hstored hcontent
      obtain ⟨hle, hrows⟩ := storeAssets_keys h
      refine ⟨hle, hpacks, ?_⟩
      intro a ha
      rcases hrows a ha with ha | ⟨haid, hpack⟩
      · exact .inl (Table.mem_keep.1 ha).1
      · refine .inr ⟨haid, ?_⟩
        rw [hpack]
        show row₁.id < _
        rw [hid]
        exact Nat.lt_of_lt_of_le (hs.packs row (List.mem_of_find?_eq_some hfind)) hle
  · simp only [bind_eq_ok] at h
    obtain ⟨stored, hstored, h⟩ := h
    obtain ⟨row, -, -, rfl⟩ := insertPack_eq_ok hstored
    obtain ⟨hle, hrows⟩ := storeAssets_keys h
    refine ⟨hframe.nextId, hpacks, ?_⟩
    intro a ha
    rcases hrows a ha with ha | ⟨haid, hpack⟩
    · exact .inl ha
    · refine .inr ⟨haid, ?_⟩
      rw [hpack]
      exact Nat.lt_of_succ_le hle

/-- **Every operation draws the ids of new packs and assets.** -/
theorem keysKept_of_transaction {env : Env} {s s' : Store} {e : Event} (hs : s.Keyed)
    (h : transaction env s e = .ok s') : KeysKept s s' := by
  cases e with
  | createPack now data => exact keysKept_createPack h
  | installPack now packId onConflict =>
      obtain ⟨⟨t, result⟩, hresult, rfl⟩ := map_eq_ok.1 h
      unfold installPack at hresult
      split at hresult
      · cases hresult
      · rename_i pack hfind
        obtain ⟨-, _, _, _, hi⟩ := installInSession_eq_ok hresult
        exact hi.keysKept ⟨pack, Table.mem_of_find? hfind, rfl⟩
  | uninstallPack now packId =>
      obtain ⟨pack, hmem, -, hu⟩ := uninstallPack_eq_ok h
      exact hu.keysKept hmem
  | updatePack now packId onConflict =>
      obtain ⟨⟨t, result⟩, hresult, rfl⟩ := map_eq_ok.1 h
      unfold updatePack at hresult
      split at hresult
      · cases hresult
      · rename_i pack hfind
        obtain ⟨-, _, _, _, hi⟩ := installInSession_eq_ok hresult
        have hu := uninstalled_uninstallInSession now s pack
        refine (hu.keysKept (Table.mem_of_find? hfind)).trans (hi.keysKept ?_)
        refine ⟨pack.uninstalled now, ?_, rfl⟩
        rw [hu.packs]
        exact Table.mem_put.2 (.inl rfl)
  | deletePack now packId =>
      obtain ⟨pack, hmem, -, t, hu, rfl⟩ := deletePack_eq_ok h
      refine (hu.keysKept hmem).trans ⟨Nat.le_refl _, ?_, ?_⟩
      · intro p hp
        exact .inl ⟨p, (Table.mem_erase.1 hp).1, rfl⟩
      · intro a ha
        exact .inl (Table.mem_keep.1 ha).1
  | upsertSyncedPack now data =>
      obtain ⟨result, hresult, rfl⟩ := map_eq_ok.1 h
      exact keysKept_upsertSyncedPack hs hresult
  | patchPack now packId data =>
      obtain ⟨result, hresult, rfl⟩ := map_eq_ok.1 h
      refine (patchPack_eq_ok hresult).frame.keysKept ?_
      unfold patchPack at hresult
      split at hresult
      · cases hresult
      · obtain ⟨row, -, hresult⟩ := bind_eq_ok.1 hresult
        cases hresult
        rfl
  | createCommand data | updateCommand id data | createScript data | updateScript id data =>
      refine (frame_of_transaction rfl h).keysKept ?_
      simp only [transaction, bind_eq_ok] at h
      obtain ⟨_, -, h⟩ := h
      cases h
      rfl
  | deleteCommand id | deleteScript id =>
      refine (frame_of_transaction rfl h).keysKept ?_
      cases h
      rfl
  | importConfig commands scripts =>
      refine (frame_of_transaction rfl h).keysKept ?_
      simp only [transaction, importConfig, bind_eq_ok] at h
      obtain ⟨_, -, _, -, h⟩ := h
      cases h
      rfl

/-! ## Reachable catalogs -/

theorem keyed_apply {env : Env} {encrypt : String → String} {c c' : Catalog} {e : CatalogEvent}
    (hc : c.store.Keyed) (h : c.apply env encrypt e = .ok c') : c'.store.Keyed := by
  have hindexed := packsIndexed_apply hc.indexed h
  cases e with
  | store e =>
      cases h
      rcases perform_cases env c.store e with hok | hsame
      · exact hc.kept (indexKept_of_transaction hok) (keysKept_of_transaction hc hok)
      · show (perform env c.store e).Keyed
        rw [hsame]
        exact hc
  | createRegistry now data =>
      simp only [Catalog.apply, createRegistry] at h
      split at h
      · cases h
      · obtain ⟨row, -, h⟩ := bind_eq_ok.1 h
        cases h
        refine ⟨hindexed, ?_, ?_⟩
        · intro p hp
          exact Nat.lt_succ_of_lt (hc.packs p hp)
        · intro a ha
          obtain ⟨hid, hpack⟩ := hc.assets a ha
          exact ⟨Nat.lt_succ_of_lt hid, Nat.lt_succ_of_lt hpack⟩
  | patchRegistry now id data =>
      simp only [Catalog.apply, patchRegistry] at h
      split at h
      · cases h
      · split at h
        · cases h
        · obtain ⟨row, -, h⟩ := bind_eq_ok.1 h
          cases h
          exact ⟨hindexed, hc.packs, hc.assets⟩
  | touchSynced now id =>
      simp only [Catalog.apply, touchSynced] at h
      split at h
      · cases h
      · cases h
        exact ⟨hindexed, hc.packs, hc.assets⟩
  | deleteRegistry id =>
      simp only [Catalog.apply, deleteRegistry] at h
      split at h
      · cases h
      · split at h
        · cases h
          refine ⟨hindexed, ?_, hc.assets⟩
          intro p hp
          obtain ⟨q, hq, rfl⟩ := mem_eraseRegistry.1 hp
          rw [PackRow.clearRegistry_id]
          exact hc.packs q hq
        · cases h

/-- **The keys are in order in every reachable catalog.** -/
theorem keyed_of_reachable {env : Env} {encrypt : String → String} {c : Catalog}
    (h : (catalogSystem env encrypt).Reachable c) : c.store.Keyed := by
  refine h.invariant (I := fun c => c.store.Keyed) ?_ ?_
  · rintro c rfl
    refine ⟨?_, ?_, ?_⟩
    · intro p hp
      cases hp
    · intro p hp
      cases hp
    · intro a ha
      cases ha
  · intro c e c' hc _ hstep
    cases hstep
    unfold Catalog.perform
    cases ha : c.apply env encrypt e with
    | ok c' => exact keyed_apply hc ha
    | error f => exact hc

end Pack
end NodeNexus
