import NodeNexus.Pack.Frames

/-!
# Links that are removed

`_uninstall_in_session` walks over the links of a pack and deletes the row each
one names, if it still exists, and the link.

* `Uninstalled` — its effect: exactly the links of the pack and the rows they
  name are gone.
* `StoreInv.uninstalled_of` — the invariant is kept.
* `deletePackRow_frame` — by the invariant no row of an uninstalled pack is
  left, so deleting the pack itself touches no other row.
-/

namespace NodeNexus
namespace Pack

open Content

variable {Body : Type}

/-! ## The loop over the links -/

theorem mem_eraseEntity_commands {s : Store} {entity : EntityType} {id : Uuid} {r : CommandRow} :
    r ∈ (s.eraseEntity entity id).commands.rows ↔
      r ∈ s.commands.rows ∧ ¬(entity = .command ∧ id = r.id) := by
  cases entity with
  | command =>
      rw [Store.eraseEntity, Table.mem_erase]
      simp [eq_comm]
  | script => simp [Store.eraseEntity]

theorem mem_eraseEntity_scripts {s : Store} {entity : EntityType} {id : Uuid} {r : ScriptRow} :
    r ∈ (s.eraseEntity entity id).scripts.rows ↔
      r ∈ s.scripts.rows ∧ ¬(entity = .script ∧ id = r.id) := by
  cases entity with
  | command => simp [Store.eraseEntity]
  | script =>
      rw [Store.eraseEntity, Table.mem_erase]
      simp [eq_comm]

/-- Erasing an entity touches one of the two tables of rows only. -/
theorem eraseEntity_rest (s : Store) (entity : EntityType) (id : Uuid) :
    (s.eraseEntity entity id).packs = s.packs ∧
      (s.eraseEntity entity id).installations = s.installations ∧
      (s.eraseEntity entity id).assets = s.assets ∧
      (s.eraseEntity entity id).registries = s.registries ∧
      (s.eraseEntity entity id).nextId = s.nextId := by
  cases entity <;> exact ⟨rfl, rfl, rfl, rfl, rfl⟩

/-- The effect of the loop on the tables. -/
structure LinksRemoved (s s' : Store) (links : List Installation) : Prop where
  packs : s'.packs = s.packs
  assets : s'.assets = s.assets
  registries : s'.registries = s.registries
  nextId : s'.nextId = s.nextId
  installations : ∀ link, link ∈ s'.installations.rows ↔
    link ∈ s.installations.rows ∧ ∀ l ∈ links, link.id ≠ l.id
  commands : ∀ r, r ∈ s'.commands.rows ↔
    r ∈ s.commands.rows ∧ ∀ l ∈ links, ¬(l.entityType = .command ∧ l.entityId = r.id)
  scripts : ∀ r, r ∈ s'.scripts.rows ↔
    r ∈ s.scripts.rows ∧ ∀ l ∈ links, ¬(l.entityType = .script ∧ l.entityId = r.id)

theorem linksRemoved_removeLinks (s : Store) (links : List Installation) :
    LinksRemoved s (removeLinks s links) links := by
  induction links generalizing s with
  | nil => exact ⟨rfl, rfl, rfl, rfl, by simp [removeLinks], by simp [removeLinks],
      by simp [removeLinks]⟩
  | cons link rest ih =>
      obtain ⟨hpacks, hinst, hassets, hregistries, hnext⟩ :=
        eraseEntity_rest s link.entityType link.entityId
      have hrest := ih { s.eraseEntity link.entityType link.entityId with
        installations := (s.eraseEntity link.entityType link.entityId).installations.erase link.id }
      exact
        { packs := hrest.packs.trans hpacks
          assets := hrest.assets.trans hassets
          registries := hrest.registries.trans hregistries
          nextId := hrest.nextId.trans hnext
          installations := by
            intro l
            show l ∈ (removeLinks _ rest).installations.rows ↔ _
            rw [hrest.installations, Table.mem_erase, hinst, List.forall_mem_cons, and_assoc]
          commands := by
            intro r
            show r ∈ (removeLinks _ rest).commands.rows ↔ _
            rw [hrest.commands, mem_eraseEntity_commands, List.forall_mem_cons, and_assoc]
          scripts := by
            intro r
            show r ∈ (removeLinks _ rest).scripts.rows ↔ _
            rw [hrest.scripts, mem_eraseEntity_scripts, List.forall_mem_cons, and_assoc] }

/-! ## Uninstalling -/

/-- The effect of `_uninstall_in_session`. -/
structure Uninstalled (now : Time) (s s' : Store) (pack : PackRow) : Prop where
  packs : s'.packs = s.packs.put (pack.uninstalled now)
  assets : s'.assets = s.assets
  registries : s'.registries = s.registries
  nextId : s'.nextId = s.nextId
  /-- The links that remain are those of other packs. -/
  installations : ∀ link, link ∈ s'.installations.rows ↔
    link ∈ s.installations.rows ∧ link.packId ≠ pack.id
  /-- The commands that remain are those the pack is not linked to. -/
  commands : ∀ r, r ∈ s'.commands.rows ↔
    r ∈ s.commands.rows ∧ ¬s.linked pack.id .command r.id
  scripts : ∀ r, r ∈ s'.scripts.rows ↔
    r ∈ s.scripts.rows ∧ ¬s.linked pack.id .script r.id

/-- No link of a pack names a row exactly when the row is not linked to it. -/
theorem not_linked_iff {s : Store} {packId : Uuid} {entity : EntityType} {id : Uuid} :
    (∀ l ∈ s.installations.rows.filter (fun link => link.packId = packId),
        ¬(l.entityType = entity ∧ l.entityId = id)) ↔ ¬s.linked packId entity id := by
  constructor
  · rintro h ⟨link, hlink, hpack, hentity, hid⟩
    refine h link ?_ ⟨hentity, hid⟩
    exact List.mem_filter.2 ⟨hlink, decide_eq_true hpack⟩
  · rintro h l hl ⟨hentity, hid⟩
    obtain ⟨hlink, hpack⟩ := List.mem_filter.1 hl
    exact h ⟨l, hlink, of_decide_eq_true hpack, hentity, hid⟩

/-- **Uninstalling removes exactly the links of the pack and the rows they name.** -/
theorem uninstalled_uninstallInSession (now : Time) (s : Store) (pack : PackRow) :
    Uninstalled now s (uninstallInSession now s pack) pack := by
  have h := linksRemoved_removeLinks s
    (s.installations.rows.filter fun link => link.packId = pack.id)
  exact
    { packs := by
        show (removeLinks s _).packs.put _ = _
        rw [h.packs]
      assets := h.assets
      registries := h.registries
      nextId := h.nextId
      installations := by
        intro link
        show link ∈ (removeLinks s _).installations.rows ↔ _
        rw [h.installations]
        -- ids of links are unique, so the links with the removed ids are the removed links
        refine and_congr_right fun hlink => ⟨?_, ?_⟩
        · intro hne hpack
          exact hne link (List.mem_filter.2 ⟨hlink, decide_eq_true hpack⟩) rfl
        · intro hpack l hl hid
          obtain ⟨hl, hlp⟩ := List.mem_filter.1 hl
          rw [s.installations.eq_of_key_eq hlink hl hid] at hpack
          exact hpack (of_decide_eq_true hlp)
      commands := by
        intro r
        show r ∈ (removeLinks s _).commands.rows ↔ _
        rw [h.commands, not_linked_iff]
      scripts := by
        intro r
        show r ∈ (removeLinks s _).scripts.rows ↔ _
        rw [h.scripts, not_linked_iff] }

section Uninstall

variable {now : Time} {s s' : Store} {pack : PackRow}

/-- What was linked to another pack still is. -/
theorem Uninstalled.linked (hu : Uninstalled now s s' pack) {packId : Uuid} {entity : EntityType}
    {id : Uuid} (h : s.linked packId entity id) (hne : packId ≠ pack.id) :
    s'.linked packId entity id := by
  obtain ⟨link, hlink, hpack, hentity⟩ := h
  refine ⟨link, (hu.installations link).2 ⟨hlink, ?_⟩, hpack, hentity⟩
  rw [hpack]
  exact hne

/-- Rows and links of one kind agree after an uninstallation. -/
theorem Agrees.uninstalled (hu : Uninstalled now s s' pack) {entity : EntityType}
    {old new : Rows Body} (h : Agrees s entity old)
    (hmem : ∀ r, r ∈ new.rows ↔ r ∈ old.rows ∧ ¬s.linked pack.id entity r.id) :
    Agrees s' entity new where
  linked r hr packId hpack := by
    obtain ⟨hr, hnot⟩ := (hmem r).1 hr
    have hlinked := h.linked r hr packId hpack
    refine hu.linked hlinked ?_
    rintro rfl
    exact hnot hlinked
  owned link hlink hentity r hr hid :=
    h.owned link ((hu.installations link).1 hlink).1 hentity r ((hmem r).1 hr).1 hid

/-- **An uninstallation keeps the invariant.** -/
theorem StoreInv.uninstalled_of (hu : Uninstalled now s s' pack) (h : StoreInv s)
    (hmem : pack ∈ s.packs.rows) : StoreInv s' where
  drawn :=
    { packs := by
        intro p hp
        rw [hu.packs] at hp
        rw [hu.nextId]
        rcases Table.mem_put.1 hp with rfl | ⟨hp, -⟩
        · exact h.drawn.packs pack hmem
        · exact h.drawn.packs p hp
      installations := by
        intro link hlink
        rw [hu.nextId]
        exact h.drawn.installations link ((hu.installations link).1 hlink).1
      commands := by
        intro r hr
        rw [hu.nextId]
        exact h.drawn.commands r ((hu.commands r).1 hr).1
      scripts := by
        intro r hr
        rw [hu.nextId]
        exact h.drawn.scripts r ((hu.scripts r).1 hr).1 }
  linkDrawn := by
    intro link hlink
    rw [hu.nextId]
    exact h.linkDrawn link ((hu.installations link).1 hlink).1
  installed := by
    intro p hp
    rw [hu.packs] at hp
    rcases Table.mem_put.1 hp with rfl | ⟨hp, hne⟩
    · -- the pack itself: neither version nor links
      constructor
      · intro hsome
        cases hsome
      · rintro ⟨link, hlink, hpack⟩
        exact absurd hpack ((hu.installations link).1 hlink).2
    · rw [h.installed p hp]
      constructor
      · rintro ⟨link, hlink, hpack⟩
        refine ⟨link, (hu.installations link).2 ⟨hlink, ?_⟩, hpack⟩
        rw [hpack]
        exact hne
      · rintro ⟨link, hlink, hpack⟩
        exact ⟨link, ((hu.installations link).1 hlink).1, hpack⟩
  unique := by
    intro link hlink link' hlink'
    exact h.unique link ((hu.installations link).1 hlink).1
      link' ((hu.installations link').1 hlink').1
  commands := h.commands.uninstalled hu hu.commands
  scripts := h.scripts.uninstalled hu hu.scripts

end Uninstall

/-! ## Deleting -/

/-- Where no row belongs to a pack, `ON DELETE SET NULL` changes nothing. -/
theorem clearPack_eq_self {s : Store} {entity : EntityType} {rows : Rows Body} {packId : Uuid}
    (h : Agrees s entity rows) (hno : ∀ link ∈ s.installations.rows, link.packId ≠ packId) :
    rows.clearPack packId = rows := by
  refine Table.mapRows_eq_self fun r hr => if_neg ?_
  intro hpack
  obtain ⟨link, hlink, hlp, -⟩ := h.linked r hr packId hpack
  exact hno link hlink hlp

/-- Deleting a pack without links touches the pack and its assets only. -/
theorem deletePackRow_rows {s : Store} (h : StoreInv s) {packId : Uuid}
    (hno : ∀ link ∈ s.installations.rows, link.packId ≠ packId) :
    (s.deletePackRow packId).installations = s.installations ∧
      (s.deletePackRow packId).commands = s.commands ∧
      (s.deletePackRow packId).scripts = s.scripts := by
  refine ⟨?_, ?_, ?_⟩
  · exact Table.keep_eq_self fun link hlink => decide_eq_true (hno link hlink)
  · exact clearPack_eq_self h.commands hno
  · exact clearPack_eq_self h.scripts hno

theorem deletePackRow_frame {s : Store} (h : StoreInv s) {packId : Uuid}
    (hno : ∀ link ∈ s.installations.rows, link.packId ≠ packId) :
    Frame s (s.deletePackRow packId) := by
  obtain ⟨hinst, hcommands, hscripts⟩ := deletePackRow_rows h hno
  exact
    { installations := hinst
      nextId := Nat.le_refl _
      packs := fun p hp => .inl ⟨p, (Table.mem_erase.1 hp).1, rfl, rfl⟩
      commands := by
        rw [hcommands]
        exact RowsFrame.refl _ _ _
      scripts := by
        rw [hscripts]
        exact RowsFrame.refl _ _ _ }

/-! ## The transactions -/

/-- What `uninstall_pack` does when it does not raise. -/
theorem uninstallPack_eq_ok {env : Env} {now : Time} {s s' : Store} {packId : Uuid}
    (h : uninstallPack env now s packId = .ok s') :
    ∃ pack ∈ s.packs.rows, pack.id = packId ∧ Uninstalled now s s' pack := by
  unfold uninstallPack at h
  split at h
  · cases h
  · rename_i pack hfind
    cases h
    exact ⟨pack, Table.mem_of_find? hfind, Table.key_of_find? hfind,
      uninstalled_uninstallInSession now s pack⟩

/-- What `delete_pack` does when it does not raise. -/
theorem deletePack_eq_ok {env : Env} {now : Time} {s s' : Store} {packId : Uuid}
    (h : deletePack env now s packId = .ok s') :
    ∃ pack ∈ s.packs.rows, pack.id = packId ∧
      ∃ t, Uninstalled now s t pack ∧ s' = t.deletePackRow pack.id := by
  unfold deletePack at h
  split at h
  · cases h
  · rename_i pack hfind
    cases h
    refine ⟨pack, Table.mem_of_find? hfind, Table.key_of_find? hfind, _,
      uninstalled_uninstallInSession now s pack, ?_⟩
    rw [Table.key_of_find? hfind]

end Pack
end NodeNexus
