import NodeNexus.Pack.Frames

/-!
# Links that are made

An installation keeps the invariant of the pack store: its rows and links get
new ids, there is one link for each row, and the version is set exactly when
there are links.

* `Installed.mem_installations`, `mem_commands`, `mem_scripts` — what an
  installation adds.
* `Installed.row_of_link` and `Installed.linked` — links and rows of one
  installation correspond.
* `StoreInv.installed_of` — the invariant is kept.
-/

namespace NodeNexus
namespace Pack

open Content

variable {Body : Type}

/-! ## What an installation adds -/

section Install

variable {now : Time} {s s' : Store} {pack : PackRow} {newCommands : List CommandRow}
  {newScripts : List ScriptRow} {links : List Installation}

/-- The ids of the new rows and links, one kind after the other, end at the next
id. -/
theorem Installed.nextId_bounds (hi : Installed now s s' pack newCommands newScripts links) :
    s.nextId + newCommands.length ≤ s'.nextId ∧
      s.nextId + newCommands.length + newScripts.length ≤ s'.nextId := by
  rw [hi.nextId]
  exact ⟨Nat.le_trans (Nat.le_add_right _ _) (Nat.le_add_right _ _), Nat.le_add_right _ _⟩

theorem Installed.le_nextId (hi : Installed now s s' pack newCommands newScripts links) :
    s.nextId ≤ s'.nextId :=
  Nat.le_trans (Nat.le_add_right _ _) hi.nextId_bounds.1

/-- The new links are added to the old ones. -/
theorem Installed.mem_installations (hi : Installed now s s' pack newCommands newScripts links)
    (h : StoreInv s) {link : Installation} :
    link ∈ s'.installations.rows ↔ link ∈ s.installations.rows ∨ link ∈ links := by
  rw [hi.installations]
  refine mem_putAll_of_ids hi.linkIds ?_
  intro l hl
  have hlt := h.drawn.installations l hl
  exact Nat.lt_of_lt_of_le hlt (Nat.le_trans (Nat.le_add_right _ _) (Nat.le_add_right _ _))

theorem Installed.mem_commands (hi : Installed now s s' pack newCommands newScripts links)
    (h : StoreInv s) {r : CommandRow} :
    r ∈ s'.commands.rows ↔ r ∈ s.commands.rows ∨ r ∈ newCommands := by
  rw [hi.commands]
  exact mem_putAll_of_ids hi.commandIds h.drawn.commands

theorem Installed.mem_scripts (hi : Installed now s s' pack newCommands newScripts links)
    (h : StoreInv s) {r : ScriptRow} :
    r ∈ s'.scripts.rows ↔ r ∈ s.scripts.rows ∨ r ∈ newScripts := by
  rw [hi.scripts]
  refine mem_putAll_of_ids hi.scriptIds ?_
  exact fun r hr => Nat.lt_of_lt_of_le (h.drawn.scripts r hr) (Nat.le_add_right _ _)

/-- A new link names a new row. -/
theorem Installed.row_of_link (hi : Installed now s s' pack newCommands newScripts links)
    {link : Installation} (hlink : link ∈ links) :
    (link.entityType = .command ∧ ∃ r ∈ newCommands, r.id = link.entityId) ∨
      (link.entityType = .script ∧ ∃ r ∈ newScripts, r.id = link.entityId) := by
  have hmem : (link.entityType, link.entityId) ∈
      links.map fun l => (l.entityType, l.entityId) := List.mem_map_of_mem hlink
  rw [hi.entities, List.mem_append] at hmem
  rcases hmem with hmem | hmem
  · obtain ⟨r, hr, heq⟩ := List.mem_map.1 hmem
    rw [Prod.mk.injEq] at heq
    exact .inl ⟨heq.1.symm, r, hr, heq.2⟩
  · obtain ⟨r, hr, heq⟩ := List.mem_map.1 hmem
    rw [Prod.mk.injEq] at heq
    exact .inr ⟨heq.1.symm, r, hr, heq.2⟩

/-- A new row has a new link. -/
theorem Installed.linked (hi : Installed now s s' pack newCommands newScripts links)
    (h : StoreInv s) {entity : EntityType} {id : Uuid}
    (hmem : (entity, id) ∈ newCommands.map (fun row => (EntityType.command, row.id)) ++
      newScripts.map (fun row => (EntityType.script, row.id))) :
    s'.linked pack.id entity id := by
  rw [← hi.entities] at hmem
  obtain ⟨link, hlink, heq⟩ := List.mem_map.1 hmem
  rw [Prod.mk.injEq] at heq
  exact ⟨link, (hi.mem_installations h).2 (.inr hlink), hi.linkPack link hlink, heq.1, heq.2⟩

/-- The rows named by new links have new ids. -/
theorem Installed.entity_bounds (hi : Installed now s s' pack newCommands newScripts links)
    {link : Installation} (hlink : link ∈ links) :
    s.nextId ≤ link.entityId ∧ link.entityId < s'.nextId := by
  rcases hi.row_of_link hlink with ⟨-, r, hr, hid⟩ | ⟨-, r, hr, hid⟩
  · obtain ⟨hge, hlt⟩ := bounds_of_ids hi.commandIds hr
    rw [← hid]
    exact ⟨hge, Nat.lt_of_lt_of_le hlt hi.nextId_bounds.1⟩
  · obtain ⟨hge, hlt⟩ := bounds_of_ids hi.scriptIds hr
    rw [← hid]
    exact ⟨Nat.le_trans (Nat.le_add_right _ _) hge, Nat.lt_of_lt_of_le hlt hi.nextId_bounds.2⟩

/-- No two new links name the same entity. -/
theorem Installed.unique (hi : Installed now s s' pack newCommands newScripts links) :
    (links.map fun link => (link.entityType, link.entityId)).Nodup := by
  rw [hi.entities, List.nodup_append]
  refine ⟨?_, ?_, ?_⟩
  · exact nodup_entities .command hi.commandIds
  · exact nodup_entities .script hi.scriptIds
  · rintro a ha b hb rfl
    obtain ⟨r, -, rfl⟩ := List.mem_map.1 ha
    obtain ⟨r', -, heq⟩ := List.mem_map.1 hb
    cases (Prod.mk.inj heq).1

/-! ## The invariant -/

/-- Rows and links of one kind agree after an installation. -/
theorem Agrees.installed (hi : Installed now s s' pack newCommands newScripts links)
    (h : StoreInv s) {entity : EntityType} {old new : Rows Body} {added : List (Row Body)}
    (hagrees : Agrees s entity old) (hmem : ∀ r, r ∈ new.rows ↔ r ∈ old.rows ∨ r ∈ added)
    (hold : ∀ r ∈ old.rows, r.id < s.nextId) (hge : ∀ r ∈ added, s.nextId ≤ r.id)
    (hpack : ∀ r ∈ added, r.templatePackId = some pack.id)
    (hlinked : ∀ r ∈ added, s'.linked pack.id entity r.id) : Agrees s' entity new where
  linked r hr packId hid := by
    rcases (hmem r).1 hr with hr | hr
    · obtain ⟨link, hlink, hlp⟩ := hagrees.linked r hr packId hid
      exact ⟨link, (hi.mem_installations h).2 (.inl hlink), hlp⟩
    · rw [hpack r hr, Option.some.injEq] at hid
      rw [← hid]
      exact hlinked r hr
  owned link hlink hentity r hr hid := by
    -- an old link names an old row, and a new link a new one
    rcases (hi.mem_installations h).1 hlink with hlink | hlink <;>
      rcases (hmem r).1 hr with hr | hr
    · exact hagrees.owned link hlink hentity r hr hid
    · have hlt := (h.linkDrawn link hlink).2
      rw [← hid] at hlt
      exact absurd hlt (Nat.not_lt.2 (hge r hr))
    · have hge' := (hi.entity_bounds hlink).1
      rw [← hid] at hge'
      exact absurd (hold r hr) (Nat.not_lt.2 hge')
    · rw [hi.linkPack link hlink]
      exact hpack r hr

/-- **An installation keeps the invariant.** -/
theorem StoreInv.installed_of (hi : Installed now s s' pack newCommands newScripts links)
    (h : StoreInv s) (hfind : pack ∈ s.packs.rows) (hversion : pack.installedVersion = none) :
    StoreInv s' where
  drawn :=
    { packs := by
        intro p hp
        have hlt : p.id < s.nextId := by
          rw [hi.packs] at hp
          split at hp
          · exact h.drawn.packs p hp
          · rcases Table.mem_put.1 hp with rfl | ⟨hp, -⟩
            · exact h.drawn.packs pack hfind
            · exact h.drawn.packs p hp
        exact Nat.lt_of_lt_of_le hlt hi.le_nextId
      installations := by
        intro link hlink
        rcases (hi.mem_installations h).1 hlink with hlink | hlink
        · exact Nat.lt_of_lt_of_le (h.drawn.installations link hlink) hi.le_nextId
        · rw [hi.nextId]
          exact (bounds_of_ids hi.linkIds hlink).2
      commands := by
        intro r hr
        rcases (hi.mem_commands h).1 hr with hr | hr
        · exact Nat.lt_of_lt_of_le (h.drawn.commands r hr) hi.le_nextId
        · exact Nat.lt_of_lt_of_le (bounds_of_ids hi.commandIds hr).2 hi.nextId_bounds.1
      scripts := by
        intro r hr
        rcases (hi.mem_scripts h).1 hr with hr | hr
        · exact Nat.lt_of_lt_of_le (h.drawn.scripts r hr) hi.le_nextId
        · exact Nat.lt_of_lt_of_le (bounds_of_ids hi.scriptIds hr).2 hi.nextId_bounds.2 }
  linkDrawn := by
    intro link hlink
    rcases (hi.mem_installations h).1 hlink with hlink | hlink
    · obtain ⟨hpack, hentity⟩ := h.linkDrawn link hlink
      exact ⟨Nat.lt_of_lt_of_le hpack hi.le_nextId, Nat.lt_of_lt_of_le hentity hi.le_nextId⟩
    · refine ⟨?_, (hi.entity_bounds hlink).2⟩
      rw [hi.linkPack link hlink]
      exact Nat.lt_of_lt_of_le (h.drawn.packs pack hfind) hi.le_nextId
  installed := by
    intro p hp
    by_cases hid : p.id = pack.id
    · -- the pack itself: the version is set exactly when there are new links
      have hnolink : ¬∃ link ∈ s.installations.rows, link.packId = pack.id := by
        rw [← h.installed pack hfind, hversion]
        exact Bool.false_ne_true
      rw [hi.packs] at hp
      split at hp
      · rename_i hnil
        have heq := s.packs.eq_of_key_eq hp hfind hid
        subst heq
        rw [hversion]
        refine ⟨fun hsome => absurd hsome Bool.false_ne_true, ?_⟩
        rintro ⟨link, hlink, hpack⟩
        rcases (hi.mem_installations h).1 hlink with hlink | hlink
        · exact absurd ⟨link, hlink, hpack⟩ hnolink
        · rw [hnil] at hlink
          cases hlink
      · rename_i hne
        rcases Table.mem_put.1 hp with rfl | ⟨-, hne'⟩
        · obtain ⟨link, rest, hlinks⟩ := List.exists_cons_of_ne_nil hne
          have hlink : link ∈ links := by
            rw [hlinks]
            exact List.mem_cons_self ..
          exact ⟨fun _ => ⟨link, (hi.mem_installations h).2 (.inr hlink), hi.linkPack link hlink⟩,
            fun _ => rfl⟩
        · exact absurd hid hne'
    · -- any other pack and its links are as before
      have hp' : p ∈ s.packs.rows := by
        rw [hi.packs] at hp
        split at hp
        · exact hp
        · rcases Table.mem_put.1 hp with rfl | ⟨hp, -⟩
          · exact absurd rfl hid
          · exact hp
      rw [h.installed p hp']
      constructor
      · rintro ⟨link, hlink, hpack⟩
        exact ⟨link, (hi.mem_installations h).2 (.inl hlink), hpack⟩
      · rintro ⟨link, hlink, hpack⟩
        rcases (hi.mem_installations h).1 hlink with hlink | hlink
        · exact ⟨link, hlink, hpack⟩
        · exact absurd (hpack.symm.trans (hi.linkPack link hlink)) hid
  unique := by
    intro link hlink link' hlink' htype hid
    rcases (hi.mem_installations h).1 hlink with hlink | hlink <;>
      rcases (hi.mem_installations h).1 hlink' with hlink' | hlink'
    · exact h.unique link hlink link' hlink' htype hid
    · have hlt := (h.linkDrawn link hlink).2
      have hge := (hi.entity_bounds hlink').1
      rw [← hid] at hge
      exact absurd hlt (Nat.not_lt.2 hge)
    · have hlt := (h.linkDrawn link' hlink').2
      have hge := (hi.entity_bounds hlink).1
      rw [hid] at hge
      exact absurd hlt (Nat.not_lt.2 hge)
    · exact List.inj_on_of_nodup_map hi.unique hlink hlink' (by rw [htype, hid])
  commands := by
    refine Agrees.installed hi h h.commands (fun r => hi.mem_commands h) h.drawn.commands ?_
      hi.commandPack ?_
    · exact fun r hr => (bounds_of_ids hi.commandIds hr).1
    · intro r hr
      exact hi.linked h (List.mem_append_left _ (List.mem_map_of_mem hr))
  scripts := by
    refine Agrees.installed hi h h.scripts (fun r => hi.mem_scripts h) h.drawn.scripts ?_
      hi.scriptPack ?_
    · exact fun r hr => Nat.le_trans (Nat.le_add_right _ _) (bounds_of_ids hi.scriptIds hr).1
    · intro r hr
      exact hi.linked h (List.mem_append_right _ (List.mem_map_of_mem hr))

end Install

end Pack
end NodeNexus
