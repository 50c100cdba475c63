import NodeNexus.Pack.LinksMade
import NodeNexus.Pack.LinksRemoved

/-!
# Packs, their links and their rows in every run

Packs are installed, updated, uninstalled and deleted while users write commands
and scripts.  This file puts the effects of the operations together.

* `Effect` — the five things an operation can do to packs, links and rows;
  `effect_of_transaction` says that it can do nothing else.
* `storeInv_runStore` — every run keeps the invariant.
* `Created` — a row was created for a pack; `owner_of_created` says that it
  belongs to the pack for as long as it exists.
* `pack_store_invariant` — the properties of the packs, the links and the rows
  in every run.
-/

namespace NodeNexus
namespace Pack

open Content

/-! ## What an operation can do -/

/-- The effects an operation can have. -/
inductive Effect (s : Store) : Store → Prop where
  /-- No link is made or removed. -/
  | kept {s' : Store} : Frame s s' → Effect s s'
  /-- `install_pack`. -/
  | installed {now : Time} {s' : Store} {pack : PackRow} {newCommands : List CommandRow}
      {newScripts : List ScriptRow} {links : List Installation} :
      pack ∈ s.packs.rows → pack.installedVersion = none →
      Installed now s s' pack newCommands newScripts links → Effect s s'
  /-- `uninstall_pack`. -/
  | uninstalled {now : Time} {s' : Store} {pack : PackRow} :
      pack ∈ s.packs.rows → Uninstalled now s s' pack → Effect s s'
  /-- `update_pack`. -/
  | updated {now : Time} {t s' : Store} {pack : PackRow} {newCommands : List CommandRow}
      {newScripts : List ScriptRow} {links : List Installation} :
      pack ∈ s.packs.rows → Uninstalled now s t pack →
      Installed now t s' (pack.uninstalled now) newCommands newScripts links → Effect s s'
  /-- `delete_pack`. -/
  | deleted {now : Time} {t : Store} {pack : PackRow} :
      pack ∈ s.packs.rows → Uninstalled now s t pack → Effect s (t.deletePackRow pack.id)

theorem effect_of_transaction {env : Env} {s s' : Store} {e : Event}
    (h : transaction env s e = .ok s') : Effect s s' := by
  by_cases hkeeps : e.keepsLinks = true
  · exact .kept (frame_of_transaction hkeeps h)
  · cases e with
    | installPack now packId onConflict =>
        obtain ⟨⟨t, result⟩, hresult, rfl⟩ := map_eq_ok.1 h
        unfold installPack at hresult
        split at hresult
        · cases hresult
        · rename_i pack hfind
          obtain ⟨hversion, _, _, _, hi⟩ := installInSession_eq_ok hresult
          exact .installed (Table.mem_of_find? hfind) hversion hi
    | uninstallPack now packId =>
        obtain ⟨pack, hmem, -, hu⟩ := uninstallPack_eq_ok h
        exact .uninstalled hmem hu
    | updatePack now packId onConflict =>
        obtain ⟨⟨t, result⟩, hresult, rfl⟩ := map_eq_ok.1 h
        unfold updatePack at hresult
        split at hresult
        · cases hresult
        · rename_i pack hfind
          obtain ⟨-, _, _, _, hi⟩ := installInSession_eq_ok hresult
          exact .updated (Table.mem_of_find? hfind) (uninstalled_uninstallInSession now s pack) hi
    | deletePack now packId =>
        obtain ⟨pack, hmem, -, t, hu, rfl⟩ := deletePack_eq_ok h
        exact .deleted hmem hu
    | _ => exact absurd rfl hkeeps

section Uninstall

variable {now : Time} {s t : Store} {pack : PackRow}

/-- After uninstalling there is no link of the pack. -/
theorem Uninstalled.noLink (hu : Uninstalled now s t pack) :
    ∀ link ∈ t.installations.rows, link.packId ≠ pack.id :=
  fun link hlink => ((hu.installations link).1 hlink).2

/-- The uninstalled pack is in the store. -/
theorem Uninstalled.mem_packs (hu : Uninstalled now s t pack) :
    pack.uninstalled now ∈ t.packs.rows := by
  rw [hu.packs]
  exact Table.mem_put.2 (.inl rfl)

end Uninstall

/-- **Every effect keeps the invariant.** -/
theorem StoreInv.effect {s s' : Store} (h : StoreInv s) (he : Effect s s') : StoreInv s' := by
  cases he with
  | kept hf => exact h.frame hf
  | installed hmem hversion hi => exact StoreInv.installed_of hi h hmem hversion
  | uninstalled hmem hu => exact StoreInv.uninstalled_of hu h hmem
  | updated hmem hu hi =>
      have ht := StoreInv.uninstalled_of hu h hmem
      exact StoreInv.installed_of hi ht hu.mem_packs rfl
  | deleted hmem hu =>
      have ht := StoreInv.uninstalled_of hu h hmem
      exact ht.frame (deletePackRow_frame ht hu.noLink)

theorem storeInv_perform (env : Env) {s : Store} (e : Event) (h : StoreInv s) :
    StoreInv (perform env s e) := by
  rcases perform_cases env s e with hok | hsame
  · exact h.effect (effect_of_transaction hok)
  · rw [hsame]
    exact h

/-- **The invariant holds in every reachable store.** -/
theorem storeInv_of_reachable {env : Env} {s : Store} (h : (storeSystem env).Reachable s) :
    StoreInv s := by
  refine h.invariant ?_ ?_
  · rintro s ⟨registries, rfl⟩
    exact storeInv_empty registries
  · intro s e s' hs _ hstep
    cases hstep
    exact storeInv_perform env e hs

theorem storeInv_runStore (env : Env) (registries : List Uuid) (es : List Event) :
    StoreInv (runStore env registries es) :=
  storeInv_of_reachable (reachable_runStore env registries es)

/-! ## Rows and their packs -/

/-- The rows of one kind: their ids, each with its `template_pack_id`. -/
def Store.owners (s : Store) : EntityType → List (Uuid × Option Uuid)
  | .command => s.commands.rows.map fun r => (r.id, r.templatePackId)
  | .script => s.scripts.rows.map fun r => (r.id, r.templatePackId)

theorem mem_owners_command {s : Store} {o : Uuid × Option Uuid} :
    o ∈ s.owners .command ↔ ∃ r ∈ s.commands.rows, (r.id, r.templatePackId) = o :=
  List.mem_map

theorem mem_owners_script {s : Store} {o : Uuid × Option Uuid} :
    o ∈ s.owners .script ↔ ∃ r ∈ s.scripts.rows, (r.id, r.templatePackId) = o :=
  List.mem_map

/-- A row has one `template_pack_id`. -/
theorem owner_unique {s : Store} {entity : EntityType} {id : Uuid} {q q' : Option Uuid}
    (h : (id, q) ∈ s.owners entity) (h' : (id, q') ∈ s.owners entity) : q = q' := by
  cases entity with
  | command =>
      obtain ⟨r, hr, heq⟩ := mem_owners_command.1 h
      obtain ⟨r', hr', heq'⟩ := mem_owners_command.1 h'
      cases heq
      cases s.commands.eq_of_key_eq hr' hr (Prod.mk.inj heq').1
      exact (Prod.mk.inj heq').2
  | script =>
      obtain ⟨r, hr, heq⟩ := mem_owners_script.1 h
      obtain ⟨r', hr', heq'⟩ := mem_owners_script.1 h'
      cases heq
      cases s.scripts.eq_of_key_eq hr' hr (Prod.mk.inj heq').1
      exact (Prod.mk.inj heq').2

/-- The ids of the rows are drawn. -/
theorem StoreInv.owner_drawn {s : Store} (h : StoreInv s) {entity : EntityType} {id : Uuid}
    {q : Option Uuid} (hmem : (id, q) ∈ s.owners entity) : id < s.nextId := by
  cases entity with
  | command =>
      obtain ⟨r, hr, heq⟩ := mem_owners_command.1 hmem
      rw [← (Prod.mk.inj heq).1]
      exact h.drawn.commands r hr
  | script =>
      obtain ⟨r, hr, heq⟩ := mem_owners_script.1 hmem
      rw [← (Prod.mk.inj heq).1]
      exact h.drawn.scripts r hr

/-- A row of a pack is linked to it. -/
theorem StoreInv.linked_of_owner {s : Store} (h : StoreInv s) {entity : EntityType}
    {id packId : Uuid} (hmem : (id, some packId) ∈ s.owners entity) :
    s.linked packId entity id := by
  cases entity with
  | command =>
      obtain ⟨r, hr, heq⟩ := mem_owners_command.1 hmem
      rw [← (Prod.mk.inj heq).1]
      exact h.commands.linked r hr packId (Prod.mk.inj heq).2
  | script =>
      obtain ⟨r, hr, heq⟩ := mem_owners_script.1 hmem
      rw [← (Prod.mk.inj heq).1]
      exact h.scripts.linked r hr packId (Prod.mk.inj heq).2

/-- The rows of a kind after one change: old rows keep their pack, others have
new ids. -/
def OwnersKept (s s' : Store) : Prop :=
  ∀ entity id q, (id, q) ∈ s'.owners entity → (id, q) ∈ s.owners entity ∨ s.nextId ≤ id

theorem Frame.owners {s s' : Store} (hf : Frame s s') : OwnersKept s s' := by
  intro entity id q hmem
  cases entity with
  | command =>
      obtain ⟨r', hr', heq⟩ := mem_owners_command.1 hmem
      cases heq
      rcases hf.commands r' hr' with ⟨r, hr, hid, hpack⟩ | ⟨hge, -, -⟩
      · exact .inl (mem_owners_command.2 ⟨r, hr, by rw [hid, hpack]⟩)
      · exact .inr hge
  | script =>
      obtain ⟨r', hr', heq⟩ := mem_owners_script.1 hmem
      cases heq
      rcases hf.scripts r' hr' with ⟨r, hr, hid, hpack⟩ | ⟨hge, -, -⟩
      · exact .inl (mem_owners_script.2 ⟨r, hr, by rw [hid, hpack]⟩)
      · exact .inr hge

theorem Installed.owners {now : Time} {s s' : Store} {pack : PackRow}
    {newCommands : List CommandRow} {newScripts : List ScriptRow} {links : List Installation}
    (hi : Installed now s s' pack newCommands newScripts links) (h : StoreInv s) :
    OwnersKept s s' := by
  intro entity id q hmem
  cases entity with
  | command =>
      obtain ⟨r, hr, heq⟩ := mem_owners_command.1 hmem
      rcases (hi.mem_commands h).1 hr with hr | hr
      · exact .inl (mem_owners_command.2 ⟨r, hr, heq⟩)
      · rw [← (Prod.mk.inj heq).1]
        exact .inr (bounds_of_ids hi.commandIds hr).1
  | script =>
      obtain ⟨r, hr, heq⟩ := mem_owners_script.1 hmem
      rcases (hi.mem_scripts h).1 hr with hr | hr
      · exact .inl (mem_owners_script.2 ⟨r, hr, heq⟩)
      · rw [← (Prod.mk.inj heq).1]
        exact .inr (Nat.le_trans (Nat.le_add_right _ _) (bounds_of_ids hi.scriptIds hr).1)

/-- The rows that remain after uninstalling are rows from before that are not
linked to the pack. -/
theorem Uninstalled.mem_owners {now : Time} {s s' : Store} {pack : PackRow}
    (hu : Uninstalled now s s' pack) {entity : EntityType} {id : Uuid} {q : Option Uuid}
    (hmem : (id, q) ∈ s'.owners entity) :
    (id, q) ∈ s.owners entity ∧ ¬s.linked pack.id entity id := by
  cases entity with
  | command =>
      obtain ⟨r, hr, heq⟩ := mem_owners_command.1 hmem
      obtain ⟨hr, hnot⟩ := (hu.commands r).1 hr
      cases heq
      exact ⟨mem_owners_command.2 ⟨r, hr, rfl⟩, hnot⟩
  | script =>
      obtain ⟨r, hr, heq⟩ := mem_owners_script.1 hmem
      obtain ⟨hr, hnot⟩ := (hu.scripts r).1 hr
      cases heq
      exact ⟨mem_owners_script.2 ⟨r, hr, rfl⟩, hnot⟩

/-- Deleting a pack without links leaves the rows alone. -/
theorem owners_deletePackRow {s : Store} (h : StoreInv s) {packId : Uuid}
    (hno : ∀ link ∈ s.installations.rows, link.packId ≠ packId) (entity : EntityType) :
    (s.deletePackRow packId).owners entity = s.owners entity := by
  obtain ⟨-, hcommands, hscripts⟩ := deletePackRow_rows h hno
  cases entity with
  | command => simp only [Store.owners, hcommands]
  | script => simp only [Store.owners, hscripts]

/-- **No operation changes the pack of a row.** -/
theorem Effect.owners {s s' : Store} (he : Effect s s') (h : StoreInv s) : OwnersKept s s' := by
  cases he with
  | kept hf => exact hf.owners
  | installed hmem hversion hi => exact hi.owners h
  | uninstalled hmem hu => exact fun entity id q hq => .inl (hu.mem_owners hq).1
  | updated hmem hu hi =>
      intro entity id q hq
      rcases hi.owners (StoreInv.uninstalled_of hu h hmem) entity id q hq with hold | hge
      · exact .inl (hu.mem_owners hold).1
      · rw [hu.nextId] at hge
        exact .inr hge
  | deleted hmem hu =>
      intro entity id q hq
      rw [owners_deletePackRow (StoreInv.uninstalled_of hu h hmem) hu.noLink] at hq
      exact .inl (hu.mem_owners hq).1

/-- Ids are only ever drawn. -/
theorem Effect.nextId {s s' : Store} (he : Effect s s') : s.nextId ≤ s'.nextId := by
  cases he with
  | kept hf => exact hf.nextId
  | installed hmem hversion hi => exact hi.le_nextId
  | uninstalled hmem hu => exact Nat.le_of_eq hu.nextId.symm
  | updated hmem hu hi => exact Nat.le_trans (Nat.le_of_eq hu.nextId.symm) hi.le_nextId
  | deleted hmem hu => exact Nat.le_of_eq hu.nextId.symm

/-! ## Rows created for a pack -/

/-- From one store to the next a row was created with `template_pack_id`. -/
def Store.creates (s s' : Store) (packId : Uuid) (entity : EntityType) (id : Uuid) : Prop :=
  (∀ q, (id, q) ∉ s.owners entity) ∧ (id, some packId) ∈ s'.owners entity

/-- A new link was made for a row that was created with it. -/
theorem Installed.creates {now : Time} {s s' : Store} {pack : PackRow}
    {newCommands : List CommandRow} {newScripts : List ScriptRow} {links : List Installation}
    (hi : Installed now s s' pack newCommands newScripts links) (h : StoreInv s)
    {link : Installation} (hlink : link ∈ links) :
    (link.entityId, some link.packId) ∈ s'.owners link.entityType := by
  rw [hi.linkPack link hlink]
  rcases hi.row_of_link hlink with ⟨htype, r, hr, hid⟩ | ⟨htype, r, hr, hid⟩
  · rw [htype, mem_owners_command]
    exact ⟨r, (hi.mem_commands h).2 (.inr hr), by rw [hid, hi.commandPack r hr]⟩
  · rw [htype, mem_owners_script]
    exact ⟨r, (hi.mem_scripts h).2 (.inr hr), by rw [hid, hi.scriptPack r hr]⟩

/-- **Every link of a store is an old one or made for a row created with it.** -/
theorem Effect.links {s s' : Store} (he : Effect s s') (h : StoreInv s) {link : Installation}
    (hlink : link ∈ s'.installations.rows) :
    link ∈ s.installations.rows ∨ s.creates s' link.packId link.entityType link.entityId := by
  -- a row with a new id was not there before
  have hnew : s.nextId ≤ link.entityId → ∀ q, (link.entityId, q) ∉ s.owners link.entityType :=
    fun hge q hq => absurd (h.owner_drawn hq) (Nat.not_lt.2 hge)
  cases he with
  | kept hf =>
      rw [hf.installations] at hlink
      exact .inl hlink
  | installed hmem hversion hi =>
      rcases (hi.mem_installations h).1 hlink with hlink | hlink
      · exact .inl hlink
      · exact .inr ⟨hnew (hi.entity_bounds hlink).1, hi.creates h hlink⟩
  | uninstalled hmem hu => exact .inl ((hu.installations link).1 hlink).1
  | updated hmem hu hi =>
      have ht := StoreInv.uninstalled_of hu h hmem
      rcases (hi.mem_installations ht).1 hlink with hlink | hlink
      · exact .inl ((hu.installations link).1 hlink).1
      · have hge := (hi.entity_bounds hlink).1
        rw [hu.nextId] at hge
        exact .inr ⟨hnew hge, hi.creates ht hlink⟩
  | deleted hmem hu =>
      have ht := StoreInv.uninstalled_of hu h hmem
      rw [(deletePackRow_rows ht hu.noLink).1] at hlink
      exact .inl ((hu.installations link).1 hlink).1

section Runs

variable (env : Env) (registries : List Uuid)

/-- A row was created for a pack by one of the operations of a run. -/
def Created (es : List Event) (packId : Uuid) (entity : EntityType) (id : Uuid) : Prop :=
  ∃ es₁ e es₂, es = es₁ ++ e :: es₂ ∧
    (runStore env registries es₁).creates (runStore env registries (es₁ ++ [e])) packId entity id

variable {env registries}

/-- The last operation or an earlier one. -/
theorem split_concat {α : Type} {xs ys zs : List α} {x y : α} (h : xs ++ [x] = ys ++ y :: zs) :
    (xs = ys ∧ x = y ∧ zs = []) ∨ ∃ zs', zs = zs' ++ [x] ∧ xs = ys ++ y :: zs' := by
  induction zs using List.reverseRecOn with
  | nil =>
      obtain ⟨hxs, hx⟩ := List.append_inj' h rfl
      exact .inl ⟨hxs, (List.cons.inj hx).1, rfl⟩
  | append_singleton zs z _ =>
      rw [← List.cons_append, ← List.append_assoc] at h
      obtain ⟨hxs, hx⟩ := List.append_inj' h rfl
      rw [(List.cons.inj hx).1]
      exact .inr ⟨zs, rfl, hxs⟩

/-- **A row created for a pack belongs to it for as long as it exists.** -/
theorem owner_of_created {es : List Event} {packId : Uuid} {entity : EntityType} {id : Uuid}
    (h : Created env registries es packId entity id) :
    id < (runStore env registries es).nextId ∧
      ∀ q, (id, q) ∈ (runStore env registries es).owners entity → q = some packId := by
  induction es using List.reverseRecOn with
  | nil =>
      obtain ⟨es₁, e, es₂, hes, -⟩ := h
      simp at hes
  | append_singleton es e ih =>
      obtain ⟨es₁, e', es₂, hes, hcreates⟩ := h
      have hinv := storeInv_runStore env registries es
      rcases split_concat hes with ⟨rfl, rfl, -⟩ | ⟨es₃, -, hes⟩
      · -- created by the last operation
        have hinv' := storeInv_runStore env registries (es ++ [e])
        exact ⟨hinv'.owner_drawn hcreates.2, fun q hq => owner_unique hq hcreates.2⟩
      · -- created earlier: the last operation leaves its pack alone
        obtain ⟨hlt, howner⟩ := ih ⟨es₁, e', es₃, hes, hcreates⟩
        rw [runStore_concat]
        rcases perform_cases env (runStore env registries es) e with hok | hsame
        · have he := effect_of_transaction hok
          refine ⟨Nat.lt_of_lt_of_le hlt he.nextId, ?_⟩
          intro q hq
          rcases he.owners hinv entity id q hq with hold | hge
          · exact howner q hold
          · exact absurd hlt (Nat.not_lt.2 hge)
        · rw [hsame]
          exact ⟨hlt, howner⟩

/-- Every link was made by an operation that created its row. -/
theorem made_of_link {es : List Event} {link : Installation}
    (h : link ∈ (runStore env registries es).installations.rows) :
    ∃ es₁ e es₂, es = es₁ ++ e :: es₂ ∧
      link ∉ (runStore env registries es₁).installations.rows ∧
      (runStore env registries es₁).creates (runStore env registries (es₁ ++ [e]))
        link.packId link.entityType link.entityId := by
  induction es using List.reverseRecOn with
  | nil => cases h
  | append_singleton es e ih =>
      by_cases hold : link ∈ (runStore env registries es).installations.rows
      · obtain ⟨es₁, e', es₂, hes, hmade⟩ := ih hold
        refine ⟨es₁, e', es₂ ++ [e], ?_, hmade⟩
        rw [hes, List.append_assoc, List.cons_append]
      · refine ⟨es, e, [], rfl, hold, ?_⟩
        have hinv := storeInv_runStore env registries es
        rw [runStore_concat] at h ⊢
        rcases perform_cases env (runStore env registries es) e with hok | hsame
        · rcases (effect_of_transaction hok).links hinv h with hlink | hcreates
          · exact absurd hlink hold
          · exact hcreates
        · rw [hsame] at h
          exact absurd h hold

variable (env registries)

/-- A pack is removed from a store: its links and the rows it installed in the
run so far are gone, every other row is as before. -/
structure Removed (es : List Event) (packId : Uuid) (s' : Store) : Prop where
  links : ∀ link ∈ s'.installations.rows, link.packId ≠ packId
  rows : ∀ entity id, Created env registries es packId entity id →
    ∀ q, (id, q) ∉ s'.owners entity
  commands : ∀ r, r ∈ s'.commands.rows ↔ r ∈ (runStore env registries es).commands.rows ∧
    ¬(runStore env registries es).linked packId .command r.id
  scripts : ∀ r, r ∈ s'.scripts.rows ↔ r ∈ (runStore env registries es).scripts.rows ∧
    ¬(runStore env registries es).linked packId .script r.id

variable {env registries}

theorem removed_of_uninstalled {es : List Event} {now : Time} {pack : PackRow} {s' : Store}
    (hu : Uninstalled now (runStore env registries es) s' pack) :
    Removed env registries es pack.id s' where
  links := hu.noLink
  rows entity id hcreated q hq := by
    -- the row would still belong to the pack, so it was linked and is deleted
    obtain ⟨hold, hnot⟩ := hu.mem_owners hq
    rw [(owner_of_created hcreated).2 q hold] at hold
    exact hnot ((storeInv_runStore env registries es).linked_of_owner hold)
  commands := hu.commands
  scripts := hu.scripts

theorem removed_of_deleted {es : List Event} {now : Time} {pack : PackRow} {t : Store}
    (hmem : pack ∈ (runStore env registries es).packs.rows)
    (hu : Uninstalled now (runStore env registries es) t pack) :
    Removed env registries es pack.id (t.deletePackRow pack.id) := by
  have ht := StoreInv.uninstalled_of hu (storeInv_runStore env registries es) hmem
  obtain ⟨hinst, hcommands, hscripts⟩ := deletePackRow_rows ht hu.noLink
  have hr := removed_of_uninstalled hu
  exact
    { links := by
        rw [hinst]
        exact hr.links
      rows := by
        intro entity id hcreated q
        rw [owners_deletePackRow ht hu.noLink]
        exact hr.rows entity id hcreated q
      commands := by
        rw [hcommands]
        exact hr.commands
      scripts := by
        rw [hscripts]
        exact hr.scripts }

end Runs

/-! ## Every run -/

/-- **In every run of the store** a pack is installed exactly when there is a
link from it; every link was made by an operation that created the linked row
with the pack's id as `template_pack_id`; no two links name one entity; and
uninstalling or deleting a pack removes its links and the rows it installed and
leaves every other row as it was. -/
theorem pack_store_invariant (env : Env) (registries : List Uuid) (es : List Event) :
    (∀ p ∈ (runStore env registries es).packs.rows, p.installedVersion.isSome = true ↔
      ∃ link ∈ (runStore env registries es).installations.rows, link.packId = p.id) ∧
    (∀ link ∈ (runStore env registries es).installations.rows,
      ∃ es₁ e es₂, es = es₁ ++ e :: es₂ ∧
        link ∉ (runStore env registries es₁).installations.rows ∧
        (runStore env registries es₁).creates (runStore env registries (es₁ ++ [e]))
          link.packId link.entityType link.entityId) ∧
    (∀ link ∈ (runStore env registries es).installations.rows,
      ∀ link' ∈ (runStore env registries es).installations.rows,
        link.entityType = link'.entityType → link.entityId = link'.entityId → link = link') ∧
    ∀ now packId s',
      (uninstallPack env now (runStore env registries es) packId = .ok s' ∨
        deletePack env now (runStore env registries es) packId = .ok s') →
      Removed env registries es packId s' := by
  have hinv := storeInv_runStore env registries es
  refine ⟨hinv.installed, fun link => made_of_link, hinv.unique, ?_⟩
  rintro now packId s' (h | h)
  · obtain ⟨pack, -, rfl, hu⟩ := uninstallPack_eq_ok h
    exact removed_of_uninstalled hu
  · obtain ⟨pack, hmem, rfl, t, hu, rfl⟩ := deletePack_eq_ok h
    exact removed_of_deleted hmem hu

/-- A request for a command of a user. -/
def createUptime : CommandCreate where
  name := "uptime"
  description := none
  command := "uptime"
  parameters := []
  tags := ["host"]
  timeout := 30
  name_ok := safeName_uptime
  description_ok := description_none
  command_ok := by decide
  timeout_ok := timeoutInRange_default

/-- A pack with one command. -/
def loadPack : PackCreate where
  name := "Load"
  description := none
  version := "1.0"
  author := none
  tags := []
  manifestSha := none
  readme := none
  packId := "load"
  registryId := none
  commands := [.object [("name", .str "load"), ("command", .str "cat /proc/loadavg")]]
  scripts := []
  assets := []

/-- A user writes a command, and the pack is installed beside it. -/
def besideUser : List Event :=
  [.createCommand createUptime, .createPack 0 loadPack, .installPack 1 1 .fail]

/-- The link and the row of the pack are there, and go when it is uninstalled; the command of the
user stays. -/
theorem pack_store_invariant_installed : ∃ s',
    (runStore plainEnv [] besideUser).commands.rows.map (·.name) = ["uptime", "load"] ∧
      (runStore plainEnv [] besideUser).installations.rows.map (·.packId) = [1] ∧
      uninstallPack plainEnv 2 (runStore plainEnv [] besideUser) 1 = .ok s' ∧
      s'.commands.rows.map (·.name) = ["uptime"] ∧ Removed plainEnv [] besideUser 1 s' := by
  obtain ⟨s', huninstall, hrows⟩ : ∃ s',
      uninstallPack plainEnv 2 (runStore plainEnv [] besideUser) 1 = .ok s' ∧
        s'.commands.rows.map (·.name) = ["uptime"] :=
    ⟨_, rfl, rfl⟩
  have hremoved := (pack_store_invariant plainEnv [] besideUser).2.2.2 2 1 s' (.inl huninstall)
  exact ⟨s', rfl, rfl, huninstall, hrows, hremoved⟩

end Pack
end NodeNexus
