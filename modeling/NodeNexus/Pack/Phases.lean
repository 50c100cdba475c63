import Mathlib.Data.List.Range
import NodeNexus.Pack.Gateway

/-!
# What an installation does

`_install_in_session` runs through its phases and writes new rows, links to
them and the installed version.  This file says once what each phase leaves,
and what the whole method does when it does not raise.

* `bounds_of_ids` and `mem_putAll_of_ids` — rows under consecutive new ids.
* `ids_of_bindRows`, `okItems_entities`, `linkRows_spec` — the new rows and
  links have consecutive new ids, and there is one link for each row.
* `Rows.saveAll_eq_ok` — writing rows is `Table.putAll`.
* `Installed` and `installInSession_eq_ok` — the effect of a successful
  installation.
-/

namespace NodeNexus
namespace Pack

open Content

/-! ## Rows under new ids -/

section NewIds

variable {ρ : Type} {key : ρ → Uuid} {new : List ρ} {n : Uuid}

theorem bounds_of_ids (hids : new.map key = List.range' n new.length) {r : ρ} (hr : r ∈ new) :
    n ≤ key r ∧ key r < n + new.length := by
  have hmem : key r ∈ List.range' n new.length := hids ▸ List.mem_map_of_mem hr
  obtain ⟨i, hi, heq⟩ := List.mem_range'.1 hmem
  rw [heq, Nat.one_mul]
  exact ⟨Nat.le_add_right n i, Nat.add_lt_add_left hi n⟩

/-- Rows under consecutive new ids are added to what is there. -/
theorem mem_putAll_of_ids {t : Table key} (hids : new.map key = List.range' n new.length)
    (hold : ∀ r ∈ t.rows, key r < n) {x : ρ} :
    x ∈ (t.putAll new).rows ↔ x ∈ t.rows ∨ x ∈ new := by
  refine Table.mem_putAll ?_ ?_
  · rw [hids]
    exact List.nodup_range'
  · intro r hr y hy
    exact Nat.ne_of_lt (Nat.lt_of_lt_of_le (hold y hy) (bounds_of_ids hids hr).1)

/-- Rows of one kind under consecutive ids are different entities. -/
theorem nodup_entities (entity : EntityType) (hids : new.map key = List.range' n new.length) :
    (new.map fun r => (entity, key r)).Nodup := by
  have hmap : new.map (fun r => (entity, key r)) = (new.map key).map fun id => (entity, id) := by
    rw [List.map_map]
    rfl
  rw [hmap, hids]
  exact List.Nodup.map (fun a b hab => (Prod.mk.inj hab).2) List.nodup_range'

end NewIds

section Phases

variable {Body : Type}

/-! ## New rows -/

theorem ids_of_bindRows {model : Model Body} {db : Columns} {packId next : Uuid}
    {values : List (String × Values Body)} {rows : List (Row Body)}
    (h : bindRows model db packId next values = .ok rows) :
    rows.map (·.id) = List.range' next values.length := by
  induction values generalizing next rows with
  | nil =>
      cases h
      rfl
  | cons v rest ih =>
      simp only [bindRows, bind_eq_ok] at h
      obtain ⟨row, hrow, rows', hrest, h⟩ := h
      cases h
      rw [List.map_cons, (bindRow_eq_ok hrow).1, ih hrest, List.length_cons, List.range'_succ]

theorem pack_of_bindRows {model : Model Body} {db : Columns} {packId next : Uuid}
    {values : List (String × Values Body)} {rows : List (Row Body)}
    (h : bindRows model db packId next values = .ok rows) :
    ∀ row ∈ rows, row.templatePackId = some packId := by
  induction values generalizing next rows with
  | nil =>
      cases h
      simp
  | cons v rest ih =>
      simp only [bindRows, bind_eq_ok] at h
      obtain ⟨row, hrow, rows', hrest, h⟩ := h
      cases h
      intro r hr
      rcases List.mem_cons.1 hr with rfl | hr
      · exact (bindRow_eq_ok hrow).2.1
      · exact ih hrest r hr

/-- Writing rows under the unique index on the name, as operation on the table. -/
theorem Rows.saveAll_eq_ok {model : Model Body} {rows rows' : Rows Body} {new : List (Row Body)}
    (h : rows.saveAll model new = .ok rows') : rows' = rows.putAll new := by
  induction new generalizing rows with
  | nil =>
      cases h
      rfl
  | cons r new ih =>
      simp only [Rows.saveAll, bind_eq_ok] at h
      obtain ⟨rows₁, hsave, h⟩ := h
      obtain ⟨-, rfl⟩ := Rows.save_eq_ok.1 hsave
      exact ih h

/-! ## Links -/

/-- The items of the new rows name these rows. -/
theorem okItems_entities (entity : EntityType) (next : Uuid) (values : List (String × Values Body)) :
    (okItems entity next values).map (fun item => (item.entityType, item.entityId)) =
      (List.range' next values.length).map fun id => (entity, some id) := by
  induction values generalizing next with
  | nil => rfl
  | cons v rest ih =>
      rw [okItems, List.map_cons, ih, List.length_cons, List.range'_succ, List.map_cons]

end Phases

/-- There is one link for each item that names a row, with consecutive ids. -/
theorem linkRows_spec (now : Time) (packId next : Uuid) {items : List PackInstallItem}
    {entities : List (EntityType × Uuid)}
    (h : items.map (fun item => (item.entityType, item.entityId)) =
      entities.map fun e => (e.1, some e.2)) :
    (linkRows now packId next items).map (fun link => (link.entityType, link.entityId)) = entities ∧
      (linkRows now packId next items).map (·.id) = List.range' next entities.length ∧
      ∀ link ∈ linkRows now packId next items, link.packId = packId := by
  induction items generalizing next entities with
  | nil =>
      cases entities with
      | nil => exact ⟨rfl, rfl, by simp [linkRows]⟩
      | cons e es => cases h
  | cons item rest ih =>
      cases entities with
      | nil => cases h
      | cons e es =>
          rw [List.map_cons, List.map_cons, List.cons.injEq, Prod.mk.injEq] at h
          obtain ⟨⟨htype, hid⟩, hrest⟩ := h
          obtain ⟨hentities, hids, hpack⟩ := ih (next + 1) hrest
          simp only [linkRows, hid]
          refine ⟨?_, ?_, ?_⟩
          · rw [List.map_cons, hentities, htype]
          · rw [List.map_cons, hids, List.length_cons, List.range'_succ]
          · intro link hlink
            rcases List.mem_cons.1 hlink with rfl | hlink
            · rfl
            · exact hpack link hlink

/-! ## The whole method -/

/-- The effect of an installation that writes the rows `newCommands` and
`newScripts` and the links `links`. -/
structure Installed (now : Time) (s s' : Store) (pack : PackRow) (newCommands : List CommandRow)
    (newScripts : List ScriptRow) (links : List Installation) : Prop where
  commands : s'.commands = s.commands.putAll newCommands
  scripts : s'.scripts = s.scripts.putAll newScripts
  installations : s'.installations = s.installations.putAll links
  /-- The version is set exactly when something was written. -/
  packs : s'.packs = if links = [] then s.packs else s.packs.put { pack with
    installedVersion := some pack.version, installedAt := some now, updatedAt := now }
  assets : s'.assets = s.assets
  registries : s'.registries = s.registries
  /-- All new ids are drawn in this transaction. -/
  commandIds : newCommands.map (·.id) = List.range' s.nextId newCommands.length
  scriptIds : newScripts.map (·.id) =
    List.range' (s.nextId + newCommands.length) newScripts.length
  linkIds : links.map (·.id) =
    List.range' (s.nextId + newCommands.length + newScripts.length) links.length
  nextId : s'.nextId = s.nextId + newCommands.length + newScripts.length + links.length
  commandPack : ∀ row ∈ newCommands, row.templatePackId = some pack.id
  scriptPack : ∀ row ∈ newScripts, row.templatePackId = some pack.id
  linkPack : ∀ link ∈ links, link.packId = pack.id
  /-- There is one link for each new row. -/
  entities : links.map (fun link => (link.entityType, link.entityId)) =
    newCommands.map (fun row => (.command, row.id)) ++
      newScripts.map (fun row => (.script, row.id))

/-- **What an installation that does not raise has done**: the pack was not
installed, and new rows, the links to them and the version were written, maybe
none. -/
theorem installInSession_eq_ok {env : Env} {now : Time} {onConflict : OnConflict} {s s' : Store}
    {pack : PackRow} {result : PackInstallResult}
    (h : installInSession env now onConflict s pack = .ok (s', result)) :
    pack.installedVersion = none ∧
      ∃ newCommands newScripts links, Installed now s s' pack newCommands newScripts links := by
  unfold installInSession at h
  split at h
  · cases h
  · rename_i hnot
    refine ⟨by simpa using hnot, ?_⟩
    split at h
    · cases h
      exact ⟨[], [], [], rfl, rfl, rfl, rfl, rfl, rfl, rfl, rfl, rfl, rfl, by simp, by simp,
        by simp, rfl⟩
    · simp only [bind_eq_ok] at h
      obtain ⟨plannedC, -, plannedS, -, newC, hnewC, newS, hnewS, commands, hC, scripts, hS, h⟩ := h
      generalize validPlanned (validateCommandPayload env.unicode.isPrintable) plannedC = validC
        at hnewC hnewS h
      generalize validPlanned (validateScriptPayload env.unicode.isPrintable) plannedS = validS
        at hnewS h
      have hidsC := ids_of_bindRows hnewC
      have hidsS := ids_of_bindRows hnewS
      have hlenC : newC.length = validC.length := by simpa using congrArg List.length hidsC
      have hlenS : newS.length = validS.length := by simpa using congrArg List.length hidsS
      have hitems : (okItems .command s.nextId validC ++
            okItems .script (s.nextId + validC.length) validS).map
            (fun item => (item.entityType, item.entityId)) =
          (newC.map (fun row => (EntityType.command, row.id)) ++
            newS.map (fun row => (EntityType.script, row.id))).map fun e => (e.1, some e.2) := by
        rw [List.map_append, okItems_entities, okItems_entities, ← hidsC, ← hidsS]
        simp [Function.comp_def]
      rw [← hlenC, ← hlenS] at h
      rw [← hlenC] at hidsC hidsS hitems
      rw [← hlenS] at hidsS
      generalize okItems .command s.nextId validC ++
        okItems .script (s.nextId + newC.length) validS = items at hitems h
      obtain ⟨hentities, hids, hpack⟩ := linkRows_spec now pack.id
        (s.nextId + newC.length + newS.length) hitems
      generalize linkRows now pack.id (s.nextId + newC.length + newS.length) items = links
        at hentities hids hpack h
      have hlenL := congrArg List.length hids
      have hlenI := congrArg List.length hitems
      simp only [List.length_map, List.length_range'] at hlenL hlenI
      rw [← hlenL] at hids hlenI
      cases h
      refine ⟨newC, newS, links, ?_⟩
      exact
        { commands := Rows.saveAll_eq_ok hC
          scripts := Rows.saveAll_eq_ok hS
          installations := rfl
          -- the version is set when there are items, and then there are links
          packs := by
            simp only [List.isEmpty_iff_length_eq_zero, hlenI, List.eq_nil_iff_length_eq_zero]
          assets := rfl
          registries := rfl
          commandIds := hidsC
          scriptIds := hidsS
          linkIds := hids
          nextId := rfl
          commandPack := pack_of_bindRows hnewC
          scriptPack := pack_of_bindRows hnewS
          linkPack := hpack
          entities := hentities }

end Pack
end NodeNexus
