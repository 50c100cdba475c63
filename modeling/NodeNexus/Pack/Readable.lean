import NodeNexus.Pack.Lifecycle
import NodeNexus.Pack.ReadableContent
import NodeNexus.Script.Readable
import NodeNexus.Script.References

/-!
# What was written can be read

Commands and scripts are written by users, by imports and by installations, each
with checks of its own, and read by the views, the responses, the export and the
resolution of steps, each with checks of its own again.

* `ReadersReturn` — no reader raises on any row of a store.
* `Sound` — what an accepted operation has to keep to: no command step of a
  request refers to its command by name only, and what an installation writes is
  as the readers want it.
* `readers_return_iff` — in a run, no reader ever raises if and only if every
  accepted operation is sound.
-/

namespace NodeNexus
namespace Pack

open Content Script
open NodeNexus.Core

/-! ## Readers -/

/-- Every reader maps every row of the store without raising. -/
structure ReadersReturn (env : Env) (s : Store) : Prop where
  /-- `SqlAlchemyScriptGateway._to_view`, then `script_response`. -/
  responses : ∀ row ∈ s.scripts.rows, Returns (scriptToView env.fmt row >>= scriptResponse)
  /-- `SqlAlchemyCommandGateway._to_view`. -/
  views : ∀ row ∈ s.commands.rows, Returns (commandToView row)
  /-- `get_template`. -/
  templates : ∀ id, Returns (getTemplate s.commands id)
  /-- The `ConfigExport` of the export endpoint. -/
  configExport : Returns (exportConfig env.fmt s.commands s.scripts)
  /-- `_resolve_step` of every stored step. -/
  resolutions : ∀ row ∈ s.scripts.rows, ∀ params,
    Returns (resolveSteps env.fmt env.unicode (getTemplate s.commands) params row)

theorem returns_exportConfig {fmt : Formats} {commands : Rows CommandBody}
    {scripts : Rows ScriptBody} : Returns (exportConfig fmt commands scripts) ↔
      (∀ row ∈ commands.rows, Returns (exportCommand fmt row)) ∧
        ∀ row ∈ scripts.rows, Returns (exportScript fmt row) := by
  rw [← returns_mapM, ← returns_mapM]
  unfold exportConfig
  constructor
  · rintro ⟨config, h⟩
    simp only [bind_eq_ok] at h
    obtain ⟨cs, hcs, ss, hss, -⟩ := h
    exact ⟨⟨cs, hcs⟩, ⟨ss, hss⟩⟩
  · rintro ⟨⟨cs, hcs⟩, ⟨ss, hss⟩⟩
    refine ⟨(cs, ss), ?_⟩
    simp only [bind_eq_ok]
    exact ⟨cs, hcs, ss, hss, rfl⟩

/-- **The readers return exactly when all rows are as they want them.** -/
theorem readersReturn_iff {env : Env} (hfmt : env.fmt.Lawful) {s : Store} :
    ReadersReturn env s ↔ StoreReadable env s := by
  constructor
  · intro h
    obtain ⟨hcommands, hscripts⟩ := returns_exportConfig.1 h.configExport
    exact
      { commands := fun row hrow =>
          (readableCommand_iff hfmt).2 ⟨h.views row hrow, hcommands row hrow⟩
        scripts := fun row hrow =>
          (readableScript_iff hfmt).2 ⟨h.responses row hrow, hscripts row hrow⟩ }
  · intro h
    have hcommands := fun row hrow => (readableCommand_iff hfmt).1 (h.commands row hrow)
    have hscripts := fun row hrow => (readableScript_iff hfmt).1 (h.scripts row hrow)
    have htemplates := returns_getTemplate fun row hrow => (hcommands row hrow).1
    exact
      { responses := fun row hrow => (hscripts row hrow).1
        views := fun row hrow => (hcommands row hrow).1
        templates := htemplates
        configExport := returns_exportConfig.2
          ⟨fun row hrow => (hcommands row hrow).2, fun row hrow => (hscripts row hrow).2⟩
        resolutions := fun row hrow params =>
          returns_resolveSteps (h.scripts row hrow) htemplates params }

/-! ## Sound operations -/

/-- What an operation has to keep to for the rows it writes to be readable. -/
def Sound (env : Env) (s : Store) : Event → Prop
  | .createScript data => ∀ step ∈ data.steps, ¬step.byName
  | .updateScript id data => (s.scripts.find? id).isSome = true → ∀ steps,
      data.steps = some (some steps) → ∀ step ∈ steps, ¬step.byName
  | .importConfig _ scripts => ∀ script ∈ notSkipped ScriptExport.name s.scripts.names scripts,
      ∀ step ∈ script.steps, ¬step.byName
  | .installPack _ packId onConflict => ∀ pack, s.packs.find? packId = some pack →
      ReadableContent env onConflict s pack
  | .updatePack now packId onConflict => ∀ pack, s.packs.find? packId = some pack →
      ReadableContent env onConflict (uninstallInSession now s pack) (pack.uninstalled now)
  | _ => True

/-! ## Rows after an operation -/

section Steps

variable {env : Env} {s s' : Store}

/-- Where all rows are old ones, nothing has to be checked. -/
theorem StoreReadable.subset (h : StoreReadable env s)
    (hcommands : ∀ r ∈ s'.commands.rows, r ∈ s.commands.rows)
    (hscripts : ∀ r ∈ s'.scripts.rows, r ∈ s.scripts.rows) : StoreReadable env s' :=
  ⟨fun r hr => h.commands r (hcommands r hr), fun r hr => h.scripts r (hscripts r hr)⟩

/-- Writing packs leaves the rows alone. -/
theorem StoreReadable.packs (h : StoreReadable env s) (hw : PacksWritten s s') :
    StoreReadable env s' := by
  refine h.subset ?_ ?_
  · rw [hw.commands]
    exact fun r hr => hr
  · rw [hw.scripts]
    exact fun r hr => hr

theorem forall_put_iff {κ ρ : Type} [DecidableEq κ] {key : ρ → κ} {t : Table key} {r : ρ}
    {P : ρ → Prop} (hold : ∀ x ∈ t.rows, P x) : (∀ x ∈ (t.put r).rows, P x) ↔ P r := by
  constructor
  · exact fun h => h r (Table.mem_put.2 (.inl rfl))
  · intro h x hx
    rcases Table.mem_put.1 hx with rfl | ⟨hx, -⟩
    · exact h
    · exact hold x hx

theorem deleteRow_subset {Body : Type} (rows : Rows Body) (id : Uuid) :
    ∀ r ∈ (deleteRow rows id).1.rows, r ∈ rows.rows := by
  unfold deleteRow
  cases rows.find? id with
  | none => exact fun r hr => hr
  | some row => exact fun r hr => (Table.mem_erase.1 hr).1

/-- A command that the API creates is readable. -/
theorem readable_commandCreate (data : CommandCreate) :
    safeName data.dto.values.name = true ∧
      (∀ tag ∈ data.dto.values.tags.getD [], tag ≠ .null) ∧
      ReadableParameters data.dto.values.body.parameters :=
  ⟨safeName_of_in data.name_ok, strings_ne_null data.tags, readableParameters_stored data.parameters⟩

/-- A command that is imported is readable. -/
theorem readable_commandExport (data : CommandExport) :
    safeName data.values.name = true ∧ (∀ tag ∈ data.values.tags.getD [], tag ≠ .null) ∧
      ReadableParameters data.values.body.parameters :=
  ⟨data.name_ok, strings_ne_null data.tags, readableParameters_stored _⟩

/-- A script that the API creates is readable when it refers to no command by name
only. -/
theorem readable_scriptCreate_iff (hfmt : env.fmt.Lawful) (data : ScriptCreate) :
    (safeName (data.dto.values env.fmt).name = true ∧
      (∀ tag ∈ (data.dto.values env.fmt).tags.getD [], tag ≠ .null) ∧
      ReadableSteps env.fmt (data.dto.values env.fmt).body.steps) ↔
      ∀ step ∈ data.steps, ¬step.byName := by
  rw [← readableSteps_stored_iff hfmt]
  constructor
  · exact fun h => h.2.2
  · exact fun h => ⟨safeName_of_in data.name_ok, strings_ne_null data.tags, h⟩

/-- The same for a script that is imported. -/
theorem readable_scriptExport_iff (hfmt : env.fmt.Lawful) (data : ScriptExport) :
    (safeName (data.values env.fmt).name = true ∧
      (∀ tag ∈ (data.values env.fmt).tags.getD [], tag ≠ .null) ∧
      ReadableSteps env.fmt (data.values env.fmt).body.steps) ↔
      ∀ step ∈ data.steps, ¬step.byName := by
  have hsteps : (data.values env.fmt).body.steps =
      storedSteps env.fmt (data.steps.map stepDto) := by
    unfold storedSteps
    rw [List.map_map]
    rfl
  rw [hsteps, readableSteps_stored_iff hfmt]
  constructor
  · exact fun h => h.2.2
  · exact fun h => ⟨data.name_ok, strings_ne_null data.tags, h⟩

/-- An update of a command through the API leaves it readable. -/
theorem readable_commandUpdate (hdb : env.db.Lawful) {data : CommandUpdate} {row row' : CommandRow}
    (h : updateRow commandModel (setCommandBody env.db) env.db data.changes row = .ok row')
    (hold : ReadableCommand row) : ReadableCommand row' where
  name := safeName_of_updateRow hdb h (fun n hn => safeName_of_in (data.name_ok n hn)) hold.name
  tags := tags_of_updateRow hdb h hold.tags
  parameters := by
    obtain ⟨-, -, hbody⟩ := columns_of_updateRow h
    simp only [setCommandBody, bind_eq_ok] at hbody
    obtain ⟨command, -, parameters, hparameters, hbody⟩ := hbody
    rw [Except.ok.injEq] at hbody
    rw [← hbody]
    cases hp : data.parameters with
    | none =>
        simp only [CommandUpdate.changes, hp, Option.map_none, setColumn,
          Except.ok.injEq] at hparameters
        show ReadableParameters parameters
        rw [← hparameters]
        exact hold.parameters
    | some ps =>
        simp only [CommandUpdate.changes, hp, Option.map_some, setColumn] at hparameters
        show ReadableParameters parameters
        rw [hdb.json_eq _ _ hparameters]
        cases ps with
        | none => exact ⟨[], rfl, by simp⟩
        | some ps => exact readableParameters_stored ps

/-- An update of a script through the API leaves it readable when no new step
refers to its command by name only. -/
theorem readable_scriptUpdate_iff (hfmt : env.fmt.Lawful) (hdb : env.db.Lawful)
    {data : ScriptUpdate} {row row' : ScriptRow}
    (h : updateRow scriptModel (setScriptBody env.fmt env.db) env.db data.changes row = .ok row')
    (hview : Returns (scriptToView env.fmt row')) (hold : ReadableScript env.fmt row) :
    ReadableScript env.fmt row' ↔
      ∀ steps, data.steps = some (some steps) → ∀ step ∈ steps, ¬step.byName := by
  have hname := safeName_of_updateRow hdb h (fun n hn => safeName_of_in (data.name_ok n hn)) hold.name
  have htags := tags_of_updateRow hdb h hold.tags
  have hsteps : ReadableScript env.fmt row' ↔ ReadableSteps env.fmt row'.body.steps :=
    ⟨fun hr => hr.steps, fun hr => ⟨hname, htags, hr⟩⟩
  rw [hsteps]
  obtain ⟨-, -, hbody⟩ := columns_of_updateRow h
  simp only [setScriptBody, bind_eq_ok, Except.ok.injEq] at hbody
  obtain ⟨stored, hstored, hbody⟩ := hbody
  have hrow : row'.body.steps = stored := by rw [← hbody]
  rw [hrow]
  cases hs : data.steps with
  | none =>
      simp only [ScriptUpdate.changes, hs, Option.map_none, setColumn,
        Except.ok.injEq] at hstored
      rw [← hstored]
      simp [hold.steps]
  | some ss =>
      simp only [ScriptUpdate.changes, hs, Option.map_some, setColumn] at hstored
      rw [hdb.json_eq _ _ hstored]
      cases ss with
      | none =>
          -- the view of a script without steps raises, and the update is rolled back
          rw [hdb.json_eq _ _ hstored] at hrow
          obtain ⟨view, hview⟩ := hview
          simp only [scriptToView, bind_eq_ok] at hview
          obtain ⟨items, hitems, -⟩ := hview
          rw [hrow] at hitems
          cases hitems
      | some ss =>
          simp only [Option.map_some, Option.elim_some, Option.some.injEq]
          rw [readableSteps_stored_iff hfmt]
          constructor
          · rintro hall steps rfl
            exact hall
          · exact fun hall => hall ss rfl

/-- A store with changed commands only. -/
theorem storeReadable_commands_iff {commands : Rows CommandBody} {next : Uuid}
    (h : StoreReadable env s) : StoreReadable env { s with commands, nextId := next } ↔
      ∀ r ∈ commands.rows, ReadableCommand r :=
  ⟨fun h' => h'.commands, fun hc => ⟨hc, h.scripts⟩⟩

/-- A store with changed scripts only. -/
theorem storeReadable_scripts_iff {scripts : Rows ScriptBody} {next : Uuid}
    (h : StoreReadable env s) : StoreReadable env { s with scripts, nextId := next } ↔
      ∀ r ∈ scripts.rows, ReadableScript env.fmt r :=
  ⟨fun h' => h'.scripts, fun hs => ⟨h.commands, hs⟩⟩

/-- **One accepted operation**: it leaves readable rows if and only if it is
sound. -/
theorem readable_transaction_iff (hfmt : env.fmt.Lawful) (hdb : env.db.Lawful) {e : Event}
    (hinv : StoreInv s) (hold : StoreReadable env s) (h : transaction env s e = .ok s') :
    StoreReadable env s' ↔ Sound env s e := by
  cases e with
  | createPack now data => exact iff_of_true (hold.packs (createPack_eq_ok h)) trivial
  | upsertSyncedPack now data =>
      obtain ⟨result, hresult, rfl⟩ := map_eq_ok.1 h
      exact iff_of_true (hold.packs (upsertSyncedPack_eq_ok hresult)) trivial
  | patchPack now packId data =>
      obtain ⟨result, hresult, rfl⟩ := map_eq_ok.1 h
      exact iff_of_true (hold.packs (patchPack_eq_ok hresult)) trivial
  | installPack now packId onConflict =>
      obtain ⟨⟨t, result⟩, hresult, rfl⟩ := map_eq_ok.1 h
      unfold installPack at hresult
      simp only [Sound]
      split at hresult
      · cases hresult
      · rename_i pack hfind
        rw [hfind, readable_installInSession_iff hdb hinv.drawn hold hresult]
        simp
  | uninstallPack now packId =>
      obtain ⟨pack, hmem, -, hu⟩ := uninstallPack_eq_ok h
      refine iff_of_true (hold.subset ?_ ?_) trivial
      · exact fun r hr => ((hu.commands r).1 hr).1
      · exact fun r hr => ((hu.scripts r).1 hr).1
  | updatePack now packId onConflict =>
      obtain ⟨⟨t, result⟩, hresult, rfl⟩ := map_eq_ok.1 h
      unfold updatePack at hresult
      simp only [Sound]
      split at hresult
      · cases hresult
      · rename_i pack hfind
        have hu := uninstalled_uninstallInSession now s pack
        have hmid := StoreInv.uninstalled_of hu hinv (Table.mem_of_find? hfind)
        have hold' : StoreReadable env (uninstallInSession now s pack) := by
          refine hold.subset ?_ ?_
          · exact fun r hr => ((hu.commands r).1 hr).1
          · exact fun r hr => ((hu.scripts r).1 hr).1
        rw [hfind, readable_installInSession_iff hdb hmid.drawn hold' hresult]
        simp
  | deletePack now packId =>
      obtain ⟨pack, hmem, -, t, hu, rfl⟩ := deletePack_eq_ok h
      have hmid := StoreInv.uninstalled_of hu hinv hmem
      obtain ⟨-, hcommands, hscripts⟩ := deletePackRow_rows hmid hu.noLink
      refine iff_of_true (hold.subset ?_ ?_) trivial
      · rw [hcommands]
        exact fun r hr => ((hu.commands r).1 hr).1
      · rw [hscripts]
        exact fun r hr => ((hu.scripts r).1 hr).1
  | createCommand data =>
      simp only [transaction, createCommand, bind_eq_ok] at h
      obtain ⟨⟨commands, view⟩, ⟨row, hrow, rows, hsave, _, -, hres⟩, h⟩ := h
      cases hres
      cases h
      rw [storeReadable_commands_iff hold, (Adds.insert hrow hsave hinv.drawn.commands).forall_iff
        (fun v r hr => readableCommand_of_bound hdb hr) hold.commands]
      refine iff_of_true (fun v hv => ?_) trivial
      rw [List.mem_singleton.1 hv]
      exact readable_commandCreate data
  | updateCommand id data =>
      simp only [transaction, bind_eq_ok] at h
      obtain ⟨⟨commands, view⟩, hupdate, h⟩ := h
      cases h
      refine iff_of_true ((storeReadable_commands_iff hold).2 ?_) trivial
      unfold updateCommand at hupdate
      split at hupdate
      · cases hupdate
        exact hold.commands
      · rename_i row hfind
        simp only [bind_eq_ok] at hupdate
        obtain ⟨row', hrow, rows, hsave, _, -, hres⟩ := hupdate
        cases hres
        obtain ⟨-, rfl⟩ := Rows.save_eq_ok.1 hsave
        rw [forall_put_iff hold.commands]
        exact readable_commandUpdate hdb hrow (hold.commands row (Table.mem_of_find? hfind))
  | deleteCommand id =>
      cases h
      exact iff_of_true (hold.subset (deleteRow_subset _ _) fun r hr => hr) trivial
  | createScript data =>
      simp only [transaction, createScript, bind_eq_ok] at h
      obtain ⟨⟨scripts, view⟩, ⟨row, hrow, rows, hsave, _, -, hres⟩, h⟩ := h
      cases hres
      cases h
      rw [storeReadable_scripts_iff hold, (Adds.insert hrow hsave hinv.drawn.scripts).forall_iff
        (fun v r hr => readableScript_of_bound hdb hr) hold.scripts]
      simp only [Sound]
      rw [← readable_scriptCreate_iff hfmt]
      simp
  | updateScript id data =>
      simp only [transaction, bind_eq_ok] at h
      obtain ⟨⟨scripts, view⟩, hupdate, h⟩ := h
      cases h
      simp only [Sound]
      rw [storeReadable_scripts_iff hold]
      unfold updateScript at hupdate
      split at hupdate
      · rename_i hfind
        cases hupdate
        refine iff_of_true hold.scripts ?_
        rw [hfind]
        intro hsome
        cases hsome
      · rename_i row hfind
        simp only [bind_eq_ok] at hupdate
        obtain ⟨row', hrow, rows, hsave, view', hview, hres⟩ := hupdate
        cases hres
        obtain ⟨-, rfl⟩ := Rows.save_eq_ok.1 hsave
        rw [forall_put_iff hold.scripts, hfind, readable_scriptUpdate_iff hfmt hdb hrow
          ⟨view', hview⟩ (hold.scripts row (Table.mem_of_find? hfind))]
        simp
  | deleteScript id =>
      cases h
      exact iff_of_true (hold.subset (fun r hr => hr) (deleteRow_subset _ _)) trivial
  | importConfig commands scripts =>
      simp only [transaction, importConfig, bind_eq_ok] at h
      obtain ⟨⟨commandRows, next₁, _, _⟩, hc, ⟨scriptRows, next₂, _, _⟩, hs, h⟩ := h
      cases h
      have haddsC := Adds.importRows hc hinv.drawn.commands
      have haddsS := Adds.importRows hs fun r hr =>
        Nat.lt_of_lt_of_le (hinv.drawn.scripts r hr) (RowsFrame.importRows hc).1
      have hC := haddsC.forall_iff (fun v r hr => readableCommand_of_bound hdb hr) hold.commands
      have hS := haddsS.forall_iff (fun v r hr => readableScript_of_bound hdb hr) hold.scripts
      rw [notSkipped_map, List.forall_mem_map] at hC hS
      have hcommands := hC.2 fun data _ => readable_commandExport data
      have hsound : Sound env s (.importConfig commands scripts) ↔
          ∀ r ∈ scriptRows.rows, ReadableScript env.fmt r := by
        rw [hS]
        exact forall₂_congr fun data _ => (readable_scriptExport_iff hfmt data).symm
      rw [hsound]
      exact ⟨fun h' => h'.scripts, fun h' => ⟨hcommands, h'⟩⟩

end Steps

/-! ## Every run -/

/-- An operation is accepted: its transaction does not raise. -/
def Accepted (env : Env) (s : Store) (e : Event) : Prop := Returns (transaction env s e)

theorem runStore_take_succ (env : Env) (registries : List Uuid) {es : List Event} {i : Nat}
    {e : Event} (he : es[i]? = some e) :
    runStore env registries (es.take (i + 1)) =
      perform env (runStore env registries (es.take i)) e := by
  rw [List.take_add_one, he]
  exact runStore_concat env registries (es.take i) e

/-- An operation that happens, seen from the rows. -/
theorem readable_perform_iff {env : Env} (hfmt : env.fmt.Lawful) (hdb : env.db.Lawful) {s : Store}
    {e : Event} (hinv : StoreInv s) (hold : StoreReadable env s) :
    StoreReadable env (perform env s e) ↔ (Accepted env s e → Sound env s e) := by
  unfold perform
  cases h : transaction env s e with
  | ok s' =>
      show StoreReadable env s' ↔ _
      rw [readable_transaction_iff hfmt hdb hinv hold h]
      exact ⟨fun hs _ => hs, fun hs => hs ⟨s', h⟩⟩
  | error f =>
      refine iff_of_true hold ?_
      rintro ⟨s', hok⟩
      rw [h] at hok
      cases hok

/-- **When every reader can read what the writers accepted.**  In a run of the
store no reader ever raises if and only if every accepted operation of the run is
sound. -/
theorem readers_return_iff {env : Env} (hfmt : env.fmt.Lawful) (hdb : env.db.Lawful)
    (registries : List Uuid) (es : List Event) :
    (∀ i, ReadersReturn env (runStore env registries (es.take i))) ↔
      ∀ i e, es[i]? = some e → Accepted env (runStore env registries (es.take i)) e →
        Sound env (runStore env registries (es.take i)) e := by
  simp only [readersReturn_iff hfmt]
  constructor
  · intro h i e he
    have hnext := h (i + 1)
    rw [runStore_take_succ env registries he] at hnext
    exact (readable_perform_iff hfmt hdb (storeInv_runStore env registries _) (h i)).1 hnext
  · intro h i
    induction i with
    | zero =>
        rw [List.take_zero]
        exact ⟨fun row hrow => absurd hrow List.not_mem_nil,
          fun row hrow => absurd hrow List.not_mem_nil⟩
    | succ i ih =>
        cases he : es[i]? with
        | none =>
            -- the run has ended before
            rw [List.take_add_one, he, Option.toList_none, List.append_nil]
            exact ih
        | some e =>
            rw [runStore_take_succ env registries he]
            exact (readable_perform_iff hfmt hdb (storeInv_runStore env registries _) ih).2
              (h i e he)

/-! ## The property, and where it fails -/

/-- What a writer accepted, every reader can read. -/
def ReadersAlwaysReturn (env : Env) : Prop :=
  ∀ registries es, ReadersReturn env (runStore env registries es)

/-- The request that creates a script with a step that names a command. -/
def createByName : ScriptCreate where
  name := "checks"
  description := none
  steps := [uptimeStep]
  tags := []
  timeout := 30
  name_ok := by decide
  description_ok := description_none
  steps_ok := by simp
  timeout_ok := timeoutInRange_default

/-- **The property fails**: a script with a step that names a command is created,
and from then on its response, and every page that lists it, raises. -/
theorem not_readersAlwaysReturn : ¬ReadersAlwaysReturn plainEnv := by
  intro h
  have hfmt : plainEnv.fmt.Lawful := canonicalFormats_lawful
  have hread := (readersReturn_iff hfmt).1 (h [] [.createScript createByName])
  have hempty : StoreReadable plainEnv (Store.empty []) :=
    ⟨fun row hrow => absurd hrow List.not_mem_nil, fun row hrow => absurd hrow List.not_mem_nil⟩
  have hsound := (readable_perform_iff hfmt plainColumns_lawful
    (e := .createScript createByName) (storeInv_empty []) hempty).1 hread ⟨_, rfl⟩
  exact hsound uptimeStep (List.mem_singleton.2 rfl) ⟨rfl, rfl⟩

/-- A step that refers to the command by its id. -/
def uptimeStepById : ScriptStep where
  label := "check"
  type := .command
  command := none
  commandId := some 0
  commandName := none
  params := []
  onFailure := .stop
  valid := by decide

/-- The request that creates a script with this step. -/
def createById : ScriptCreate := { createByName with
  steps := [uptimeStepById]
  steps_ok := by simp }

/-- A script of a pack, with one inline step. -/
def dateScript : Json.Fields :=
  [("name", .str "dates"), ("steps", .list [.dict [("label", .str "date"),
    ("type", .str "inline"), ("command", .str "date")]])]

/-- A pack with this script. -/
def datePack : PackCreate where
  name := "Dates"
  description := none
  version := "1.0"
  author := none
  tags := []
  manifestSha := none
  readme := none
  packId := "dates"
  registryId := none
  commands := []
  scripts := [.object dateScript]
  assets := []

/-- The script of this pack is as the readers want it. -/
theorem readableItem_dates : ReadableScriptItem canonicalFormats ("dates", dateScript) where
  name := by decide
  tags := by
    intro items hitems
    cases hitems
    simp
  steps := by
    refine readableSteps_list.2 fun x hx => ?_
    rw [List.mem_singleton] at hx
    refine ⟨_, hx, ?_⟩
    exact
      { label := by decide
        type := by decide
        command := by decide
        commandId := by decide
        commandName := by decide
        params := by decide
        onFailure := by decide
        reference := by
          intro hget
          exact absurd (Json.str.inj (Option.some.inj hget)) (by decide)
        oneRef := by decide }

/-- A run with each kind of writer. -/
def checksRun : List Event :=
  [.createCommand createUptime, .createScript createById, .createPack 0 datePack,
    .installPack 1 2 .fail]

/-- Each operation of this run is sound, so all its rows can be read. -/
theorem readers_return_checks : ReadersReturn plainEnv (runStore plainEnv [] checksRun) := by
  have hfmt : plainEnv.fmt.Lawful := canonicalFormats_lawful
  refine (readers_return_iff hfmt plainColumns_lawful [] checksRun).2 ?_ 4
  intro i e he _
  match i, he with
  | 0, rfl => trivial
  | 1, rfl =>
      intro step hstep hname
      cases List.mem_singleton.1 hstep
      cases hname.2
  | 2, rfl => trivial
  | 3, rfl =>
      intro pack hfind
      have hcommands : pack.commands = [] := by
        cases hfind
        rfl
      have hscripts : pack.scripts = [dateScript] := by
        cases hfind
        rfl
      constructor
      · intro planned hplanned p hp
        rw [hcommands] at hplanned
        cases hplanned
        cases hp
      · intro planned hplanned p hp _
        rw [hscripts] at hplanned
        have heq : planned = [("dates", dateScript)] := by
          cases hplanned
          rfl
        rw [heq, List.mem_singleton] at hp
        rw [hp]
        exact readableItem_dates

end Pack
end NodeNexus
