import NodeNexus.Script.Readable
import NodeNexus.Script.RenderComplete
import NodeNexus.Pack.Payload

/-!
# References to commands by name

A command step may refer to its command by `command_id` or by `command_name`.
The reference has to pass four representations: the step as submitted (to the
API or in a pack), the DTO, the dictionary in the column `scripts.steps`, and
what `_resolve_step` reads there.

* `SubmittedStep` is a step as one of the two kinds of writers gets it, with the
  references it carries.
* `Written` lists the ways in which the steps of a script row come about.
* `Resolvable` — a stored step whose resolution does not end the execution of the
  whole script.
* `RunsCommand` says that the execution of a script runs a given command for one of
  its steps: what the step is resolved to is the rendered template of the command.
* `command_name_resolves_iff` — a step that refers to a command by name runs
  that command exactly when it also carries the id of that command, its template can
  be rendered, and no step ends the execution.  The API schema forbids to carry
  both, so a step submitted there never runs the command it names.
-/

namespace NodeNexus
namespace Script

open Content
open NodeNexus.Core

/-! ## Submitted steps -/

/-- A step as a writer gets it. -/
inductive SubmittedStep where
  /-- In a request to the API, accepted by `ScriptStep`. -/
  | api (step : ScriptStep)
  /-- In the content of a pack. -/
  | pack (step : Json)

variable (fmt : Formats) (unicode : Unicode)

/-- The name by which a command step refers to a command. -/
def SubmittedStep.commandName : SubmittedStep → Option String
  | .api step => if step.type = .command ∧ step.named = true then step.commandName else none
  | .pack (.dict d) =>
      match Json.getD d "type" .null, Json.getD d "command_name" .null with
      | .str "command", .str name => if name = "" then none else some name
      | _, _ => none
  | .pack _ => none

/-- The id a step carries. -/
def SubmittedStep.commandId : SubmittedStep → Option Uuid
  | .api step => step.commandId
  | .pack (.dict d) =>
      if Json.truthyAt d "command_id" then
        fmt.parseUuid ((Json.getD d "command_id" .null).toStr unicode.isPrintable)
      else none
  | .pack _ => none

/-- The JSON value a step is stored as. -/
def SubmittedStep.stored : SubmittedStep → Json
  | .api step => .dict (stepToDict fmt (stepDto step))
  | .pack step => step

/-- The rows of `scripts` that come from submitted steps. -/
inductive Written (db : Columns) : List SubmittedStep → ScriptRow → Prop
  /-- `create_script` with the steps of a `ScriptCreate`. -/
  | created {steps : List ScriptStep} {data : ScriptCreateDTO} {id : Uuid} {row : ScriptRow} :
      data.steps = steps.map stepDto →
      bindRow scriptModel db id none (data.values fmt) = .ok row →
      Written db (steps.map .api) row
  /-- `update_script` with the steps of a `ScriptUpdate`. -/
  | updated {steps : List ScriptStep}
      {changes : Changes (Option (Option (List ScriptStepDTO)))} {old row : ScriptRow} :
      changes.body = some (some (steps.map stepDto)) →
      updateRow scriptModel (setScriptBody fmt db) db changes old = .ok row →
      Written db (steps.map .api) row
  /-- `install_pack` with the steps of a script in a pack. -/
  | installed {payload : Json.Fields} {values : Values ScriptBody} {steps : List Json}
      {id packId : Uuid} {row : ScriptRow} :
      Json.getD payload "steps" .null = .list steps →
      Pack.validateScriptPayload unicode.isPrintable payload = .ok values →
      bindRow scriptModel db id (some packId) values = .ok row →
      Written db (steps.map .pack) row

/-! ## Storage -/

section Storage

variable {fmt unicode} {db : Columns}

/-- The body of a script row is the body that was bound. -/
theorem body_of_bindRow (hdb : db.Lawful) {id : Uuid} {packId : Option Uuid}
    {values : Values ScriptBody} {row : ScriptRow}
    (h : bindRow scriptModel db id packId values = .ok row) : row.body = values.body := by
  have hbody := (bindRow_eq_ok h).2.2.body
  simp only [scriptModel, bind_eq_ok, Except.ok.injEq] at hbody
  obtain ⟨steps, hsteps, hrow⟩ := hbody
  rw [← hrow, hdb.json_eq _ _ hsteps]

/-- The body of an updated script row holds the steps of the update. -/
theorem body_of_updateRow (hdb : db.Lawful)
    {changes : Changes (Option (Option (List ScriptStepDTO)))} {old row : ScriptRow}
    {steps : List ScriptStepDTO} (hc : changes.body = some (some steps))
    (h : updateRow scriptModel (setScriptBody fmt db) db changes old = .ok row) :
    row.body = ⟨storedSteps fmt steps⟩ := by
  simp only [updateRow, setScriptBody, setColumn, hc, bind_eq_ok] at h
  obtain ⟨_, _, _, _, body, ⟨stored, hstored, hbody⟩, _, _, _, _, hrow⟩ := h
  cases hbody
  cases hrow
  rw [hdb.json_eq _ _ hstored]
  rfl

/-- The steps a validated pack script has are those of its payload. -/
theorem steps_of_validate {payload : Json.Fields} {values : Values ScriptBody}
    {steps : List Json} (hsteps : Json.getD payload "steps" .null = .list steps)
    (h : Pack.validateScriptPayload unicode.isPrintable payload = .ok values) :
    values.body = ⟨.list steps⟩ := by
  simp only [Pack.validateScriptPayload, hsteps] at h
  split at h
  · cases h
  · cases steps with
    | nil => cases h
    | cons step steps =>
        simp only [bind_eq_ok] at h
        obtain ⟨_, -, _, -, _, -, hv⟩ := h
        cases hv
        rfl

/-- **Every writer stores the list of its submitted steps**, each in its stored
form, in the order in which they were submitted. -/
theorem definitionSteps_of_written (hdb : db.Lawful) {submitted : List SubmittedStep}
    {row : ScriptRow} (h : Written fmt unicode db submitted row) :
    definitionSteps row = .ok (submitted.map (SubmittedStep.stored fmt)) := by
  unfold definitionSteps
  cases h with
  | created hdata hbind =>
      rw [body_of_bindRow hdb hbind, ScriptCreateDTO.values, hdata]
      simp only [storedSteps, iterateOrEmpty_list, List.map_map]
      rfl
  | updated hbody hupdate =>
      rw [body_of_updateRow hdb hbody hupdate]
      simp only [storedSteps, iterateOrEmpty_list, List.map_map]
      rfl
  | installed hsteps hvalid hbind =>
      rw [body_of_bindRow hdb hbind, steps_of_validate hsteps hvalid]
      simp only [iterateOrEmpty_list, List.map_map]
      simp [Function.comp_def, SubmittedStep.stored]

/-! ## Execution -/

/-- The resolution of a stored step does not end the execution of the script: the
step has a label and a type, an inline command is a string, and the id of a command
is one, under which there is no command or one that can be read, for parameters that
are an object. -/
structure Resolvable (fmt : Formats) (unicode : Unicode) (commands : Rows CommandBody)
    (step : Json.Fields) : Prop where
  label : (Json.get step "label").isSome = true
  type : (Json.get step "type").isSome = true
  inline : Json.get step "type" = some (.str "inline") → Json.truthyAt step "command" = true →
    ∃ template, Json.getD step "command" .null = .str template
  reference : Json.get step "type" = some (.str "command") →
    Json.truthyAt step "command_id" = true →
    ∃ id, fmt.parseUuid ((Json.getD step "command_id" .null).toStr unicode.isPrintable) = some id ∧
      ∀ c, commands.find? id = some c → Returns (templateOfRow c) ∧
        ∃ params, Json.getD step "params" (.dict []) = .dict params

theorem returns_resolved_iff {label onFailure : Json} {x : Except Failure String} :
    Returns (resolved label onFailure x) ↔ Reported x := by
  refine ⟨fun h => ?_, returns_resolved⟩
  cases x with
  | ok command => exact .inl (returns_ok command)
  | error e =>
      cases e with
      | commandNotFoundError message => exact .inr ⟨message, .inl rfl⟩
      | templateRenderError message => exact .inr ⟨message, .inr rfl⟩
      | _ => exact absurd h (not_returns_error _)

theorem reported_error_iff {e : Failure} : Reported (.error e) ↔
    ∃ message, e = .commandNotFoundError message ∨ e = .templateRenderError message := by
  simp [Reported]

theorem not_reported_parameterFromJson (x : Json) (e : Failure)
    (h : parameterFromJson x = .error e) : ¬ Reported (.error e) := by
  have hkind : e = .attributeError ∨ ∃ message, e = .valueError message := by
    cases x with
    | str name => cases h
    | null | bool _ | int _ | float _ | list _ =>
        cases h
        exact .inl rfl
    | dict d =>
        simp only [parameterFromJson, bind, Except.bind] at h
        -- each field that is not as it has to be raises a `ValueError`
        repeat' split at h
        all_goals
          cases h
          try exact .inr ⟨_, rfl⟩
  rcases hkind with rfl | ⟨message, rfl⟩ <;> simp [reported_error_iff]

/-- A command that cannot be read raises an exception that is not reported. -/
theorem not_reported_templateOfRow {c : CommandRow} {e : Failure}
    (h : templateOfRow c = .error e) : ¬ Reported (.error e) := by
  simp only [templateOfRow, bind_eq_error] at h
  rcases h with h | ⟨stored, -, h | ⟨parameters, -, h⟩⟩
  · unfold iterateOrEmpty at h
    split at h
    · split at h
      · cases h
      · cases h
        simp [reported_error_iff]
    · cases h
  · exact error_of_mapM not_reported_parameterFromJson h
  · cases h

theorem reported_lookup_iff {commands : Rows CommandBody} {step params : Json.Fields} {id : Uuid} :
    Reported (renderSource fmt unicode (getTemplate commands) step params (.command id)) ↔
      ∀ c, commands.find? id = some c → Returns (templateOfRow c) ∧
        ∃ stepParams, Json.getD step "params" (.dict []) = .dict stepParams := by
  cases hfind : commands.find? id with
  | none =>
      have hnone : getTemplate commands id = .ok none := by rw [getTemplate, hfind]
      simp only [renderSource, hnone, bind, Except.bind, reduceCtorEq, false_implies,
        implies_true, iff_true]
      exact .inr ⟨_, .inl rfl⟩
  | some c =>
      have hget : getTemplate commands id = (templateOfRow c).map some := by rw [getTemplate, hfind]
      simp only [Option.some.injEq, forall_eq']
      cases htemplate : templateOfRow c with
      | error e =>
          have hraises := not_reported_templateOfRow htemplate
          simp only [renderSource, hget, htemplate, Except.map, bind, Except.bind,
            not_returns_error, false_and, iff_false]
          exact hraises
      | ok template =>
          simp only [renderSource, hget, htemplate, Except.map, bind, Except.bind, returns_ok,
            true_and]
          split
          · rename_i stepParams hparams
            exact ⟨fun _ => ⟨stepParams, hparams⟩, fun _ => reported_renderCommand _ _ _⟩
          · rename_i hparams
            constructor
            · intro h
              simp [reported_error_iff] at h
            · rintro ⟨stepParams, h⟩
              exact absurd h (hparams stepParams)

/-- What a labelled step runs is rendered or reported exactly when the step is
resolvable. -/
theorem reported_source_iff {commands : Rows CommandBody} {step params : Json.Fields} {label : Json}
    (hlabel : Json.get step "label" = some label) :
    Reported (stepSource fmt unicode step >>=
        renderSource fmt unicode (getTemplate commands) step params) ↔
      Resolvable fmt unicode commands step := by
  constructor
  · intro h
    unfold stepSource at h
    refine ⟨by rw [hlabel]; rfl, ?_, fun htype htruthy => ?_, fun htype htruthy => ?_⟩
    · cases htype : Json.get step "type" with
      | some type => rfl
      | none =>
          rw [htype] at h
          simp [bind, Except.bind, reported_error_iff] at h
    · simp only [htype, htruthy, if_true] at h
      split at h
      · rename_i template htemplate
        exact ⟨template, htemplate⟩
      · simp [bind, Except.bind, reported_error_iff] at h
    · simp only [htype, htruthy, if_true] at h
      split at h
      · rename_i id hid
        exact ⟨id, hid, reported_lookup_iff.1 h⟩
      · simp [bind, Except.bind, reported_error_iff] at h
  · intro h
    unfold stepSource
    split
    · rename_i htype
      have := h.type
      rw [htype] at this
      cases this
    · rename_i htype
      split
      · rename_i htruthy
        obtain ⟨template, htemplate⟩ := h.inline htype htruthy
        rw [htemplate]
        exact reported_renderCommand _ _ _
      · exact .inr ⟨_, .inr rfl⟩
    · rename_i htype
      split
      · rename_i htruthy
        obtain ⟨id, hid, hlookup⟩ := h.reference htype htruthy
        rw [hid]
        exact reported_lookup_iff.2 hlookup
      · exact .inr ⟨_, .inr rfl⟩
    · exact .inr ⟨_, .inr rfl⟩

/-- **When a stored step is resolved** without an exception, for any parameters. -/
theorem returns_resolveStep_iff {commands : Rows CommandBody} {params : Json.Fields} {raw : Json} :
    Returns (resolveStep fmt unicode (getTemplate commands) params raw) ↔
      ∃ step, raw = .dict step ∧ Resolvable fmt unicode commands step := by
  cases raw with
  | dict step =>
      simp only [Json.dict.injEq, exists_eq_left', resolveStep]
      cases hlabel : Json.get step "label" with
      | none =>
          refine ⟨fun h => absurd h (not_returns_error _), fun h => ?_⟩
          have := h.label
          rw [hlabel] at this
          cases this
      | some label =>
          simp only [returns_resolved_iff]
          exact reported_source_iff hlabel
  | null | bool _ | int _ | float _ | str _ | list _ =>
      refine ⟨fun h => absurd h (not_returns_error _), ?_⟩
      rintro ⟨step, h, -⟩
      cases h

/-- The template of a command can be rendered for a step: every placeholder is declared, and
every required one has a value or a default. -/
def Renders (unicode : Unicode) (params : Json.Fields) (step : Json.Fields) (c : CommandRow) : Prop :=
  ∀ template stepParams, templateOfRow c = .ok template →
    Json.getD step "params" (.dict []) = .dict stepParams →
    ∀ name ∈ findPlaceholders unicode.isWord template.command,
      ¬ Refused template.parameters (Json.merge params stepParams) name

/-- Execution runs a command for the step at a position of a script: the step refers to
it, all steps are resolved, and this one to the rendered template of the command. -/
def RunsCommand (fmt : Formats) (unicode : Unicode) (commands : Rows CommandBody)
    (params : Json.Fields) (row : ScriptRow) (i : Nat) (c : CommandRow) : Prop :=
  ∃ steps step stepParams template resolvedSteps resolvedStep,
    definitionSteps row = .ok steps ∧ steps[i]? = some (.dict step) ∧
    stepSource fmt unicode step = .ok (.command c.id) ∧
    Json.getD step "params" (.dict []) = .dict stepParams ∧
    templateOfRow c = .ok template ∧
    resolveSteps fmt unicode (getTemplate commands) params row = .ok resolvedSteps ∧
    resolvedSteps[i]? = some resolvedStep ∧ resolvedStep.resolutionError = none ∧
    renderCommand unicode template.command template.parameters (Json.merge params stepParams) =
      .ok resolvedStep.command

theorem renders_of_ok {step params stepParams : Json.Fields} {c : CommandRow}
    {template : CommandTemplate} {line : String} (htemplate : templateOfRow c = .ok template)
    (hparams : Json.getD step "params" (.dict []) = .dict stepParams)
    (h : renderCommand unicode template.command template.parameters
      (Json.merge params stepParams) = .ok line) : Renders unicode params step c := by
  intro template' stepParams' htemplate' hparams'
  cases htemplate.symm.trans htemplate'
  cases hparams.symm.trans hparams'
  obtain ⟨-, message, herror⟩ | ⟨hnone, -⟩ := renderCommand_cases unicode template.command
    template.parameters (Json.merge params stepParams)
  · rw [h] at herror
    cases herror
  · exact hnone

theorem Renders.ok {step params stepParams : Json.Fields} {c : CommandRow}
    (h : Renders unicode params step c) {template : CommandTemplate}
    (htemplate : templateOfRow c = .ok template)
    (hparams : Json.getD step "params" (.dict []) = .dict stepParams) :
    Returns (renderCommand unicode template.command template.parameters
      (Json.merge params stepParams)) := by
  obtain ⟨⟨name, hname, hrefused⟩, -⟩ | ⟨-, hok⟩ := renderCommand_cases unicode template.command
    template.parameters (Json.merge params stepParams)
  · exact absurd hrefused (h _ _ htemplate hparams name hname)
  · exact ⟨_, hok⟩

/-- What a step that refers to a command says it runs. -/
theorem stepSource_command {step : Json.Fields} {id : Uuid}
    (h : stepSource fmt unicode step = .ok (.command id)) :
    Json.get step "type" = some (.str "command") ∧ Json.truthyAt step "command_id" = true ∧
      fmt.parseUuid ((Json.getD step "command_id" .null).toStr unicode.isPrintable) = some id := by
  unfold stepSource at h
  split at h
  · cases h
  · split at h
    · split at h <;> cases h
    · cases h
  · rename_i htype
    split at h
    · rename_i htruthy
      split at h
      · rename_i id' hid
        cases h
        exact ⟨htype, htruthy, hid⟩
      · cases h
    · cases h
  · cases h

/-- A resolvable step that refers to a stored command finds it readable, and has
parameters that are an object. -/
theorem Resolvable.of_source {commands : Rows CommandBody} {step : Json.Fields}
    (h : Resolvable fmt unicode commands step) {c : CommandRow}
    (hsource : stepSource fmt unicode step = .ok (.command c.id))
    (hfind : commands.find? c.id = some c) :
    Returns (templateOfRow c) ∧ ∃ params, Json.getD step "params" (.dict []) = .dict params := by
  obtain ⟨htype, htruthy, hid⟩ := stepSource_command hsource
  obtain ⟨id, hid', hlookup⟩ := h.reference htype htruthy
  cases hid.symm.trans hid'
  exact hlookup c hfind

/-- A step that refers to a stored command is resolved to its rendered template. -/
theorem resolveStep_of_source {commands : Rows CommandBody} {step stepParams : Json.Fields}
    {c : CommandRow} {template : CommandTemplate}
    (hsource : stepSource fmt unicode step = .ok (.command c.id))
    (hfind : commands.find? c.id = some c) (htemplate : templateOfRow c = .ok template)
    (hparams : Json.getD step "params" (.dict []) = .dict stepParams)
    (hlabel : (Json.get step "label").isSome = true) (params : Json.Fields) :
    ∃ label, resolveStep fmt unicode (getTemplate commands) params (.dict step) =
      resolved label (Json.getD step "on_failure" (.str "stop"))
        (renderCommand unicode template.command template.parameters
          (Json.merge params stepParams)) := by
  obtain ⟨label, hlabel⟩ := Option.isSome_iff_exists.1 hlabel
  have hget : getTemplate commands c.id = .ok (some template) := by
    simp only [getTemplate, hfind, htemplate, Except.map]
  refine ⟨label, ?_⟩
  simp only [resolveStep, hlabel, hsource, bind, Except.bind, renderSource, hget, hparams]

/-- The id in the stored form of a step that was submitted to the API. -/
theorem stepSource_of_api (fmt : Formats) (unicode : Unicode) (step : ScriptStep)
    (ht : step.type = .command)
    (hid : step.commandId = none) :
    stepSource fmt unicode (stepToDict fmt (stepDto step)) =
      .error (.templateRenderError "Command step has no command_id") := by
  simp [stepSource, stepToDict, stepDto, Json.get, Json.getD, Json.truthyAt, List.lookup_cons, ht, hid,
    StepType.text, optionalStr, Json.truthy]

/-- A step of the API that refers by name carries no id. -/
theorem commandId_of_api_name {step : ScriptStep} {name : String}
    (h : (SubmittedStep.api step).commandName = some name) :
    step.type = .command ∧ step.commandId = none := by
  simp only [SubmittedStep.commandName] at h
  split at h
  · rename_i hstep
    refine ⟨hstep.1, ?_⟩
    by_contra hsome
    exact step.valid.oneRef ⟨Option.isSome_iff_ne_none.2 hsome, hstep.2⟩
  · cases h

/-- **A step submitted to the API with `command_name` fails.**  Its stored form
names no command any more. -/
theorem resolveStep_of_api_name (step : ScriptStep) {name : String}
    (h : (SubmittedStep.api step).commandName = some name)
    (commandReader : Uuid → Except Failure (Option CommandTemplate)) (params : Json.Fields) :
    resolveStep fmt unicode commandReader params (.dict (stepToDict fmt (stepDto step))) =
      .ok ⟨.str step.label, "", .str step.onFailure.text,
        some "Command step has no command_id"⟩ := by
  obtain ⟨htype, hid⟩ := commandId_of_api_name h
  have hsource := stepSource_of_api fmt unicode step htype hid
  have hlabel : Json.get (stepToDict fmt (stepDto step)) "label" = some (.str step.label) := rfl
  have hfail : Json.getD (stepToDict fmt (stepDto step)) "on_failure" (.str "stop") =
      .str step.onFailure.text := rfl
  simp only [resolveStep, hlabel, hsource, hfail, bind, Except.bind, resolved]

/-- What the stored form of a step that refers by name runs: the command whose
id the step carries, if any. -/
theorem stepSource_stored_iff {step : SubmittedStep} {name : String}
    (h : step.commandName = some name) (id : Uuid) :
    (∃ d, step.stored fmt = .dict d ∧ stepSource fmt unicode d = .ok (.command id)) ↔
      step.commandId fmt unicode = some id := by
  cases step with
  | api step =>
      obtain ⟨htype, hid⟩ := commandId_of_api_name h
      simp [SubmittedStep.stored, SubmittedStep.commandId, hid,
        stepSource_of_api fmt unicode step htype hid]
  | pack raw =>
      cases raw with
      | dict d =>
          simp only [SubmittedStep.commandName] at h
          split at h
          · rename_i htype _
            have hget : Json.get d "type" = some (.str "command") := by
              simp only [Json.getD] at htype
              cases hg : Json.get d "type" with
              | none => rw [hg] at htype; cases htype
              | some t => rw [hg] at htype; exact congrArg some htype
            simp only [SubmittedStep.stored, Json.dict.injEq, exists_eq_left', stepSource, hget,
              SubmittedStep.commandId]
            cases Json.truthyAt d "command_id" with
            | false => simp
            | true =>
                cases fmt.parseUuid
                    ((Json.getD d "command_id" .null).toStr unicode.isPrintable) with
                | none => simp
                | some u => simp
          · cases h
      | null | bool _ | int _ | float _ | str _ | list _ => cases h

/-- **When a reference by name is honoured.**  Let a script row be written from
submitted steps, by any writer, and let the step at some position refer to a
command by name.  In a store with a command of that name, the execution of the script
under given parameters runs that command for the step if and only if the step also
carries the id of that command, the template of the command can be rendered for it,
and no step of the script ends the execution. -/
theorem command_name_resolves_iff (hdb : db.Lawful) {submitted : List SubmittedStep}
    {row : ScriptRow} (hrow : Written fmt unicode db submitted row) {i : Nat}
    {step : SubmittedStep} {name : String} (hstep : submitted[i]? = some step)
    (hname : step.commandName = some name) {commands : Rows CommandBody} {c : CommandRow}
    (hc : c ∈ commands.rows) (_ : c.name = name) (params : Json.Fields) :
    RunsCommand fmt unicode commands params row i c ↔
      step.commandId fmt unicode = some c.id ∧
        (∀ d, step.stored fmt = .dict d → Renders unicode params d c) ∧
        ∀ other ∈ submitted, ∃ d, other.stored fmt = .dict d ∧
          Resolvable fmt unicode commands d := by
  have hstored := definitionSteps_of_written hdb hrow
  have hat : (submitted.map (SubmittedStep.stored fmt))[i]? = some (step.stored fmt) := by
    rw [List.getElem?_map, hstep, Option.map_some]
  have hall : Returns (resolveSteps fmt unicode (getTemplate commands) params row) ↔
      ∀ other ∈ submitted, ∃ d, other.stored fmt = .dict d ∧
        Resolvable fmt unicode commands d := by
    unfold resolveSteps
    rw [bind_of_eq_ok hstored, returns_mapM, List.forall_mem_map]
    simp only [returns_resolveStep_iff]
  constructor
  · rintro ⟨steps, d, stepParams, template, resolvedSteps, resolvedStep, hsteps, hraw, hsource,
      hparams, htemplate, hresolved, -, -, hrender⟩
    rw [hstored, Except.ok.injEq] at hsteps
    rw [← hsteps, hat, Option.some.injEq] at hraw
    refine ⟨(stepSource_stored_iff hname c.id).1 ⟨d, hraw, hsource⟩, ?_, hall.1 ⟨_, hresolved⟩⟩
    intro d' hd'
    cases hraw.symm.trans hd'
    exact renders_of_ok htemplate hparams hrender
  · rintro ⟨hid, hrenders, hothers⟩
    obtain ⟨d, hd, hsource⟩ := (stepSource_stored_iff hname c.id).2 hid
    obtain ⟨resolvedSteps, hresolved⟩ := hall.2 hothers
    obtain ⟨d', hd', hresolvable⟩ := hothers step (List.mem_of_getElem? hstep)
    cases hd.symm.trans hd'
    have hfind := Table.find?_of_mem hc
    obtain ⟨⟨template, htemplate⟩, stepParams, hparams⟩ := hresolvable.of_source hsource hfind
    obtain ⟨line, hline⟩ := (hrenders d hd).ok htemplate hparams
    obtain ⟨resolvedStep, hi, hthis⟩ : ∃ resolvedStep, resolvedSteps[i]? = some resolvedStep ∧
        resolveStep fmt unicode (getTemplate commands) params (.dict d) = .ok resolvedStep := by
      unfold resolveSteps at hresolved
      rw [bind_of_eq_ok hstored, mapM_eq_ok_iff] at hresolved
      rw [hd] at hat
      exact getElem?_of_forall₂ hresolved hat
    obtain ⟨label, hrun⟩ :=
      resolveStep_of_source hsource hfind htemplate hparams hresolvable.label params
    rw [hthis, hline] at hrun
    cases hrun
    exact ⟨_, d, stepParams, template, resolvedSteps, _, hstored, hd ▸ hat, hsource, hparams,
      htemplate, hresolved, hi, rfl, hline⟩

end Storage

/-! ## The property, and where it fails -/

/-- Every reference by name is honoured: in every store with a command of that
name, the execution of the script runs that command for the step. -/
def NamesResolve (fmt : Formats) (unicode : Unicode) (db : Columns) : Prop :=
  ∀ (submitted : List SubmittedStep) (row : ScriptRow) (i : Nat) (step : SubmittedStep)
    (name : String) (commands : Rows CommandBody) (c : CommandRow) (params : Json.Fields),
    Written fmt unicode db submitted row → submitted[i]? = some step →
    step.commandName = some name → c ∈ commands.rows → c.name = name →
    RunsCommand fmt unicode commands params row i c

/-- A step as a client sends it: `{"label": "check", "type": "command",
"command_name": "uptime"}`. -/
def uptimeStep : ScriptStep where
  label := "check"
  type := .command
  command := none
  commandId := none
  commandName := some "uptime"
  params := []
  onFailure := .stop
  valid := by decide

/-- The request that creates a script of this one step. -/
def uptimeScript : ScriptCreateDTO where
  name := "checks"
  description := none
  steps := [stepDto uptimeStep]
  tags := []
  timeout := 30

/-- The row of the script. -/
def uptimeScriptRow : ScriptRow where
  id := 2
  name := "checks"
  description := none
  body := ⟨storedSteps canonicalFormats [stepDto uptimeStep]⟩
  tags := some []
  timeout := 30
  templatePackId := none

/-- The command the step means. -/
def uptimeCommand : CommandRow where
  id := 1
  name := "uptime"
  description := none
  body := ⟨"uptime {flag}", .list [.str "flag"]⟩
  tags := some []
  timeout := 30
  templatePackId := none

/-- A store with this command only. -/
def uptimeStore : Rows CommandBody where
  rows := [uptimeCommand]
  nodup := by decide

/-- **The property fails**: a script created through the API with a step that
names a stored command does not run it. -/
theorem not_namesResolve : ¬ NamesResolve canonicalFormats asciiUnicode plainColumns := by
  intro h
  have hwritten : Written canonicalFormats asciiUnicode plainColumns
      ([uptimeStep].map .api) uptimeScriptRow :=
    @Written.created _ _ _ [uptimeStep] uptimeScript 2 uptimeScriptRow rfl rfl
  obtain ⟨steps, step, _, _, _, _, hsteps, hraw, hsource, -⟩ :=
    h _ _ 0 (.api uptimeStep) "uptime" uptimeStore uptimeCommand [] hwritten rfl rfl
      (List.mem_singleton.2 rfl) rfl
  rw [definitionSteps_of_written plainColumns_lawful hwritten, Except.ok.injEq] at hsteps
  rw [← hsteps] at hraw
  cases hraw
  rw [stepSource_of_api canonicalFormats asciiUnicode uptimeStep rfl rfl] at hsource
  cases hsource

/-- An inline step of a pack. -/
def greetStep : Json.Fields :=
  [("label", .str "greet"), ("type", .str "inline"), ("command", .str "echo hello")]

/-- A step of a pack that carries both references, with a value for the parameter. -/
def uptimePackStep : Json.Fields :=
  [("label", .str "check"), ("type", .str "command"), ("command_name", .str "uptime"),
   ("command_id", .str "00000000-0000-0000-0000-000000000001"),
   ("params", .dict [("flag", .str "-p")])]

/-- The script of the pack. -/
def uptimePayload : Json.Fields :=
  [("name", .str "checks"), ("steps", .list [.dict greetStep, .dict uptimePackStep])]

/-- The row the installation of the pack makes. -/
def uptimePackRow : ScriptRow where
  id := 2
  name := "checks"
  description := none
  body := ⟨.list [.dict greetStep, .dict uptimePackStep]⟩
  tags := some []
  timeout := 60
  templatePackId := some 3

theorem resolvable_greet :
    Resolvable canonicalFormats asciiUnicode uptimeStore greetStep where
  label := rfl
  type := rfl
  inline _ _ := ⟨"echo hello", rfl⟩
  reference h _ := by
    have htype : Json.get greetStep "type" = some (.str "inline") := rfl
    rw [htype, Option.some.injEq, Json.str.injEq] at h
    exact absurd h (by decide)

theorem resolvable_uptimePack :
    Resolvable canonicalFormats asciiUnicode uptimeStore uptimePackStep where
  label := rfl
  type := rfl
  inline h _ := by
    have htype : Json.get uptimePackStep "type" = some (.str "command") := rfl
    rw [htype, Option.some.injEq, Json.str.injEq] at h
    exact absurd h (by decide)
  reference _ _ := by
    refine ⟨1, by decide, fun c hc => ?_⟩
    cases hc
    exact ⟨⟨_, rfl⟩, _, rfl⟩

/-- With the id of the named command next to its name the second step runs it. -/
theorem command_name_resolves_uptime :
    RunsCommand canonicalFormats asciiUnicode uptimeStore [] uptimePackRow 1 uptimeCommand := by
  have hwritten : Written canonicalFormats asciiUnicode plainColumns
      ([.dict greetStep, .dict uptimePackStep].map .pack) uptimePackRow :=
    @Written.installed _ _ _ uptimePayload _ [.dict greetStep, .dict uptimePackStep] 2 3
      uptimePackRow rfl rfl rfl
  have hat : ([.dict greetStep, .dict uptimePackStep].map SubmittedStep.pack)[1]? =
      some (.pack (.dict uptimePackStep)) := rfl
  have hname : (SubmittedStep.pack (.dict uptimePackStep)).commandName = some "uptime" := rfl
  have hc : uptimeCommand ∈ uptimeStore.rows := List.mem_singleton.2 rfl
  have hid : (SubmittedStep.pack (.dict uptimePackStep)).commandId canonicalFormats
      asciiUnicode = some uptimeCommand.id := by decide
  refine (command_name_resolves_iff plainColumns_lawful hwritten hat hname hc rfl []).2
    ⟨hid, ?_, ?_⟩
  · intro d hd template stepParams htemplate hparams name hfound
    cases hd
    cases htemplate
    cases hparams
    have hflag : name = "flag" := by
      have hall : ∀ n ∈ findPlaceholders asciiUnicode.isWord "uptime {flag}", n = "flag" := by
        decide
      exact hall name hfound
    subst hflag
    rintro (hnone | ⟨p, -, -, -, hmissing⟩)
    · exact absurd rfl (hnone (.ofName "flag") (List.mem_singleton.2 rfl))
    · cases hmissing
  · intro other hother
    rcases List.mem_cons.1 hother with rfl | hother
    · exact ⟨_, rfl, resolvable_greet⟩
    · rw [List.mem_singleton.1 hother]
      exact ⟨_, rfl, resolvable_uptimePack⟩

end Script
end NodeNexus
