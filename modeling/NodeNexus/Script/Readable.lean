import NodeNexus.Content.ReadableRows
import NodeNexus.Script.Resolve

/-!
# Readable steps are resolved

`_resolve_step` reads the stored dictionary once more, and a command it refers
to.  An exception other than the two that it reports in the result ends the
whole execution.  For a step that the other readers can read, in a store whose
commands can be read, there is none.
-/

namespace NodeNexus
namespace Script

open Content
open NodeNexus.Core

/-- An outcome that `_resolve_step` turns into a result. -/
def Reported (x : Except Failure String) : Prop :=
  Returns x ∨ ∃ message, x = .error (.commandNotFoundError message) ∨
    x = .error (.templateRenderError message)

theorem returns_resolved {label onFailure : Json} {x : Except Failure String} (h : Reported x) :
    Returns (resolved label onFailure x) := by
  rcases h with ⟨command, rfl⟩ | ⟨message, rfl | rfl⟩
  · exact returns_ok _
  · exact returns_ok _
  · exact returns_ok _

section Resolve

variable {fmt : Formats} {unicode : Unicode}
  {commandReader : Uuid → Except Failure (Option CommandTemplate)} {params d : Json.Fields}

/-- Rendering a template either succeeds or is reported. -/
theorem reported_renderCommand (template : String) (parameters : List CommandParameterDTO)
    (params : Json.Fields) : Reported (renderCommand unicode template parameters params) := by
  cases h : renderCommand unicode template parameters params with
  | ok command => exact .inl (returns_ok command)
  | error e =>
      obtain ⟨message, rfl⟩ := renderCommand_error h
      exact .inr ⟨message, .inr rfl⟩

/-- A readable step says what it runs, or it is reported that it does not. -/
theorem stepSource_of_readable (h : ReadableStep fmt d) :
    (∃ source, stepSource fmt unicode d = .ok source) ∨
      ∃ message, stepSource fmt unicode d = .error (.templateRenderError message) := by
  obtain ⟨t, htype⟩ := type_of_field h.type
  unfold stepSource
  rw [htype]
  cases t with
  | inline =>
      simp only [StepType.text]
      split
      · rename_i htruthy
        rcases field_optional_str.1 h.command with (hget | hget) | ⟨s, hget, -⟩
        · simp [Json.truthyAt, Json.getD, hget, Json.truthy] at htruthy
        · simp [Json.truthyAt, Json.getD, hget, Json.truthy] at htruthy
        · rw [getD_null_eq_str.2 hget]
          exact .inl ⟨.inline s, rfl⟩
      · exact .inr ⟨_, rfl⟩
  | command =>
      simp only [StepType.text]
      have htruthy := h.reference htype
      rw [if_pos htruthy]
      rcases field_optional_str.1 h.commandId with (hget | hget) | ⟨s, hget, hs⟩
      · simp [Json.truthyAt, Json.getD, hget, Json.truthy] at htruthy
      · simp [Json.truthyAt, Json.getD, hget, Json.truthy] at htruthy
      · rw [Bool.and_eq_true] at hs
        obtain ⟨u, hu⟩ := Option.isSome_iff_exists.1 hs.1
        rw [getD_null_eq_str.2 hget, Json.toStr_str, hu]
        exact .inl ⟨.command u, rfl⟩

/-- What a readable step runs is rendered, or it is reported that it is not. -/
theorem reported_renderSource (h : ReadableStep fmt d)
    (hreader : ∀ id, Returns (commandReader id)) (source : StepSource) :
    Reported (renderSource fmt unicode commandReader d params source) := by
  cases source with
  | inline template => exact reported_renderCommand template [] params
  | command id =>
      obtain ⟨found, hfound⟩ := hreader id
      simp only [renderSource, hfound, bind, Except.bind]
      cases found with
      | none => exact .inr ⟨_, .inl rfl⟩
      | some template =>
          obtain ⟨stepParams, hparams, -⟩ := params_of_field h.params
          simp only [hparams]
          exact reported_renderCommand _ _ _

/-- **A readable step is resolved.** -/
theorem returns_resolveStep (h : ReadableStep fmt d)
    (hreader : ∀ id, Returns (commandReader id)) :
    Returns (resolveStep fmt unicode commandReader params (.dict d)) := by
  obtain ⟨label, hlabel, -⟩ := field_str.1 h.label
  simp only [resolveStep, hlabel]
  apply returns_resolved
  have hsource := @stepSource_of_readable fmt unicode d h
  rcases hsource with ⟨source, hsource⟩ | ⟨message, hsource⟩
  · rw [hsource]
    exact reported_renderSource h hreader source
  · rw [hsource]
    exact .inr ⟨message, .inr rfl⟩

/-- All steps of a readable script are resolved. -/
theorem returns_resolveSteps {row : ScriptRow} (h : ReadableScript fmt row)
    (hreader : ∀ id, Returns (commandReader id)) (params : Json.Fields) :
    Returns (resolveSteps fmt unicode commandReader params row) := by
  obtain ⟨items, hitems, hall⟩ := h.steps
  unfold resolveSteps definitionSteps
  rw [iterateOrEmpty_of_iterate hitems]
  refine returns_mapM.2 fun x hx => ?_
  obtain ⟨d, rfl, hd⟩ := hall x hx
  exact returns_resolveStep hd hreader

end Resolve

/-- `get_template` reads what the view of a command reads. -/
theorem returns_templateOfRow {row : CommandRow} :
    Returns (templateOfRow row) ↔ Returns (commandToView row) := by
  rw [returns_commandToView]
  unfold templateOfRow
  rw [returns_bind, returns_bind]
  refine exists_congr fun items => and_congr_right fun _ => ?_
  rw [returns_bind]
  constructor
  · rintro ⟨parameters, hparameters, -⟩
    exact ⟨parameters, hparameters⟩
  · rintro ⟨parameters, hparameters⟩
    exact ⟨parameters, hparameters, returns_ok _⟩

/-- In a store of readable commands every template can be read. -/
theorem returns_getTemplate {commands : Rows CommandBody}
    (h : ∀ row ∈ commands.rows, Returns (commandToView row)) (id : Uuid) :
    Returns (getTemplate commands id) := by
  unfold getTemplate
  cases hfind : commands.find? id with
  | none => exact returns_ok none
  | some row =>
      obtain ⟨template, htemplate⟩ := returns_templateOfRow.2 (h row (Table.mem_of_find? hfind))
      exact ⟨some template, map_eq_ok.2 ⟨template, htemplate, rfl⟩⟩

end Script
end NodeNexus
