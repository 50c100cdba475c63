import NodeNexus.Content.Store
import NodeNexus.Core.Template

/-!
# Resolving the steps of a script

Before a script runs, `ScriptExecutionService._resolve_step` turns each stored
step into a command line: an inline step holds its own template, a command
step refers to a stored command.  A `CommandNotFoundError` or a
`TemplateRenderError` becomes the `resolution_error` of the step; every other
exception ends the execution of the whole script.

* `stepSource` is what the step says it runs, before anything is looked up.
* `renderSource` looks the command up, merges the parameters and renders.
* `resolveStep` is `_resolve_step`.
-/

namespace NodeNexus
namespace Script

open Content
open NodeNexus.Core

/-! ## The command reader -/

/-- `CommandTemplateDTO`, without its timeout. -/
structure CommandTemplate where
  id : Uuid
  command : String
  parameters : List CommandParameterDTO

/-- The template of a command row. -/
def templateOfRow (row : CommandRow) : Except Failure CommandTemplate := do
  let stored ← iterateOrEmpty row.body.parameters
  let parameters ← stored.mapM parameterFromJson
  .ok ⟨row.id, row.body.command, parameters⟩

/-- `get_template`, of the gateway and of `ScopedCommandTemplateReader`. -/
def getTemplate (commands : Rows CommandBody) (id : Uuid) :
    Except Failure (Option CommandTemplate) :=
  match commands.find? id with
  | none => .ok none
  | some row => (templateOfRow row).map some

/-! ## Resolution -/

/-- What a step runs. -/
inductive StepSource where
  /-- The template in the step itself. -/
  | inline (template : String)
  /-- The command with a given id. -/
  | command (id : Uuid)

/-- What a stored step runs: the part of `_resolve_step` before a lookup. -/
def stepSource (fmt : Formats) (unicode : Unicode) (step : Json.Fields) :
    Except Failure StepSource :=
  match Json.get step "type" with
  | none => .error (.keyError "type")
  | some (.str "inline") =>
      if Json.truthyAt step "command" then
        match Json.getD step "command" .null with
        | .str template => .ok (.inline template)
        -- the regular expression is applied to something that is no string
        | _ => .error .typeError
      else .error (.templateRenderError "Inline step has no command")
  | some (.str "command") =>
      if Json.truthyAt step "command_id" then
        match fmt.parseUuid ((Json.getD step "command_id" .null).toStr unicode.isPrintable) with
        | some id => .ok (.command id)
        | none => .error (.valueError "badly formed hexadecimal UUID string")
      else .error (.templateRenderError "Command step has no command_id")
  | some type =>
      .error (.templateRenderError ("Unknown step type: " ++ type.toStr unicode.isPrintable))

/-- The command line of a step that runs a given source. -/
def renderSource (fmt : Formats) (unicode : Unicode)
    (commandReader : Uuid → Except Failure (Option CommandTemplate)) (step params : Json.Fields) :
    StepSource → Except Failure String
  | .inline template => renderCommand unicode template [] params
  | .command id => do
      match ← commandReader id with
      | none => .error (.commandNotFoundError ("Command " ++ fmt.printUuid id ++ " not found"))
      | some template =>
          match Json.getD step "params" (.dict []) with
          | .dict stepParams =>
              renderCommand unicode template.command template.parameters
                (Json.merge params stepParams)
          -- `**step_params` of anything but a mapping
          | _ => .error .typeError

/-- `ResolvedScriptStepDTO`, with the label and the failure policy as stored. -/
structure ResolvedScriptStep where
  label : Json
  command : String
  onFailure : Json
  resolutionError : Option String

/-- The `except (CommandNotFoundError, TemplateRenderError)` of `_resolve_step`. -/
def resolved (label onFailure : Json) : Except Failure String → Except Failure ResolvedScriptStep
  | .ok command => .ok ⟨label, command, onFailure, none⟩
  | .error (.commandNotFoundError message) => .ok ⟨label, "", onFailure, some message⟩
  | .error (.templateRenderError message) => .ok ⟨label, "", onFailure, some message⟩
  | .error e => .error e

/-- `_resolve_step`. -/
def resolveStep (fmt : Formats) (unicode : Unicode)
    (commandReader : Uuid → Except Failure (Option CommandTemplate)) (params : Json.Fields) :
    Json → Except Failure ResolvedScriptStep
  | .dict step =>
      match Json.get step "label" with
      | none => .error (.keyError "label")
      | some label =>
          resolved label (Json.getD step "on_failure" (.str "stop"))
            (stepSource fmt unicode step >>= renderSource fmt unicode commandReader step params)
  | _ => .error .typeError

/-- The steps of `get_definition`: `tuple(script.steps or ())`. -/
def definitionSteps (row : ScriptRow) : Except Failure (List Json) :=
  iterateOrEmpty row.body.steps

/-- The first part of `execute_script`: all steps are resolved. -/
def resolveSteps (fmt : Formats) (unicode : Unicode)
    (commandReader : Uuid → Except Failure (Option CommandTemplate)) (params : Json.Fields)
    (row : ScriptRow) : Except Failure (List ResolvedScriptStep) := do
  let steps ← definitionSteps row
  steps.mapM (resolveStep fmt unicode commandReader params)

end Script
end NodeNexus
