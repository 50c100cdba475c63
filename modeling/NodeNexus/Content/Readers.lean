import NodeNexus.Content.Requests

/-!
# What is read back from the tables

Besides the views of the gateways, rows of `commands` and `scripts` are read by
the response of the scripts API (`script_response`) and by the configuration
export.  Both build the request schemas again, so their checks are made a second
time, now on what is stored.
-/

namespace NodeNexus
namespace Content

/-- A field of type `list[str]`, given the elements of an array column. -/
def readTags (tags : List (Option String)) : Except Failure (List String) :=
  tags.mapM fun
    | some tag => .ok tag
    | none => .error .validationError

/-! ## The response of the scripts API -/

/-- `ScriptResponse`, without its timestamps. -/
structure ScriptResponse where
  id : Uuid
  name : String
  description : Option String
  steps : List ScriptStep
  tags : List String
  timeout : Int

/-- The keyword arguments that `script_response` gives to `ScriptStep`: there is
no `command_name` among them. -/
def ScriptStepDTO.args (step : ScriptStepDTO) : StepArgs where
  label := step.label
  type := step.type
  command := step.command
  commandId := step.commandId
  commandName := none
  params := step.params
  onFailure := step.onFailure

/-- `script_response`. -/
def scriptResponse (script : ScriptView) : Except Failure ScriptResponse := do
  let steps ← script.steps.mapM fun s => ScriptStep.make s.args
  let tags ← readTags script.tags
  .ok ⟨script.id, script.name, script.description, steps, tags, script.timeout⟩

/-! ## The configuration export -/

/-- An entry of `ConfigExport.commands`, made of `asdict(CommandConfigDTO(…))`. -/
def exportCommand (fmt : Formats) (row : CommandRow) : Except Failure CommandExport := do
  let stored ← iterateOrEmpty row.body.parameters
  let parameters ← stored.mapM (CommandParameter.ofJson fmt)
  let tags ← readTags (row.tags.getD [])
  if h : safeName row.name = true then
    .ok ⟨row.name, row.description, row.body.command, some parameters, tags, h⟩
  else .error .validationError

/-- An entry of `ConfigExport.scripts`, made of `asdict(ScriptConfigDTO(…))`. -/
def exportScript (fmt : Formats) (row : ScriptRow) : Except Failure ScriptExport := do
  let stored ← iterateOrEmpty row.body.steps
  let steps ← stored.mapM (ScriptStep.ofJson fmt)
  let tags ← readTags (row.tags.getD [])
  if h : safeName row.name = true then .ok ⟨row.name, row.description, steps, tags, h⟩
  else .error .validationError

/-- `export_config`, its commands and scripts. -/
def exportConfig (fmt : Formats) (commands : Rows CommandBody) (scripts : Rows ScriptBody) :
    Except Failure (List CommandExport × List ScriptExport) := do
  let commands ← commands.rows.mapM (exportCommand fmt)
  let scripts ← scripts.rows.mapM (exportScript fmt)
  .ok (commands, scripts)

end Content
end NodeNexus
