import NodeNexus.Content.Store

/-!
# Requests that write commands and scripts

The bodies that the API accepts for creating and updating commands and scripts,
and the entries of a configuration import.  A request is a structure with the
checks of its pydantic model as fields, so a value is an accepted request; the
functions below are what the handlers make of it.
-/

namespace NodeNexus
namespace Content

/-- `Timeout`: an execution timeout in seconds. -/
def timeoutInRange (timeout : Int) : Prop := 1 ≤ timeout ∧ timeout ≤ 3600

/-- The default timeout. -/
theorem timeoutInRange_default : timeoutInRange 30 := ⟨by decide, by decide⟩

theorem timeoutInRange_none : ∀ t ∈ (none : Option Int), timeoutInRange t := nofun

theorem description_none : ∀ d ∈ (none : Option String), d.length ≤ 1000 := nofun

/-! ## Commands -/

/-- `CommandCreate`. -/
structure CommandCreate where
  name : String
  description : Option String
  command : String
  parameters : List CommandParameter
  tags : List String
  timeout : Int
  name_ok : safeNameIn 1 255 name = true
  description_ok : ∀ d ∈ description, d.length ≤ 1000
  command_ok : 1 ≤ command.length ∧ command.length ≤ 4096
  timeout_ok : timeoutInRange timeout

/-- The DTO that `bulk_create_commands` makes. -/
def CommandCreate.dto (data : CommandCreate) : CommandCreateDTO where
  name := data.name
  description := data.description
  command := data.command
  parameters := data.parameters.map (·.toCommandParameterDTO)
  tags := data.tags
  timeout := data.timeout

/-- `CommandUpdate`; the outer `none` is a field that is not set. -/
structure CommandUpdate where
  name : Option (Option String)
  description : Option (Option String)
  command : Option (Option String)
  parameters : Option (Option (List CommandParameter))
  tags : Option (Option (List String))
  timeout : Option (Option Int)
  name_ok : ∀ n, name = some (some n) → safeNameIn 1 255 n = true
  description_ok : ∀ d, description = some (some d) → d.length ≤ 1000
  command_ok : ∀ c, command = some (some c) → 1 ≤ c.length ∧ c.length ≤ 4096
  timeout_ok : ∀ t, timeout = some (some t) → timeoutInRange t

/-- The changes that `update_command` makes of the set fields. -/
def CommandUpdate.changes (data : CommandUpdate) : Changes CommandBodyChanges where
  name := data.name
  description := data.description
  body :=
    { command := data.command
      parameters := data.parameters.map (Option.map (List.map (·.toCommandParameterDTO))) }
  tags := data.tags
  timeout := data.timeout

/-! ## Scripts -/

/-- `ScriptCreate`. -/
structure ScriptCreate where
  name : String
  description : Option String
  steps : List ScriptStep
  tags : List String
  timeout : Int
  name_ok : safeNameIn 1 255 name = true
  description_ok : ∀ d ∈ description, d.length ≤ 1000
  steps_ok : steps ≠ []
  timeout_ok : timeoutInRange timeout

/-- The DTO that `bulk_create_scripts` makes. -/
def ScriptCreate.dto (data : ScriptCreate) : ScriptCreateDTO where
  name := data.name
  description := data.description
  steps := data.steps.map stepDto
  tags := data.tags
  timeout := data.timeout

/-- `ScriptUpdate`; the outer `none` is a field that is not set. -/
structure ScriptUpdate where
  name : Option (Option String)
  description : Option (Option String)
  steps : Option (Option (List ScriptStep))
  tags : Option (Option (List String))
  timeout : Option (Option Int)
  name_ok : ∀ n, name = some (some n) → safeNameIn 1 255 n = true
  description_ok : ∀ d, description = some (some d) → d.length ≤ 1000
  steps_ok : steps ≠ some (some [])
  timeout_ok : ∀ t, timeout = some (some t) → timeoutInRange t

/-- The changes that `update_script` makes of the set fields. -/
def ScriptUpdate.changes (data : ScriptUpdate) : Changes (Option (Option (List ScriptStepDTO))) where
  name := data.name
  description := data.description
  body := data.steps.map (Option.map (List.map stepDto))
  tags := data.tags
  timeout := data.timeout

/-! ## Configuration import -/

/-- `CommandExport`. -/
structure CommandExport where
  name : String
  description : Option String
  command : String
  parameters : Option (List CommandParameter)
  tags : List String
  name_ok : safeName name = true

/-- The values that `import_config` gives to `CommandModel(…)`: the timeout is
the default of the column. -/
def CommandExport.values (data : CommandExport) : Values CommandBody where
  name := data.name
  description := optionalStr data.description
  body := ⟨data.command,
    storedParameters ((data.parameters.getD []).map (·.toCommandParameterDTO))⟩
  tags := some (data.tags.map .str)
  timeout := defaultTimeout

/-- `ScriptExport`. -/
structure ScriptExport where
  name : String
  description : Option String
  steps : List ScriptStep
  tags : List String
  name_ok : safeName name = true

/-- The values that `import_config` gives to `ScriptModel(…)`. -/
def ScriptExport.values (fmt : Formats) (data : ScriptExport) : Values ScriptBody where
  name := data.name
  description := optionalStr data.description
  body := ⟨.list (data.steps.map fun step => .dict (scriptStepObject fmt step))⟩
  tags := some (data.tags.map .str)
  timeout := defaultTimeout

end Content
end NodeNexus
