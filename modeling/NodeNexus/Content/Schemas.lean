import NodeNexus.Content.Formats
import NodeNexus.Lib.Traverse

/-!
# Commands and scripts: schemas, DTOs and stored forms

A script step passes four representations: the request schema `ScriptStep`,
the `ScriptStepDTO` of the application, the dictionary in the JSON column
`scripts.steps`, and the response, which is the request schema again.  A
command parameter passes the same four.  This file models the
representations and the functions between them, each with the fields its
source lists.

* A schema is a structure that carries the proof of its own checks, so a value
  of type `ScriptStep` is one that pydantic accepted; `ScriptStep.make` and
  `ScriptStep.ofJson` are the two ways pydantic is asked.
* `stepDto`, `stepToDict`, `scriptStepObject` are the ways into the store,
  `stepFromDict` is the way out.

What `uuid` and pydantic make of texts is the parameter `Formats` throughout.
-/

namespace NodeNexus
namespace Content

/-- The exceptions of the commands, scripts and template packs. -/
inductive Failure where
  | domainError (message : String)
  | packConflictError (message : String)
  | packNotFoundError (message : String)
  | commandNotFoundError (message : String)
  | templateRenderError (message : String)
  /-- `pydantic.ValidationError`. -/
  | validationError
  | typeError
  | attributeError
  | keyError (key : String)
  | valueError (message : String)
  /-- `sqlalchemy.exc.IntegrityError`, with the constraint. -/
  | integrityError (constraint : String)
  /-- `sqlalchemy.exc.DBAPIError`: a value that does not fit its column. -/
  | dataError
  deriving DecidableEq

/-! ## Names -/

/-- The characters of `_CONTROL_CHARS_RE`. -/
def isControl (c : Char) : Bool :=
  c.toNat ≤ 0x1f || c.toNat == 0x7f

/-- `SafeName`: a string without control characters. -/
def safeName (s : String) : Bool :=
  s.toList.all fun c => !isControl c

/-- A `SafeName` field with `min_length` and `max_length`. -/
def safeNameIn (lo hi : Nat) (s : String) : Bool :=
  safeName s && lo ≤ s.length && s.length ≤ hi

/-! ## Script steps -/

/-- `ScriptStepType`. -/
inductive StepType where
  | inline
  | command
  deriving DecidableEq

/-- The literal of a step type. -/
def StepType.text : StepType → String
  | .inline => "inline"
  | .command => "command"

/-- The step type with a given literal. -/
def StepType.ofText? (s : String) : Option StepType :=
  if s = "inline" then some .inline else if s = "command" then some .command else none

/-- `ScriptFailurePolicy`. -/
inductive FailurePolicy where
  | stop
  | continue
  deriving DecidableEq

/-- The literal of a failure policy. -/
def FailurePolicy.text : FailurePolicy → String
  | .stop => "stop"
  | .continue => "continue"

/-- The failure policy with a given literal. -/
def FailurePolicy.ofText? (s : String) : Option FailurePolicy :=
  if s = "stop" then some .stop else if s = "continue" then some .continue else none

@[simp] theorem StepType.ofText?_text (t : StepType) : StepType.ofText? t.text = some t := by
  cases t <;> rfl

@[simp] theorem FailurePolicy.ofText?_text (p : FailurePolicy) :
    FailurePolicy.ofText? p.text = some p := by
  cases p <;> rfl

/-- The keyword arguments of `ScriptStep`. -/
structure StepArgs where
  label : String
  type : StepType
  command : Option String
  commandId : Option Uuid
  commandName : Option String
  params : Json.Fields
  onFailure : FailurePolicy

/-- Is a reference given: `not self.command_name` is false? -/
def StepArgs.named (a : StepArgs) : Bool :=
  match a.commandName with
  | none => false
  | some name => name != ""

/-- The field checks of `ScriptStep` and its validator `check_command_ref`. -/
structure StepArgs.Valid (a : StepArgs) : Prop where
  /-- `label`: a safe name of 1 to 255 characters. -/
  label : safeNameIn 1 255 a.label = true
  /-- `command`: at most 4096 characters. -/
  command : ∀ c ∈ a.command, c.length ≤ 4096
  /-- `command_name`: a safe name of at most 255 characters. -/
  commandName : ∀ n ∈ a.commandName, safeNameIn 0 255 n = true
  /-- "command step requires command_id or command_name". -/
  hasRef : a.type = .command → a.commandId.isSome = true ∨ a.named = true
  /-- "Provide only one of command_id or command_name". -/
  oneRef : ¬(a.commandId.isSome = true ∧ a.named = true)

instance (a : StepArgs) : Decidable a.Valid :=
  decidable_of_iff
    (safeNameIn 1 255 a.label = true ∧ (∀ c ∈ a.command, c.length ≤ 4096) ∧
      (∀ n ∈ a.commandName, safeNameIn 0 255 n = true) ∧
      (a.type = .command → a.commandId.isSome = true ∨ a.named = true) ∧
      ¬(a.commandId.isSome = true ∧ a.named = true))
    ⟨fun h => ⟨h.1, h.2.1, h.2.2.1, h.2.2.2.1, h.2.2.2.2⟩,
      fun h => ⟨h.label, h.command, h.commandName, h.hasRef, h.oneRef⟩⟩

/-- `ScriptStep`: the arguments, checked. -/
structure ScriptStep extends StepArgs where
  /-- pydantic accepted it. -/
  valid : toStepArgs.Valid

/-- `ScriptStep(label=…, …)`. -/
def ScriptStep.make (a : StepArgs) : Except Failure ScriptStep :=
  if h : a.Valid then .ok ⟨a, h⟩ else .error .validationError

theorem returns_make {a : StepArgs} : Returns (ScriptStep.make a) ↔ a.Valid := by
  unfold ScriptStep.make
  by_cases h : a.Valid
  · simp [h]
  · simp [h]

/-! ## Reading fields with pydantic -/

/-- A required `SafeName` field: the validator that runs before the type check
searches the value with a regular expression, so anything but a string is a
`TypeError`. -/
def readSafeName (d : Json.Fields) (key : String) : Except Failure String :=
  match Json.get d key with
  | none => .error .validationError
  | some (.str s) => .ok s
  | some _ => .error .typeError

/-- An optional `SafeName` field. -/
def readOptionalSafeName (d : Json.Fields) (key : String) : Except Failure (Option String) :=
  match Json.get d key with
  | none | some .null => .ok none
  | some (.str s) => .ok (some s)
  | some _ => .error .typeError

/-- A field of type `str | None` that is `None` when missing. -/
def readOptionalStr (d : Json.Fields) (key : String) : Except Failure (Option String) :=
  match Json.get d key with
  | none | some .null => .ok none
  | some (.str s) => .ok (some s)
  | some _ => .error .validationError

/-- A field whose values are literals. -/
def readLiteral {α : Type} (ofText? : String → Option α) (default : Option α) (d : Json.Fields)
    (key : String) : Except Failure α :=
  match Json.get d key, default with
  | none, some a => .ok a
  | some (.str s), _ => match ofText? s with
    | some a => .ok a
    | none => .error .validationError
  | _, _ => .error .validationError

/-- A field of type `UUID | None`. -/
def readOptionalUuid (fmt : Formats) (d : Json.Fields) (key : String) :
    Except Failure (Option Uuid) :=
  match Json.get d key with
  | none | some .null => .ok none
  | some x => match fmt.readUuid x with
    | some u => .ok (some u)
    | none => .error .validationError

/-- A field of type `JsonObject` that is empty when missing. -/
def readObject (d : Json.Fields) (key : String) : Except Failure Json.Fields :=
  match Json.get d key with
  | none => .ok []
  | some (.dict p) => .ok p
  | some _ => .error .validationError

/-- A field of type `bool` with a default. -/
def readBoolD (fmt : Formats) (default : Bool) (d : Json.Fields) (key : String) :
    Except Failure Bool :=
  match Json.get d key with
  | none => .ok default
  | some x => match fmt.readBool x with
    | some b => .ok b
    | none => .error .validationError

/-- `ScriptStep.model_validate` of a JSON value. -/
def ScriptStep.ofJson (fmt : Formats) : Json → Except Failure ScriptStep
  | .dict d => do
      let label ← readSafeName d "label"
      let type ← readLiteral StepType.ofText? none d "type"
      let command ← readOptionalStr d "command"
      let commandId ← readOptionalUuid fmt d "command_id"
      let commandName ← readOptionalSafeName d "command_name"
      let params ← readObject d "params"
      let onFailure ← readLiteral FailurePolicy.ofText? (some .stop) d "on_failure"
      ScriptStep.make ⟨label, type, command, commandId, commandName, params, onFailure⟩
  | _ => .error .validationError

/-! ## Script steps in the application and in the store -/

/-- `ScriptStepDTO`. -/
structure ScriptStepDTO where
  label : String
  type : StepType
  command : Option String
  commandId : Option Uuid
  params : Json.Fields
  onFailure : FailurePolicy

/-- `_step_dto`. -/
def stepDto (step : ScriptStep) : ScriptStepDTO where
  label := step.label
  type := step.type
  command := step.command
  commandId := step.commandId
  params := step.params
  onFailure := step.onFailure

/-- A string or `None`. -/
def optionalStr : Option String → Json
  | none => .null
  | some s => .str s

/-- `_step_to_dict`. -/
def stepToDict (fmt : Formats) (step : ScriptStepDTO) : Json.Fields :=
  [("label", .str step.label),
   ("type", .str step.type.text),
   ("command", optionalStr step.command),
   ("command_id", optionalStr (step.commandId.map fmt.printUuid)),
   ("params", .dict step.params),
   ("on_failure", .str step.onFailure.text)]

/-- `_script_step_object`, the same dictionary made by the import endpoint. -/
def scriptStepObject (fmt : Formats) (step : ScriptStep) : Json.Fields :=
  [("label", .str step.label),
   ("type", .str step.type.text),
   ("command", optionalStr step.command),
   ("command_id", optionalStr (step.commandId.map fmt.printUuid)),
   ("params", .dict step.params),
   ("on_failure", .str step.onFailure.text)]

/-- Both ways into the store write one dictionary. -/
theorem scriptStepObject_eq (fmt : Formats) (step : ScriptStep) :
    scriptStepObject fmt step = stepToDict fmt (stepDto step) := rfl

/-- `_required_str`. -/
def requiredStr (d : Json.Fields) (key : String) (default : Json) : Except Failure String :=
  match Json.getD d key default with
  | .str s => .ok s
  | _ => .error (.valueError ("Stored field '" ++ key ++ "' must be a string"))

/-- `_optional_str`. -/
def storedOptionalStr (d : Json.Fields) (key : String) : Except Failure (Option String) :=
  match Json.getD d key .null with
  | .null => .ok none
  | .str s => .ok (some s)
  | _ => .error (.valueError ("Stored field '" ++ key ++ "' must be a string or null"))

/-- `UUID(command_id_value) if command_id_value else None`. -/
def storedCommandId (fmt : Formats) : Option String → Except Failure (Option Uuid)
  | none => .ok none
  | some text =>
      if text = "" then .ok none
      else match fmt.parseUuid text with
        | some u => .ok (some u)
        | none => .error (.valueError "badly formed hexadecimal UUID string")

/-- `_step_from_dict`. -/
def stepFromDict (fmt : Formats) : Json → Except Failure ScriptStepDTO
  | .dict d => do
      let label ← requiredStr d "label" .null
      let stepType ← requiredStr d "type" .null
      let type ← match StepType.ofText? stepType with
        | some t => .ok t
        | none => .error (.valueError "Stored script step type is invalid")
      let command ← storedOptionalStr d "command"
      let commandIdValue ← storedOptionalStr d "command_id"
      let params ← match Json.getD d "params" (.dict []) with
        | .dict p => .ok p
        | _ => .error (.valueError "Stored script step params must be an object")
      let failurePolicy ← requiredStr d "on_failure" (.str "stop")
      let onFailure ← match FailurePolicy.ofText? failurePolicy with
        | some p => .ok p
        | none => .error (.valueError "Stored script failure policy is invalid")
      let commandId ← storedCommandId fmt commandIdValue
      .ok ⟨label, type, command, commandId, params, onFailure⟩
  -- `step.get` of anything but a dictionary
  | _ => .error .attributeError

/-! ## Command parameters -/

/-- `ParameterType`. -/
inductive ParameterType where
  | string
  | integer
  | boolean
  deriving DecidableEq

/-- The literal of a parameter type. -/
def ParameterType.text : ParameterType → String
  | .string => "string"
  | .integer => "integer"
  | .boolean => "boolean"

/-- The parameter type with a given literal. -/
def ParameterType.ofText? (s : String) : Option ParameterType :=
  if s = "string" then some .string
  else if s = "integer" then some .integer
  else if s = "boolean" then some .boolean
  else none

@[simp] theorem ParameterType.ofText?_text (t : ParameterType) :
    ParameterType.ofText? t.text = some t := by
  cases t <;> rfl

/-- `CommandParameterDTO`: what a parameter declares. -/
structure CommandParameterDTO where
  name : String
  type : ParameterType
  required : Bool
  default : Json
  description : Option String

/-- `CommandParameterDTO(name=…)`. -/
def CommandParameterDTO.ofName (name : String) : CommandParameterDTO :=
  ⟨name, .string, true, .null, none⟩

/-- The field checks of `CommandParameter`. -/
structure CommandParameterDTO.Valid (p : CommandParameterDTO) : Prop where
  /-- `name`: a safe name of 1 to 100 characters. -/
  name : safeNameIn 1 100 p.name = true
  /-- `description`: at most 500 characters. -/
  description : ∀ d ∈ p.description, d.length ≤ 500

instance (p : CommandParameterDTO) : Decidable p.Valid :=
  decidable_of_iff (safeNameIn 1 100 p.name = true ∧ ∀ d ∈ p.description, d.length ≤ 500)
    ⟨fun h => ⟨h.1, h.2⟩, fun h => ⟨h.name, h.description⟩⟩

/-- `CommandParameter`: a parameter, checked. -/
structure CommandParameter extends CommandParameterDTO where
  /-- pydantic accepted it. -/
  valid : toCommandParameterDTO.Valid

/-- `CommandParameter.model_validate` of a JSON value. -/
def CommandParameter.ofJson (fmt : Formats) : Json → Except Failure CommandParameter
  | .dict d => do
      let name ← readSafeName d "name"
      let type ← readLiteral ParameterType.ofText? (some .string) d "type"
      let required ← readBoolD fmt true d "required"
      let description ← readOptionalStr d "description"
      let p : CommandParameterDTO := ⟨name, type, required, Json.getD d "default" .null, description⟩
      if h : p.Valid then .ok ⟨p, h⟩ else .error .validationError
  | _ => .error .validationError

/-- `_parameter_to_dict`; `_command_parameter_object` of the import endpoint
lists the same fields. -/
def parameterToDict (p : CommandParameterDTO) : Json.Fields :=
  [("name", .str p.name),
   ("type", .str p.type.text),
   ("required", .bool p.required),
   ("default", p.default),
   ("description", optionalStr p.description)]

/-- `parameter_from_json`. -/
def parameterFromJson : Json → Except Failure CommandParameterDTO
  -- the legacy form: a parameter stored as its name
  | .str name => .ok (.ofName name)
  | .dict d => do
      let name ← match Json.get d "name" with
        | some (.str s) => .ok s
        | _ => .error (.valueError "Stored command parameter name must be a string")
      let type ← match Json.getD d "type" (.str "string") with
        | .str s => match ParameterType.ofText? s with
          | some t => .ok t
          | none => .error (.valueError "Stored command parameter type is invalid")
        | _ => .error (.valueError "Stored command parameter type is invalid")
      let required ← match Json.getD d "required" (.bool true) with
        | .bool b => .ok b
        | _ => .error (.valueError "Stored command parameter required flag must be boolean")
      let description ← match Json.getD d "description" .null with
        | .null => .ok none
        | .str s => .ok (some s)
        | _ => .error (.valueError "Stored command parameter description must be a string")
      .ok ⟨name, type, required, Json.getD d "default" .null, description⟩
  | _ => .error .attributeError

end Content
end NodeNexus
