import NodeNexus.Lib.FirstFree
import NodeNexus.Content.Store

/-!
# The content of a template pack

A pack holds its commands and scripts as JSON dictionaries.  Before it is
installed each item gets a name that is free and is then checked by
`_validate_command_payload` or `_validate_script_payload`; what the check
returns are the values of the row.

`uniqueName` is the loop of `_unique_name`; `uniqueName_not_mem` says that it
ends with a name that is free, for any set of names.
-/

namespace NodeNexus
namespace Pack

open Content

/-! ## Names -/

/-- `f"{base}_{idx}"`. -/
def candidateName (base : String) (idx : Nat) : String :=
  base ++ "_" ++ toString idx

theorem candidateName_injective (base : String) : Function.Injective (candidateName base) := by
  intro i j h
  unfold candidateName at h
  rw [String.append_right_inj] at h
  have hdigits : Nat.toDigits 10 i = Nat.toDigits 10 j := by
    rw [Nat.toString_eq_repr, Nat.toString_eq_repr, Nat.repr, Nat.repr] at h
    exact String.ofList_injective h
  rw [← @Nat.ofDigitChars_ten_toDigits i, hdigits, Nat.ofDigitChars_ten_toDigits]

/-- `_unique_name`. -/
def uniqueName (base : String) (existing : List String) : String :=
  if base ∈ existing then firstFree (candidateName base) (candidateName_injective base) existing 1
  else base

/-- The name that is returned is free. -/
theorem uniqueName_not_mem (base : String) (existing : List String) :
    uniqueName base existing ∉ existing := by
  unfold uniqueName
  split
  · exact firstFree_not_mem _ existing 1
  · assumption

/-! ## Payload checks -/

section Payload

-- The characters `repr` prints as they are, beyond ASCII.
variable (printable : Char → Bool)

/-- `isinstance(x, str) and x and len(x) <= limit`. -/
def boundedStr (limit : Nat) : Json → Option String
  | .str s => if s ≠ "" ∧ s.length ≤ limit then some s else none
  | _ => none

/-- `payload.get("timeout", 60)`, checked to be an integer. -/
def payloadTimeout (payload : Json.Fields) (name : Json) : Except Failure Int :=
  match Json.getD payload "timeout" (.int 60) with
  | .int n => .ok n
  | _ => .error (.domainError ("Invalid timeout in pack item " ++ name.repr printable))

/-- `list(payload.get("tags") or [])`. -/
def payloadTags (payload : Json.Fields) : Except Failure (List Json) :=
  iterateOrEmpty (Json.getD payload "tags" .null)

/-- `_validate_command_payload`. -/
def validateCommandPayload (payload : Json.Fields) : Except Failure (Values CommandBody) :=
  let name := Json.getD payload "name" .null
  match boundedStr 255 name with
  | none => .error (.domainError ("Invalid command name in pack: " ++ name.repr printable))
  | some nameStr =>
      match boundedStr 4096 (Json.getD payload "command" .null) with
      | none =>
          .error (.domainError ("Invalid command body in pack item " ++ name.repr printable))
      | some command => do
          let timeout ← payloadTimeout printable payload name
          let tags ← payloadTags payload
          .ok { name := nameStr
                description := Json.getD payload "description" .null
                body := ⟨command, (Json.getD payload "parameters" .null).orElse (.list [])⟩
                tags := some tags
                timeout := timeout }

/-- The check of one step of a script payload. -/
def checkPayloadStep (name : Json) : Json → Except Failure Unit
  | .dict step =>
      match Json.getD step "type" .null with
      | .str "inline" => .ok ()
      | .str "command" =>
          if Json.truthyAt step "command_id" || Json.truthyAt step "command_name" then .ok ()
          else .error (.domainError ("Command step in script " ++ name.repr printable ++
            " requires command_id or command_name"))
      | type => .error (.domainError ("Invalid step type in script " ++ name.repr printable ++
          ": " ++ type.repr printable))
  | _ => .error (.domainError ("Invalid step in script " ++ name.repr printable))

/-- The loop over the steps of a script payload. -/
def checkPayloadSteps (name : Json) : List Json → Except Failure Unit
  | [] => .ok ()
  | step :: steps => do
      checkPayloadStep printable name step
      checkPayloadSteps name steps

/-- `_validate_script_payload`. -/
def validateScriptPayload (payload : Json.Fields) : Except Failure (Values ScriptBody) :=
  let name := Json.getD payload "name" .null
  match boundedStr 255 name with
  | none => .error (.domainError ("Invalid script name in pack: " ++ name.repr printable))
  | some nameStr =>
      match Json.getD payload "steps" .null with
      | .list (step :: steps) => do
          checkPayloadSteps printable name (step :: steps)
          let timeout ← payloadTimeout printable payload name
          let tags ← payloadTags payload
          .ok { name := nameStr
                description := Json.getD payload "description" .null
                body := ⟨.list (step :: steps)⟩
                tags := some tags
                timeout := timeout }
      | _ => .error (.domainError ("Script " ++ name.repr printable ++
          " requires at least one step"))

/-! ## What the checks accept -/

variable {printable}

theorem boundedStr_eq_some {limit : Nat} {x : Json} {s : String}
    (h : boundedStr limit x = some s) : x = .str s := by
  unfold boundedStr at h
  split at h
  · split at h
    · cases h
      rfl
    · cases h
  · cases h

theorem payloadTimeout_eq_ok {payload : Json.Fields} {name : Json} {n : Int}
    (h : payloadTimeout printable payload name = .ok n) :
    Json.getD payload "timeout" (.int 60) = .int n := by
  unfold payloadTimeout at h
  split at h
  · rename_i hint
    cases h
    exact hint
  · cases h

/-- The values of a command come from the fields of its payload. -/
theorem validateCommandPayload_eq_ok {payload : Json.Fields} {v : Values CommandBody}
    (h : validateCommandPayload printable payload = .ok v) :
    Json.getD payload "name" .null = .str v.name ∧
      v.description = Json.getD payload "description" .null ∧
      Json.getD payload "command" .null = .str v.body.command ∧
      v.body.parameters = (Json.getD payload "parameters" .null).orElse (.list []) ∧
      (∃ tags, payloadTags payload = .ok tags ∧ v.tags = some tags) ∧
      Json.getD payload "timeout" (.int 60) = .int v.timeout := by
  unfold validateCommandPayload at h
  simp only at h
  split at h
  · cases h
  · rename_i name hname
    split at h
    · cases h
    · rename_i command hcommand
      simp only [bind_eq_ok] at h
      obtain ⟨timeout, htimeout, tags, htags, h⟩ := h
      cases h
      exact ⟨boundedStr_eq_some hname, rfl, boundedStr_eq_some hcommand, rfl, ⟨tags, htags, rfl⟩,
        payloadTimeout_eq_ok htimeout⟩

/-- And those of a script. -/
theorem validateScriptPayload_eq_ok {payload : Json.Fields} {v : Values ScriptBody}
    (h : validateScriptPayload printable payload = .ok v) :
    Json.getD payload "name" .null = .str v.name ∧
      v.description = Json.getD payload "description" .null ∧
      Json.getD payload "steps" .null = v.body.steps ∧
      (∃ tags, payloadTags payload = .ok tags ∧ v.tags = some tags) ∧
      Json.getD payload "timeout" (.int 60) = .int v.timeout := by
  unfold validateScriptPayload at h
  simp only at h
  split at h
  · cases h
  · rename_i name hname
    split at h
    · rename_i step steps hsteps
      simp only [bind_eq_ok] at h
      obtain ⟨-, -, timeout, htimeout, tags, htags, h⟩ := h
      cases h
      exact ⟨boundedStr_eq_some hname, rfl, hsteps, ⟨tags, htags, rfl⟩,
        payloadTimeout_eq_ok htimeout⟩
    · cases h

end Payload

end Pack
end NodeNexus
