import NodeNexus.Content.Readers

/-!
# Steps and parameters that every reader can read

A step and a parameter are stored as dictionaries, and each reader looks at
them with rules of its own.  This file says what the dictionaries have to look
like for all of them.

* `field` and the checks next to it describe one field of a dictionary.
* `ReadableStep` — a step as the readers want it; `readableStep_iff` says that it
  is what they want, no more and no less.
* `ReadableParameter` and `readableParameter_iff` — the same for parameters.
-/

namespace NodeNexus
namespace Content

/-! ## Checks of fields -/

/-- A string with a property. -/
def strWith (p : String → Bool) : Json → Bool
  | .str s => p s
  | _ => false

/-- `None` or something with a property. -/
def nullOr (p : Json → Bool) : Json → Bool
  | .null => true
  | x => p x

/-- A boolean. -/
def isBool : Json → Bool
  | .bool _ => true
  | _ => false

/-- A dictionary. -/
def isDict : Json → Bool
  | .dict _ => true
  | _ => false

/-- The value of a key has a property; `missing` says whether the key may be
missing. -/
def field (d : Json.Fields) (key : String) (missing : Bool) (p : Json → Bool) : Bool :=
  match Json.get d key with
  | none => missing
  | some x => p x

section Fields

variable {d : Json.Fields} {key : String} {p : String → Bool}

theorem strWith_eq_true {x : Json} : strWith p x = true ↔ ∃ s, x = .str s ∧ p s = true := by
  cases x <;> simp [strWith]

theorem isBool_eq_true {x : Json} : isBool x = true ↔ ∃ b, x = .bool b := by
  cases x <;> simp [isBool]

theorem isDict_eq_true {x : Json} : isDict x = true ↔ ∃ p, x = .dict p := by
  cases x <;> simp [isDict]

/-- A required string, as the three readers of one see it. -/
theorem field_str : field d key false (strWith p) = true ↔
    ∃ s, Json.get d key = some (.str s) ∧ p s = true := by
  unfold field
  cases Json.get d key with
  | none => simp
  | some x => simp [strWith_eq_true]

/-- A string that may be missing. -/
theorem field_str_or_missing : field d key true (strWith p) = true ↔
    Json.get d key = none ∨ ∃ s, Json.get d key = some (.str s) ∧ p s = true := by
  unfold field
  cases Json.get d key with
  | none => simp
  | some x => simp [strWith_eq_true]

/-- A string that may be missing or `None`. -/
theorem field_optional_str : field d key true (nullOr (strWith p)) = true ↔
    (Json.get d key = none ∨ Json.get d key = some .null) ∨
      ∃ s, Json.get d key = some (.str s) ∧ p s = true := by
  unfold field
  cases Json.get d key with
  | none => simp
  | some x => cases x <;> simp [nullOr, strWith]

theorem field_dict : field d key true isDict = true ↔
    Json.get d key = none ∨ ∃ q, Json.get d key = some (.dict q) := by
  unfold field
  cases Json.get d key with
  | none => simp
  | some x => simp [isDict_eq_true]

theorem field_bool : field d key true isBool = true ↔
    Json.get d key = none ∨ ∃ b, Json.get d key = some (.bool b) := by
  unfold field
  cases Json.get d key with
  | none => simp
  | some x => simp [isBool_eq_true]

/-- What a reader of an optional string makes of a field. -/
theorem optional_str_readers :
    field d key true (nullOr (strWith p)) = true ↔
      ∃ o, storedOptionalStr d key = .ok o ∧ readOptionalStr d key = .ok o ∧
        readOptionalSafeName d key = .ok o ∧ ∀ s ∈ o, p s = true := by
  unfold field storedOptionalStr readOptionalStr readOptionalSafeName Json.getD
  cases Json.get d key with
  | none => simp
  | some x => cases x <;> simp [nullOr, strWith]

/-- The truth value of an optional string. -/
theorem truthyAt_of_stored {o : Option String} (h : storedOptionalStr d key = .ok o) :
    Json.truthyAt d key = o.any fun s => s != "" := by
  unfold storedOptionalStr at h
  unfold Json.truthyAt
  cases hget : Json.getD d key .null with
  | null =>
      rw [hget] at h
      cases h
      rfl
  | str s =>
      rw [hget] at h
      cases h
      rfl
  | bool _ | int _ | float _ | list _ | dict _ =>
      rw [hget] at h
      cases h

theorem readSafeName_eq_ok {s : String} :
    readSafeName d key = .ok s ↔ Json.get d key = some (.str s) := by
  unfold readSafeName
  cases Json.get d key with
  | none => simp
  | some x => cases x <;> simp

theorem requiredStr_eq_ok {default : Json} {s : String} :
    requiredStr d key default = .ok s ↔ Json.getD d key default = .str s := by
  unfold requiredStr
  cases Json.getD d key default <;> simp

theorem getD_null_eq_str {s : String} :
    Json.getD d key .null = .str s ↔ Json.get d key = some (.str s) := by
  unfold Json.getD
  cases Json.get d key <;> simp

/-- What a reader of a literal accepts. -/
theorem returns_readLiteral {α : Type} {ofText? : String → Option α} {default : Option α} :
    Returns (readLiteral ofText? default d key) ↔
      field d key default.isSome (strWith fun s => (ofText? s).isSome) = true := by
  unfold readLiteral field
  cases Json.get d key with
  | none => cases default <;> simp
  | some x =>
      cases x with
      | str s =>
          cases h : ofText? s with
          | none => simp [strWith, h]
          | some a => simp [strWith, h]
      | _ => simp [strWith]

theorem returns_readObject : Returns (readObject d key) ↔ field d key true isDict = true := by
  unfold readObject field
  cases Json.get d key with
  | none => simp
  | some x => cases x <;> simp [isDict]

end Fields

/-! ## Steps -/

/-- A step of a script as the readers want it. -/
structure ReadableStep (fmt : Formats) (d : Json.Fields) : Prop where
  label : field d "label" false (strWith (safeNameIn 1 255)) = true
  type : field d "type" false (strWith fun s => (StepType.ofText? s).isSome) = true
  command : field d "command" true (nullOr (strWith fun s => s.length ≤ 4096)) = true
  /-- The id is one that both `UUID` and pydantic read. -/
  commandId : field d "command_id" true (nullOr (strWith fun s =>
    (fmt.parseUuid s).isSome && (fmt.readUuid (.str s)).isSome)) = true
  commandName : field d "command_name" true (nullOr (strWith (safeNameIn 0 255))) = true
  params : field d "params" true isDict = true
  onFailure : field d "on_failure" true (strWith fun s => (FailurePolicy.ofText? s).isSome) = true
  /-- A command step has an id, whatever its name says. -/
  reference : Json.get d "type" = some (.str "command") → Json.truthyAt d "command_id" = true
  /-- Not both. -/
  oneRef : ¬(Json.truthyAt d "command_id" = true ∧ Json.truthyAt d "command_name" = true)

/-- The types of steps, by their literals. -/
theorem StepType.ofText?_eq_some {s : String} {t : StepType} :
    StepType.ofText? s = some t ↔ s = t.text := by
  constructor
  · unfold StepType.ofText?
    intro h
    split at h
    · rename_i hs
      cases h
      exact hs
    · split at h
      · rename_i hs
        cases h
        exact hs
      · cases h
  · rintro rfl
    exact StepType.ofText?_text t

theorem StepArgs.named_eq_any (a : StepArgs) :
    a.named = a.commandName.any fun name => name != "" := by
  unfold StepArgs.named
  cases a.commandName <;> rfl

section Step

variable {fmt : Formats} {d : Json.Fields}

/-- What the two readers of `command_id` make of it. -/
structure StepId (fmt : Formats) (d : Json.Fields) (parsed read : Option Uuid) : Prop where
  stored : ∃ o, storedOptionalStr d "command_id" = .ok o ∧ storedCommandId fmt o = .ok parsed
  json : readOptionalUuid fmt d "command_id" = .ok read
  parsed_isSome : parsed.isSome = Json.truthyAt d "command_id"
  read_isSome : read.isSome = Json.truthyAt d "command_id"

theorem stepId_of_field (hfmt : fmt.Lawful)
    (h : field d "command_id" true (nullOr (strWith fun s =>
      (fmt.parseUuid s).isSome && (fmt.readUuid (.str s)).isSome)) = true) :
    ∃ parsed read, StepId fmt d parsed read := by
  rcases field_optional_str.1 h with hmissing | ⟨s, hget, hs⟩
  · have hnull : Json.getD d "command_id" .null = .null := by
      rcases hmissing with hget | hget
      · simp [Json.getD, hget]
      · simp [Json.getD, hget]
    have hread : readOptionalUuid fmt d "command_id" = .ok none := by
      rcases hmissing with hget | hget
      · simp [readOptionalUuid, hget]
      · simp [readOptionalUuid, hget]
    have hfalsy : Json.truthyAt d "command_id" = false := by
      simp [Json.truthyAt, hnull, Json.truthy]
    exact ⟨none, none, ⟨none, by simp [storedOptionalStr, hnull], rfl⟩, hread, hfalsy.symm,
      hfalsy.symm⟩
  · rw [Bool.and_eq_true] at hs
    obtain ⟨u, hu⟩ := Option.isSome_iff_exists.1 hs.1
    obtain ⟨v, hv⟩ := Option.isSome_iff_exists.1 hs.2
    have hne : s ≠ "" := by
      rintro rfl
      rw [hfmt.read_empty] at hv
      cases hv
    have hstr : Json.getD d "command_id" .null = .str s := getD_null_eq_str.2 hget
    have htruthy : Json.truthyAt d "command_id" = true := by
      simp [Json.truthyAt, hstr, Json.truthy, hne]
    refine ⟨some u, some v, ⟨some s, ?_, ?_⟩, ?_, htruthy.symm, htruthy.symm⟩
    · simp [storedOptionalStr, hstr]
    · simp [storedCommandId, hne, hu]
    · simp [readOptionalUuid, hget, hv]

theorem field_of_stepId (hfmt : fmt.Lawful) {o : Option String} {parsed read : Option Uuid}
    (hstored : storedOptionalStr d "command_id" = .ok o)
    (hparsed : storedCommandId fmt o = .ok parsed)
    (hread : readOptionalUuid fmt d "command_id" = .ok read) :
    field d "command_id" true (nullOr (strWith fun s =>
      (fmt.parseUuid s).isSome && (fmt.readUuid (.str s)).isSome)) = true := by
  unfold field
  unfold storedOptionalStr Json.getD at hstored
  unfold readOptionalUuid at hread
  cases hget : Json.get d "command_id" with
  | none => rfl
  | some x =>
      rw [hget] at hstored hread
      cases x with
      | null => rfl
      | str s =>
          cases hstored
          cases hv : fmt.readUuid (.str s) with
          | none => simp [hv] at hread
          | some v =>
              have hne : s ≠ "" := by
                rintro rfl
                rw [hfmt.read_empty] at hv
                cases hv
              cases hu : fmt.parseUuid s with
              | none => simp [storedCommandId, hne, hu] at hparsed
              | some u => simp [nullOr, strWith, hu, hv]
      | bool _ | int _ | float _ | list _ | dict _ => cases hstored

/-- The type of a step, as both readers find it. -/
theorem type_of_field (h : field d "type" false
      (strWith fun s => (StepType.ofText? s).isSome) = true) :
    ∃ t : StepType, Json.get d "type" = some (.str t.text) := by
  obtain ⟨s, hget, hs⟩ := field_str.1 h
  obtain ⟨t, ht⟩ := Option.isSome_iff_exists.1 hs
  rw [StepType.ofText?_eq_some.1 ht] at hget
  exact ⟨t, hget⟩

/-- The failure policy of a step, as both readers find it. -/
theorem onFailure_of_field (h : field d "on_failure" true
      (strWith fun s => (FailurePolicy.ofText? s).isSome) = true) :
    ∃ (s : String) (p : FailurePolicy), requiredStr d "on_failure" (.str "stop") = .ok s ∧
      FailurePolicy.ofText? s = some p ∧
      readLiteral FailurePolicy.ofText? (some .stop) d "on_failure" = .ok p := by
  rcases field_str_or_missing.1 h with hget | ⟨s, hget, hs⟩
  · refine ⟨"stop", .stop, ?_, rfl, ?_⟩
    · rw [requiredStr_eq_ok, Json.getD, hget]
      rfl
    · simp [readLiteral, hget]
  · obtain ⟨p, hp⟩ := Option.isSome_iff_exists.1 hs
    refine ⟨s, p, ?_, hp, ?_⟩
    · rw [requiredStr_eq_ok, Json.getD, hget]
      rfl
    · simp [readLiteral, hget, hp]

/-- The parameters of a step, as both readers find them. -/
theorem params_of_field (h : field d "params" true isDict = true) :
    ∃ p, Json.getD d "params" (.dict []) = .dict p ∧ readObject d "params" = .ok p := by
  rcases field_dict.1 h with hget | ⟨p, hget⟩
  · exact ⟨[], by simp [Json.getD, hget], by simp [readObject, hget]⟩
  · exact ⟨p, by simp [Json.getD, hget], by simp [readObject, hget]⟩

/-- The view of a script and its response read a readable step. -/
theorem ReadableStep.response (hfmt : fmt.Lawful) (h : ReadableStep fmt d) :
    ∃ step, stepFromDict fmt (.dict d) = .ok step ∧ step.args.Valid := by
  obtain ⟨label, hlabel, hsafe⟩ := field_str.1 h.label
  obtain ⟨t, htype⟩ := type_of_field h.type
  obtain ⟨command, hcommand, -, -, hlen⟩ := optional_str_readers.1 h.command
  obtain ⟨id, read, hid⟩ := stepId_of_field hfmt h.commandId
  obtain ⟨o, hstored, hparsed⟩ := hid.stored
  obtain ⟨params, hparams, -⟩ := params_of_field h.params
  obtain ⟨policy, onFailure, hpolicy, hfailure, -⟩ := onFailure_of_field h.onFailure
  have hlabel' : requiredStr d "label" .null = .ok label :=
    requiredStr_eq_ok.2 (getD_null_eq_str.2 hlabel)
  have htype' : requiredStr d "type" .null = .ok t.text :=
    requiredStr_eq_ok.2 (getD_null_eq_str.2 htype)
  refine ⟨⟨label, t, command, id, params, onFailure⟩, ?_, ?_⟩
  · simp only [stepFromDict, hlabel', htype', StepType.ofText?_text, hcommand, hstored, hparams,
      hpolicy, hfailure, hparsed, bind, Except.bind]
  · exact
      { label := hsafe
        command := fun c hc => by simpa using hlen c hc
        commandName := fun n hn => by cases hn
        hasRef := by
          rintro rfl
          left
          show id.isSome = true
          rw [hid.parsed_isSome]
          exact h.reference htype
        oneRef := by
          rintro ⟨-, hnamed⟩
          cases hnamed }

/-- pydantic reads a readable step. -/
theorem ReadableStep.json (hfmt : fmt.Lawful) (h : ReadableStep fmt d) :
    Returns (ScriptStep.ofJson fmt (.dict d)) := by
  obtain ⟨label, hlabel, hsafe⟩ := field_str.1 h.label
  obtain ⟨t, htype⟩ := type_of_field h.type
  obtain ⟨command, -, hcommand, -, hlen⟩ := optional_str_readers.1 h.command
  obtain ⟨id, read, hid⟩ := stepId_of_field hfmt h.commandId
  obtain ⟨name, hstored, -, hname, hnameSafe⟩ := optional_str_readers.1 h.commandName
  obtain ⟨params, -, hparams⟩ := params_of_field h.params
  obtain ⟨-, onFailure, -, -, hfailure⟩ := onFailure_of_field h.onFailure
  have hlabel' : readSafeName d "label" = .ok label := readSafeName_eq_ok.2 hlabel
  have htype' : readLiteral StepType.ofText? none d "type" = .ok t := by
    simp [readLiteral, htype]
  simp only [ScriptStep.ofJson, hlabel', htype', hcommand, hid.json, hname, hparams, hfailure,
    bind, Except.bind]
  rw [returns_make]
  exact
    { label := hsafe
      command := fun c hc => by simpa using hlen c hc
      commandName := hnameSafe
      hasRef := by
        rintro rfl
        left
        show read.isSome = true
        rw [hid.read_isSome]
        exact h.reference htype
      oneRef := by
        rintro ⟨hsome, hnamed⟩
        refine h.oneRef ⟨hid.read_isSome ▸ hsome, ?_⟩
        rw [truthyAt_of_stored hstored]
        rw [StepArgs.named_eq_any] at hnamed
        exact hnamed }

/-- What a step that the view of a script has read is made of. -/
theorem stepFromDict_eq_ok {step : ScriptStepDTO} (h : stepFromDict fmt (.dict d) = .ok step) :
    Json.get d "label" = some (.str step.label) ∧
      Json.get d "type" = some (.str step.type.text) ∧
      storedOptionalStr d "command" = .ok step.command ∧
      ∃ o, storedOptionalStr d "command_id" = .ok o ∧
        storedCommandId fmt o = .ok step.commandId := by
  simp only [stepFromDict, bind_eq_ok] at h
  obtain ⟨label, hlabel, typeText, htype, h⟩ := h
  rw [requiredStr_eq_ok, getD_null_eq_str] at hlabel htype
  split at h
  · rename_i t ht
    simp only [bind_eq_ok] at h
    obtain ⟨_, ht', command, hcommand, o, ho, h⟩ := h
    cases ht'
    rw [StepType.ofText?_eq_some.1 ht] at htype
    split at h
    · simp only [bind_eq_ok] at h
      obtain ⟨params, -, policy, -, h⟩ := h
      split at h
      · simp only [bind_eq_ok] at h
        obtain ⟨onFailure, -, id, hid, hstep⟩ := h
        cases hstep
        exact ⟨hlabel, htype, hcommand, o, ho, hid⟩
      · obtain ⟨_, herror, -⟩ := bind_eq_ok.1 h
        cases herror
    · obtain ⟨_, herror, -⟩ := bind_eq_ok.1 h
      cases herror
  · obtain ⟨_, herror, -⟩ := bind_eq_ok.1 h
    cases herror

/-- An optional string that was read, and its length or form. -/
theorem field_of_stored {key : String} {o : Option String} {p : String → Bool}
    (h : storedOptionalStr d key = .ok o) (hp : ∀ s ∈ o, p s = true) :
    field d key true (nullOr (strWith p)) = true := by
  unfold field
  unfold storedOptionalStr Json.getD at h
  cases hget : Json.get d key with
  | none => rfl
  | some x =>
      rw [hget] at h
      cases x with
      | null => rfl
      | str s =>
          cases h
          exact hp s rfl
      | bool _ | int _ | float _ | list _ | dict _ => cases h

/-- Optional strings are read alike by pydantic and by `_optional_str`. -/
theorem stored_of_readOptionalSafeName {key : String} {o : Option String}
    (h : readOptionalSafeName d key = .ok o) : storedOptionalStr d key = .ok o := by
  unfold storedOptionalStr Json.getD
  unfold readOptionalSafeName at h
  cases hget : Json.get d key with
  | none =>
      rw [hget] at h
      exact h
  | some x =>
      rw [hget] at h
      cases x with
      | null => exact h
      | str s => exact h
      | bool _ | int _ | float _ | list _ | dict _ => cases h

theorem stored_of_readOptionalStr {key : String} {o : Option String}
    (h : readOptionalStr d key = .ok o) : storedOptionalStr d key = .ok o := by
  unfold storedOptionalStr Json.getD
  unfold readOptionalStr at h
  cases hget : Json.get d key with
  | none =>
      rw [hget] at h
      exact h
  | some x =>
      rw [hget] at h
      cases x with
      | null => exact h
      | str s => exact h
      | bool _ | int _ | float _ | list _ | dict _ => cases h

/-- **What the readers of a step want**: a dictionary is read by the view of a
script, by its response and by the export if and only if it is readable. -/
theorem readableStep_iff (hfmt : fmt.Lawful) : ReadableStep fmt d ↔
    (∃ step, stepFromDict fmt (.dict d) = .ok step ∧ step.args.Valid) ∧
      Returns (ScriptStep.ofJson fmt (.dict d)) := by
  constructor
  · exact fun h => ⟨h.response hfmt, h.json hfmt⟩
  · rintro ⟨⟨step, hview, hvalid⟩, made, hjson⟩
    obtain ⟨hlabel, htype, hcommand, o, ho, hid⟩ := stepFromDict_eq_ok hview
    simp only [ScriptStep.ofJson, bind_eq_ok] at hjson
    obtain ⟨_, _, t, ht, _, _, read, hread, name, hname, params, hparams, onFailure, hfailure,
      hmake⟩ := hjson
    have hmade := returns_make.1 ⟨made, hmake⟩
    have hstored := stored_of_readOptionalSafeName hname
    have hidField := field_of_stepId hfmt ho hid hread
    -- both readers see an id exactly when there is a text
    obtain ⟨id', read', hstepId⟩ := stepId_of_field hfmt hidField
    obtain ⟨o', ho', hid'⟩ := hstepId.stored
    rw [ho, Except.ok.injEq] at ho'
    rw [← ho', hid, Except.ok.injEq] at hid'
    have hread' := hstepId.json
    rw [hread, Except.ok.injEq] at hread'
    exact
      { label := field_str.2 ⟨step.label, hlabel, hvalid.label⟩
        type := returns_readLiteral.1 ⟨t, ht⟩
        command := field_of_stored hcommand fun c hc => by simpa using hvalid.command c hc
        commandId := hidField
        commandName := field_of_stored hstored hmade.commandName
        params := returns_readObject.1 ⟨params, hparams⟩
        onFailure := returns_readLiteral.1 ⟨onFailure, hfailure⟩
        reference := by
          intro hcommandType
          rw [htype, Option.some.injEq, Json.str.injEq] at hcommandType
          have hcommand : step.type = .command := by
            cases hst : step.type with
            | command => rfl
            | inline =>
                rw [hst] at hcommandType
                exact absurd hcommandType (by decide)
          rw [← hstepId.parsed_isSome, ← hid']
          rcases hvalid.hasRef hcommand with hsome | hnamed
          · exact hsome
          · cases hnamed
        oneRef := by
          rintro ⟨htruthy, hname'⟩
          refine hmade.oneRef ⟨?_, ?_⟩
          · show read.isSome = true
            rw [hread', hstepId.read_isSome]
            exact htruthy
          · rw [truthyAt_of_stored hstored] at hname'
            rw [StepArgs.named_eq_any]
            exact hname' }

end Step

/-! ## Parameters -/

/-- A parameter of a command as the readers want it. -/
structure ReadableParameter (d : Json.Fields) : Prop where
  name : field d "name" false (strWith (safeNameIn 1 100)) = true
  type : field d "type" true (strWith fun s => (ParameterType.ofText? s).isSome) = true
  required : field d "required" true isBool = true
  description : field d "description" true (nullOr (strWith fun s => s.length ≤ 500)) = true

section Parameter

variable {fmt : Formats} {d : Json.Fields}

/-- The type of a parameter, as both readers find it. -/
theorem parameterType_of_field (h : field d "type" true
      (strWith fun s => (ParameterType.ofText? s).isSome) = true) :
    ∃ s t, Json.getD d "type" (.str "string") = .str s ∧ ParameterType.ofText? s = some t := by
  rcases field_str_or_missing.1 h with hget | ⟨s, hget, hs⟩
  · exact ⟨"string", .string, by simp [Json.getD, hget], rfl⟩
  · obtain ⟨t, ht⟩ := Option.isSome_iff_exists.1 hs
    exact ⟨s, t, by simp [Json.getD, hget], ht⟩

/-- The flag of a parameter. -/
theorem required_of_field (h : field d "required" true isBool = true) :
    ∃ b, Json.getD d "required" (.bool true) = .bool b := by
  rcases field_bool.1 h with hget | ⟨b, hget⟩
  · exact ⟨true, by simp [Json.getD, hget]⟩
  · exact ⟨b, by simp [Json.getD, hget]⟩

/-- The readers in the gateways read a readable parameter. -/
theorem ReadableParameter.view (h : ReadableParameter d) :
    Returns (parameterFromJson (.dict d)) := by
  obtain ⟨name, hname, -⟩ := field_str.1 h.name
  obtain ⟨s, t, htype, ht⟩ := parameterType_of_field h.type
  obtain ⟨b, hrequired⟩ := required_of_field h.required
  have hdescription : Json.getD d "description" .null = .null ∨
      ∃ s, Json.getD d "description" .null = .str s := by
    rcases field_optional_str.1 h.description with (hget | hget) | ⟨s, hget, -⟩
    · exact .inl (by simp [Json.getD, hget])
    · exact .inl (by simp [Json.getD, hget])
    · exact .inr ⟨s, getD_null_eq_str.2 hget⟩
  rcases hdescription with hdescription | ⟨s, hdescription⟩
  · simp only [parameterFromJson, hname, htype, ht, hrequired, hdescription, bind, Except.bind]
    exact returns_ok _
  · simp only [parameterFromJson, hname, htype, ht, hrequired, hdescription, bind, Except.bind]
    exact returns_ok _

/-- pydantic reads a readable parameter. -/
theorem ReadableParameter.json (hfmt : fmt.Lawful) (h : ReadableParameter d) :
    Returns (CommandParameter.ofJson fmt (.dict d)) := by
  obtain ⟨name, hname, hsafe⟩ := field_str.1 h.name
  have hname' : readSafeName d "name" = .ok name := readSafeName_eq_ok.2 hname
  have htypeReads : Returns (readLiteral ParameterType.ofText? (some .string) d "type") :=
    returns_readLiteral.2 h.type
  obtain ⟨t, htype⟩ := htypeReads
  have hrequiredReads : ∃ b, readBoolD fmt true d "required" = .ok b := by
    rcases field_bool.1 h.required with hget | ⟨b, hget⟩
    · exact ⟨true, by simp [readBoolD, hget]⟩
    · exact ⟨b, by simp [readBoolD, hget, hfmt.read_bool]⟩
  obtain ⟨b, hrequired⟩ := hrequiredReads
  obtain ⟨description, -, hdescription, -, hlen⟩ := optional_str_readers.1 h.description
  have hvalid : CommandParameterDTO.Valid
      ⟨name, t, b, Json.getD d "default" .null, description⟩ :=
    ⟨hsafe, fun s hs => by simpa using hlen s hs⟩
  refine ⟨⟨_, hvalid⟩, ?_⟩
  simp only [CommandParameter.ofJson, hname', htype, hrequired, hdescription, bind, Except.bind]
  exact dif_pos hvalid

/-- The flag of a parameter that a gateway has read is a boolean. -/
theorem required_of_view {p : CommandParameterDTO} (h : parameterFromJson (.dict d) = .ok p) :
    field d "required" true isBool = true := by
  unfold field
  cases hget : Json.get d "required" with
  | none => rfl
  | some x =>
      cases x with
      | bool b => rfl
      | null | int _ | float _ | str _ | list _ | dict _ =>
          simp only [parameterFromJson, Json.getD, hget, Option.getD_some] at h
          split at h
          · split at h
            · split at h
              · obtain ⟨_, -, h⟩ := bind_eq_ok.1 h
                obtain ⟨_, -, h⟩ := bind_eq_ok.1 h
                cases h
              · obtain ⟨_, -, h⟩ := bind_eq_ok.1 h
                cases h
            · obtain ⟨_, -, h⟩ := bind_eq_ok.1 h
              cases h
          · cases h

/-- **What the readers of a parameter want**: a dictionary is read by the
gateways and by the export if and only if it is readable. -/
theorem readableParameter_iff (hfmt : fmt.Lawful) : ReadableParameter d ↔
    Returns (parameterFromJson (.dict d)) ∧ Returns (CommandParameter.ofJson fmt (.dict d)) := by
  constructor
  · exact fun h => ⟨h.view, h.json hfmt⟩
  · rintro ⟨⟨p, hview⟩, made, hjson⟩
    simp only [CommandParameter.ofJson, bind_eq_ok] at hjson
    obtain ⟨name, hname, t, ht, b, hb, description, hdescription', hmake⟩ := hjson
    split at hmake
    · rename_i hvalid
      have hstored := stored_of_readOptionalStr hdescription'
      exact
        { name := field_str.2 ⟨name, readSafeName_eq_ok.1 hname, hvalid.name⟩
          type := returns_readLiteral.1 ⟨t, ht⟩
          required := required_of_view hview
          description := field_of_stored hstored fun s hs => by
            simpa using hvalid.description s hs }
    · cases hmake

end Parameter

end Content
end NodeNexus
