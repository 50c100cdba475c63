import NodeNexus.Content.ReadableWrites

/-!
# Steps and parameters that go out and come back

A step or a parameter leaves the store through the schema of the export and comes
back as the dictionary that the import stores; the gateways' views read it before
and after.

* `stepFromDict_stepToDict`, `parameterFromJson_parameterToDict` — what is stored
  reads back.
* `stepDto_eq_of_read`, `parameter_eq_of_read` — the schema and the view read the
  same value.
* `commandToView_of_values`, `scriptToView_of_values` — the view of a row that is
  made of an exported entry.
-/

namespace NodeNexus
namespace Content

/-- What is documented about both readers of a UUID: what pydantic accepts, `UUID`
reads as the same value. -/
def Formats.Agree (fmt : Formats) : Prop :=
  ∀ s u, fmt.readUuid (.str s) = some u → fmt.parseUuid s = some u

theorem canonicalFormats_agree : canonicalFormats.Agree :=
  fun _ _ h => h

/-- What is documented about text columns: an accepted string or `None` reads back
as it was, alone and in an array. -/
structure Columns.ReadsBack (db : Columns) : Prop where
  textOrNull : ∀ o r, db.textOrNull (optionalStr o) = .ok r → r = o
  texts : ∀ (ts : List String) r, db.texts (ts.map .str) = .ok r → r = ts.map some

theorem plainColumns_readsBack : plainColumns.ReadsBack where
  textOrNull o r h := by
    cases o with
    | none =>
        cases h
        rfl
    | some s =>
        obtain ⟨s', hs, rfl⟩ := map_eq_ok.1 h
        rw [plainColumns_lawful.text_eq s s' hs]
  texts ts r h := by
    have hrounds := mapM_eq_ok_iff.1 h
    rw [List.forall₂_map_left_iff] at hrounds
    clear h
    induction hrounds with
    | nil => rfl
    | cons hso _ ih =>
        obtain ⟨s', hs, rfl⟩ := map_eq_ok.1 hso
        rw [List.map_cons, ← ih, plainColumns_lawful.text_eq _ _ hs]

theorem bindTags_eq {db : Columns} (hback : db.ReadsBack) {ts : List String}
    {r : Option (List (Option String))} (h : bindTags db (some (ts.map .str)) = .ok r) :
    r = some (ts.map some) := by
  obtain ⟨r', hr', rfl⟩ := map_eq_ok.1 h
  rw [hback.texts ts r' hr']

/-! ## What is stored reads back -/

theorem storedCommandId_print {fmt : Formats} (hfmt : fmt.Lawful) (id : Option Uuid) :
    storedCommandId fmt (id.map fmt.printUuid) = .ok id := by
  cases id with
  | none => rfl
  | some u =>
      show (if fmt.printUuid u = "" then _ else _) = _
      rw [if_neg (hfmt.print_ne_empty u), hfmt.parse_print]

theorem storedOptionalStr_optionalStr {d : Json.Fields} {key : String} {o : Option String}
    (h : Json.get d key = some (optionalStr o)) : storedOptionalStr d key = .ok o := by
  unfold storedOptionalStr Json.getD
  rw [h]
  cases o <;> rfl

/-- **A stored step reads back.** -/
theorem stepFromDict_stepToDict {fmt : Formats} (hfmt : fmt.Lawful) (step : ScriptStepDTO) :
    stepFromDict fmt (.dict (stepToDict fmt step)) = .ok step := by
  have hlabel : requiredStr (stepToDict fmt step) "label" .null = .ok step.label := rfl
  have htype : requiredStr (stepToDict fmt step) "type" .null = .ok step.type.text := rfl
  have hcommand : storedOptionalStr (stepToDict fmt step) "command" = .ok step.command :=
    storedOptionalStr_optionalStr rfl
  have hid : storedOptionalStr (stepToDict fmt step) "command_id" =
      .ok (step.commandId.map fmt.printUuid) := storedOptionalStr_optionalStr rfl
  have hparams : Json.getD (stepToDict fmt step) "params" (.dict []) = .dict step.params := rfl
  have hpolicy : requiredStr (stepToDict fmt step) "on_failure" (.str "stop") =
      .ok step.onFailure.text := rfl
  simp only [stepFromDict, hlabel, htype, StepType.ofText?_text, hcommand, hid, hparams, hpolicy,
    FailurePolicy.ofText?_text, storedCommandId_print hfmt, bind, Except.bind]

/-- **A stored parameter reads back.** -/
theorem parameterFromJson_parameterToDict (p : CommandParameterDTO) :
    parameterFromJson (.dict (parameterToDict p)) = .ok p := by
  have hname : Json.get (parameterToDict p) "name" = some (.str p.name) := rfl
  have htype : Json.getD (parameterToDict p) "type" (.str "string") = .str p.type.text := rfl
  have hrequired : Json.getD (parameterToDict p) "required" (.bool true) = .bool p.required := rfl
  have hdefault : Json.getD (parameterToDict p) "default" .null = p.default := rfl
  have hdescription : Json.getD (parameterToDict p) "description" .null =
      optionalStr p.description := rfl
  simp only [parameterFromJson, hname, htype, ParameterType.ofText?_text, hrequired, hdefault,
    hdescription, bind, Except.bind]
  cases p with
  | mk name type required default description => cases description <;> rfl

/-! ## The schema and the view read alike -/

/-- An id that both readers accept is one id. -/
theorem commandId_eq_of_read {fmt : Formats} (hagree : fmt.Agree) (hfmt : fmt.Lawful)
    {d : Json.Fields} {o : Option String} {parsed read : Option Uuid}
    (hstored : storedOptionalStr d "command_id" = .ok o)
    (hparsed : storedCommandId fmt o = .ok parsed)
    (hread : readOptionalUuid fmt d "command_id" = .ok read) : parsed = read := by
  unfold storedOptionalStr Json.getD at hstored
  unfold readOptionalUuid at hread
  cases hget : Json.get d "command_id" with
  | none =>
      rw [hget] at hstored hread
      cases hstored
      cases hread
      cases hparsed
      rfl
  | some x =>
      rw [hget] at hstored hread
      cases x with
      | null =>
          cases hstored
          cases hread
          cases hparsed
          rfl
      | str s =>
          cases hstored
          cases hv : fmt.readUuid (.str s) with
          | none => simp [hv] at hread
          | some v =>
              have hne : s ≠ "" := by
                rintro rfl
                rw [hfmt.read_empty] at hv
                cases hv
              simp only [hv, Except.ok.injEq] at hread
              simp only [storedCommandId, hne, if_false, hagree s v hv, Except.ok.injEq] at hparsed
              rw [← hparsed, hread]
      | bool _ | int _ | float _ | list _ | dict _ => cases hstored

/-- What a step that the view of a script has read is made of, to the end. -/
theorem stepFromDict_fields {fmt : Formats} {d : Json.Fields} {step : ScriptStepDTO}
    (h : stepFromDict fmt (.dict d) = .ok step) :
    Json.getD d "params" (.dict []) = .dict step.params ∧
      requiredStr d "on_failure" (.str "stop") = .ok step.onFailure.text := by
  simp only [stepFromDict, bind_eq_ok] at h
  obtain ⟨label, -, typeText, -, h⟩ := h
  split at h
  · simp only [bind_eq_ok] at h
    obtain ⟨_, -, command, -, o, -, h⟩ := h
    split at h
    · rename_i p hp
      simp only [bind_eq_ok] at h
      obtain ⟨params, hparams, policy, hpolicy, h⟩ := h
      cases hparams
      split at h
      · rename_i onFailure hfailure
        simp only [bind_eq_ok] at h
        obtain ⟨_, hfailure', id, -, hstep⟩ := h
        cases hfailure'
        cases hstep
        refine ⟨hp, ?_⟩
        rw [hpolicy]
        unfold FailurePolicy.ofText? at hfailure
        split at hfailure
        · rename_i hs
          cases hfailure
          rw [hs]
          rfl
        · split at hfailure
          · rename_i hs
            cases hfailure
            rw [hs]
            rfl
          · cases hfailure
      · obtain ⟨_, herror, -⟩ := bind_eq_ok.1 h
        cases herror
    · obtain ⟨_, herror, -⟩ := bind_eq_ok.1 h
      cases herror
  · obtain ⟨_, herror, -⟩ := bind_eq_ok.1 h
    cases herror

/-- **The export and the view read one step.** -/
theorem stepDto_eq_of_read {fmt : Formats} (hfmt : fmt.Lawful) (hagree : fmt.Agree) {x : Json}
    {dto : ScriptStepDTO} {step : ScriptStep} (hview : stepFromDict fmt x = .ok dto)
    (hjson : ScriptStep.ofJson fmt x = .ok step) : dto = stepDto step := by
  cases x with
  | dict d =>
      obtain ⟨hlabel, htype, hcommand, o, ho, hid⟩ := stepFromDict_eq_ok hview
      obtain ⟨hparams, hpolicy⟩ := stepFromDict_fields hview
      simp only [ScriptStep.ofJson, bind_eq_ok] at hjson
      obtain ⟨label, hlabel', type, htype', command, hcommand', id, hid', name, -, params, hparams',
        onFailure, hfailure, hmake⟩ := hjson
      unfold ScriptStep.make at hmake
      split at hmake
      · cases hmake
        have hlabelEq : label = dto.label := by
          rw [readSafeName_eq_ok, hlabel, Option.some.injEq, Json.str.injEq] at hlabel'
          exact hlabel'.symm
        have htypeEq : type = dto.type := by
          unfold readLiteral at htype'
          rw [htype] at htype'
          simp only [StepType.ofText?_text, Except.ok.injEq] at htype'
          exact htype'.symm
        have hcommandEq : command = dto.command := by
          have hstored := stored_of_readOptionalStr hcommand'
          rw [hcommand, Except.ok.injEq] at hstored
          exact hstored.symm
        have hidEq : id = dto.commandId := (commandId_eq_of_read hagree hfmt ho hid hid').symm
        have hparamsEq : params = dto.params := by
          unfold readObject at hparams'
          unfold Json.getD at hparams
          cases hget : Json.get d "params" with
          | none =>
              rw [hget] at hparams hparams'
              cases hparams'
              exact (Json.dict.inj hparams)
          | some y =>
              rw [hget] at hparams hparams'
              rw [Option.getD_some] at hparams
              rw [hparams] at hparams'
              exact (Except.ok.inj hparams').symm
        have hfailureEq : onFailure = dto.onFailure := by
          unfold readLiteral at hfailure
          rw [requiredStr_eq_ok, Json.getD] at hpolicy
          cases hget : Json.get d "on_failure" with
          | none =>
              rw [hget] at hpolicy hfailure
              have hstop : (Json.str "stop") = .str dto.onFailure.text := hpolicy
              have hdefault : FailurePolicy.ofText? dto.onFailure.text = some .stop := by
                rw [← Json.str.inj hstop]
                rfl
              rw [FailurePolicy.ofText?_text, Option.some.injEq] at hdefault
              rw [hdefault]
              exact (Except.ok.inj hfailure).symm
          | some y =>
              rw [hget] at hpolicy hfailure
              rw [Option.getD_some] at hpolicy
              rw [hpolicy] at hfailure
              simp only [FailurePolicy.ofText?_text, Except.ok.injEq] at hfailure
              exact hfailure.symm
        cases dto with
        | mk label' type' command' commandId' params' onFailure' =>
            simp only at hlabelEq htypeEq hcommandEq hidEq hparamsEq hfailureEq
            subst hlabelEq htypeEq hcommandEq hidEq hparamsEq hfailureEq
            rfl
      · cases hmake
  | null | bool _ | int _ | float _ | str _ | list _ => cases hview

/-- What a parameter that the gateways have read is made of. -/
theorem parameterFromJson_fields {d : Json.Fields} {p : CommandParameterDTO}
    (h : parameterFromJson (.dict d) = .ok p) :
    Json.get d "name" = some (.str p.name) ∧
      Json.getD d "type" (.str "string") = .str p.type.text ∧
      Json.getD d "required" (.bool true) = .bool p.required ∧
      p.default = Json.getD d "default" .null ∧
      Json.getD d "description" .null = optionalStr p.description := by
  simp only [parameterFromJson] at h
  split at h
  · rename_i name hname
    obtain ⟨_, hname', h⟩ := bind_eq_ok.1 h
    cases hname'
    split at h
    · rename_i typeText htype
      split at h
      · rename_i type htext
        obtain ⟨_, htype', h⟩ := bind_eq_ok.1 h
        cases htype'
        split at h
        · rename_i required hrequired
          obtain ⟨_, hrequired', h⟩ := bind_eq_ok.1 h
          cases hrequired'
          have htypeText : typeText = type.text := by
            unfold ParameterType.ofText? at htext
            split at htext
            · rename_i hs
              cases htext
              exact hs
            · split at htext
              · rename_i hs
                cases htext
                exact hs
              · split at htext
                · rename_i hs
                  cases htext
                  exact hs
                · cases htext
          rw [htypeText] at htype
          split at h
          · rename_i hdescription
            obtain ⟨_, hdescription', h⟩ := bind_eq_ok.1 h
            cases hdescription'
            cases h
            exact ⟨hname, htype, hrequired, rfl, hdescription⟩
          · rename_i description hdescription
            obtain ⟨_, hdescription', h⟩ := bind_eq_ok.1 h
            cases hdescription'
            cases h
            exact ⟨hname, htype, hrequired, rfl, hdescription⟩
          · obtain ⟨_, herror, -⟩ := bind_eq_ok.1 h
            cases herror
        · obtain ⟨_, herror, -⟩ := bind_eq_ok.1 h
          cases herror
      · obtain ⟨_, herror, -⟩ := bind_eq_ok.1 h
        cases herror
    · obtain ⟨_, herror, -⟩ := bind_eq_ok.1 h
      cases herror
  · obtain ⟨_, herror, -⟩ := bind_eq_ok.1 h
    cases herror

/-- **The export and the view read one parameter.** -/
theorem parameter_eq_of_read {fmt : Formats} (hfmt : fmt.Lawful) {x : Json}
    {dto : CommandParameterDTO} {p : CommandParameter} (hview : parameterFromJson x = .ok dto)
    (hjson : CommandParameter.ofJson fmt x = .ok p) : dto = p.toCommandParameterDTO := by
  cases x with
  | dict d =>
      obtain ⟨hname, htype, hrequired, hdefault, hdescription⟩ := parameterFromJson_fields hview
      simp only [CommandParameter.ofJson, bind_eq_ok] at hjson
      obtain ⟨name, hname', type, htype', required, hrequired', description, hdescription',
        hmake⟩ := hjson
      split at hmake
      · cases hmake
        have hnameEq : name = dto.name := by
          rw [readSafeName_eq_ok, hname, Option.some.injEq, Json.str.injEq] at hname'
          exact hname'.symm
        have htypeEq : type = dto.type := by
          unfold readLiteral at htype'
          unfold Json.getD at htype
          cases hget : Json.get d "type" with
          | none =>
              rw [hget] at htype htype'
              have hstring : (Json.str "string") = .str dto.type.text := htype
              have hread : ParameterType.ofText? dto.type.text = some .string := by
                rw [← Json.str.inj hstring]
                rfl
              rw [ParameterType.ofText?_text, Option.some.injEq] at hread
              rw [hread]
              exact (Except.ok.inj htype').symm
          | some y =>
              rw [hget] at htype htype'
              rw [Option.getD_some] at htype
              rw [htype] at htype'
              simp only [ParameterType.ofText?_text, Except.ok.injEq] at htype'
              exact htype'.symm
        have hrequiredEq : required = dto.required := by
          unfold readBoolD at hrequired'
          unfold Json.getD at hrequired
          cases hget : Json.get d "required" with
          | none =>
              rw [hget] at hrequired hrequired'
              have htrue : (Json.bool true) = .bool dto.required := hrequired
              rw [← Json.bool.inj htrue]
              exact (Except.ok.inj hrequired').symm
          | some y =>
              rw [hget] at hrequired hrequired'
              rw [Option.getD_some] at hrequired
              rw [hrequired] at hrequired'
              simp only [hfmt.read_bool, Except.ok.injEq] at hrequired'
              exact hrequired'.symm
        have hdescriptionEq : description = dto.description := by
          have hstored := stored_of_readOptionalStr hdescription'
          unfold storedOptionalStr at hstored
          rw [hdescription] at hstored
          cases hd : dto.description with
          | none =>
              rw [hd] at hstored
              exact (Except.ok.inj hstored).symm
          | some s =>
              rw [hd] at hstored
              exact (Except.ok.inj hstored).symm
        cases dto with
        | mk name' type' required' default' description' =>
            simp only at hnameEq htypeEq hrequiredEq hdefault hdescriptionEq
            subst hnameEq htypeEq hrequiredEq hdefault hdescriptionEq
            rfl
      · cases hmake
  | str s => cases hjson
  | null | bool _ | int _ | float _ | list _ => cases hview

/-! ## Rows -/

/-- Tags that are read are strings. -/
theorem readTags_eq {tags : List (Option String)} {ts : List String}
    (h : readTags tags = .ok ts) : tags = ts.map some := by
  unfold readTags at h
  rw [mapM_eq_ok_iff] at h
  induction h with
  | nil => rfl
  | @cons tag t _ _ htag _ ih =>
      cases tag with
      | none => cases htag
      | some s =>
          cases htag
          rw [List.map_cons, ← ih]

/-- The view of a command whose parameters were stored from some list. -/
theorem commandToView_of_stored {row : CommandRow} {ps : List CommandParameterDTO}
    (h : row.body.parameters = storedParameters ps) :
    commandToView row = .ok ⟨row.id, row.name, row.description, row.body.command, ps,
      row.tags.getD [], row.timeout⟩ := by
  have hread : (ps.map fun p => Json.dict (parameterToDict p)).mapM parameterFromJson = .ok ps := by
    rw [mapM_eq_ok_iff, List.forall₂_map_left_iff, List.forall₂_same]
    exact fun p _ => parameterFromJson_parameterToDict p
  unfold commandToView
  rw [h, storedParameters, iterateOrEmpty_list]
  show Except.bind (List.mapM _ _) _ = _
  rw [hread]
  rfl

/-- The view of a script whose steps were stored from some list. -/
theorem scriptToView_of_stored {fmt : Formats} (hfmt : fmt.Lawful) {row : ScriptRow}
    {steps : List ScriptStepDTO} (h : row.body.steps = storedSteps fmt steps) :
    scriptToView fmt row =
      .ok ⟨row.id, row.name, row.description, steps, row.tags.getD [], row.timeout⟩ := by
  have hread : (steps.map fun s => Json.dict (stepToDict fmt s)).mapM (stepFromDict fmt) =
      .ok steps := by
    rw [mapM_eq_ok_iff, List.forall₂_map_left_iff, List.forall₂_same]
    exact fun s _ => stepFromDict_stepToDict hfmt s
  unfold scriptToView
  rw [h, storedSteps]
  show Except.bind (List.mapM _ _) _ = _
  rw [hread]
  rfl

/-- Two readers of the elements of a list that agree on each read one list. -/
theorem map_eq_of_mapM {ε α β γ : Type} {f : α → Except ε β} {g : α → Except ε γ} {h : γ → β}
    {xs : List α} {ys : List β} {zs : List γ} (hy : xs.mapM f = .ok ys) (hz : xs.mapM g = .ok zs)
    (hfg : ∀ x y z, f x = .ok y → g x = .ok z → y = h z) : ys = zs.map h := by
  rw [mapM_eq_ok_iff] at hy hz
  induction hy generalizing zs with
  | nil =>
      cases hz
      rfl
  | cons hxy _ ih =>
      cases hz with
      | cons hxz hrest =>
          rw [List.map_cons, ← ih hrest, hfg _ _ _ hxy hxz]

/-- What a command that is exported and viewed has in both. -/
theorem view_of_exportCommand {fmt : Formats} (hfmt : fmt.Lawful) {row : CommandRow}
    {view : CommandView} {data : CommandExport} (hview : commandToView row = .ok view)
    (hdata : exportCommand fmt row = .ok data) :
    view = ⟨row.id, data.name, data.description, data.command,
        (data.parameters.getD []).map (·.toCommandParameterDTO), data.tags.map some, row.timeout⟩ ∧
      data.name = row.name := by
  simp only [commandToView, bind_eq_ok] at hview
  obtain ⟨items, hitems, ps, hps, hview⟩ := hview
  simp only [exportCommand, bind_eq_ok] at hdata
  obtain ⟨items', hitems', made, hmade, tags, htags, hdata⟩ := hdata
  rw [hitems, Except.ok.injEq] at hitems'
  subst hitems'
  split at hdata
  · cases hdata
    cases hview
    have htagsEq : row.tags.getD [] = tags.map some := readTags_eq htags
    rw [map_eq_of_mapM hps hmade fun x _ _ hx hy => parameter_eq_of_read hfmt hx hy, htagsEq]
    exact ⟨rfl, rfl⟩
  · cases hdata

/-- What a script that is exported and viewed has in both. -/
theorem view_of_exportScript {fmt : Formats} (hfmt : fmt.Lawful) (hagree : fmt.Agree)
    {row : ScriptRow} {view : ScriptView} {data : ScriptExport}
    (hview : scriptToView fmt row = .ok view) (hdata : exportScript fmt row = .ok data) :
    view = ⟨row.id, data.name, data.description, data.steps.map stepDto, data.tags.map some,
        row.timeout⟩ ∧ data.name = row.name := by
  simp only [scriptToView, bind_eq_ok] at hview
  obtain ⟨items, hitems, steps, hsteps, hview⟩ := hview
  simp only [exportScript, bind_eq_ok] at hdata
  obtain ⟨items', hitems', made, hmade, tags, htags, hdata⟩ := hdata
  rw [iterateOrEmpty_of_iterate hitems, Except.ok.injEq] at hitems'
  subst hitems'
  split at hdata
  · cases hdata
    cases hview
    have htagsEq : row.tags.getD [] = tags.map some := readTags_eq htags
    rw [map_eq_of_mapM hsteps hmade fun x _ _ hx hy => stepDto_eq_of_read hfmt hagree hx hy, htagsEq]
    exact ⟨rfl, rfl⟩
  · cases hdata

end Content
end NodeNexus
