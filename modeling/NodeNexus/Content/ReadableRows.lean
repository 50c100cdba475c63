import NodeNexus.Content.Readable

/-!
# Rows that every reader can read

A row of `commands` is read by the view of the gateway and by the export, a row
of `scripts` by the view, by the response and by the export.

* `ReadableCommand` and `ReadableScript` — a row as these readers want it;
  `readableCommand_iff` and `readableScript_iff` say that it is what they want.
* `readableCommand_of_bound` and `readableScript_of_bound` — which values make
  such a row, for each writer.
-/

namespace NodeNexus
namespace Content

/-! ## Parts of rows -/

/-- A list of parameters as the readers want it. -/
def ReadableParameters (parameters : Json) : Prop :=
  ∃ items, iterateOrEmpty parameters = .ok items ∧
    ∀ x ∈ items, ∃ d, x = .dict d ∧ ReadableParameter d

/-- A list of steps as the readers want it. -/
def ReadableSteps (fmt : Formats) (steps : Json) : Prop :=
  ∃ items, iterate steps = .ok items ∧ ∀ x ∈ items, ∃ d, x = .dict d ∧ ReadableStep fmt d

/-- A row of `commands` as the readers want it. -/
structure ReadableCommand (row : CommandRow) : Prop where
  name : safeName row.name = true
  tags : ∀ tag ∈ row.tags.getD [], tag.isSome = true
  parameters : ReadableParameters row.body.parameters

/-- A row of `scripts` as the readers want it. -/
structure ReadableScript (fmt : Formats) (row : ScriptRow) : Prop where
  name : safeName row.name = true
  tags : ∀ tag ∈ row.tags.getD [], tag.isSome = true
  steps : ReadableSteps fmt row.body.steps

theorem returns_readTags {tags : List (Option String)} :
    Returns (readTags tags) ↔ ∀ tag ∈ tags, tag.isSome = true := by
  unfold readTags
  rw [returns_mapM]
  refine forall₂_congr fun tag _ => ?_
  cases tag with
  | none => simp
  | some t => simp

/-- A conjunction of checks that each element of a list passes. -/
theorem exists_returns_iff {ε α β : Type} {x : Except ε (List α)} {f : α → Except ε β} :
    Returns (x >>= fun items => items.mapM f) ↔
      ∃ items, x = .ok items ∧ ∀ a ∈ items, Returns (f a) := by
  rw [returns_bind]
  exact exists_congr fun items => and_congr_right fun _ => returns_mapM

/-! ## Commands -/

/-- Only a dictionary can be a parameter for both readers. -/
theorem readableParameter_json_iff {fmt : Formats} (hfmt : fmt.Lawful) {x : Json} :
    (∃ d, x = .dict d ∧ ReadableParameter d) ↔
      Returns (parameterFromJson x) ∧ Returns (CommandParameter.ofJson fmt x) := by
  cases x with
  | dict d =>
      rw [← readableParameter_iff hfmt]
      simp
  | null | bool _ | int _ | float _ | str _ | list _ => simp [CommandParameter.ofJson]

theorem readableParameters_iff {fmt : Formats} (hfmt : fmt.Lawful) {parameters : Json} :
    ReadableParameters parameters ↔
      Returns (iterateOrEmpty parameters >>= fun items => items.mapM parameterFromJson) ∧
      Returns (iterateOrEmpty parameters >>= fun items =>
        items.mapM (CommandParameter.ofJson fmt)) := by
  rw [exists_returns_iff, exists_returns_iff]
  constructor
  · rintro ⟨items, hitems, hall⟩
    refine ⟨⟨items, hitems, fun x hx => ?_⟩, items, hitems, fun x hx => ?_⟩
    · exact ((readableParameter_json_iff hfmt).1 (hall x hx)).1
    · exact ((readableParameter_json_iff hfmt).1 (hall x hx)).2
  · rintro ⟨⟨items, hitems, hview⟩, items', hitems', hjson⟩
    rw [hitems, Except.ok.injEq] at hitems'
    subst hitems'
    exact ⟨items, hitems, fun x hx =>
      (readableParameter_json_iff hfmt).2 ⟨hview x hx, hjson x hx⟩⟩

theorem returns_commandToView {row : CommandRow} : Returns (commandToView row) ↔
    Returns (iterateOrEmpty row.body.parameters >>= fun items =>
      items.mapM parameterFromJson) := by
  unfold commandToView
  rw [returns_bind, returns_bind]
  refine exists_congr fun items => and_congr_right fun _ => ?_
  rw [returns_bind]
  constructor
  · rintro ⟨parameters, hparameters, -⟩
    exact ⟨parameters, hparameters⟩
  · rintro ⟨parameters, hparameters⟩
    exact ⟨parameters, hparameters, returns_ok _⟩

theorem returns_exportCommand {fmt : Formats} {row : CommandRow} :
    Returns (exportCommand fmt row) ↔
      Returns (iterateOrEmpty row.body.parameters >>= fun items =>
        items.mapM (CommandParameter.ofJson fmt)) ∧
      (∀ tag ∈ row.tags.getD [], tag.isSome = true) ∧ safeName row.name = true := by
  rw [← returns_readTags]
  unfold exportCommand
  constructor
  · rintro ⟨e, h⟩
    simp only [bind_eq_ok] at h
    obtain ⟨items, hitems, parameters, hparameters, tags, htags, h⟩ := h
    split at h
    · rename_i hsafe
      exact ⟨⟨parameters, bind_eq_ok.2 ⟨items, hitems, hparameters⟩⟩, ⟨tags, htags⟩, hsafe⟩
    · cases h
  · rintro ⟨⟨parameters, hparameters⟩, ⟨tags, htags⟩, hsafe⟩
    obtain ⟨items, hitems, hparameters⟩ := bind_eq_ok.1 hparameters
    refine ⟨⟨row.name, row.description, row.body.command, some parameters, tags, hsafe⟩, ?_⟩
    simp only [bind_eq_ok]
    exact ⟨items, hitems, parameters, hparameters, tags, htags, dif_pos hsafe⟩

/-- **What the readers of a command want.** -/
theorem readableCommand_iff {fmt : Formats} (hfmt : fmt.Lawful) {row : CommandRow} :
    ReadableCommand row ↔ Returns (commandToView row) ∧ Returns (exportCommand fmt row) := by
  rw [returns_commandToView, returns_exportCommand]
  constructor
  · rintro ⟨hname, htags, hparameters⟩
    obtain ⟨hview, hjson⟩ := (readableParameters_iff hfmt).1 hparameters
    exact ⟨hview, hjson, htags, hname⟩
  · rintro ⟨hview, hjson, htags, hname⟩
    exact ⟨hname, htags, (readableParameters_iff hfmt).2 ⟨hview, hjson⟩⟩

/-! ## Scripts -/

/-- The steps, as the view and the response of a script read them. -/
def readSteps (fmt : Formats) (items : List Json) : Except Failure (List ScriptStep) := do
  let steps ← items.mapM (stepFromDict fmt)
  steps.mapM fun s => ScriptStep.make s.args

theorem returns_readSteps {fmt : Formats} {items : List Json} :
    Returns (readSteps fmt items) ↔
      ∀ x ∈ items, ∃ step, stepFromDict fmt x = .ok step ∧ step.args.Valid := by
  unfold readSteps
  rw [returns_bind]
  constructor
  · rintro ⟨steps, hsteps, hmake⟩ x hx
    obtain ⟨step, hstep, hxs⟩ := exists_of_forall₂_left (mapM_eq_ok_iff.1 hsteps) hx
    exact ⟨step, hxs, returns_make.1 (returns_mapM.1 hmake step hstep)⟩
  · intro h
    obtain ⟨steps, hsteps⟩ := returns_mapM.2 fun x hx =>
      let ⟨step, hstep, _⟩ := h x hx
      ⟨step, hstep⟩
    refine ⟨steps, hsteps, returns_mapM.2 fun step hstep => ?_⟩
    obtain ⟨x, hx, hxs⟩ := mem_of_mapM hsteps hstep
    obtain ⟨step', hxs', hvalid⟩ := h x hx
    rw [hxs, Except.ok.injEq] at hxs'
    rw [returns_make, hxs']
    exact hvalid

/-- What can be iterated over is iterated over, be it empty or not. -/
theorem iterateOrEmpty_of_iterate {x : Json} {items : List Json} (h : iterate x = .ok items) :
    iterateOrEmpty x = .ok items := by
  unfold iterate at h
  unfold iterateOrEmpty
  cases hx : x.toList? with
  | none =>
      rw [hx] at h
      cases h
  | some items' =>
      rw [hx] at h
      cases h
      split
      · rfl
      · -- nothing that is false has elements
        rename_i hfalsy
        cases x with
        | list xs => cases xs <;> simp_all [Json.truthy, Json.toList?]
        | dict es => cases es <;> simp_all [Json.truthy, Json.toList?]
        | str s => simp_all [Json.truthy, Json.toList?]
        | null | bool _ | int _ | float _ => cases hx

/-- Only a dictionary can be a step for both readers. -/
theorem readableStep_json_iff {fmt : Formats} (hfmt : fmt.Lawful) {x : Json} :
    (∃ d, x = .dict d ∧ ReadableStep fmt d) ↔
      (∃ step, stepFromDict fmt x = .ok step ∧ step.args.Valid) ∧
        Returns (ScriptStep.ofJson fmt x) := by
  cases x with
  | dict d =>
      rw [← readableStep_iff hfmt]
      simp
  | null | bool _ | int _ | float _ | str _ | list _ => simp [ScriptStep.ofJson]

theorem readableSteps_iff {fmt : Formats} (hfmt : fmt.Lawful) {steps : Json} :
    ReadableSteps fmt steps ↔
      Returns (iterate steps >>= readSteps fmt) ∧
      Returns (iterateOrEmpty steps >>= fun items => items.mapM (ScriptStep.ofJson fmt)) := by
  rw [returns_bind, exists_returns_iff]
  simp only [returns_readSteps]
  constructor
  · rintro ⟨items, hitems, hall⟩
    refine ⟨⟨items, hitems, fun x hx => ?_⟩, items, iterateOrEmpty_of_iterate hitems,
      fun x hx => ?_⟩
    · exact ((readableStep_json_iff hfmt).1 (hall x hx)).1
    · exact ((readableStep_json_iff hfmt).1 (hall x hx)).2
  · rintro ⟨⟨items, hitems, hview⟩, items', hitems', hjson⟩
    rw [iterateOrEmpty_of_iterate hitems, Except.ok.injEq] at hitems'
    subst hitems'
    exact ⟨items, hitems, fun x hx => (readableStep_json_iff hfmt).2 ⟨hview x hx, hjson x hx⟩⟩

/-- The view of a script and its response. -/
theorem returns_scriptResponse {fmt : Formats} {row : ScriptRow} :
    Returns (scriptToView fmt row >>= scriptResponse) ↔
      Returns (iterate row.body.steps >>= readSteps fmt) ∧
      ∀ tag ∈ row.tags.getD [], tag.isSome = true := by
  rw [← returns_readTags]
  constructor
  · rintro ⟨response, h⟩
    simp only [scriptToView, scriptResponse, bind_eq_ok] at h
    obtain ⟨view, ⟨items, hitems, steps, hsteps, hview⟩, made, hmade, tags, htags, -⟩ := h
    cases hview
    exact ⟨⟨made, bind_eq_ok.2 ⟨items, hitems, bind_eq_ok.2 ⟨steps, hsteps, hmade⟩⟩⟩,
      ⟨tags, htags⟩⟩
  · rintro ⟨⟨made, hmade⟩, ⟨tags, htags⟩⟩
    obtain ⟨items, hitems, hmade⟩ := bind_eq_ok.1 hmade
    obtain ⟨steps, hsteps, hmade⟩ := bind_eq_ok.1 hmade
    refine ⟨⟨row.id, row.name, row.description, made, tags, row.timeout⟩, ?_⟩
    simp only [scriptToView, scriptResponse, bind_eq_ok]
    exact ⟨_, ⟨items, hitems, steps, hsteps, rfl⟩, made, hmade, tags, htags, rfl⟩

theorem returns_exportScript {fmt : Formats} {row : ScriptRow} :
    Returns (exportScript fmt row) ↔
      Returns (iterateOrEmpty row.body.steps >>= fun items =>
        items.mapM (ScriptStep.ofJson fmt)) ∧
      (∀ tag ∈ row.tags.getD [], tag.isSome = true) ∧ safeName row.name = true := by
  rw [← returns_readTags]
  unfold exportScript
  constructor
  · rintro ⟨e, h⟩
    simp only [bind_eq_ok] at h
    obtain ⟨items, hitems, steps, hsteps, tags, htags, h⟩ := h
    split at h
    · rename_i hsafe
      exact ⟨⟨steps, bind_eq_ok.2 ⟨items, hitems, hsteps⟩⟩, ⟨tags, htags⟩, hsafe⟩
    · cases h
  · rintro ⟨⟨steps, hsteps⟩, ⟨tags, htags⟩, hsafe⟩
    obtain ⟨items, hitems, hsteps⟩ := bind_eq_ok.1 hsteps
    refine ⟨⟨row.name, row.description, steps, tags, hsafe⟩, ?_⟩
    simp only [bind_eq_ok]
    exact ⟨items, hitems, steps, hsteps, tags, htags, dif_pos hsafe⟩

/-- **What the readers of a script want.** -/
theorem readableScript_iff {fmt : Formats} (hfmt : fmt.Lawful) {row : ScriptRow} :
    ReadableScript fmt row ↔
      Returns (scriptToView fmt row >>= scriptResponse) ∧ Returns (exportScript fmt row) := by
  rw [returns_scriptResponse, returns_exportScript]
  constructor
  · rintro ⟨hname, htags, hsteps⟩
    obtain ⟨hview, hjson⟩ := (readableSteps_iff hfmt).1 hsteps
    exact ⟨⟨hview, htags⟩, hjson, htags, hname⟩
  · rintro ⟨⟨hview, htags⟩, hjson, -, hname⟩
    exact ⟨hname, htags, (readableSteps_iff hfmt).2 ⟨hview, hjson⟩⟩

end Content
end NodeNexus
