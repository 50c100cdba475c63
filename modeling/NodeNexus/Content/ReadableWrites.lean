import NodeNexus.Content.ReadableRows

/-!
# Which writes make readable rows

For each way in which users write commands and scripts, the condition under
which the row that is written can be read by every reader.

* `ReadableCommand.of_bound` and `ReadableScript.of_bound` — a row made of bound
  values, in terms of the values.
* `readableStep_stored_iff` — a step that pydantic accepted is stored as a
  readable one exactly when it does not refer to its command by name only.
* `Adds` — rows are added to a table, one for each of some values.
-/

namespace NodeNexus
namespace Content

variable {Body : Type}

/-! ## Values and rows -/

section Bound

variable {db : Columns}

/-- The elements of an array column are strings exactly when no bound value is
`None`. -/
theorem tags_of_bindTags (hdb : db.Lawful) {tags : Option (List Json)}
    {stored : Option (List (Option String))} (h : bindTags db tags = .ok stored) :
    (∀ tag ∈ stored.getD [], tag.isSome = true) ↔ ∀ tag ∈ tags.getD [], tag ≠ .null := by
  cases tags with
  | none =>
      cases h
      simp
  | some ts =>
      obtain ⟨r, hr, rfl⟩ := map_eq_ok.1 h
      exact hdb.texts_isSome ts r hr

/-- Strings are not `None`. -/
theorem strings_ne_null (ts : List String) :
    ∀ tag ∈ (some (ts.map Json.str)).getD [], tag ≠ .null := by
  intro tag htag
  obtain ⟨t, -, rfl⟩ := List.mem_map.1 htag
  exact Json.noConfusion

/-- A command made of bound values. -/
theorem readableCommand_of_bound (hdb : db.Lawful) {v : Values CommandBody} {row : CommandRow}
    (h : Bound commandModel db v row) : ReadableCommand row ↔
      safeName v.name = true ∧ (∀ tag ∈ v.tags.getD [], tag ≠ .null) ∧
        ReadableParameters v.body.parameters := by
  have hbody := h.body
  simp only [commandModel, bind_eq_ok, Except.ok.injEq] at hbody
  obtain ⟨command, -, parameters, hparameters, hrow⟩ := hbody
  have hjson : row.body.parameters = v.body.parameters := by
    rw [← hrow]
    exact hdb.json_eq _ _ hparameters
  rw [← tags_of_bindTags hdb h.tags, ← h.name_eq hdb, ← hjson]
  exact ⟨fun hr => ⟨hr.name, hr.tags, hr.parameters⟩, fun hr => ⟨hr.1, hr.2.1, hr.2.2⟩⟩

/-- A script made of bound values. -/
theorem readableScript_of_bound (hdb : db.Lawful) {fmt : Formats} {v : Values ScriptBody}
    {row : ScriptRow} (h : Bound scriptModel db v row) : ReadableScript fmt row ↔
      safeName v.name = true ∧ (∀ tag ∈ v.tags.getD [], tag ≠ .null) ∧
        ReadableSteps fmt v.body.steps := by
  have hbody := h.body
  simp only [scriptModel, bind_eq_ok, Except.ok.injEq] at hbody
  obtain ⟨steps, hsteps, hrow⟩ := hbody
  have hjson : row.body.steps = v.body.steps := by
    rw [← hrow]
    exact hdb.json_eq _ _ hsteps
  rw [← tags_of_bindTags hdb h.tags, ← h.name_eq hdb, ← hjson]
  exact ⟨fun hr => ⟨hr.name, hr.tags, hr.steps⟩, fun hr => ⟨hr.1, hr.2.1, hr.2.2⟩⟩

end Bound

theorem safeName_of_in {lo hi : Nat} {s : String} (h : safeNameIn lo hi s = true) :
    safeName s = true := by
  unfold safeNameIn at h
  simp only [Bool.and_eq_true] at h
  exact h.1.1

/-! ## What the API stores -/

/-- A command step that refers to its command by name only. -/
def ScriptStep.byName (step : ScriptStep) : Prop :=
  step.type = .command ∧ step.commandId = none

section Stored

variable {fmt : Formats}

theorem field_optionalStr {d : Json.Fields} {key : String} {o : Option String}
    {p : String → Bool} (hget : Json.get d key = some (optionalStr o)) (hp : ∀ s ∈ o, p s = true) :
    field d key true (nullOr (strWith p)) = true := by
  unfold field
  rw [hget]
  cases o with
  | none => rfl
  | some s => exact hp s rfl

/-- The id of a step that is stored. -/
theorem truthyAt_commandId (hfmt : fmt.Lawful) (step : ScriptStepDTO) :
    Json.truthyAt (stepToDict fmt step) "command_id" = step.commandId.isSome := by
  have hget : Json.getD (stepToDict fmt step) "command_id" .null =
      optionalStr (step.commandId.map fmt.printUuid) := rfl
  unfold Json.truthyAt
  rw [hget]
  cases step.commandId with
  | none => rfl
  | some u => simp [optionalStr, Json.truthy, hfmt.print_ne_empty]

/-- **A step that pydantic accepted is stored as a readable one exactly when it
does not refer to its command by name only.** -/
theorem readableStep_stored_iff (hfmt : fmt.Lawful) (step : ScriptStep) :
    ReadableStep fmt (stepToDict fmt (stepDto step)) ↔ ¬step.byName := by
  constructor
  · rintro h ⟨htype, hid⟩
    have hget : Json.get (stepToDict fmt (stepDto step)) "type" = some (.str "command") := by
      show some (Json.str step.type.text) = _
      rw [htype]
      rfl
    have htruthy := h.reference hget
    rw [truthyAt_commandId hfmt] at htruthy
    rw [show (stepDto step).commandId = none from hid] at htruthy
    cases htruthy
  · intro hnot
    exact
      { label := step.valid.label
        type := by
          show (StepType.ofText? step.type.text).isSome = true
          rw [StepType.ofText?_text]
          rfl
        command := field_optionalStr rfl fun c hc => by simpa using step.valid.command c hc
        commandId := by
          refine field_optionalStr rfl fun s hs => ?_
          obtain ⟨u, -, rfl⟩ := Option.map_eq_some_iff.1 hs
          rw [hfmt.parse_print, hfmt.read_print]
          rfl
        commandName := rfl
        params := rfl
        onFailure := by
          show (FailurePolicy.ofText? step.onFailure.text).isSome = true
          rw [FailurePolicy.ofText?_text]
          rfl
        reference := by
          intro hget
          rw [truthyAt_commandId hfmt]
          have htext : step.type.text = "command" := by
            have hsome : some (Json.str step.type.text) = some (Json.str "command") := hget
            rw [Option.some.injEq, Json.str.injEq] at hsome
            exact hsome
          have htype : step.type = .command := by
            cases ht : step.type with
            | command => rfl
            | inline =>
                rw [ht] at htext
                exact absurd htext (by decide)
          by_contra hid
          exact hnot ⟨htype, by simpa [stepDto] using hid⟩
        oneRef := by
          rintro ⟨-, hname⟩
          cases hname }

theorem readableSteps_list {items : List Json} : ReadableSteps fmt (.list items) ↔
    ∀ x ∈ items, ∃ d, x = .dict d ∧ ReadableStep fmt d := by
  unfold ReadableSteps
  constructor
  · rintro ⟨items', hitems, hall⟩
    cases hitems
    exact hall
  · exact fun hall => ⟨items, rfl, hall⟩

/-- The steps of a request, as they are stored. -/
theorem readableSteps_stored_iff (hfmt : fmt.Lawful) (steps : List ScriptStep) :
    ReadableSteps fmt (storedSteps fmt (steps.map stepDto)) ↔ ∀ step ∈ steps, ¬step.byName := by
  unfold storedSteps
  rw [readableSteps_list, List.map_map]
  constructor
  · intro h step hstep
    obtain ⟨d, hd, hread⟩ := h _ (List.mem_map_of_mem hstep)
    cases hd
    exact (readableStep_stored_iff hfmt step).1 hread
  · intro h x hx
    obtain ⟨step, hstep, rfl⟩ := List.mem_map.1 hx
    exact ⟨_, rfl, (readableStep_stored_iff hfmt step).2 (h step hstep)⟩

/-- A parameter that pydantic accepted is stored as a readable one. -/
theorem readableParameter_stored (p : CommandParameter) :
    ReadableParameter (parameterToDict p.toCommandParameterDTO) where
  name := p.valid.name
  type := by
    show (ParameterType.ofText? p.type.text).isSome = true
    rw [ParameterType.ofText?_text]
    rfl
  required := rfl
  description := field_optionalStr rfl fun s hs => by simpa using p.valid.description s hs

theorem readableParameters_stored (ps : List CommandParameter) :
    ReadableParameters (storedParameters (ps.map (·.toCommandParameterDTO))) := by
  unfold storedParameters ReadableParameters
  refine ⟨_, iterateOrEmpty_list _, ?_⟩
  intro x hx
  rw [List.map_map] at hx
  obtain ⟨p, -, rfl⟩ := List.mem_map.1 hx
  exact ⟨_, rfl, readableParameter_stored p⟩

end Stored

/-! ## Adding rows -/

/-- Rows are added to a table, one for each of some values. -/
def Adds (model : Model Body) (db : Columns) (old new : Rows Body) (values : List (Values Body)) :
    Prop :=
  ∃ rows, List.Forall₂ (Bound model db) values rows ∧
    ∀ r, r ∈ new.rows ↔ r ∈ old.rows ∨ r ∈ rows

/-- When all old rows have a property, the new table has it if and only if the
values do. -/
theorem Adds.forall_iff {model : Model Body} {db : Columns} {old new : Rows Body}
    {values : List (Values Body)} (h : Adds model db old new values) {P : Row Body → Prop}
    {Q : Values Body → Prop} (hPQ : ∀ v row, Bound model db v row → (P row ↔ Q v))
    (hold : ∀ r ∈ old.rows, P r) : (∀ r ∈ new.rows, P r) ↔ ∀ v ∈ values, Q v := by
  obtain ⟨rows, hbound, hmem⟩ := h
  constructor
  · intro hall v hv
    obtain ⟨row, hrow, hv⟩ := exists_of_forall₂_left hbound hv
    exact (hPQ v row hv).1 (hall row ((hmem row).2 (.inr hrow)))
  · intro hall r hr
    rcases (hmem r).1 hr with hr | hr
    · exact hold r hr
    · obtain ⟨v, hv, hvr⟩ := exists_of_forall₂_right hbound hr
      exact (hPQ v r hvr).2 (hall v hv)

theorem Adds.refl (model : Model Body) (db : Columns) (rows : Rows Body) :
    Adds model db rows rows [] :=
  ⟨[], .nil, by simp⟩

/-- One row is created. -/
theorem Adds.insert {model : Model Body} {db : Columns} {id : Uuid} {packId : Option Uuid}
    {v : Values Body} {row : Row Body} {rows rows' : Rows Body}
    (hrow : bindRow model db id packId v = .ok row) (hsave : rows.save model row = .ok rows')
    (hdrawn : ∀ r ∈ rows.rows, r.id < id) : Adds model db rows rows' [v] := by
  obtain ⟨hid, -, hbound⟩ := bindRow_eq_ok hrow
  obtain ⟨-, rfl⟩ := Rows.save_eq_ok.1 hsave
  refine ⟨[row], .cons hbound .nil, fun r => ?_⟩
  rw [Table.mem_put, List.mem_singleton, hid]
  constructor
  · rintro (hr | ⟨hr, -⟩)
    · exact .inr hr
    · exact .inl hr
  · rintro (hr | hr)
    · exact .inr ⟨hr, Nat.ne_of_lt (hdrawn r hr)⟩
    · exact .inl hr

theorem Adds.trans {model : Model Body} {db : Columns} {old mid new : Rows Body}
    {vs ws : List (Values Body)} (h₁ : Adds model db old mid vs) (h₂ : Adds model db mid new ws) :
    Adds model db old new (vs ++ ws) := by
  obtain ⟨rows₁, hbound₁, hmem₁⟩ := h₁
  obtain ⟨rows₂, hbound₂, hmem₂⟩ := h₂
  refine ⟨rows₁ ++ rows₂, List.rel_append hbound₁ hbound₂, fun r => ?_⟩
  rw [hmem₂, hmem₁, List.mem_append, or_assoc]

/-- The entries of an import that are not skipped: the first of each name that
is not taken. -/
def notSkipped {α : Type} (name : α → String) (existing : List String) : List α → List α
  | [] => []
  | a :: rest =>
      if name a ∈ existing then notSkipped name existing rest
      else a :: notSkipped name (name a :: existing) rest

theorem notSkipped_map {α β : Type} (f : α → β) (name : β → String) (existing : List String)
    (as : List α) :
    notSkipped name existing (as.map f) = (notSkipped (fun a => name (f a)) existing as).map f := by
  induction as generalizing existing with
  | nil => rfl
  | cons a as ih =>
      simp only [List.map_cons, notSkipped]
      split
      · exact ih existing
      · rw [ih, List.map_cons]

/-- A loop of `import_config` adds a row for each entry that is not skipped. -/
theorem Adds.importRows {model : Model Body} {db : Columns} {kind : String}
    {rows rows' : Rows Body} {existing : List String} {next next' : Uuid}
    {values : List (Values Body)} {created : Nat} {errors : List String}
    (h : Content.importRows model db kind rows existing next values =
      .ok (rows', next', created, errors)) (hdrawn : ∀ r ∈ rows.rows, r.id < next) :
    Adds model db rows rows' (notSkipped (·.name) existing values) := by
  induction values generalizing rows existing next created errors with
  | nil =>
      cases h
      exact Adds.refl model db _
  | cons v vs ih =>
      unfold Content.importRows at h
      unfold notSkipped
      split at h
      · rename_i hskip
        rw [if_pos hskip]
        simp only [bind_eq_ok] at h
        obtain ⟨⟨rows₁, next₁, created₁, errors₁⟩, hrest, h⟩ := h
        cases h
        exact ih hrest hdrawn
      · rename_i hskip
        rw [if_neg hskip]
        simp only [bind_eq_ok] at h
        obtain ⟨row, hrow, rows₁, hsave, ⟨rows₂, next₂, created₁, errors₁⟩, hrest, h⟩ := h
        cases h
        have hadds := Adds.insert hrow hsave hdrawn
        refine hadds.trans (ih hrest ?_)
        obtain ⟨hid, -, -⟩ := bindRow_eq_ok hrow
        obtain ⟨-, rfl⟩ := Rows.save_eq_ok.1 hsave
        intro r hr
        rcases Table.mem_put.1 hr with rfl | ⟨hr, -⟩
        · rw [hid]
          exact Nat.lt_succ_self _
        · exact Nat.lt_succ_of_lt (hdrawn r hr)

/-! ## Updates -/

section Update

variable {db : Columns} {BodyChanges : Type} {model : Model Body}
  {setBody : BodyChanges → Body → Except Failure Body} {changes : Changes BodyChanges}
  {row row' : Row Body}

/-- The columns of an updated row that the readers look at. -/
theorem columns_of_updateRow (h : updateRow model setBody db changes row = .ok row') :
    setColumn (notNull (bindName db)) row.name changes.name = .ok row'.name ∧
      setColumn (fun ts => bindTags db (ts.map (List.map Json.str))) row.tags changes.tags =
        .ok row'.tags ∧
      setBody changes.body row.body = .ok row'.body := by
  simp only [updateRow, bind_eq_ok] at h
  obtain ⟨name, hname, _, -, body, hbody, tags, htags, _, -, hrow⟩ := h
  cases hrow
  exact ⟨hname, htags, hbody⟩

/-- An update with a safe name leaves a safe name. -/
theorem safeName_of_updateRow (hdb : db.Lawful)
    (h : updateRow model setBody db changes row = .ok row')
    (hname : ∀ n, changes.name = some (some n) → safeName n = true)
    (hold : safeName row.name = true) : safeName row'.name = true := by
  obtain ⟨hset, -, -⟩ := columns_of_updateRow h
  cases hn : changes.name with
  | none =>
      rw [hn, setColumn, Except.ok.injEq] at hset
      rw [← hset]
      exact hold
  | some o =>
      rw [hn] at hset
      cases o with
      | none => cases hset
      | some n =>
          simp only [setColumn, notNull, bindName] at hset
          split at hset
          · rw [hdb.text_eq _ _ hset]
            exact hname n hn
          · cases hset

/-- An update leaves strings in the tags. -/
theorem tags_of_updateRow (hdb : db.Lawful)
    (h : updateRow model setBody db changes row = .ok row')
    (hold : ∀ tag ∈ row.tags.getD [], tag.isSome = true) :
    ∀ tag ∈ row'.tags.getD [], tag.isSome = true := by
  obtain ⟨-, hset, -⟩ := columns_of_updateRow h
  cases ht : changes.tags with
  | none =>
      rw [ht, setColumn, Except.ok.injEq] at hset
      rw [← hset]
      exact hold
  | some ts =>
      rw [ht] at hset
      rw [tags_of_bindTags hdb hset]
      cases ts with
      | none => simp
      | some ts => exact strings_ne_null ts

end Update

end Content
end NodeNexus
