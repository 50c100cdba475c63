import NodeNexus.Content.ReadableWrites
import NodeNexus.Pack.Phases

/-!
# Pack content that makes readable rows

The checks of an installation (`_validate_command_payload` and
`_validate_script_payload`) look at less of an item than the readers of the row
that is made of it.  This file says what the readers want of an item.

* `ReadableCommandItem` and `ReadableScriptItem` — an item under its planned
  name as the readers want it; `readableCommandItem_iff` and
  `readableScriptItem_iff` say that the values of an item that passes the check
  are readable if and only if the item is.
* `adds_installInSession` — an installation adds a row for each item that passes
  the check.
* `ReadableContent` — what the readers want of the content of a pack.
-/

namespace NodeNexus
namespace Pack

open Content

variable {Body : Type}

/-! ## Items -/

/-- The tags of an item: no `None` among them. -/
def ReadableTags (tags : Json) : Prop :=
  ∀ items, iterateOrEmpty tags = .ok items → ∀ tag ∈ items, tag ≠ .null

/-- A command of a pack, under its planned name, as the readers want it. -/
structure ReadableCommandItem (p : String × Json.Fields) : Prop where
  name : safeName p.1 = true
  tags : ReadableTags (Json.getD p.2 "tags" .null)
  parameters : ReadableParameters (Json.getD p.2 "parameters" .null)

/-- A script of a pack, under its planned name, as the readers want it. -/
structure ReadableScriptItem (fmt : Formats) (p : String × Json.Fields) : Prop where
  name : safeName p.1 = true
  tags : ReadableTags (Json.getD p.2 "tags" .null)
  steps : ReadableSteps fmt (Json.getD p.2 "steps" .null)

/-- Parameters that are missing or false are stored as the empty list. -/
theorem readableParameters_orElse (x : Json) :
    ReadableParameters (x.orElse (.list [])) ↔ ReadableParameters x := by
  unfold Json.orElse
  cases hx : x.truthy with
  | true => rfl
  | false =>
      unfold ReadableParameters
      have hempty : iterateOrEmpty x = .ok [] := by
        unfold iterateOrEmpty
        rw [hx]
        rfl
      rw [hempty]
      rfl

/-- The tags of an item, as the check reads them. -/
theorem readableTags_iff {tags : Json} {items : List Json} (h : iterateOrEmpty tags = .ok items) :
    ReadableTags tags ↔ ∀ tag ∈ (some items).getD [], tag ≠ .null := by
  unfold ReadableTags
  rw [h]
  simp

section Rows

variable {printable : Char → Bool} {p : String × Json.Fields}

/-- The values that the check of a command returns. -/
theorem values_of_validateCommand {values : Values CommandBody}
    (h : validateCommandPayload printable (plannedPayload p) = .ok values) :
    ∃ tags, iterateOrEmpty (Json.getD p.2 "tags" .null) = .ok tags ∧ values.tags = some tags ∧
      values.body.parameters = (Json.getD p.2 "parameters" .null).orElse (.list []) := by
  unfold validateCommandPayload at h
  simp only at h
  split at h
  · cases h
  · split at h
    · cases h
    · simp only [bind_eq_ok, payloadTags] at h
      obtain ⟨timeout, -, tags, htags, hvalues⟩ := h
      cases hvalues
      rw [getD_plannedPayload p (by decide)] at htags
      have hparameters : Json.getD (plannedPayload p) "parameters" .null =
          Json.getD p.2 "parameters" .null := getD_plannedPayload p (by decide) .null
      exact ⟨tags, htags, rfl, congrArg (fun x => x.orElse (.list [])) hparameters⟩

/-- The values that the check of a script returns. -/
theorem values_of_validateScript {values : Values ScriptBody}
    (h : validateScriptPayload printable (plannedPayload p) = .ok values) :
    ∃ tags, iterateOrEmpty (Json.getD p.2 "tags" .null) = .ok tags ∧ values.tags = some tags ∧
      values.body.steps = Json.getD p.2 "steps" .null := by
  unfold validateScriptPayload at h
  simp only at h
  split at h
  · cases h
  · split at h
    · rename_i step steps hsteps
      simp only [bind_eq_ok, payloadTags] at h
      obtain ⟨_, -, timeout, -, tags, htags, hvalues⟩ := h
      cases hvalues
      rw [getD_plannedPayload p (by decide)] at htags hsteps
      exact ⟨tags, htags, rfl, hsteps.symm⟩
    · cases h

/-- **The values of a command that passes the check are readable if and only if
the item is.** -/
theorem readableCommandItem_iff {values : Values CommandBody}
    (h : validateCommandPayload printable (plannedPayload p) = .ok values) :
    (safeName p.1 = true ∧ (∀ tag ∈ values.tags.getD [], tag ≠ .null) ∧
      ReadableParameters values.body.parameters) ↔ ReadableCommandItem p := by
  obtain ⟨tags, htags, hvtags, hparameters⟩ := values_of_validateCommand h
  rw [hvtags, hparameters, ← readableTags_iff htags, readableParameters_orElse]
  exact ⟨fun hi => ⟨hi.1, hi.2.1, hi.2.2⟩, fun hi => ⟨hi.name, hi.tags, hi.parameters⟩⟩

/-- **The values of a script that passes the check are readable if and only if the
item is.** -/
theorem readableScriptItem_iff {fmt : Formats} {values : Values ScriptBody}
    (h : validateScriptPayload printable (plannedPayload p) = .ok values) :
    (safeName p.1 = true ∧ (∀ tag ∈ values.tags.getD [], tag ≠ .null) ∧
      ReadableSteps fmt values.body.steps) ↔ ReadableScriptItem fmt p := by
  obtain ⟨tags, htags, hvtags, hsteps⟩ := values_of_validateScript h
  rw [hvtags, hsteps, ← readableTags_iff htags]
  exact ⟨fun hi => ⟨hi.1, hi.2.1, hi.2.2⟩, fun hi => ⟨hi.name, hi.tags, hi.steps⟩⟩

end Rows

/-! ## What an installation adds -/

/-- The values of the rows of some valid items. -/
def boundValues (valid : List (String × Values Body)) : List (Values Body) :=
  valid.map fun v => { v.2 with name := v.1 }

theorem bound_of_bindRows {model : Model Body} {db : Columns} {packId next : Uuid}
    {valid : List (String × Values Body)} {rows : List (Row Body)}
    (h : bindRows model db packId next valid = .ok rows) :
    List.Forall₂ (Bound model db) (boundValues valid) rows := by
  induction valid generalizing next rows with
  | nil =>
      cases h
      exact .nil
  | cons v rest ih =>
      simp only [bindRows, bind_eq_ok] at h
      obtain ⟨row, hrow, rows', hrest, h⟩ := h
      cases h
      exact .cons (bindRow_eq_ok hrow).2.2 (ih hrest)

/-- New rows are added under their new ids. -/
theorem adds_of_saveAll {model : Model Body} {db : Columns} {packId next : Uuid}
    {valid : List (String × Values Body)} {rows rows' : Rows Body} {new : List (Row Body)}
    (hbind : bindRows model db packId next valid = .ok new)
    (hsave : rows.saveAll model new = .ok rows') (hdrawn : ∀ r ∈ rows.rows, r.id < next) :
    Adds model db rows rows' (boundValues valid) := by
  refine ⟨new, bound_of_bindRows hbind, fun r => ?_⟩
  rw [Rows.saveAll_eq_ok hsave]
  have hids := ids_of_bindRows hbind
  have hlen : new.length = valid.length := by simpa using congrArg List.length hids
  rw [← hlen] at hids
  refine mem_putAll_of_ids hids hdrawn

/-- The valid values belong to the valid items. -/
theorem forall_boundValues_iff {validate : Json.Fields → Except Failure (Values Body)}
    {planned : List (String × Json.Fields)} {Q : Values Body → Prop} :
    (∀ v ∈ boundValues (validPlanned validate planned), Q v) ↔
      ∀ p ∈ planned, ∀ values, validate (plannedPayload p) = .ok values →
        Q { values with name := p.1 } := by
  unfold boundValues validPlanned
  constructor
  · intro h p hp values hvalues
    refine h _ (List.mem_map.2 ⟨(p.1, values), List.mem_filterMap.2 ⟨p, hp, ?_⟩, rfl⟩)
    rw [hvalues]
  · intro h v hv
    obtain ⟨w, hw, rfl⟩ := List.mem_map.1 hv
    obtain ⟨p, hp, hpw⟩ := List.mem_filterMap.1 hw
    split at hpw
    · rename_i values hvalues
      cases hpw
      exact h p hp values hvalues
    · cases hpw

/-- An installation adds a row for each item that passes the check. -/
theorem adds_installInSession {env : Env} {now : Time} {onConflict : OnConflict} {s s' : Store}
    {pack : PackRow} {result : PackInstallResult} (hdrawn : s.Drawn)
    (h : installInSession env now onConflict s pack = .ok (s', result)) :
    ∃ plannedC plannedS,
      planNames env .command onConflict s.commands.names [] pack.commands = .ok plannedC ∧
      planNames env .script onConflict s.scripts.names [] pack.scripts = .ok plannedS ∧
      Adds commandModel env.db s.commands s'.commands (boundValues
        (validPlanned (validateCommandPayload env.unicode.isPrintable) plannedC)) ∧
      Adds scriptModel env.db s.scripts s'.scripts (boundValues
        (validPlanned (validateScriptPayload env.unicode.isPrintable) plannedS)) := by
  unfold installInSession at h
  split at h
  · cases h
  · split at h
    · rename_i hempty
      rw [Bool.and_eq_true, List.isEmpty_iff, List.isEmpty_iff] at hempty
      cases h
      rw [hempty.1, hempty.2]
      exact ⟨[], [], rfl, rfl, Adds.refl _ _ _, Adds.refl _ _ _⟩
    · simp only [bind_eq_ok] at h
      obtain ⟨plannedC, hplannedC, plannedS, hplannedS, newC, hnewC, newS, hnewS, commands, hC,
        scripts, hS, h⟩ := h
      cases h
      refine ⟨plannedC, plannedS, hplannedC, hplannedS, ?_, ?_⟩
      · exact adds_of_saveAll hnewC hC hdrawn.commands
      · refine adds_of_saveAll hnewS hS fun r hr => ?_
        exact Nat.lt_of_lt_of_le (hdrawn.scripts r hr) (Nat.le_add_right _ _)

/-! ## Readable content -/

/-- The items of a pack that an installation writes are as the readers want
them. -/
structure ReadableContent (env : Env) (onConflict : OnConflict) (s : Store) (pack : PackRow) :
    Prop where
  commands : ∀ planned,
    planNames env .command onConflict s.commands.names [] pack.commands = .ok planned →
    ∀ p ∈ planned, Returns (validateCommandPayload env.unicode.isPrintable (plannedPayload p)) →
      ReadableCommandItem p
  scripts : ∀ planned,
    planNames env .script onConflict s.scripts.names [] pack.scripts = .ok planned →
    ∀ p ∈ planned, Returns (validateScriptPayload env.unicode.isPrintable (plannedPayload p)) →
      ReadableScriptItem env.fmt p

/-- Every row of a store is as the readers want it. -/
structure StoreReadable (env : Env) (s : Store) : Prop where
  commands : ∀ row ∈ s.commands.rows, ReadableCommand row
  scripts : ∀ row ∈ s.scripts.rows, ReadableScript env.fmt row

/-- **An installation leaves readable rows if and only if what it writes is
readable.** -/
theorem readable_installInSession_iff {env : Env} (hdb : env.db.Lawful) {now : Time}
    {onConflict : OnConflict} {s s' : Store} {pack : PackRow} {result : PackInstallResult}
    (hdrawn : s.Drawn) (hold : StoreReadable env s)
    (h : installInSession env now onConflict s pack = .ok (s', result)) :
    StoreReadable env s' ↔ ReadableContent env onConflict s pack := by
  obtain ⟨plannedC, plannedS, hplannedC, hplannedS, haddsC, haddsS⟩ :=
    adds_installInSession hdrawn h
  have hC := haddsC.forall_iff (fun v row hrow => readableCommand_of_bound hdb hrow) hold.commands
  have hS := haddsS.forall_iff (fun v row hrow => readableScript_of_bound hdb hrow) hold.scripts
  rw [forall_boundValues_iff] at hC hS
  constructor
  · intro hs'
    have hcommands := hC.1 hs'.commands
    have hscripts := hS.1 hs'.scripts
    constructor
    · rintro planned hplanned p hp ⟨values, hvalues⟩
      rw [hplannedC, Except.ok.injEq] at hplanned
      subst hplanned
      exact (readableCommandItem_iff hvalues).1 (hcommands p hp values hvalues)
    · rintro planned hplanned p hp ⟨values, hvalues⟩
      rw [hplannedS, Except.ok.injEq] at hplanned
      subst hplanned
      exact (readableScriptItem_iff hvalues).1 (hscripts p hp values hvalues)
  · intro hcontent
    constructor
    · refine hC.2 fun p hp values hvalues => ?_
      have hitem := hcontent.commands plannedC hplannedC p hp ⟨values, hvalues⟩
      exact (readableCommandItem_iff hvalues).2 hitem
    · refine hS.2 fun p hp values hvalues => ?_
      have hitem := hcontent.scripts plannedS hplannedS p hp ⟨values, hvalues⟩
      exact (readableScriptItem_iff hvalues).2 hitem

end Pack
end NodeNexus
