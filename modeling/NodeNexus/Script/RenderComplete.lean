import NodeNexus.Script.Resolve

/-!
# What rendering leaves in place

Where a placeholder stands in a template, what `render_command` puts there, and when it
refuses the template.

* `Placeholder` — a place of a template where a name stands between braces, as the code reads
  it (`{name}`) or as the command guide writes it (`{{ name }}`).
* `fill_placeholder` — the line around the place of a placeholder, and what it holds there.
* `renderCommand_raises_iff`, `onlyOptionalLeft_of_renderCommand` — when rendering raises, and
  that a rendered line leaves in place only what has neither a value nor a default.
* `resolveStep_renders` — a resolved step of a script runs the rendered line of its own
  template.
-/

namespace NodeNexus
namespace Core

open Content

/-! ## Places -/

/-- The two ways in which a placeholder is written. -/
inductive Form where
  /-- `{name}` -/
  | code
  /-- `{{ name }}` -/
  | guide
  deriving DecidableEq

/-- The text of a placeholder. -/
def Form.text (name : List Char) : Form → List Char
  | .code => '{' :: name ++ ['}']
  | .guide => ['{', '{', ' '] ++ name ++ [' ', '}', '}']

/-- A place of a template where a placeholder stands. -/
structure Placeholder (isWord : Char → Bool) (template : String) where
  form : Form
  /-- What stands in front of it. -/
  before : List Char
  name : String
  /-- What follows it. -/
  after : List Char
  /-- The name is a name. -/
  named : IsName isWord name.toList
  /-- This is the template. -/
  template_eq : template.toList = before ++ form.text name.toList ++ after

/-- Has the name a value or a default? -/
def supplied (parameters : List CommandParameterDTO) (params : Json.Fields) (name : String) :
    Bool :=
  (Json.get params name).isSome || isNotNone (defaultOf parameters name)

/-- The value of a parameter: the one passed in, else the default. -/
def valueOf (parameters : List CommandParameterDTO) (params : Json.Fields) (name : String) :
    Json :=
  (Json.get params name).getD (defaultOf parameters name)

/-- A text with its placeholders replaced. -/
def fill (unicode : Unicode) (parameters : List CommandParameterDTO) (params : Json.Fields)
    (text : List Char) : List Char :=
  (segments unicode.isWord none text).flatMap (renderSegment unicode parameters params)

/-- The text of a placeholder still stands between the two filled parts of a line. -/
def LeftInPlace {isWord : Char → Bool} {template : String} (unicode : Unicode)
    (parameters : List CommandParameterDTO) (params : Json.Fields)
    (place : Placeholder isWord template) (line : String) : Prop :=
  line.toList = fill unicode parameters params place.before ++
    place.form.text place.name.toList ++ fill unicode parameters params place.after

/-- The placeholder is undeclared, or a required parameter without a value and a default. -/
def Refused (parameters : List CommandParameterDTO) (params : Json.Fields) (name : String) :
    Prop :=
  (∀ p ∈ parameters, p.name ≠ name) ∨
    ∃ p ∈ parameters, p.name = name ∧ p.required = true ∧
      supplied parameters params name = false

/-- Rendering raises exactly where a placeholder is refused, and leaves none in place. -/
def RenderComplete (unicode : Unicode) (template : String)
    (parameters : List CommandParameterDTO) (params : Json.Fields) : Prop :=
  ((∃ message, renderCommand unicode template parameters params =
      .error (.templateRenderError message)) ↔
    ∃ place : Placeholder unicode.isWord template, Refused parameters params place.name) ∧
  ∀ line, renderCommand unicode template parameters params = .ok line →
    ∀ place : Placeholder unicode.isWord template,
      ¬ LeftInPlace unicode parameters params place line

/-! ## The text in the place of a placeholder -/

theorem mem_findPlaceholders {isWord : Char → Bool} {template name : String} :
    name ∈ findPlaceholders isWord template ↔
      ∃ place : Placeholder isWord template, place.form = .code ∧ place.name = name := by
  have hfound : name ∈ findPlaceholders isWord template ↔
      Segment.placeholder name ∈ segments isWord none template.toList := by
    unfold findPlaceholders
    rw [List.mem_filterMap]
    constructor
    · rintro ⟨segment, hmem, hname⟩
      cases segment with
      | char c => cases hname
      | placeholder name' =>
          cases hname
          exact hmem
    · intro hmem
      exact ⟨_, hmem, rfl⟩
  rw [hfound]
  constructor
  · intro hmem
    have hname := isName_of_mem_segments _ none (by simp) hmem
    obtain ⟨before, after, hcut⟩ := List.append_of_mem hmem
    have htext := flatMap_source_segments isWord template.toList none
    rw [hcut] at htext
    refine ⟨⟨.code, before.flatMap Segment.source, name, after.flatMap Segment.source,
      hname, ?_⟩, rfl, rfl⟩
    simpa [Segment.source, Form.text] using htext.symm
  · rintro ⟨place, hform, rfl⟩
    have htemplate := place.template_eq
    rw [hform, Form.text] at htemplate
    rw [htemplate, segments_placeholder place.named]
    simp

theorem renderSegment_placeholder (unicode : Unicode) (parameters : List CommandParameterDTO)
    (params : Json.Fields) (name : String) :
    renderSegment unicode parameters params (.placeholder name) =
      if supplied parameters params name then
        (shlexQuote ((valueOf parameters params name).toStr unicode.isPrintable)).toList
      else '{' :: name.toList ++ ['}'] := by
  unfold renderSegment supplied valueOf
  cases hget : Json.get params name with
  | some value => simp [hget]
  | none => by_cases h : isNotNone (defaultOf parameters name) <;> simp [hget, h]

/-- **A line holds, between the filled texts around a placeholder, the quoted value of its
parameter, or the placeholder as it is where there is no value and no default.** -/
theorem fill_placeholder {unicode : Unicode} {template : String}
    (parameters : List CommandParameterDTO) (params : Json.Fields)
    (place : Placeholder unicode.isWord template) (hform : place.form = .code) :
    fill unicode parameters params template.toList =
      fill unicode parameters params place.before ++
        (if supplied parameters params place.name then
          (shlexQuote ((valueOf parameters params place.name).toStr unicode.isPrintable)).toList
        else place.form.text place.name.toList) ++
        fill unicode parameters params place.after := by
  have htemplate := place.template_eq
  rw [hform, Form.text] at htemplate
  rw [hform, Form.text, ← renderSegment_placeholder]
  unfold fill
  rw [htemplate, segments_placeholder place.named]
  simp

theorem shlexQuote_ne_brace (s : String) (rest : List Char) :
    (shlexQuote s).toList ≠ '{' :: rest := by
  unfold shlexQuote
  intro h
  by_cases hempty : s.toList.isEmpty
  · simp [hempty] at h
  · by_cases hsafe : s.toList.all isShellSafe
    · simp only [if_neg hempty, if_pos hsafe] at h
      rw [h] at hsafe
      simp [isShellSafe] at hsafe
    · simp [hempty, hsafe] at h

/-- A placeholder is left in place exactly when it has neither a value nor a default. -/
theorem leftInPlace_iff {unicode : Unicode} {template : String}
    (parameters : List CommandParameterDTO) (params : Json.Fields)
    (place : Placeholder unicode.isWord template) (hform : place.form = .code) :
    LeftInPlace unicode parameters params place
        (String.ofList (fill unicode parameters params template.toList)) ↔
      supplied parameters params place.name = false := by
  unfold LeftInPlace
  rw [String.toList_ofList, fill_placeholder parameters params place hform]
  cases h : supplied parameters params place.name with
  | false => simp
  | true =>
      simp only [if_true, Bool.true_eq_false, iff_false]
      intro heq
      have hquoted := List.append_cancel_left (List.append_cancel_right heq)
      rw [hform, Form.text] at hquoted
      exact shlexQuote_ne_brace _ _ hquoted

/-! ## When rendering raises -/

/-- Rendering raises for the refused placeholders, and else fills the template. -/
theorem renderCommand_cases (unicode : Unicode) (template : String)
    (parameters : List CommandParameterDTO) (params : Json.Fields) :
    ((∃ name ∈ findPlaceholders unicode.isWord template, Refused parameters params name) ∧
      ∃ message, renderCommand unicode template parameters params =
        .error (.templateRenderError message)) ∨
    ((∀ name ∈ findPlaceholders unicode.isWord template, ¬ Refused parameters params name) ∧
      renderCommand unicode template parameters params =
        .ok (String.ofList (fill unicode parameters params template.toList))) := by
  unfold renderCommand fill
  simp only
  split
  · rename_i hundeclared
    obtain ⟨name, hname⟩ := List.exists_mem_of_ne_nil _ hundeclared
    rw [List.mem_filter, List.all_eq_true] at hname
    refine Or.inl ⟨⟨name, hname.1, Or.inl ?_⟩, _, rfl⟩
    intro p hp
    simpa using hname.2 p hp
  · rename_i hdeclared
    split
    · rename_i hmissing
      obtain ⟨name, hname⟩ := List.exists_mem_of_ne_nil _ hmissing
      obtain ⟨p, hp, rfl⟩ := List.mem_map.1 hname
      rw [List.mem_filter] at hp
      obtain ⟨hp, hcond⟩ := hp
      simp only [Bool.and_eq_true, decide_eq_true_eq, Bool.not_eq_true'] at hcond
      obtain ⟨⟨⟨hfound, hvalue⟩, hdefault⟩, hrequired⟩ := hcond
      refine Or.inl ⟨⟨p.name, hfound, Or.inr ⟨p, hp, rfl, hrequired, ?_⟩⟩, _, rfl⟩
      simpa [supplied, hdefault] using hvalue
    · rename_i hnone
      refine Or.inr ⟨?_, rfl⟩
      intro name hname hrefused
      rcases hrefused with hundeclared | ⟨p, hp, rfl, hrequired, hsupplied⟩
      · apply hdeclared
        intro hnil
        have hmem : name ∈ (findPlaceholders unicode.isWord template).filter
            fun name => parameters.all fun p => p.name ≠ name := by
          rw [List.mem_filter, List.all_eq_true]
          exact ⟨hname, fun p hp => by simpa using hundeclared p hp⟩
        rw [hnil] at hmem
        cases hmem
      · apply hnone
        intro hnil
        rw [List.map_eq_nil_iff, List.filter_eq_nil_iff] at hnil
        apply hnil p hp
        unfold supplied at hsupplied
        simp only [Bool.or_eq_false_iff] at hsupplied
        simpa [hname, hrequired, hsupplied.2] using hsupplied.1

/-- What a rendered line leaves in place has neither a value nor a default, and is
declared by optional parameters only. -/
def OnlyOptionalLeft (unicode : Unicode) (template : String)
    (parameters : List CommandParameterDTO) (params : Json.Fields) (line : String) : Prop :=
  ∀ place : Placeholder unicode.isWord template, place.form = .code →
    (LeftInPlace unicode parameters params place line ↔
      supplied parameters params place.name = false) ∧
    (LeftInPlace unicode parameters params place line →
      (∃ p ∈ parameters, p.name = place.name) ∧
      ∀ p ∈ parameters, p.name = place.name → p.required = false)

/-- Every rendered line leaves only optional placeholders in place. -/
theorem onlyOptionalLeft_of_renderCommand {unicode : Unicode} {template : String}
    {parameters : List CommandParameterDTO} {params : Json.Fields} {line : String}
    (h : renderCommand unicode template parameters params = .ok line) :
    OnlyOptionalLeft unicode template parameters params line := by
  obtain ⟨-, message, herror⟩ | ⟨hnone, hok⟩ :=
    renderCommand_cases unicode template parameters params
  · rw [h] at herror
    cases herror
  rw [h] at hok
  cases hok
  intro place hform
  have hleft := leftInPlace_iff parameters params place hform
  refine ⟨hleft, fun hleft' => ?_⟩
  have hsupplied := hleft.1 hleft'
  have hrefused := hnone place.name (mem_findPlaceholders.2 ⟨place, hform, rfl⟩)
  unfold Refused at hrefused
  push Not at hrefused
  obtain ⟨hdeclared, hoptional⟩ := hrefused
  refine ⟨hdeclared, fun p hp hname => ?_⟩
  by_contra hrequired
  exact absurd hsupplied (hoptional p hp hname (by simpa using hrequired))

/-- **Rendering raises exactly for a refused placeholder**, in a template without `{{ name }}`. -/
theorem renderCommand_raises_iff {unicode : Unicode} {template : String}
    {parameters : List CommandParameterDTO} {params : Json.Fields}
    (hforms : ∀ place : Placeholder unicode.isWord template, place.form = .code) :
    (∃ message, renderCommand unicode template parameters params =
        .error (.templateRenderError message)) ↔
      ∃ place : Placeholder unicode.isWord template, Refused parameters params place.name := by
  constructor
  · rintro ⟨message, herror⟩
    obtain ⟨⟨name, hname, hrefused⟩, -⟩ | ⟨-, hok⟩ :=
      renderCommand_cases unicode template parameters params
    · obtain ⟨place, -, rfl⟩ := mem_findPlaceholders.1 hname
      exact ⟨place, hrefused⟩
    · rw [herror] at hok
      cases hok
  · rintro ⟨place, hrefused⟩
    obtain ⟨-, hraises⟩ | ⟨hnone, -⟩ := renderCommand_cases unicode template parameters params
    · exact hraises
    · exact absurd hrefused (hnone place.name (mem_findPlaceholders.2 ⟨place, hforms place, rfl⟩))

/-- A parameter that may be left out. -/
def optionalParameter (name : String) : CommandParameterDTO :=
  ⟨name, .string, false, .null, none⟩

/-- An optional parameter without a value stays in the line as it is written. -/
theorem renderComplete_optional_false :
    ¬ RenderComplete asciiUnicode "echo {extra}" [optionalParameter "extra"] [] := by
  rintro ⟨-, h⟩
  have hname : IsName asciiUnicode.isWord "extra".toList := by
    have hall : "extra".toList.all (fun c =>
        asciiUnicode.isWord c && c ≠ '\x7b' && c ≠ '\x7d') = true := by decide
    refine ⟨by decide, fun c hc => ?_⟩
    simpa [and_assoc] using List.all_eq_true.1 hall c hc
  refine h "echo {extra}" (by decide)
    ⟨.code, "echo ".toList, "extra", [], hname, by decide⟩ ?_
  change "echo {extra}".toList =
    fill asciiUnicode [optionalParameter "extra"] [] "echo ".toList ++
      Form.text "extra".toList .code ++ fill asciiUnicode [optionalParameter "extra"] [] []
  decide

end Core

namespace Script

open Content
open NodeNexus.Core

/-- What a stored step renders: an inline step its own template, with the parameters of
the execution; a command step the template of the command with its id, with the parameters
of the step over those of the execution. -/
inductive StepTemplate (fmt : Formats) (unicode : Unicode)
    (commandReader : Uuid → Except Failure (Option CommandTemplate)) (values step : Json.Fields) :
    String → List CommandParameterDTO → Json.Fields → Prop
  | inline {template : String} : Json.get step "type" = some (.str "inline") →
      Json.getD step "command" .null = .str template →
      StepTemplate fmt unicode commandReader values step template [] values
  | command {id : Uuid} {found : CommandTemplate} {stepParams : Json.Fields} :
      Json.get step "type" = some (.str "command") →
      fmt.parseUuid ((Json.getD step "command_id" .null).toStr unicode.isPrintable) = some id →
      commandReader id = .ok (some found) →
      Json.getD step "params" (.dict []) = .dict stepParams →
      StepTemplate fmt unicode commandReader values step found.command found.parameters
        (Json.merge values stepParams)

theorem stepTemplate_of_render {fmt : Formats} {unicode : Unicode}
    {commandReader : Uuid → Except Failure (Option CommandTemplate)} {values step : Json.Fields}
    {line : String} (h : (stepSource fmt unicode step >>=
      renderSource fmt unicode commandReader step values) = .ok line) :
    ∃ template parameters params,
      StepTemplate fmt unicode commandReader values step template parameters params ∧
      renderCommand unicode template parameters params = .ok line := by
  obtain ⟨source, hsource, hline⟩ := bind_eq_ok.1 h
  unfold stepSource at hsource
  split at hsource
  · cases hsource
  · rename_i htype
    split at hsource
    · split at hsource
      · rename_i template hcommand
        cases hsource
        exact ⟨template, [], values, .inline htype hcommand, hline⟩
      · cases hsource
    · cases hsource
  · rename_i htype
    split at hsource
    · split at hsource
      · rename_i id hid
        cases hsource
        obtain ⟨found, hread, hline⟩ := bind_eq_ok.1 hline
        cases found with
        | none => cases hline
        | some found =>
            simp only at hline
            split at hline
            · rename_i stepParams hparams
              exact ⟨_, _, _, .command htype hid hread hparams, hline⟩
            · cases hline
      · cases hsource
    · cases hsource
  · cases hsource

/-- A step that is resolved without an error runs the rendered line of its template. -/
theorem resolveStep_renders {fmt : Formats} {unicode : Unicode}
    {commandReader : Uuid → Except Failure (Option CommandTemplate)} {values : Json.Fields}
    {step : Json} {resolvedStep : ResolvedScriptStep}
    (h : resolveStep fmt unicode commandReader values step = .ok resolvedStep)
    (hnone : resolvedStep.resolutionError = none) :
    ∃ fields template parameters params, step = .dict fields ∧
      StepTemplate fmt unicode commandReader values fields template parameters params ∧
      renderCommand unicode template parameters params = .ok resolvedStep.command := by
  unfold resolveStep at h
  split at h
  · rename_i fields
    split at h
    · cases h
    · cases hresult : stepSource fmt unicode fields >>=
          renderSource fmt unicode commandReader fields values with
      | error e =>
          rw [hresult] at h
          cases e <;> cases h <;> cases hnone
      | ok line =>
          rw [hresult] at h
          cases h
          obtain ⟨template, parameters, params, htemplate, hline⟩ := stepTemplate_of_render hresult
          exact ⟨fields, template, parameters, params, rfl, htemplate, hline⟩
  · cases h

end Script
end NodeNexus
