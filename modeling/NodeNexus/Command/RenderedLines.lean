import NodeNexus.Script.RenderComplete
import NodeNexus.Command.Completed
import NodeNexus.Command.Handlers

/-!
# Rendered lines

Three callers hand templates to `render_command`: a step of a script, the execution of a
saved command, and the bulk execution.

* `sentLines` — the command lines that an endpoint sends to hosts.
* `Rendered` — a line is what a template renders to, and holds only optional placeholders.
* `renderCommand_complete` — when rendering raises, and that the three callers run the rendered
  lines of their own templates only.
-/

namespace NodeNexus
namespace Command

open Content Node Script
open NodeNexus.Core

/-! ## What is sent -/

/-- A command line that is sent to a host, with the item that sends it. -/
def lineOf : Note (Nat × String)
  | .service item (.execute _ _ command), _ => [(item, command)]
  | _, _ => []

/-- The command lines that an endpoint sends. -/
def sentLines {α : Type} (answers : Answers) (p : Endpoint α) : List (Nat × String) :=
  (Program.run (Program.noting lineOf answers) p []).2

theorem sentLines_eq {α : Type} (answers : Answers) (p : Endpoint α) :
    sentLines answers p = Program.noted lineOf answers p := by
  rw [sentLines, Program.run_noting, List.nil_append]

/-- A request of a service that sends no other line. -/
def SendsOnly (command : String) (r : Request) : Prop :=
  ∀ task connector c, r = .execute task connector c → c = command

/-- A line is what a template renders to, and leaves in place only optional placeholders
without a value and a default. -/
structure Rendered (unicode : Unicode) (template : String)
    (parameters : List CommandParameterDTO) (params : Json.Fields) (line : String) : Prop where
  rendered : renderCommand unicode template parameters params = .ok line
  left : OnlyOptionalLeft unicode template parameters params line

theorem rendered_of_ok {unicode : Unicode} {template : String}
    {parameters : List CommandParameterDTO} {params : Json.Fields} {line : String}
    (h : renderCommand unicode template parameters params = .ok line) :
    Rendered unicode template parameters params line :=
  ⟨h, onlyOptionalLeft_of_renderCommand h⟩

theorem rendered_of_render {unicode : Unicode} {template : String}
    {parameters : List CommandParameterDTO} {params : Json.Fields} {line : String}
    (h : render unicode template parameters params = .ok line) :
    Rendered unicode template parameters params line := by
  unfold render at h
  cases hline : renderCommand unicode template parameters params with
  | ok line' =>
      rw [hline] at h
      cases h
      exact rendered_of_ok hline
  | error e =>
      rw [hline] at h
      cases h

section Sent

variable {cfg : Setting} {unicode : Unicode} {answers : Answers} {item : Nat}
  {batch : Option Uuid}

/-- The lines of a service that sends only one. -/
theorem sent_of_asks {α : Type} {p : Service α} {command : String}
    (hp : p.Asks (SendsOnly command)) :
    ∀ sent ∈ Program.noted lineOf answers (ofService item batch p), sent = (item, command) := by
  rw [noted_ofService]
  refine hp.forall_noted fun r x hr sent hsent => ?_
  cases r with
  | execute task connector c =>
      have hline : sent = (item, c) := List.mem_singleton.1 hsent
      rw [hline, hr task connector c rfl]
  | _ => cases hsent

theorem sendsOnly_of_ne {command : String} {r : Request}
    (h : ∀ task connector c, r ≠ .execute task connector c) : SendsOnly command r :=
  fun task connector c hr => absurd hr (h task connector c)

theorem sendsOnly_execute (task : Nat) (connector : SshConnector) (command : String) :
    SendsOnly command (.execute task connector command) := by
  intro _ _ c hc
  cases hc
  rfl

theorem sendsOnly_executeOn (data : BulkCommandRequestDTO) (nodes : List NodeConnectionDTO) :
    (executeOn cfg data nodes).Asks (SendsOnly data.command) :=
  asks_executeOn (fun _ _ => sendsOnly_of_ne fun _ _ _ => Request.noConfusion)
    (fun _ _ => sendsOnly_execute _ _ _)
    (fun _ _ => sendsOnly_of_ne fun _ _ _ => Request.noConfusion)
    (fun _ => sendsOnly_of_ne fun _ _ _ => Request.noConfusion)
    (fun _ _ => sendsOnly_of_ne fun _ _ _ => Request.noConfusion) _

theorem sendsOnly_log {command : String} (action : String) (nodeId : Option Uuid)
    (details : Json.Fields) : (cfg.log action nodeId details).Asks (SendsOnly command) :=
  asks_log (fun _ _ => sendsOnly_of_ne fun _ _ _ => Request.noConfusion) ..

theorem sendsOnly_executeRendered (commandId nodeId : Uuid) (command : String) (timeout : Int) :
    (executeRendered cfg commandId nodeId command timeout).Asks (SendsOnly command) := by
  have hsession : (openSession cfg nodeId (some timeout) (pure ())).Asks (SendsOnly command) :=
    asks_openSession (sendsOnly_of_ne fun _ _ _ => Request.noConfusion)
      (fun _ _ => sendsOnly_of_ne fun _ _ _ => Request.noConfusion) (.done ())
  have hrun (connector : SshConnector) : (runAndRecord cfg nodeId connector command
      (commandDetails cfg commandId) (some commandId)).Asks (SendsOnly command) := by
    have hexecute : (await (.execute 0 connector command)).Asks (SendsOnly command) :=
      .call (sendsOnly_execute _ _ _)
    refine hexecute.bind fun output => (sendsOnly_log ..).bind fun _ => ?_
    split
    · have hsave : (await (.saveHistory 0 (singleRecord cfg nodeId command (some commandId)
          output))).Asks (SendsOnly command) :=
        .call (sendsOnly_of_ne fun _ _ _ => Request.noConfusion)
      exact hsave.bind fun _ => .done _
    · exact .done _
  refine hsession.bind fun connector => (hrun connector).attempt.bind fun outcome => ?_
  cases outcome with
  | ok output => exact .done _
  | error e => exact (sendsOnly_log ..).bind fun _ => .raise _

/-- A bulk execution sends its own line only. -/
theorem sent_executeBatch (data : BulkCommandRequestDTO) :
    ∀ sent ∈ Program.noted lineOf answers (executeBatch cfg item data),
      sent = (item, data.command) := by
  unfold executeBatch
  refine Program.forall_noted_bind (fun sent h => ?_) fun nodes _ => ?_
  · rw [Program.noted_call] at h
    cases h
  · cases nodes with
    | nil => exact fun sent h => absurd h List.not_mem_nil
    | cons node nodes =>
        refine Program.forall_noted_bind (fun sent h => ?_) fun batch _ => ?_
        · rw [Program.noted_call] at h
          cases h
        · exact sent_of_asks (sendsOnly_executeOn data _)

/-- What the execution of a saved command sends. -/
theorem sent_executeCommand (commandId : Uuid) (data : CommandExecuteRequestDTO) :
    ∀ sent ∈ sentLines answers (executeCommand cfg unicode commandId data), ∃ template,
      answers (.getTemplate commandId) = .ok (some template) ∧
        Rendered unicode template.command template.parameters data.params sent.2 := by
  rw [sentLines_eq]
  refine Program.forall_noted_bind (fun sent h => ?_) fun found hfound => ?_
  · rw [Program.noted_call] at h
    cases h
  rw [Program.answered_call] at hfound
  cases found with
  | none => exact fun sent h => absurd h List.not_mem_nil
  | some template =>
      refine Program.forall_noted_bind (fun sent h => ?_) fun command hcommand sent h => ?_
      · rw [noted_raised] at h
        cases h
      rw [answered_raised] at hcommand
      rw [sent_of_asks (sendsOnly_executeRendered ..) sent h]
      exact ⟨template, hfound, rendered_of_render hcommand⟩

/-- What an item of a bulk execution sends. -/
theorem sent_executeOne (data : CommandExecutionsRequest) (commandId : Uuid) :
    ∀ sent ∈ Program.noted lineOf answers (executeOne cfg unicode data item commandId),
      sent.1 = item ∧ ∃ command, answers (.getCommand item commandId) = .ok (some command) ∧
        Rendered unicode command.command command.parameters
          ((data.params.lookup (cfg.printUuid commandId)).getD []) sent.2 := by
  refine Program.forall_noted_bind ?_ fun _ _ sent h => absurd h List.not_mem_nil
  rw [Program.noted_attempt]
  refine Program.forall_noted_bind ?_ fun command hcommand => ?_
  · refine Program.forall_noted_bind (fun sent h => ?_) fun found _ sent h => ?_
    · rw [Program.noted_call] at h
      cases h
    · cases found <;> exact absurd h List.not_mem_nil
  have hfound : answers (.getCommand item commandId) = .ok (some command) := by
    unfold getCommand at hcommand
    rw [Program.answered_bind, Program.answered_call] at hcommand
    obtain ⟨found, hfound, hcommand⟩ := bind_eq_ok.1 hcommand
    cases found with
    | none => cases hcommand
    | some found =>
        cases hcommand
        exact hfound
  refine Program.forall_noted_bind (fun sent h => ?_) fun rendered hrendered => ?_
  · rw [noted_raised] at h
    cases h
  rw [answered_raised] at hrendered
  refine Program.forall_noted_bind (fun sent h => ?_) fun _ _ sent h => absurd h List.not_mem_nil
  rw [sent_executeBatch _ sent h]
  exact ⟨rfl, command, hfound, rendered_of_render hrendered⟩

/-- What a bulk execution sends. -/
theorem sent_bulkExecutions (data : CommandExecutionsRequest) :
    ∀ sent ∈ sentLines answers (bulkExecutions cfg unicode data), ∃ commandId command,
      data.commandIds[sent.1]? = some commandId ∧
        answers (.getCommand sent.1 commandId) = .ok (some command) ∧
        Rendered unicode command.command command.parameters
          ((data.params.lookup (cfg.printUuid commandId)).getD []) sent.2 := by
  rw [sentLines_eq]
  refine Program.forall_noted_bind (fun sent h => ?_) fun batchId _ => ?_
  · rw [Program.noted_call] at h
    cases h
  split
  · exact fun sent h => absurd h List.not_mem_nil
  · refine Program.forall_noted_bind (fun sent h => ?_) fun _ _ sent h => absurd h List.not_mem_nil
    rw [Program.noted_gather, List.mem_flatMap] at h
    obtain ⟨t, ht, h⟩ := h
    obtain ⟨hitem, command, hcommand, hrendered⟩ := sent_executeOne data t.1 sent h
    have hat := List.mem_zipIdx_iff_getElem?.1 ht
    rw [← hitem] at hat hcommand
    exact ⟨t.1, command, hat, hcommand, hrendered⟩

end Sent

/-! ## The main result -/

/-- **Rendering is complete up to optional placeholders.**  It raises exactly for an
undeclared placeholder and for a required one without a value and a default, and a rendered
line leaves in place only optional ones without both.  A resolved step of a script, the
execution of a saved command and the bulk execution run no other lines than those that their
own templates render to, with their own parameters and values. -/
theorem renderCommand_complete (fmt : Formats) (unicode : Unicode)
    (commandReader : Uuid → Except Failure (Option CommandTemplate)) (cfg : Setting)
    (answers : Answers) :
    (∀ (template : String) (parameters : List CommandParameterDTO) (params : Json.Fields),
      (∀ place : Placeholder unicode.isWord template, place.form = .code) →
      ((∃ message, renderCommand unicode template parameters params =
          .error (.templateRenderError message)) ↔
        ∃ place : Placeholder unicode.isWord template,
          Refused parameters params place.name) ∧
      ∀ line, renderCommand unicode template parameters params = .ok line →
        OnlyOptionalLeft unicode template parameters params line) ∧
    (∀ values step resolvedStep,
      resolveStep fmt unicode commandReader values step = .ok resolvedStep →
      resolvedStep.resolutionError = none →
      ∃ fields template parameters params, step = .dict fields ∧
        StepTemplate fmt unicode commandReader values fields template parameters params ∧
        Rendered unicode template parameters params resolvedStep.command) ∧
    (∀ commandId data, ∀ sent ∈ sentLines answers (executeCommand cfg unicode commandId data),
      ∃ template, answers (.getTemplate commandId) = .ok (some template) ∧
        Rendered unicode template.command template.parameters data.params sent.2) ∧
    ∀ data, ∀ sent ∈ sentLines answers (bulkExecutions cfg unicode data), ∃ commandId command,
      data.commandIds[sent.1]? = some commandId ∧
        answers (.getCommand sent.1 commandId) = .ok (some command) ∧
        Rendered unicode command.command command.parameters
          ((data.params.lookup (cfg.printUuid commandId)).getD []) sent.2 := by
  refine ⟨fun template parameters params hforms => ⟨renderCommand_raises_iff hforms, fun line h =>
    onlyOptionalLeft_of_renderCommand h⟩, fun values step resolvedStep h hnone => ?_,
    sent_executeCommand, sent_bulkExecutions⟩
  obtain ⟨fields, template, parameters, params, hstep, htemplate, hrender⟩ :=
    resolveStep_renders h hnone
  exact ⟨fields, template, parameters, params, hstep, htemplate, rendered_of_ok hrender⟩

/-- A template with one required parameter, and a node on which every command succeeds. -/
def mountAnswers : Answers
  | .getTemplate id => .ok (some ⟨id, "df -h {mount}", [.ofName "mount"], 30⟩)
  | .service _ (.getConnection _) => .ok (some (fleetNode 0).toConnectionDto)
  | .service _ (.decrypt _ value) => .ok value
  | .service _ (.execute ..) => .ok ⟨"ok", "", 0⟩
  | _ => .error ⟨.other, ""⟩

/-- Without a value the template is refused, as its one placeholder has it; with one the
rendered line is what the node gets. -/
theorem renderCommand_complete_mount :
    ((∃ message, renderCommand asciiUnicode "df -h {mount}" [.ofName "mount"] [] =
      .error (.templateRenderError message)) ↔
    ∃ place : Placeholder asciiUnicode.isWord "df -h {mount}",
      Refused [.ofName "mount"] [] place.name) ∧
    (0, "df -h '/a b'") ∈ sentLines mountAnswers
      (executeCommand plainSetting asciiUnicode 1 ⟨0, [("mount", .str "/a b")], none⟩) ∧
    Rendered asciiUnicode "df -h {mount}" [.ofName "mount"] [("mount", .str "/a b")]
      "df -h '/a b'" := by
  have hcomplete := renderCommand_complete canonicalFormats asciiUnicode (fun _ => .ok none)
    plainSetting mountAnswers
  have hsent : (0, "df -h '/a b'") ∈ sentLines mountAnswers
      (executeCommand plainSetting asciiUnicode 1 ⟨0, [("mount", .str "/a b")], none⟩) := by
    have hline : render asciiUnicode "df -h {mount}" [.ofName "mount"] [("mount", .str "/a b")] =
        .ok "df -h '/a b'" := by decide +kernel
    rw [sentLines_eq]
    show _ ∈ Program.noted lineOf mountAnswers (raised (render asciiUnicode "df -h {mount}"
      [.ofName "mount"] [("mount", .str "/a b")]) >>= fun command =>
        ofService 0 none (executeRendered plainSetting 1 0 command 30))
    rw [hline]
    exact List.mem_cons_self
  refine ⟨(hcomplete.1 "df -h {mount}" [.ofName "mount"] [] ?_).1, hsent, ?_⟩
  · intro place
    cases hform : place.form with
    | code => rfl
    | guide =>
        have hinfix : ['{', '{', ' '] <:+: "df -h {mount}".toList := by
          rw [place.template_eq, hform, Form.text]
          exact ⟨place.before, place.name.toList ++ [' ', '}', '}'] ++ place.after, by simp⟩
        exact absurd hinfix (by decide +kernel)
  · obtain ⟨template, htemplate, hrendered⟩ := hcomplete.2.2.1 1 _ _ hsent
    cases htemplate
    exact hrendered

end Command
end NodeNexus
