import NodeNexus.Lib.Alike
import NodeNexus.Command.Batch

/-!
# Texts of errors in execution results

Two runs of the same bulk request that differ only in the texts of internal errors, and what a
client sees of them.

* `SameButTexts` — what the operations of two runs come to, the same up to such texts.
* `Conceals` — all these runs answer with the same body, up to generated ids.
* `BulkConceals`, `CommandConceals` — no internal error of an item gets into a field that shows
  it: the sanitized text stands in `error`, but `stderr` takes the text as it is.
* `conceals_executions_iff`, `conceals_rawExecutions_iff` — when the two handlers conceal.
-/

namespace NodeNexus
namespace Command

open Content Node
open NodeNexus.Core

/-! ## Runs that differ in texts -/

/-- Exceptions that differ in an internal text at most. -/
structure SameFailure (e e' : NodeFailure) : Prop where
  kind : e.kind = e'.kind
  text : isPublic e.kind = true → e.text = e'.text

/-- What the operations of a run come to. -/
structure RunOutcomes where
  answers : Answers
  drawn : Option Nat → Uuid
  saved : Nat → Nat → Except NodeFailure Unit
  draws : ∀ item, answers (.uuid4 item) = .ok (drawn item)
  /-- The record of a target is stored or not, whatever text it holds. -/
  saves : ∀ item batch task record, answers (.saveRecord item batch task record) = saved item task

/-- Two runs that differ in generated ids and in internal texts at most. -/
def SameButTexts (run run' : RunOutcomes) : Prop :=
  ∀ r, (∀ item, r ≠ .uuid4 item) → Alike SameFailure Eq (run.answers r) (run'.answers r)

/-- The body of a response: what is viewed of the reply, or the problem. -/
def bodyOf {α β : Type} (view : α → β) (x : Except NodeFailure α) : Except Problem β :=
  (x.map view).mapError problemContent

/-- All runs that differ in internal texts at most answer with the same body. -/
def Conceals {α β : Type} (view : α → β) (run : RunOutcomes) (p : Endpoint α) : Prop :=
  ∀ run', SameButTexts run run' → bodyOf view (Program.answered run.answers p) =
    bodyOf view (Program.answered run'.answers p)

/-- The reply up to its generated id. -/
def BatchReply.withoutId : BatchReply → BatchReply
  | .refused detail => .refused detail
  | .batch multiStatus response => .batch multiStatus { response with batchId := 0 }

/-- No internal error is raised. -/
def PublicOnly {α : Type} (x : Except NodeFailure α) : Prop :=
  ∀ e, x = .error e → isPublic e.kind = true

theorem SameFailure.eq_of_public {e e' : NodeFailure} (h : SameFailure e e')
    (hpublic : isPublic e.kind = true) : e = e' := by
  obtain ⟨kind, text⟩ := e
  obtain ⟨kind', text'⟩ := e'
  obtain rfl : kind = kind' := h.kind
  obtain rfl : text = text' := h.text hpublic
  rfl

theorem eq_of_publicOnly {α : Type} {x x' : Except NodeFailure α} (h : Alike SameFailure Eq x x')
    (hpublic : PublicOnly x) : x = x' :=
  h.eq_of_fixed fun e _ he hsame => hsame.eq_of_public (hpublic e he)

theorem problemContent_congr {e e' : NodeFailure} (h : SameFailure e e') :
    problemContent e = problemContent e' := by
  cases hpublic : isPublic e.kind with
  | false => exact problemContent_of_internal h.kind hpublic
  | true => rw [h.eq_of_public hpublic]

/-- Alike outcomes whose replies look the same. -/
theorem bodyOf_congr {α β : Type} {V : α → α → Prop} {view : α → β} {x x' : Except NodeFailure α}
    (h : Alike SameFailure V x x') (hview : ∀ a a', V a a' → view a = view a') :
    bodyOf view x = bodyOf view x' := by
  cases h with
  | ok hv => exact congrArg Except.ok (hview _ _ hv)
  | error he => exact congrArg Except.error (problemContent_congr he)

/-! ## Another text for every internal error -/

/-- The exception with another text, if it is internal. -/
def reword (e : NodeFailure) : NodeFailure :=
  if isPublic e.kind = true then e else { e with text := e.text ++ "!" }

theorem sameFailure_reword (e : NodeFailure) : SameFailure e (reword e) := by
  unfold reword
  split
  · exact ⟨rfl, fun _ => rfl⟩
  · rename_i hinternal
    exact ⟨rfl, fun hpublic => absurd hpublic hinternal⟩

/-- Only a public exception keeps its text. -/
theorem isPublic_of_reword {e : NodeFailure} (h : e.text = (reword e).text) :
    isPublic e.kind = true := by
  by_contra hinternal
  unfold reword at h
  rw [if_neg hinternal] at h
  have hlength := congrArg String.length h
  simp at hlength

/-- The run in which every internal error has another text. -/
def RunOutcomes.reworded (run : RunOutcomes) : RunOutcomes where
  answers r := (run.answers r).mapError reword
  drawn := run.drawn
  saved item task := (run.saved item task).mapError reword
  draws item := by rw [run.draws]; rfl
  saves item batch task record := by rw [run.saves]

theorem reworded_of_ok {run : RunOutcomes} {r : CommandRequest} {a : CommandAnswer r}
    (h : run.answers r = .ok a) : run.reworded.answers r = .ok a := by
  show (run.answers r).mapError reword = .ok a
  rw [h]
  rfl

theorem reworded_of_error {run : RunOutcomes} {r : CommandRequest} {e : NodeFailure}
    (h : run.answers r = .error e) : run.reworded.answers r = .error (reword e) := by
  show (run.answers r).mapError reword = .error (reword e)
  rw [h]
  rfl

theorem sameButTexts_reworded (run : RunOutcomes) : SameButTexts run run.reworded :=
  fun r _ => alike_mapError sameFailure_reword (run.answers r)

/-! ## What a bulk execution comes to -/

/-- What `_save_history` comes to. -/
def savedAll (cfg : Setting) (run : RunOutcomes) (item : Nat) (records : Nat) :
    Except NodeFailure Unit :=
  if cfg.historyWriter = true then do
    let _ ← (List.range records).mapM (run.saved item)
    .ok ()
  else .ok ()

/-- What may raise once the workers have started: the secrets of the targets and the records. -/
def readied (cfg : Setting) (run : RunOutcomes) (item : Nat) (data : BulkCommandRequestDTO)
    (nodes : List NodeConnectionDTO) : Except NodeFailure Unit := do
  let _ ← nodes.zipIdx.mapM fun t => openConnector run.answers item t.2 t.1 data.timeout
  savedAll cfg run item nodes.length

section Outcome

variable {cfg : Setting} {run run' : RunOutcomes} {item : Nat} {data : BulkCommandRequestDTO}

theorem savedOutcome_eq (batch : Uuid) (results : List CommandExecutionDTO) :
    savedOutcome cfg run.answers item batch data results =
      savedAll cfg run item results.length := by
  have hloop : (results.zipIdx.mapM fun t =>
      run.answers (.saveRecord item (some batch) t.2 (historyRecord cfg data t.1))) =
      (List.range results.length).mapM (run.saved item) := by
    simp only [run.saves]
    rw [List.range_eq_range', ← List.zipIdx_map_snd 0 results, List.mapM_map]
    rfl
  unfold savedOutcome savedAll
  rw [hloop]

/-- What a bulk execution comes to, after its required events. -/
theorem bulkOutcome_eq (batch : Uuid) (nodes : List NodeConnectionDTO) :
    bulkOutcome cfg run.answers item batch data nodes =
      (readied cfg run item data nodes).map fun _ =>
        bulkResult data (targetResults run.answers item data nodes) := by
  have hresults : nodes.zipIdx.mapM (targetResult run.answers item data) =
      (nodes.zipIdx.mapM fun t => openConnector run.answers item t.2 t.1 data.timeout).map
        fun _ => targetResults run.answers item data nodes :=
    mapM_map_const _ _ _
  have hlength : (targetResults run.answers item data nodes).length = nodes.length := by
    unfold targetResults
    rw [List.length_map, List.length_zipIdx]
  unfold bulkOutcome readied
  rw [hresults]
  cases nodes.zipIdx.mapM fun t => openConnector run.answers item t.2 t.1 data.timeout with
  | error e => rfl
  | ok connectors =>
      show savedOutcome cfg run.answers item batch data _ >>= _ =
        (savedAll cfg run item nodes.length).map _
      rw [savedOutcome_eq, hlength]
      cases savedAll cfg run item nodes.length <;> rfl

/-- **What a bulk execution comes to, site by site.** -/
theorem batchOutcome_eq : batchOutcome cfg run.answers item data =
    run.answers (.service item (.targets data.nodeIds data.tags)) >>= fun nodes =>
      if nodes = [] then .error ⟨.nodeNotFoundError, "No nodes matched the given criteria"⟩
      else requestsOutcome cfg run.answers item data.command nodes >>= fun _ =>
        (readied cfg run item data nodes).map fun _ =>
          bulkResult data (targetResults run.answers item data nodes) := by
  unfold batchOutcome
  cases run.answers (.service item (.targets data.nodeIds data.tags)) with
  | error e => rfl
  | ok nodes =>
      cases nodes with
      | nil => rfl
      | cons node nodes =>
          show run.answers (.uuid4 (some item)) >>= _ = _
          rw [run.draws]
          simp only [← bulkOutcome_eq (run.drawn (some item))]
          rfl

/-! ## Sites of an item -/

/-- No internal error gets into the item of a bulk execution. -/
structure BulkConceals (cfg : Setting) (run : RunOutcomes) (item : Nat)
    (data : BulkCommandRequestDTO) : Prop where
  targets : PublicOnly (run.answers (.service item (.targets data.nodeIds data.tags)))
  /-- The secrets of the targets and the records of the history. -/
  readied : ∀ nodes, run.answers (.service item (.targets data.nodeIds data.tags)) = .ok nodes →
    requestsOutcome cfg run.answers item data.command nodes = .ok () →
    PublicOnly (readied cfg run item data nodes)
  /-- Where the execution returns, the sessions of the targets. -/
  sessions : ∀ nodes, run.answers (.service item (.targets data.nodeIds data.tags)) = .ok nodes →
    requestsOutcome cfg run.answers item data.command nodes = .ok () →
    Command.readied cfg run item data nodes = .ok () →
    ∀ t ∈ nodes.zipIdx, PublicOnly (targetSession run.answers item data t)

theorem SameButTexts.service (h : SameButTexts run run') (item : Nat) (r : Request) :
    Alike SameFailure Eq (run.answers (.service item r)) (run'.answers (.service item r)) :=
  h _ nofun

theorem SameButTexts.saved (h : SameButTexts run run') (item task : Nat) :
    Alike SameFailure Eq (run.saved item task) (run'.saved item task) := by
  have hrecord := h (.saveRecord item none task
    (historyRecord plainSetting ⟨"", [], [], none, none⟩ ⟨0, "", "", "", 0⟩)) nofun
  rw [run.saves, run'.saves] at hrecord
  exact hrecord

theorem SameButTexts.openConnector (h : SameButTexts run run') (item task : Nat)
    (node : NodeConnectionDTO) (timeout : Option Int) :
    Alike SameFailure Eq (openConnector run.answers item task node timeout)
      (openConnector run'.answers item task node timeout) := by
  unfold Command.openConnector
  apply (h.service item (.decrypt task node.credentials.password)).bind
  rintro password _ rfl
  apply (h.service item (.decrypt task node.credentials.sshKey)).bind
  rintro sshKey _ rfl
  apply (h.service item (.decrypt task node.credentials.passphrase)).bind
  rintro passphrase _ rfl
  exact .ok rfl

theorem SameButTexts.targetSession (h : SameButTexts run run') (t : NodeConnectionDTO × Nat) :
    Alike SameFailure Eq (targetSession run.answers item data t)
      (targetSession run'.answers item data t) := by
  unfold Command.targetSession
  apply (h.openConnector item t.2 t.1 data.timeout).bind
  rintro connector _ rfl
  exact h.service item (.execute t.2 connector data.command)

theorem SameButTexts.readied (h : SameButTexts run run') (nodes : List NodeConnectionDTO) :
    Alike SameFailure Eq (readied cfg run item data nodes) (readied cfg run' item data nodes) := by
  unfold Command.readied savedAll
  have hopened := Alike.mapM (fun t : NodeConnectionDTO × Nat =>
    h.openConnector item t.2 t.1 data.timeout) nodes.zipIdx
  apply hopened.bind
  intro connectors _ _
  split
  · have hsaved := Alike.mapM (fun task => h.saved item task) (List.range nodes.length)
    exact hsaved.bind fun _ _ _ => .ok rfl
  · exact .ok rfl

/-- A lost event is reported with a text of its own. -/
theorem eventOutcome_congr {text : String} {x x' : Except NodeFailure Unit}
    (h : Alike SameFailure Eq x x') : eventOutcome text x = eventOutcome text x' := by
  cases h <;> rfl

theorem SameButTexts.requestsOutcome (h : SameButTexts run run') (command : String)
    (nodes : List NodeConnectionDTO) : requestsOutcome cfg run.answers item command nodes =
      requestsOutcome cfg run'.answers item command nodes := by
  have hevent : ∀ text event,
      eventOutcome text (run.answers (.service item (.enqueueRequired event))) =
        eventOutcome text (run'.answers (.service item (.enqueueRequired event))) :=
    fun text event => eventOutcome_congr (h.service item (.enqueueRequired event))
  induction nodes with
  | nil => rfl
  | cons node nodes ih =>
      unfold Command.requestsOutcome requiredOutcome
      rw [ih, hevent]

/-- **A concealing item comes to the same in both runs.** -/
theorem BulkConceals.batchOutcome_eq (hc : BulkConceals cfg run item data)
    (h : SameButTexts run run') :
    batchOutcome cfg run.answers item data = batchOutcome cfg run'.answers item data := by
  rw [Command.batchOutcome_eq, Command.batchOutcome_eq,
    ← eq_of_publicOnly (h.service item _) hc.targets]
  cases htargets : run.answers (.service item (.targets data.nodeIds data.tags)) with
  | error e => rfl
  | ok nodes =>
      show ite _ _ _ = ite _ _ _
      split
      · rfl
      · rw [← h.requestsOutcome data.command nodes]
        cases hrequested : requestsOutcome cfg run.answers item data.command nodes with
        | error e => rfl
        | ok u =>
            show Except.map _ _ = Except.map _ _
            rw [← eq_of_publicOnly (h.readied nodes) (hc.readied nodes htargets hrequested)]
            cases hreadied : Command.readied cfg run item data nodes with
            | error e => rfl
            | ok u =>
                have hresults : targetResults run.answers item data nodes =
                    targetResults run'.answers item data nodes := by
                  refine List.map_congr_left fun t ht => ?_
                  rw [eq_of_publicOnly (h.targetSession t)
                    (hc.sessions nodes htargets hrequested hreadied t ht)]
                rw [hresults]

/-! ## The site that is shown -/

theorem openConnector_reworded (task : Nat) (node : NodeConnectionDTO) (timeout : Option Int) :
    openConnector run.reworded.answers item task node timeout =
      (openConnector run.answers item task node timeout).mapError reword := by
  unfold openConnector
  simp only [mapError_bind]
  rfl

theorem targetSession_reworded (t : NodeConnectionDTO × Nat) :
    targetSession run.reworded.answers item data t =
      (targetSession run.answers item data t).mapError reword := by
  unfold targetSession
  rw [openConnector_reworded, mapError_bind]
  rfl

theorem readied_reworded (nodes : List NodeConnectionDTO) :
    readied cfg run.reworded item data nodes =
      (readied cfg run item data nodes).mapError reword := by
  unfold readied savedAll
  rw [mapError_bind, mapError_mapM]
  simp only [openConnector_reworded]
  split
  · rw [mapError_bind, mapError_mapM]
    rfl
  · rfl

/-- The items of a bulk execution, as an executing handler shows them. -/
def shownItems (failedId : Option Uuid) (failedCommand : Option String) (commandId : Option Uuid)
    (command : String) (x : Except NodeFailure BulkCommandResultDTO) : List BulkExecutionItem :=
  itemsOf failedId failedCommand
    (x.map fun result => result.results.map (executionItem commandId command))

variable {failedId : Option Uuid} {failedCommand : Option String} {commandId : Option Uuid}
  {command : String}

/-- `stderr` shows the text of the exception. -/
theorem text_of_failedItem {e e' : NodeFailure}
    (h : [failedItem failedId failedCommand e] = [failedItem failedId failedCommand e']) :
    e.text = e'.text :=
  congrArg BulkExecutionItem.stderr (List.cons.inj h).1

/-- What the execution comes to once it has targets, and in the run with other texts. -/
theorem batchOutcome_of_requested {nodes : List NodeConnectionDTO} (hsome : nodes ≠ [])
    (htargets : run.answers (.service item (.targets data.nodeIds data.tags)) = .ok nodes)
    (hrequested : requestsOutcome cfg run.answers item data.command nodes = .ok ()) :
    batchOutcome cfg run.answers item data = (readied cfg run item data nodes).map fun _ =>
      bulkResult data (targetResults run.answers item data nodes) := by
  rw [batchOutcome_eq, htargets]
  show ite _ _ _ = _
  rw [if_neg hsome, hrequested]
  rfl

/-- The result of a session shows the text of its exception. -/
theorem publicOnly_of_results {nodes : List NodeConnectionDTO}
    (h : (targetResults run.answers item data nodes).map (executionItem commandId command) =
      (targetResults run.reworded.answers item data nodes).map (executionItem commandId command)) :
    ∀ t ∈ nodes.zipIdx, PublicOnly (targetSession run.answers item data t) := by
  intro t ht e he
  unfold targetResults at h
  rw [List.map_map, List.map_map] at h
  have hitem := List.map_inj_left.1 h t ht
  have hstderr := congrArg BulkExecutionItem.stderr hitem
  simp only [Function.comp_apply, targetSession_reworded, he] at hstderr
  exact isPublic_of_reword hstderr

/-- **An item that shows the same with other texts conceals.** -/
theorem bulkConceals_of_shown
    (h : shownItems failedId failedCommand commandId command
        (batchOutcome cfg run.answers item data) =
      shownItems failedId failedCommand commandId command
        (batchOutcome cfg run.reworded.answers item data)) : BulkConceals cfg run item data := by
  have hrequests : ∀ nodes, requestsOutcome cfg run.answers item data.command nodes = .ok () →
      requestsOutcome cfg run.reworded.answers item data.command nodes = .ok () := by
    intro nodes hrequested
    rw [← (sameButTexts_reworded run).requestsOutcome]
    exact hrequested
  have hready : ∀ nodes, nodes ≠ [] →
      run.answers (.service item (.targets data.nodeIds data.tags)) = .ok nodes →
      requestsOutcome cfg run.answers item data.command nodes = .ok () →
      shownItems failedId failedCommand commandId command
          ((readied cfg run item data nodes).map fun _ =>
            bulkResult data (targetResults run.answers item data nodes)) =
        shownItems failedId failedCommand commandId command
          (((readied cfg run item data nodes).mapError reword).map fun _ =>
            bulkResult data (targetResults run.reworded.answers item data nodes)) := by
    intro nodes hsome htargets hrequested
    rw [batchOutcome_of_requested hsome htargets hrequested,
      batchOutcome_of_requested hsome (reworded_of_ok htargets) (hrequests nodes hrequested),
      readied_reworded] at h
    exact h
  refine ⟨?_, ?_, ?_⟩
  · intro e he
    rw [batchOutcome_eq, batchOutcome_eq, he, reworded_of_error he] at h
    exact isPublic_of_reword (text_of_failedItem h)
  · intro nodes htargets hrequested e he
    by_cases hsome : nodes = []
    · subst hsome
      unfold readied savedAll at he
      split at he <;> cases he
    · have hshown := hready nodes hsome htargets hrequested
      rw [he] at hshown
      exact isPublic_of_reword (text_of_failedItem hshown)
  · intro nodes htargets hrequested hreadied t ht
    have hsome : nodes ≠ [] := by
      rintro rfl
      exact absurd ht List.not_mem_nil
    have hshown := hready nodes hsome htargets hrequested
    rw [hreadied] at hshown
    exact publicOnly_of_results hshown t ht

theorem length_shownItems :
    (shownItems failedId failedCommand commandId command
        (batchOutcome cfg run.answers item data)).length =
      (shownItems failedId failedCommand commandId command
        (batchOutcome cfg run.reworded.answers item data)).length := by
  have h := sameButTexts_reworded run
  rw [batchOutcome_eq, batchOutcome_eq]
  cases htargets : run.answers (.service item (.targets data.nodeIds data.tags)) with
  | error e =>
      rw [reworded_of_error htargets]
      rfl
  | ok nodes =>
      rw [reworded_of_ok htargets]
      show (shownItems _ _ _ _ (ite _ _ _)).length = (shownItems _ _ _ _ (ite _ _ _)).length
      split
      · rfl
      · rw [← h.requestsOutcome data.command nodes, readied_reworded]
        cases requestsOutcome cfg run.answers item data.command nodes with
        | error e => rfl
        | ok u =>
            cases readied cfg run item data nodes with
            | error e => rfl
            | ok u =>
                show (List.map _ (targetResults run.answers item data nodes)).length =
                  (List.map _ (targetResults run.reworded.answers item data nodes)).length
                unfold targetResults
                simp only [List.length_map]

end Outcome

/-! ## The executing handlers -/

section Handlers

variable {cfg : Setting} {unicode : Unicode} {run run' : RunOutcomes}

/-- What a raw command of a request executes. -/
def RawExecutionsRequest.bulkRequest (data : RawExecutionsRequest) (command : String) :
    BulkCommandRequestDTO :=
  ⟨command, data.nodeIds, data.nodeTags, none, some (data.timeout.getD defaultTimeout)⟩

/-- No internal error gets into the item of a saved command. -/
def CommandConceals (cfg : Setting) (unicode : Unicode) (run : RunOutcomes)
    (data : CommandExecutionsRequest) (t : Uuid × Nat) : Prop :=
  PublicOnly (run.answers (.getCommand t.2 t.1)) ∧
    ∀ request, Executes cfg unicode run.answers data t.2 t.1 request →
      BulkConceals cfg run t.2 request

/-- The bulk execution of a command that `get_command` may have found. -/
def requestOf (cfg : Setting) (unicode : Unicode) (data : CommandExecutionsRequest)
    (commandId : Uuid) : Option CommandView → Except NodeFailure BulkCommandRequestDTO
  | none =>
      .error ⟨.domain .commandNotFoundError,
        "Command " ++ cfg.printUuid commandId ++ " not found"⟩
  | some command =>
      (render unicode command.command command.parameters
        ((data.params.lookup (cfg.printUuid commandId)).getD [])).map fun rendered =>
          ⟨rendered, data.nodeIds, data.nodeTags, some commandId,
            some (data.timeout.getD command.timeout)⟩

theorem requestOf_some (data : CommandExecutionsRequest) (commandId : Uuid)
    (command : CommandView) : requestOf cfg unicode data commandId (some command) =
      (render unicode command.command command.parameters
        ((data.params.lookup (cfg.printUuid commandId)).getD [])).map fun rendered =>
          ⟨rendered, data.nodeIds, data.nodeTags, some commandId,
            some (data.timeout.getD command.timeout)⟩ := rfl

theorem executes_iff {data : CommandExecutionsRequest} {t : Uuid × Nat}
    {request : BulkCommandRequestDTO} :
    Executes cfg unicode run.answers data t.2 t.1 request ↔ ∃ found,
      run.answers (.getCommand t.2 t.1) = .ok found ∧
        requestOf cfg unicode data t.1 found = .ok request := by
  constructor
  · rintro ⟨command, rendered, hfound, hrendered, rfl⟩
    refine ⟨some command, hfound, ?_⟩
    rw [requestOf_some, hrendered]
    rfl
  · rintro ⟨found, hfound, hrequest⟩
    cases found with
    | none => cases hrequest
    | some command =>
        obtain ⟨rendered, hrendered, rfl⟩ := map_eq_ok.1 hrequest
        exact ⟨command, rendered, hfound, hrendered, rfl⟩

theorem foundRawItems_eq (data : RawExecutionsRequest) (t : String × Nat) :
    foundRawItems cfg run.answers data t = shownItems none (some t.1) none t.1
      (batchOutcome cfg run.answers t.2 (data.bulkRequest t.1)) := by
  unfold foundRawItems tryRaw shownItems
  rw [Program.answered_bind, answered_executeBatch]
  show itemsOf _ _ (batchOutcome cfg run.answers t.2 (data.bulkRequest t.1) >>= _) = _
  cases batchOutcome cfg run.answers t.2 (data.bulkRequest t.1) <;> rfl

theorem foundItems_of_error {data : CommandExecutionsRequest} {t : Uuid × Nat} {e : NodeFailure}
    (h : run.answers (.getCommand t.2 t.1) = .error e) :
    foundItems cfg unicode run.answers data t = [failedItem (some t.1) none e] := by
  unfold foundItems tryCommand getCommand
  simp only [Program.answered_bind, Program.answered_call, h]
  rfl

theorem foundItems_of_found {data : CommandExecutionsRequest} {t : Uuid × Nat}
    {found : Option CommandView} (h : run.answers (.getCommand t.2 t.1) = .ok found) :
    foundItems cfg unicode run.answers data t =
      match requestOf cfg unicode data t.1 found with
      | .error e => [failedItem (some t.1) none e]
      | .ok request => shownItems (some t.1) none (some t.1) request.command
          (batchOutcome cfg run.answers t.2 request) := by
  unfold foundItems tryCommand getCommand
  simp only [Program.answered_bind, Program.answered_call, h, answered_raised,
    answered_executeBatch]
  cases found with
  | none => rfl
  | some command =>
      rw [requestOf_some]
      show itemsOf _ _ (render unicode command.command command.parameters _ >>= _) = _
      cases hrendered : render unicode command.command command.parameters
          ((data.params.lookup (cfg.printUuid t.1)).getD []) with
      | error e => rfl
      | ok rendered =>
          show itemsOf _ _ (batchOutcome cfg run.answers t.2 _ >>= _) = shownItems _ _ _ _ _
          unfold shownItems
          cases batchOutcome cfg run.answers t.2 ⟨rendered, data.nodeIds, data.nodeTags, some t.1,
            some (data.timeout.getD command.timeout)⟩ <;> rfl

theorem foundItems_congr {data : CommandExecutionsRequest} {t : Uuid × Nat}
    (hc : CommandConceals cfg unicode run data t) (h : SameButTexts run run') :
    foundItems cfg unicode run.answers data t = foundItems cfg unicode run'.answers data t := by
  have hsame := eq_of_publicOnly (h (.getCommand t.2 t.1) nofun) hc.1
  cases hfound : run.answers (.getCommand t.2 t.1) with
  | error e => rw [foundItems_of_error hfound, foundItems_of_error (hsame.symm.trans hfound)]
  | ok found =>
      rw [foundItems_of_found hfound, foundItems_of_found (hsame.symm.trans hfound)]
      cases hrequest : requestOf cfg unicode data t.1 found with
      | error e => rfl
      | ok request =>
          have hitem := hc.2 request (executes_iff.2 ⟨found, hfound, hrequest⟩)
          simp only [hitem.batchOutcome_eq h]

theorem commandConceals_of_shown {data : CommandExecutionsRequest} {t : Uuid × Nat}
    (h : foundItems cfg unicode run.answers data t =
      foundItems cfg unicode run.reworded.answers data t) :
    CommandConceals cfg unicode run data t := by
  constructor
  · intro e he
    rw [foundItems_of_error he, foundItems_of_error (reworded_of_error he)] at h
    exact isPublic_of_reword (text_of_failedItem h)
  · intro request hexecutes
    obtain ⟨found, hfound, hrequest⟩ := executes_iff.1 hexecutes
    rw [foundItems_of_found hfound, foundItems_of_found (reworded_of_ok hfound), hrequest] at h
    exact bulkConceals_of_shown h

theorem length_foundItems (data : CommandExecutionsRequest) (t : Uuid × Nat) :
    (foundItems cfg unicode run.answers data t).length =
      (foundItems cfg unicode run.reworded.answers data t).length := by
  cases hfound : run.answers (.getCommand t.2 t.1) with
  | error e =>
      rw [foundItems_of_error hfound, foundItems_of_error (reworded_of_error hfound)]
      rfl
  | ok found =>
      rw [foundItems_of_found hfound, foundItems_of_found (reworded_of_ok hfound)]
      cases requestOf cfg unicode data t.1 found with
      | error e => rfl
      | ok request => exact length_shownItems

/-- An executing handler conceals where each of its items does. -/
theorem conceals_executeItems {ι : Type} {items : List ι} {nodeIds : List Uuid}
    {nodeTags : List String} {worker : Nat → ι → Endpoint (List BulkExecutionItem)}
    {found : RunOutcomes → ι × Nat → List BulkExecutionItem} {Hidden : ι × Nat → Prop}
    (hfound : ∀ run t, Program.answered run.answers (worker t.2 t.1) = .ok (found run t))
    (hsame : ∀ run' t, SameButTexts run run' → Hidden t → found run t = found run' t)
    (hshown : ∀ t, found run t = found run.reworded t → Hidden t)
    (hlength : ∀ t, (found run t).length = (found run.reworded t).length) :
    Conceals BatchReply.withoutId run (executeItems items nodeIds nodeTags worker) ↔
      exceedsLimit items.length nodeIds nodeTags = true ∨ ∀ t ∈ items.zipIdx, Hidden t := by
  have hreply : ∀ run : RunOutcomes, bodyOf BatchReply.withoutId
      (Program.answered run.answers (executeItems items nodeIds nodeTags worker)) =
        .ok (if exceedsLimit items.length nodeIds nodeTags then .refused "M×N must be ≤100"
          else (batchReply 0 (items.zipIdx.map (found run)).flatten)) := by
    intro run
    rw [answered_executeItems (run.draws none) fun t _ => hfound run t]
    split <;> rfl
  unfold Conceals
  simp only [hreply]
  by_cases hexceeds : exceedsLimit items.length nodeIds nodeTags = true
  · exact iff_of_true (fun _ _ => by rw [if_pos hexceeds, if_pos hexceeds]) (.inl hexceeds)
  · rw [or_iff_right hexceeds]
    constructor
    · intro h
      have hbodies := h run.reworded (sameButTexts_reworded run)
      rw [if_neg hexceeds, if_neg hexceeds] at hbodies
      have hflat : (items.zipIdx.map (found run)).flatten =
          (items.zipIdx.map (found run.reworded)).flatten :=
        congrArg BulkExecutionBatchResponse.results
          (BatchReply.batch.inj (Except.ok.inj hbodies)).2
      have hitems : items.zipIdx.map (found run) = items.zipIdx.map (found run.reworded) := by
        refine List.eq_iff_flatten_eq.2 ⟨hflat, ?_⟩
        rw [List.map_map, List.map_map]
        exact List.map_congr_left fun t _ => hlength t
      intro t ht
      exact hshown t (List.map_inj_left.1 hitems t ht)
    · intro h run' hrun
      rw [List.map_congr_left fun t ht => hsame run' t hrun (h t ht)]

/-- **When `bulk_executions` conceals internal errors.** -/
theorem conceals_executions_iff (data : CommandExecutionsRequest) :
    Conceals BatchReply.withoutId run (bulkExecutions cfg unicode data) ↔
      exceedsLimit data.commandIds.length data.nodeIds data.nodeTags = true ∨
        ∀ t ∈ data.commandIds.zipIdx, CommandConceals cfg unicode run data t :=
  conceals_executeItems (fun _ t => answered_executeOne data t)
    (fun _ _ h hc => foundItems_congr hc h) (fun _ h => commandConceals_of_shown h)
    (length_foundItems data)

/-- **When `bulk_raw_executions` conceals internal errors.** -/
theorem conceals_rawExecutions_iff (data : RawExecutionsRequest) :
    Conceals BatchReply.withoutId run (bulkRawExecutions cfg data) ↔
      exceedsLimit data.commands.length data.nodeIds data.nodeTags = true ∨
        ∀ t ∈ data.commands.zipIdx, BulkConceals cfg run t.2 (data.bulkRequest t.1) := by
  refine conceals_executeItems (fun _ t => answered_executeRaw data t) ?_ ?_ ?_
  · intro run' t h hc
    rw [foundRawItems_eq, foundRawItems_eq, hc.batchOutcome_eq h]
  · intro t h
    rw [foundRawItems_eq, foundRawItems_eq] at h
    exact bulkConceals_of_shown h
  · intro t
    rw [foundRawItems_eq, foundRawItems_eq]
    exact length_shownItems

end Handlers

end Command
end NodeNexus
