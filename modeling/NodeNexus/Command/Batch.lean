import NodeNexus.Command.Completed
import NodeNexus.Command.Handlers
import Mathlib.Data.Nat.Pairing

/-!
# The batch id of a response

The handlers of bulk executions answer with a batch id, and the history of commands can be
listed by it.

* `Traffic` — the environments of all calls; no id is drawn twice.
* `history` — the rows that the calls leave.
* `BatchesIdentified` — the rows with the batch id of a response are its executions.
* `batches_identified_iff` — no row ever carries that id, since each use case draws one of its
  own; so this is the case only where no command ran on any node.
-/

namespace NodeNexus
namespace Command

open Content Node
open NodeNexus.Core

/-! ## Calls and their rows -/

/-- The environments of all calls, with the ids that `uuid4` draws in them. -/
structure Traffic where
  answers : Nat → Answers
  /-- The id drawn in a call: by the use case of an item, or by the handler. -/
  drawn : Nat → Option Nat → Uuid
  draws : ∀ call item, answers call (.uuid4 item) = .ok (drawn call item)
  /-- No id is drawn twice. -/
  fresh : ∀ {call call' item item'}, drawn call item = drawn call' item' →
    call = call' ∧ item = item'

/-- A row of the command history. -/
structure HistoryRow where
  batch : Option Uuid
  record : CommandHistoryCreateDTO

/-- The rows that an answer adds. -/
def rowsOf : Note HistoryRow
  | .saveRecord _ batch _ record, .ok _ => [⟨batch, record⟩]
  | _, _ => []

/-- A call that writes to the history of commands. -/
inductive HistoryCall where
  /-- `bulk_executions`. -/
  | executions (data : CommandExecutionsRequest)
  /-- `bulk_raw_executions`. -/
  | rawExecutions (data : RawExecutionsRequest)
  /-- `NodeBulkCommandService.execute`. -/
  | bulk (data : BulkCommandRequestDTO)
  /-- `NodeCommandService.execute_command`. -/
  | nodeCommand (nodeId : Uuid) (command : String) (timeout : Option Int)
  /-- `CommandExecutionService.execute_command`. -/
  | savedCommand (commandId : Uuid) (data : CommandExecuteRequestDTO)

/-- What a call does; only the handlers of this module answer with a batch. -/
def HistoryCall.serve (cfg : Setting) (unicode : Unicode) : HistoryCall → Endpoint (Option BatchReply)
  | .executions data => do
      let reply ← bulkExecutions cfg unicode data
      pure (some reply)
  | .rawExecutions data => do
      let reply ← bulkRawExecutions cfg data
      pure (some reply)
  | .bulk data => do
      let _ ← executeBatch cfg 0 data
      pure none
  | .nodeCommand nodeId command timeout => do
      let _ ← ofService 0 none (nodeExecuteCommand cfg nodeId command timeout)
      pure none
  | .savedCommand commandId data => do
      let _ ← executeCommand cfg unicode commandId data
      pure none

/-- The rows that some calls leave. -/
def history (cfg : Setting) (unicode : Unicode) (traffic : Traffic) (calls : List HistoryCall) :
    List HistoryRow :=
  calls.zipIdx.flatMap fun (call, k) =>
    (Program.run (Program.noting rowsOf (traffic.answers k)) (call.serve cfg unicode) []).2

/-! ## What is promised -/

/-- One execution of a command on a node, as a row or a result tells it. -/
structure Execution where
  commandFingerprint : String
  commandId : Option Uuid
  nodeId : Uuid
  exitCode : Int
  deriving DecidableEq

/-- The execution of a row. -/
def HistoryRow.execution (row : HistoryRow) : Execution :=
  ⟨row.record.commandFingerprint, row.record.commandId, row.record.nodeId, row.record.exitCode⟩

/-- The execution of an item, if it is the result of a node. -/
def BulkExecutionItem.execution? (cfg : Setting) (r : BulkExecutionItem) : Option Execution := do
  let command ← r.command
  let nodeId ← r.nodeId
  let exitCode ← r.exitCode
  some ⟨cfg.commandFingerprint command, r.commandId, nodeId, exitCode⟩

/-- The rows with the batch id of a response are one row for each result of a node. -/
def BatchIdentified (cfg : Setting) (rows : List HistoryRow)
    (response : BulkExecutionBatchResponse) : Prop :=
  ((rows.filter fun row => decide (row.batch = some response.batchId)).map
    (·.execution)).Perm (response.results.filterMap (·.execution? cfg))

/-- Each response identifies its rows, among those of all calls. -/
def BatchesIdentified (cfg : Setting) (unicode : Unicode) (traffic : Traffic)
    (calls : List HistoryCall) : Prop :=
  ∀ t ∈ calls.zipIdx, ∀ multiStatus response,
    (Program.run (Program.noting rowsOf (traffic.answers t.2)) (t.1.serve cfg unicode) []).1 =
      .ok (some (.batch multiStatus response)) →
    BatchIdentified cfg (history cfg unicode traffic calls) response

/-- A bulk execution returns the results of its targets. -/
def Yields (cfg : Setting) (answers : Answers) (item : Nat) (data : BulkCommandRequestDTO) : Prop :=
  ∃ nodes batch, BulkStarts cfg answers item data nodes batch ∧
    BulkRecorded cfg answers item data nodes batch

/-- What an item of `bulk_executions` executes, where its command is found and renders. -/
def Executes (cfg : Setting) (unicode : Unicode) (answers : Answers)
    (data : CommandExecutionsRequest) (item : Nat) (commandId : Uuid)
    (request : BulkCommandRequestDTO) : Prop :=
  ∃ command rendered, answers (.getCommand item commandId) = .ok (some command) ∧
    render unicode command.command command.parameters
      ((data.params.lookup (cfg.printUuid commandId)).getD []) = .ok rendered ∧
    request = ⟨rendered, data.nodeIds, data.nodeTags, some commandId,
      some (data.timeout.getD command.timeout)⟩

/-- No command of a call runs on a node. -/
def NothingRuns (cfg : Setting) (unicode : Unicode) (answers : Answers) : HistoryCall → Prop
  | .executions data => exceedsLimit data.commandIds.length data.nodeIds data.nodeTags = false →
      ∀ t ∈ data.commandIds.zipIdx, ∀ request, Executes cfg unicode answers data t.2 t.1 request →
        ¬ Yields cfg answers t.2 request
  | .rawExecutions data => exceedsLimit data.commands.length data.nodeIds data.nodeTags = false →
      ∀ t ∈ data.commands.zipIdx, ¬ Yields cfg answers t.2
        ⟨t.1, data.nodeIds, data.nodeTags, none, some (data.timeout.getD defaultTimeout)⟩
  | _ => True

/-! ## Rows of a call -/

section Rows

variable {cfg : Setting} {unicode : Unicode} {answers : Answers} {item : Nat}

/-- The rows of a service carry the batch that it was given. -/
theorem batch_of_ofService {α : Type} {batch : Option Uuid} {p : Service α} :
    ∀ row ∈ Program.noted rowsOf answers (ofService item batch p), row.batch = batch := by
  rw [noted_ofService]
  induction p with
  | done a => exact fun row hrow => absurd hrow List.not_mem_nil
  | raise e => exact fun row hrow => absurd hrow List.not_mem_nil
  | ask r k ih =>
      intro row hrow
      rw [Program.noted] at hrow
      cases List.mem_append.1 hrow with
      | inr hrest => exact ih _ row hrest
      | inl hfirst =>
          cases r with
          | saveHistory task record =>
              simp only [partNote, partAnswers] at hfirst
              cases hsaved : answers (.saveRecord item batch task record) with
              | error e =>
                  rw [hsaved] at hfirst
                  exact absurd hfirst List.not_mem_nil
              | ok u =>
                  rw [hsaved] at hfirst
                  obtain rfl := List.mem_singleton.1 hfirst
                  rfl
          | _ => exact absurd hfirst List.not_mem_nil

/-- The rows of a bulk execution carry the id that the use case has drawn. -/
theorem batch_of_executeBatch {data : BulkCommandRequestDTO} :
    ∀ row ∈ Program.noted rowsOf answers (executeBatch cfg item data), ∃ batch,
      answers (.uuid4 (some item)) = .ok batch ∧ row.batch = some batch := by
  unfold executeBatch
  rw [Program.noted_bind_of_nil (Program.noted_call _), Program.answered_call]
  cases answers (.service item (.targets data.nodeIds data.tags)) with
  | error e => exact fun row hrow => absurd hrow List.not_mem_nil
  | ok nodes =>
      cases nodes with
      | nil => exact fun row hrow => absurd hrow List.not_mem_nil
      | cons node nodes =>
          show ∀ row ∈ Program.noted _ _ (ask (.uuid4 (some item)) >>= _), _
          rw [Program.noted_bind_of_nil (Program.noted_call _), Program.answered_call]
          cases answers (.uuid4 (some item)) with
          | error e => exact fun row hrow => absurd hrow List.not_mem_nil
          | ok batch => exact fun row hrow => ⟨batch, rfl, batch_of_ofService row hrow⟩

/-- Each row of an endpoint carries no batch, or the id that a use case has drawn. -/
def OwnBatches {α : Type} (answers : Answers) (p : Endpoint α) : Prop :=
  ∀ row ∈ Program.noted rowsOf answers p, row.batch = none ∨ ∃ item batch,
    answers (.uuid4 (some item)) = .ok batch ∧ row.batch = some batch

theorem OwnBatches.bind {α β : Type} {p : Endpoint α} {f : α → Endpoint β}
    (hp : OwnBatches answers p) (hf : ∀ a, OwnBatches answers (f a)) :
    OwnBatches answers (p >>= f) := by
  intro row hrow
  rw [Program.noted_bind] at hrow
  cases List.mem_append.1 hrow with
  | inl hfirst => exact hp row hfirst
  | inr hrest =>
      cases hresult : Program.answered answers p with
      | ok a =>
          rw [hresult] at hrest
          exact hf a row hrest
      | error e =>
          rw [hresult] at hrest
          exact absurd hrest List.not_mem_nil

theorem ownBatches_of_nil {α : Type} {p : Endpoint α} (h : Program.noted rowsOf answers p = []) :
    OwnBatches answers p := by
  intro row hrow
  rw [h] at hrow
  exact absurd hrow List.not_mem_nil

theorem ownBatches_pure {α : Type} (a : α) : OwnBatches answers (pure a) := ownBatches_of_nil rfl

theorem OwnBatches.attempt {α : Type} {p : Endpoint α} (hp : OwnBatches answers p) :
    OwnBatches answers p.attempt := by
  intro row hrow
  rw [Program.noted_attempt] at hrow
  exact hp row hrow

theorem ownBatches_gather {α γ : Type} {g : γ → Endpoint α} {cs : List γ}
    (hg : ∀ c ∈ cs, OwnBatches answers (g c)) :
    OwnBatches answers (Program.gather (cs.map g)) := by
  intro row hrow
  rw [Program.noted_gather] at hrow
  obtain ⟨c, hc, hrow⟩ := List.mem_flatMap.1 hrow
  exact hg c hc row hrow

theorem ownBatches_executeBatch (item : Nat) (data : BulkCommandRequestDTO) :
    OwnBatches answers (executeBatch cfg item data) := by
  intro row hrow
  obtain ⟨batch, hbatch, hrow⟩ := batch_of_executeBatch row hrow
  exact .inr ⟨item, batch, hbatch, hrow⟩

theorem ownBatches_ofService {α : Type} (p : Service α) :
    OwnBatches answers (ofService item none p) :=
  fun row hrow => .inl (batch_of_ofService row hrow)

theorem ownBatches_getCommand (id : Uuid) : OwnBatches answers (getCommand cfg item id) := by
  refine (ownBatches_of_nil (Program.noted_call _)).bind fun command => ?_
  cases command with
  | none => exact ownBatches_of_nil rfl
  | some command => exact ownBatches_pure command

theorem ownBatches_executeOne (data : CommandExecutionsRequest) (commandId : Uuid) :
    OwnBatches answers (executeOne cfg unicode data item commandId) := by
  have htry : OwnBatches answers (tryCommand cfg unicode data item commandId) := by
    refine (ownBatches_getCommand commandId).bind fun cmd => ?_
    refine (ownBatches_of_nil (noted_raised _)).bind fun rendered => ?_
    exact (ownBatches_executeBatch _ _).bind fun result => ownBatches_pure _
  exact htry.attempt.bind fun outcome => ownBatches_pure _

theorem ownBatches_executeRaw (data : RawExecutionsRequest) (command : String) :
    OwnBatches answers (executeRaw cfg data item command) := by
  have htry : OwnBatches answers (tryRaw cfg data item command) :=
    (ownBatches_executeBatch _ _).bind fun result => ownBatches_pure _
  exact htry.attempt.bind fun outcome => ownBatches_pure _

theorem ownBatches_executeItems {ι : Type} {items : List ι} {nodeIds : List Uuid}
    {nodeTags : List String} {worker : Nat → ι → Endpoint (List BulkExecutionItem)}
    (h : ∀ item i, OwnBatches answers (worker item i)) :
    OwnBatches answers (executeItems items nodeIds nodeTags worker) := by
  refine (ownBatches_of_nil (Program.noted_call _)).bind fun batchId => ?_
  split
  · exact ownBatches_pure _
  · exact (ownBatches_gather fun t _ => h t.2 t.1).bind fun nested => ownBatches_pure _

theorem ownBatches_executeCommand (commandId : Uuid) (data : CommandExecuteRequestDTO) :
    OwnBatches answers (executeCommand cfg unicode commandId data) := by
  refine (ownBatches_of_nil (Program.noted_call _)).bind fun template => ?_
  cases template with
  | none => exact ownBatches_of_nil rfl
  | some template =>
      exact (ownBatches_of_nil (noted_raised _)).bind fun command => ownBatches_ofService _

/-- **No row of a call carries the id that its handler has drawn.** -/
theorem ownBatches_serve (call : HistoryCall) : OwnBatches answers (call.serve cfg unicode) := by
  cases call with
  | executions data =>
      exact (ownBatches_executeItems fun item id => ownBatches_executeOne data id).bind
        fun reply => ownBatches_pure _
  | rawExecutions data =>
      exact (ownBatches_executeItems fun item command => ownBatches_executeRaw data command).bind
        fun reply => ownBatches_pure _
  | bulk data => exact (ownBatches_executeBatch _ _).bind fun _ => ownBatches_pure _
  | nodeCommand nodeId command timeout =>
      exact (ownBatches_ofService _).bind fun _ => ownBatches_pure _
  | savedCommand commandId data =>
      exact (ownBatches_executeCommand _ _).bind fun _ => ownBatches_pure _

/-- No row of the history carries an id that a handler has drawn. -/
theorem filter_history (traffic : Traffic) (calls : List HistoryCall) (k : Nat) :
    ((history cfg unicode traffic calls).filter fun row =>
      decide (row.batch = some (traffic.drawn k none))) = [] := by
  refine List.filter_eq_nil_iff.2 fun row hrow => ?_
  rw [decide_eq_true_eq]
  intro hbatch
  obtain ⟨⟨call, k'⟩, -, hrow⟩ := List.mem_flatMap.1 hrow
  simp only [Program.run_noting, List.nil_append] at hrow
  cases ownBatches_serve call row hrow with
  | inl hnone =>
      rw [hnone] at hbatch
      cases hbatch
  | inr hown =>
      obtain ⟨item, batch, hdrawn, hrow⟩ := hown
      rw [traffic.draws] at hdrawn
      cases hdrawn
      rw [hrow] at hbatch
      have hitem := (traffic.fresh (Option.some.inj hbatch)).2
      cases hitem

end Rows

/-! ## Results of a call -/

section Results

variable {cfg : Setting} {unicode : Unicode} {answers : Answers} {item : Nat}

/-- What `tryCommand` comes to. -/
theorem answered_tryCommand_eq_ok {data : CommandExecutionsRequest} {commandId : Uuid}
    {items : List BulkExecutionItem} :
    Program.answered answers (tryCommand cfg unicode data item commandId) = .ok items ↔
      ∃ request result, Executes cfg unicode answers data item commandId request ∧
        batchOutcome cfg answers item request = .ok result ∧
        items = result.results.map (executionItem (some commandId) request.command) := by
  have hget : ∀ command, Program.answered answers (getCommand cfg item commandId) = .ok command ↔
      answers (.getCommand item commandId) = .ok (some command) := by
    intro command
    unfold getCommand
    rw [Program.answered_bind, Program.answered_call]
    cases answers (.getCommand item commandId) with
    | error e => exact iff_of_false nofun nofun
    | ok found =>
        cases found with
        | none => exact iff_of_false nofun nofun
        | some found =>
            constructor
            · intro h
              cases h
              rfl
            · intro h
              cases h
              rfl
  unfold tryCommand
  simp only [Program.answered_bind, answered_raised, answered_executeBatch, Program.answered_pure]
  constructor
  · intro h
    obtain ⟨command, hcommand, h⟩ := bind_eq_ok.1 h
    obtain ⟨rendered, hrendered, h⟩ := bind_eq_ok.1 h
    obtain ⟨result, hresult, h⟩ := bind_eq_ok.1 h
    exact ⟨_, result, ⟨command, rendered, (hget command).1 hcommand, hrendered, rfl⟩, hresult,
      (Except.ok.inj h).symm⟩
  · rintro ⟨request, result, ⟨command, rendered, hcommand, hrendered, rfl⟩, hresult, rfl⟩
    exact bind_eq_ok.2 ⟨command, (hget command).2 hcommand, bind_eq_ok.2 ⟨rendered, hrendered,
      bind_eq_ok.2 ⟨result, hresult, rfl⟩⟩⟩

theorem answered_tryRaw_eq_ok {data : RawExecutionsRequest} {command : String}
    {items : List BulkExecutionItem} :
    Program.answered answers (tryRaw cfg data item command) = .ok items ↔
      ∃ result, batchOutcome cfg answers item ⟨command, data.nodeIds, data.nodeTags, none,
          some (data.timeout.getD defaultTimeout)⟩ = .ok result ∧
        items = result.results.map (executionItem none command) := by
  unfold tryRaw
  simp only [Program.answered_bind, answered_executeBatch, Program.answered_pure]
  rw [bind_eq_ok]
  constructor
  · rintro ⟨result, hresult, h⟩
    exact ⟨result, hresult, (Except.ok.inj h).symm⟩
  · rintro ⟨result, hresult, rfl⟩
    exact ⟨result, hresult, rfl⟩

theorem yields_iff {data : BulkCommandRequestDTO} : Yields cfg answers item data ↔
    ∃ result, batchOutcome cfg answers item data = .ok result := by
  constructor
  · rintro ⟨nodes, batch, hstarts, hrecorded⟩
    exact ⟨_, batchOutcome_eq_ok.2 ⟨nodes, batch, hstarts, hrecorded, rfl⟩⟩
  · rintro ⟨result, h⟩
    obtain ⟨nodes, batch, hstarts, hrecorded, -⟩ := batchOutcome_eq_ok.1 h
    exact ⟨nodes, batch, hstarts, hrecorded⟩

/-- A bulk execution that returns has results. -/
theorem results_ne_nil {data : BulkCommandRequestDTO} {result : BulkCommandResultDTO}
    (h : batchOutcome cfg answers item data = .ok result) : result.results ≠ [] := by
  obtain ⟨nodes, batch, hstarts, -, rfl⟩ := batchOutcome_eq_ok.1 h
  intro hnil
  have hlength : (targetResults answers item data nodes).length = nodes.length := by
    unfold targetResults
    rw [List.length_map, List.length_zipIdx]
  have hresults : targetResults answers item data nodes = [] := hnil
  rw [hresults] at hlength
  exact hstarts.some_target (List.length_eq_zero_iff.1 hlength.symm)

theorem executions_ne_nil {commandId : Option Uuid} {command : String}
    {results : List CommandExecutionDTO} (h : results ≠ []) :
    (results.map (executionItem commandId command)).filterMap (·.execution? cfg) ≠ [] := by
  cases results with
  | nil => exact absurd rfl h
  | cons r results => exact List.cons_ne_nil _ _

theorem answered_executeItems {ι : Type} {items : List ι} {nodeIds : List Uuid}
    {nodeTags : List String} {worker : Nat → ι → Endpoint (List BulkExecutionItem)}
    {found : ι × Nat → List BulkExecutionItem} {batchId : Uuid}
    (hbatch : answers (.uuid4 none) = .ok batchId)
    (h : ∀ t ∈ items.zipIdx, Program.answered answers (worker t.2 t.1) = .ok (found t)) :
    Program.answered answers (executeItems items nodeIds nodeTags worker) =
      .ok (if exceedsLimit items.length nodeIds nodeTags then .refused "M×N must be ≤100"
        else batchReply batchId (items.zipIdx.map found).flatten) := by
  unfold executeItems
  rw [Program.answered_bind, Program.answered_call, hbatch]
  show Program.answered answers (ite _ _ _) = _
  split
  · rfl
  · rw [Program.answered_bind, Program.answered_gather, mapM_eq_ok_map h]
    rfl

/-- What the items of `bulk_executions` come to. -/
def foundItems (cfg : Setting) (unicode : Unicode) (answers : Answers)
    (data : CommandExecutionsRequest) (t : Uuid × Nat) : List BulkExecutionItem :=
  itemsOf (some t.1) none (Program.answered answers (tryCommand cfg unicode data t.2 t.1))

/-- What the items of `bulk_raw_executions` come to. -/
def foundRawItems (cfg : Setting) (answers : Answers) (data : RawExecutionsRequest)
    (t : String × Nat) : List BulkExecutionItem :=
  itemsOf none (some t.1) (Program.answered answers (tryRaw cfg data t.2 t.1))

theorem answered_executeOne (data : CommandExecutionsRequest) (t : Uuid × Nat) :
    Program.answered answers (executeOne cfg unicode data t.2 t.1) =
      .ok (foundItems cfg unicode answers data t) := by
  unfold executeOne
  rw [Program.answered_bind, Program.answered_attempt]
  rfl

theorem answered_executeRaw (data : RawExecutionsRequest) (t : String × Nat) :
    Program.answered answers (executeRaw cfg data t.2 t.1) =
      .ok (foundRawItems cfg answers data t) := by
  unfold executeRaw
  rw [Program.answered_bind, Program.answered_attempt]
  rfl

theorem filterMap_foundItems {data : CommandExecutionsRequest} {t : Uuid × Nat} :
    (foundItems cfg unicode answers data t).filterMap (·.execution? cfg) = [] ↔
      ∀ request, Executes cfg unicode answers data t.2 t.1 request →
        ¬ Yields cfg answers t.2 request := by
  unfold foundItems
  cases hitems : Program.answered answers (tryCommand cfg unicode data t.2 t.1) with
  | error e =>
      refine iff_of_true rfl fun request hexecutes hyields => ?_
      obtain ⟨result, hresult⟩ := yields_iff.1 hyields
      have hok := answered_tryCommand_eq_ok.2 ⟨request, result, hexecutes, hresult, rfl⟩
      rw [hitems] at hok
      cases hok
  | ok items =>
      obtain ⟨request, result, hexecutes, hresult, rfl⟩ := answered_tryCommand_eq_ok.1 hitems
      refine iff_of_false ?_ fun h => h request hexecutes (yields_iff.2 ⟨result, hresult⟩)
      exact executions_ne_nil (results_ne_nil hresult)

theorem filterMap_foundRawItems {data : RawExecutionsRequest} {t : String × Nat} :
    (foundRawItems cfg answers data t).filterMap (·.execution? cfg) = [] ↔
      ¬ Yields cfg answers t.2
        ⟨t.1, data.nodeIds, data.nodeTags, none, some (data.timeout.getD defaultTimeout)⟩ := by
  unfold foundRawItems
  cases hitems : Program.answered answers (tryRaw cfg data t.2 t.1) with
  | error e =>
      refine iff_of_true rfl fun hyields => ?_
      obtain ⟨result, hresult⟩ := yields_iff.1 hyields
      have hok := answered_tryRaw_eq_ok.2 ⟨result, hresult, rfl⟩
      rw [hitems] at hok
      cases hok
  | ok items =>
      obtain ⟨result, hresult, rfl⟩ := answered_tryRaw_eq_ok.1 hitems
      refine iff_of_false ?_ fun h => h (yields_iff.2 ⟨result, hresult⟩)
      exact executions_ne_nil (results_ne_nil hresult)

end Results

/-! ## Where the batch id identifies the batch -/

section Batches

variable {cfg : Setting} {unicode : Unicode} {traffic : Traffic} {calls : List HistoryCall}

/-- A response with a drawn id identifies its rows where it tells of no execution. -/
theorem batchIdentified_iff {k : Nat} {flat : List BulkExecutionItem}
    {response : BulkExecutionBatchResponse} {multiStatus : Bool}
    (h : batchReply (traffic.drawn k none) flat = .batch multiStatus response) :
    BatchIdentified cfg (history cfg unicode traffic calls) response ↔
      flat.filterMap (·.execution? cfg) = [] := by
  cases h
  unfold BatchIdentified
  rw [filter_history, List.map_nil, List.nil_perm]

/-- What a call of a handler must meet. -/
theorem reply_identified_iff {k : Nat} {call : HistoryCall} {exceeds : Bool}
    {flat : List BulkExecutionItem}
    (h : Program.answered (traffic.answers k) (call.serve cfg unicode) =
      .ok (some (if exceeds then .refused "M×N must be ≤100"
        else batchReply (traffic.drawn k none) flat))) :
    (∀ multiStatus response,
      (Program.run (Program.noting rowsOf (traffic.answers k)) (call.serve cfg unicode) []).1 =
        .ok (some (.batch multiStatus response)) →
      BatchIdentified cfg (history cfg unicode traffic calls) response) ↔
      (exceeds = false → flat.filterMap (·.execution? cfg) = []) := by
  rw [Program.run_noting, h]
  cases exceeds with
  | true =>
      refine iff_of_true (fun multiStatus response hreply => ?_) nofun
      cases hreply
  | false =>
      constructor
      · exact fun hall _ => (batchIdentified_iff rfl).1 (hall _ _ rfl)
      · intro hnone multiStatus response hreply
        have hbatch := Option.some.inj (Except.ok.inj hreply)
        exact (batchIdentified_iff hbatch).2 (hnone rfl)

theorem answered_some {answers : Answers} {p : Endpoint BatchReply} {reply : BatchReply}
    (h : Program.answered answers p = .ok reply) :
    Program.answered answers (do let r ← p; pure (some r)) = .ok (some reply) := by
  rw [Program.answered_bind, h]
  rfl

/-- A call that answers with no batch. -/
theorem identified_of_none {α : Type} {k : Nat} {p : Endpoint α} {rows : List HistoryRow} :
    ∀ multiStatus response,
      (Program.run (Program.noting rowsOf (traffic.answers k))
        (do let _ ← p; pure (none : Option BatchReply)) []).1 =
        .ok (some (.batch multiStatus response)) →
      BatchIdentified cfg rows response := by
  intro multiStatus response hreply
  rw [Program.run_noting, Program.answered_bind] at hreply
  obtain ⟨a, -, hnone⟩ := bind_eq_ok.1 hreply
  cases hnone

/-- The executions of all items. -/
theorem filterMap_flatten_eq_nil {ι : Type} {ts : List ι} {found : ι → List BulkExecutionItem} :
    (ts.map found).flatten.filterMap (·.execution? cfg) = [] ↔
      ∀ t ∈ ts, (found t).filterMap (·.execution? cfg) = [] := by
  induction ts with
  | nil => simp
  | cons t ts ih => simp [List.filterMap_append]

theorem call_identified_iff (t : HistoryCall × Nat) :
    (∀ multiStatus response,
      (Program.run (Program.noting rowsOf (traffic.answers t.2)) (t.1.serve cfg unicode) []).1 =
        .ok (some (.batch multiStatus response)) →
      BatchIdentified cfg (history cfg unicode traffic calls) response) ↔
      NothingRuns cfg unicode (traffic.answers t.2) t.1 := by
  obtain ⟨call, k⟩ := t
  cases call with
  | executions data =>
      have hreply : Program.answered (traffic.answers k) (bulkExecutions cfg unicode data) = _ :=
        answered_executeItems (traffic.draws k none) fun t _ => answered_executeOne data t
      refine (reply_identified_iff (answered_some hreply)).trans (forall_congr' fun _ => ?_)
      rw [filterMap_flatten_eq_nil]
      exact forall_congr' fun t => forall_congr' fun _ => filterMap_foundItems
  | rawExecutions data =>
      have hreply : Program.answered (traffic.answers k) (bulkRawExecutions cfg data) = _ :=
        answered_executeItems (traffic.draws k none) fun t _ => answered_executeRaw data t
      refine (reply_identified_iff (answered_some hreply)).trans (forall_congr' fun _ => ?_)
      rw [filterMap_flatten_eq_nil]
      exact forall_congr' fun t => forall_congr' fun _ => filterMap_foundRawItems
  | bulk data => exact iff_of_true identified_of_none trivial
  | nodeCommand nodeId command timeout => exact iff_of_true identified_of_none trivial
  | savedCommand commandId data => exact iff_of_true identified_of_none trivial

/-- **When a batch id identifies its batch.**  The id of a response is carried by no row, of
this call or another one, so it identifies the executions of the response exactly where there
are none. -/
theorem batches_identified_iff (cfg : Setting) (unicode : Unicode) (traffic : Traffic)
    (calls : List HistoryCall) :
    (BatchesIdentified cfg unicode traffic calls ↔
      ∀ t ∈ calls.zipIdx, NothingRuns cfg unicode (traffic.answers t.2) t.1) ∧
    ∀ k, ∀ row ∈ history cfg unicode traffic calls, row.batch ≠ some (traffic.drawn k none) := by
  constructor
  · exact forall_congr' fun t => forall_congr' fun _ => call_identified_iff t
  · intro k row hrow hbatch
    exact List.filter_eq_nil_iff.1 (filter_history traffic calls k) row hrow
      (decide_eq_true hbatch)

/-- Each gateway answers, and `uuid4` counts. -/
def counting : Traffic where
  answers call
    | .uuid4 item => .ok (Nat.pair call (item.elim 0 (· + 1)))
    | .service _ (.targets ..) => .ok [(fleetNode 0).toConnectionDto]
    | .service _ (.decrypt _ value) => .ok value
    | .service _ (.enqueueRequired _) => .ok ()
    | .service _ (.enqueueOptional _) => .ok ()
    | .service _ (.execute ..) => .ok ⟨"ok", "", 0⟩
    | .saveRecord .. => .ok ()
    | _ => .error ⟨.other, ""⟩
  drawn call item := Nat.pair call (item.elim 0 (· + 1))
  draws _ _ := rfl
  fresh {call call' item item'} h := by
    obtain ⟨hcall, hitem⟩ := Nat.pair_eq_pair.1 h
    refine ⟨hcall, ?_⟩
    cases item <;> cases item' <;> simp_all

/-- One command on one node. -/
def uptimeOnOne : RawExecutionsRequest where
  commands := ["uptime"]
  nodeIds := [0]
  nodeTags := []
  timeout := none
  commands_ok := by decide
  timeout_ok := timeoutInRange_none

/-- The row of a command that has run does not carry the batch id of the response. -/
theorem not_batchesIdentified :
    ¬ ∀ (cfg : Setting) (unicode : Unicode) (traffic : Traffic) (calls : List HistoryCall),
      cfg.historyWriter = true → BatchesIdentified cfg unicode traffic calls := by
  intro h
  have hall := h plainSetting asciiUnicode counting [.rawExecutions uptimeOnOne] rfl
  have hcall := (call_identified_iff (.rawExecutions uptimeOnOne, 0)).1
    (hall _ (List.mem_singleton_self _))
  refine hcall rfl ("uptime", 0) (List.mem_singleton_self _) ?_
  refine ⟨[(fleetNode 0).toConnectionDto], Nat.pair 0 1, ⟨rfl, List.cons_ne_nil _ _, rfl, rfl⟩, ?_⟩
  refine ⟨fun t ht => ?_, fun _ t ht => ⟨(), rfl⟩⟩
  obtain rfl := List.mem_singleton.1 ht
  exact ⟨_, rfl⟩

end Batches

end Command
end NodeNexus
