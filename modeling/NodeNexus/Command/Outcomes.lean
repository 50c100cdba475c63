import NodeNexus.Command.Programs
import NodeNexus.Lib.Answered

/-!
# What the services come to

The services behind the command API in an environment with arbitrary answers.

* `Answers` — the answers of an environment; `partAnswers` is what a service gets of them.
* `openConnector`, `requiredOutcome`, `optionalOutcome` — what the common parts come to.
* `answered_executeBatch` — the bulk execution, read off its parts.
* `bulkOutcome_eq_ok` — where the workers of a bulk execution have started, it returns one
  result for each target, unless the secrets of a target do not decrypt or a record is lost.
-/

namespace NodeNexus
namespace Command

open Content Node
open NodeNexus.Core

/-- The answers of an environment, exceptions included. -/
abbrev Answers : Type := (r : CommandRequest) → Except NodeFailure (CommandAnswer r)

/-- What is noted of an answer. -/
abbrev Note (τ : Type) : Type :=
  (r : CommandRequest) → Except NodeFailure (CommandAnswer r) → List τ

/-- The answers that a service gets as a part of an endpoint. -/
def partAnswers (answers : Answers) (item : Nat) (batch : Option Uuid) :
    (r : Request) → Except NodeFailure (Answer r)
  | .saveHistory task record => answers (.saveRecord item batch task record)
  | r => answers (.service item r)

/-- What is noted of its answers. -/
def partNote {τ : Type} (note : Note τ) (item : Nat) (batch : Option Uuid) :
    (r : Request) → Except NodeFailure (Answer r) → List τ
  | .saveHistory task record, x => note (.saveRecord item batch task record) x
  | r, x => note (.service item r) x

section Parts

variable {α τ : Type} {answers : Answers} {note : Note τ} {item : Nat} {batch : Option Uuid}

/-- **A service comes to the same as a part.** -/
theorem answered_ofService (p : Service α) : Program.answered answers (ofService item batch p) =
    Program.answered (partAnswers answers item batch) p := by
  induction p with
  | done a => rfl
  | raise e => rfl
  | ask r k ih =>
      rw [ofService]
      cases r <;> exact ih _

theorem noted_ofService (p : Service α) : Program.noted note answers (ofService item batch p) =
    Program.noted (partNote note item batch) (partAnswers answers item batch) p := by
  induction p with
  | done a => rfl
  | raise e => rfl
  | ask r k ih =>
      rw [ofService]
      cases r <;> exact congrArg _ (ih _)

theorem answered_raised (x : Except NodeFailure α) : Program.answered answers (raised x) = x := by
  cases x <;> rfl

theorem noted_raised (x : Except NodeFailure α) : Program.noted note answers (raised x) = [] := by
  cases x <;> rfl

/-! ## Common parts -/

/-- The connector of a node, or why there is none. -/
def openConnector (answers : Answers) (item : Nat) (task : Nat) (node : NodeConnectionDTO)
    (timeout : Option Int) : Except NodeFailure SshConnector := do
  let password ← answers (.service item (.decrypt task node.credentials.password))
  let sshKey ← answers (.service item (.decrypt task node.credentials.sshKey))
  let passphrase ← answers (.service item (.decrypt task node.credentials.passphrase))
  .ok ⟨node.endpoint.host, node.endpoint.port, node.credentials.username, password, sshKey,
    passphrase, timeout⟩

theorem answered_buildSshConnector (task : Nat) (node : NodeConnectionDTO) (timeout : Option Int) :
    Program.answered (partAnswers answers item batch) (buildSshConnector task node timeout) =
      openConnector answers item task node timeout := by
  unfold buildSshConnector openConnector
  simp only [Program.answered_bind, Program.answered_call, Program.answered_pure]
  rfl

/-- What a stored or lost event comes to. -/
def eventOutcome (text : String) : Except NodeFailure Unit → Except NodeFailure Unit
  | .ok _ => .ok ()
  | .error _ => .error ⟨.auditWriteError, text⟩

/-- What comes of a required event. -/
def requiredOutcome (cfg : Setting) (answers : Answers) (item : Nat) (action : String)
    (nodeId : Option Uuid) (details : Option Json.Fields) : Except NodeFailure Unit :=
  if cfg.audit = true then
    eventOutcome "Required audit event could not be committed"
      (answers (.service item (.enqueueRequired (auditEvent action nodeId none details))))
  else .ok ()

theorem answered_logRequired (cfg : Setting) (action : String) (nodeId : Option Uuid)
    (details : Option Json.Fields) :
    Program.answered (partAnswers answers item batch) (cfg.logRequired action nodeId details) =
      requiredOutcome cfg answers item action nodeId details := by
  unfold Setting.logRequired requiredOutcome
  split
  · unfold Node.logRequired
    have hanswer : ∀ event, partAnswers answers item batch (.enqueueRequired event) =
        answers (.service item (.enqueueRequired event)) := fun _ => rfl
    rw [Program.answered_bind, Program.answered_attempt, Program.answered_call, hanswer]
    cases answers (.service item (.enqueueRequired (auditEvent action nodeId none details))) <;> rfl
  · rfl

theorem returns_requiredOutcome {cfg : Setting} {action : String} {nodeId : Option Uuid}
    {details : Option Json.Fields} :
    Returns (requiredOutcome cfg answers item action nodeId details) ↔ (cfg.audit = true →
      Returns (answers (.service item
        (.enqueueRequired (auditEvent action nodeId none details))))) := by
  unfold requiredOutcome
  by_cases haudit : cfg.audit = true
  · simp only [haudit, if_true, forall_const]
    cases answers (.service item (.enqueueRequired (auditEvent action nodeId none details))) with
    | ok u => simp [eventOutcome]
    | error e => simp [eventOutcome]
  · simp [haudit]

/-- What comes of an optional event. -/
def optionalOutcome (cfg : Setting) (answers : Answers) (item : Nat) (action : String)
    (nodeId : Option Uuid) (details : Json.Fields) : Except NodeFailure Unit :=
  if cfg.audit = true then
    eventOutcome "Audit event could not be persisted"
      (answers (.service item (.enqueueOptional (auditEvent action nodeId none (some details)))))
  else .ok ()

theorem answered_log (cfg : Setting) (action : String) (nodeId : Option Uuid)
    (details : Json.Fields) :
    Program.answered (partAnswers answers item batch) (cfg.log action nodeId details) =
      optionalOutcome cfg answers item action nodeId details := by
  unfold Setting.log optionalOutcome
  split
  · unfold Node.logOptional
    have hanswer : ∀ event, partAnswers answers item batch (.enqueueOptional event) =
        answers (.service item (.enqueueOptional event)) := fun _ => rfl
    rw [Program.answered_bind, Program.answered_attempt, Program.answered_call, hanswer]
    cases answers (.service item
      (.enqueueOptional (auditEvent action nodeId none (some details)))) <;> rfl
  · rfl

/-- An optional event ends a call too, where it is lost. -/
theorem returns_optionalOutcome {cfg : Setting} {action : String} {nodeId : Option Uuid}
    {details : Json.Fields} : Returns (optionalOutcome cfg answers item action nodeId details) ↔
      (cfg.audit = true → Returns (answers (.service item
        (.enqueueOptional (auditEvent action nodeId none (some details)))))) := by
  unfold optionalOutcome
  by_cases haudit : cfg.audit = true
  · simp only [haudit, if_true, forall_const]
    cases answers (.service item
        (.enqueueOptional (auditEvent action nodeId none (some details)))) with
    | ok u => simp [eventOutcome]
    | error e => simp [eventOutcome]
  · simp [haudit]

end Parts

/-! ## What the parts ask -/

section Asked

variable {P : Request → Prop}

theorem asks_buildSshConnector (h : ∀ task value, P (.decrypt task value)) (task : Nat)
    (node : NodeConnectionDTO) (timeout : Option Int) :
    (buildSshConnector task node timeout).Asks P := by
  have hdecrypt : ∀ value, (await (.decrypt task value)).Asks P := fun value => .call (h task value)
  unfold buildSshConnector
  refine (hdecrypt _).bind fun password => (hdecrypt _).bind fun sshKey => ?_
  exact (hdecrypt _).bind fun passphrase => .done _

theorem asks_logRequired (h : ∀ event, P (.enqueueRequired event)) (cfg : Setting)
    (action : String) (nodeId : Option Uuid) (details : Option Json.Fields) :
    (cfg.logRequired action nodeId details).Asks P := by
  unfold Setting.logRequired
  split
  · have hstored : (await (.enqueueRequired (auditEvent action nodeId none details))).Asks P :=
      .call (h _)
    refine hstored.attempt.bind fun stored => ?_
    cases stored with
    | ok u => exact .done _
    | error e => exact .raise _
  · exact .done _

theorem asks_log {cfg : Setting} (h : cfg.audit = true → ∀ event, P (.enqueueOptional event))
    (action : String) (nodeId : Option Uuid) (details : Json.Fields) :
    (cfg.log action nodeId details).Asks P := by
  unfold Setting.log
  split
  · rename_i haudit
    have hstored :
        (await (.enqueueOptional (auditEvent action nodeId none (some details)))).Asks P :=
      .call (h haudit _)
    refine hstored.attempt.bind fun stored => ?_
    cases stored with
    | ok u => exact .done _
    | error e => exact .raise _
  · exact .done _

theorem asks_logRequested (h : ∀ event, P (.enqueueRequired event)) (cfg : Setting)
    (command : String) (nodes : List NodeConnectionDTO) :
    (logRequested cfg command nodes).Asks P := by
  induction nodes with
  | nil => exact .done _
  | cons node nodes ih => exact (asks_logRequired h ..).bind fun _ => ih

theorem asks_executeOnSingleNode (hdecrypt : ∀ task value, P (.decrypt task value))
    {command : String} (hexecute : ∀ task connector, P (.execute task connector command))
    (task : Nat) (node : NodeConnectionDTO) (timeout : Option Int) :
    (executeOnSingleNode task node command timeout).Asks P := by
  refine (asks_buildSshConnector hdecrypt ..).bind fun connector => ?_
  have hsession : (await (.execute task connector command)).Asks P := .call (hexecute ..)
  exact hsession.attempt.bind fun outcome => .done _

theorem asks_saveHistory (h : ∀ task record, P (.saveHistory task record)) (cfg : Setting)
    (data : BulkCommandRequestDTO) (results : List CommandExecutionDTO) :
    (saveHistory cfg data results).Asks P := by
  unfold saveHistory
  split
  · have hsaves : (Program.gather (results.zipIdx.map fun t =>
        (await (.saveHistory t.2 (historyRecord cfg data t.1)) : Service Unit))).Asks P := by
      refine Program.Asks.gather fun p hp => ?_
      obtain ⟨t, -, rfl⟩ := List.mem_map.1 hp
      exact .call (h _ _)
    exact hsaves.bind fun _ => .done _
  · exact .done _

theorem asks_logResults {cfg : Setting}
    (h : cfg.audit = true → ∀ event, P (.enqueueOptional event)) (command : String)
    (results : List CommandExecutionDTO) : (logResults cfg command results).Asks P := by
  induction results with
  | nil => exact .done _
  | cons result results ih => exact (asks_log h ..).attempt.bind fun _ => ih

/-- The requests of a bulk execution, and no others. -/
theorem asks_executeOn {cfg : Setting} {data : BulkCommandRequestDTO}
    (hdecrypt : ∀ task value, P (.decrypt task value))
    (hexecute : ∀ task connector, P (.execute task connector data.command))
    (hsave : ∀ task record, P (.saveHistory task record))
    (hrequired : ∀ event, P (.enqueueRequired event))
    (hoptional : cfg.audit = true → ∀ event, P (.enqueueOptional event))
    (nodes : List NodeConnectionDTO) : (executeOn cfg data nodes).Asks P := by
  unfold executeOn
  split
  · exact .raise _
  · refine (asks_logRequested hrequired ..).bind fun _ => ?_
    have hworkers : (Program.gather (nodes.zipIdx.map fun t =>
        executeOnSingleNode t.2 t.1 data.command data.timeout)).Asks P := by
      refine Program.Asks.gather fun p hp => ?_
      obtain ⟨t, -, rfl⟩ := List.mem_map.1 hp
      exact asks_executeOnSingleNode hdecrypt hexecute ..
    refine hworkers.bind fun results => ?_
    refine (asks_saveHistory hsave ..).bind fun _ => ?_
    exact (asks_logResults hoptional ..).bind fun _ => .done _

end Asked

/-! ## Bulk execution -/

/-- The session of a target: its connector is built, and its command runs. -/
def targetSession (answers : Answers) (item : Nat) (data : BulkCommandRequestDTO)
    (t : NodeConnectionDTO × Nat) : Except NodeFailure SshOutput := do
  let connector ← openConnector answers item t.2 t.1 data.timeout
  answers (.service item (.execute t.2 connector data.command))

/-- The result of a target, where its connector is built. -/
def targetResult (answers : Answers) (item : Nat) (data : BulkCommandRequestDTO)
    (t : NodeConnectionDTO × Nat) : Except NodeFailure CommandExecutionDTO :=
  (openConnector answers item t.2 t.1 data.timeout).map fun _ =>
    executionResult t.1 (targetSession answers item data t)

/-- The required events before a bulk command are stored. -/
def requestsOutcome (cfg : Setting) (answers : Answers) (item : Nat) (command : String) :
    List NodeConnectionDTO → Except NodeFailure Unit
  | [] => .ok ()
  | node :: nodes => do
      requiredOutcome cfg answers item "bulk_execute.requested" (some node.id)
        (some [("command_fingerprint", .str (cfg.commandFingerprint command))])
      requestsOutcome cfg answers item command nodes

/-- What `_save_history` comes to. -/
def savedOutcome (cfg : Setting) (answers : Answers) (item : Nat) (batch : Uuid)
    (data : BulkCommandRequestDTO) (results : List CommandExecutionDTO) : Except NodeFailure Unit :=
  if cfg.historyWriter = true then do
    let _ ← results.zipIdx.mapM fun t =>
      answers (.saveRecord item (some batch) t.2 (historyRecord cfg data t.1))
    .ok ()
  else .ok ()

/-- What `execute` comes to after its required events. -/
def bulkOutcome (cfg : Setting) (answers : Answers) (item : Nat) (batch : Uuid)
    (data : BulkCommandRequestDTO) (nodes : List NodeConnectionDTO) :
    Except NodeFailure BulkCommandResultDTO := do
  let results ← nodes.zipIdx.mapM (targetResult answers item data)
  savedOutcome cfg answers item batch data results
  .ok (bulkResult data results)

/-- What `execute` comes to. -/
def batchOutcome (cfg : Setting) (answers : Answers) (item : Nat) (data : BulkCommandRequestDTO) :
    Except NodeFailure BulkCommandResultDTO := do
  let nodes : List NodeConnectionDTO ← answers (.service item (.targets data.nodeIds data.tags))
  match nodes with
  | [] => .error ⟨.nodeNotFoundError, "No nodes matched the given criteria"⟩
  | node :: nodes => do
      let batch : Uuid ← answers (.uuid4 (some item))
      requestsOutcome cfg answers item data.command (node :: nodes)
      bulkOutcome cfg answers item batch data (node :: nodes)

section Bulk

variable {cfg : Setting} {answers : Answers} {item : Nat} {batch : Uuid}
  {data : BulkCommandRequestDTO}

theorem answered_executeOnSingleNode (t : NodeConnectionDTO × Nat) :
    Program.answered (partAnswers answers item (some batch))
      (executeOnSingleNode t.2 t.1 data.command data.timeout) =
      targetResult answers item data t := by
  unfold executeOnSingleNode targetResult targetSession
  rw [Program.answered_bind, answered_buildSshConnector]
  cases openConnector answers item t.2 t.1 data.timeout with
  | error e => rfl
  | ok connector =>
      show Program.answered _ (_ >>= _) = _
      rw [Program.answered_bind, Program.answered_attempt, Program.answered_call]
      rfl

theorem answered_logRequested (command : String) (nodes : List NodeConnectionDTO) :
    Program.answered (partAnswers answers item (some batch)) (logRequested cfg command nodes) =
      requestsOutcome cfg answers item command nodes := by
  induction nodes with
  | nil => rfl
  | cons node nodes ih =>
      rw [logRequested, requestsOutcome, Program.answered_bind, answered_logRequired, ih]

theorem answered_saveHistory (results : List CommandExecutionDTO) :
    Program.answered (partAnswers answers item (some batch)) (saveHistory cfg data results) =
      savedOutcome cfg answers item batch data results := by
  unfold saveHistory savedOutcome
  split
  · rw [Program.answered_bind, Program.answered_gather]
    simp only [Program.answered_call, Program.answered_pure]
    rfl
  · rfl

/-- Lost events after the command are tolerated. -/
theorem answered_logResults (command : String) (results : List CommandExecutionDTO) :
    Program.answered (partAnswers answers item (some batch)) (logResults cfg command results) =
      .ok () := by
  induction results with
  | nil => rfl
  | cons result results ih =>
      rw [logResults, Program.answered_bind, Program.answered_attempt]
      exact ih

/-- The requested events come first; only when all are stored is anything executed. -/
theorem answered_executeOn {nodes : List NodeConnectionDTO} (hnodes : nodes ≠ []) :
    Program.answered (partAnswers answers item (some batch)) (executeOn cfg data nodes) =
      requestsOutcome cfg answers item data.command nodes >>= fun _ =>
        bulkOutcome cfg answers item batch data nodes := by
  unfold executeOn bulkOutcome
  rw [if_neg hnodes, Program.answered_bind, answered_logRequested]
  simp only [Program.answered_bind, Program.answered_gather, answered_saveHistory,
    answered_logResults, Program.answered_pure, answered_executeOnSingleNode]
  rfl

/-- **What a bulk execution comes to.** -/
theorem answered_executeBatch (cfg : Setting) (item : Nat) (data : BulkCommandRequestDTO) :
    Program.answered answers (executeBatch cfg item data) = batchOutcome cfg answers item data := by
  unfold executeBatch batchOutcome
  rw [Program.answered_bind, Program.answered_call]
  cases answers (.service item (.targets data.nodeIds data.tags)) with
  | error e => rfl
  | ok nodes =>
      cases nodes with
      | nil => rfl
      | cons node nodes =>
          show Program.answered answers (ask (.uuid4 (some item)) >>= _) = _
          rw [Program.answered_bind, Program.answered_call]
          simp only [answered_ofService, answered_executeOn (List.cons_ne_nil node nodes)]
          rfl

/-! ## Where a bulk execution returns -/

/-- The workers of a bulk command start. -/
structure BulkStarts (cfg : Setting) (answers : Answers) (item : Nat) (data : BulkCommandRequestDTO)
    (nodes : List NodeConnectionDTO) (batch : Uuid) : Prop where
  targets : answers (.service item (.targets data.nodeIds data.tags)) = .ok nodes
  some_target : nodes ≠ []
  batch : answers (.uuid4 (some item)) = .ok batch
  requested : requestsOutcome cfg answers item data.command nodes = .ok ()

/-- The secrets of all targets decrypt, and the record of each is stored. -/
structure BulkRecorded (cfg : Setting) (answers : Answers) (item : Nat)
    (data : BulkCommandRequestDTO) (nodes : List NodeConnectionDTO) (batch : Uuid) : Prop where
  opened : ∀ t ∈ nodes.zipIdx, Returns (openConnector answers item t.2 t.1 data.timeout)
  history : cfg.historyWriter = true → ∀ t ∈ nodes.zipIdx,
    Returns (answers (.saveRecord item (some batch) t.2
      (historyRecord cfg data (executionResult t.1 (targetSession answers item data t)))))

/-- The results of the targets, in their order. -/
def targetResults (answers : Answers) (item : Nat) (data : BulkCommandRequestDTO)
    (nodes : List NodeConnectionDTO) : List CommandExecutionDTO :=
  nodes.zipIdx.map fun t => executionResult t.1 (targetSession answers item data t)

theorem mem_zipIdx_targetResults {nodes : List NodeConnectionDTO} {r : CommandExecutionDTO × Nat} :
    r ∈ (targetResults answers item data nodes).zipIdx ↔ ∃ t ∈ nodes.zipIdx,
      r = (executionResult t.1 (targetSession answers item data t), t.2) := by
  unfold targetResults
  rw [List.mem_zipIdx_iff_getElem?, List.getElem?_map, List.getElem?_zipIdx]
  constructor
  · intro h
    cases hnode : nodes[r.2]? with
    | none =>
        rw [hnode] at h
        cases h
    | some node =>
        rw [hnode] at h
        refine ⟨(node, r.2), List.mem_zipIdx_iff_getElem?.2 hnode, ?_⟩
        simp only [Option.map_some, Nat.zero_add, Option.some.injEq] at h
        exact Prod.ext h.symm rfl
  · rintro ⟨t, ht, rfl⟩
    rw [List.mem_zipIdx_iff_getElem?.1 ht]
    simp

/-- Where all connectors are built, the results are those of the sessions. -/
theorem mapM_targetResult {nodes : List NodeConnectionDTO}
    (h : ∀ t ∈ nodes.zipIdx, Returns (openConnector answers item t.2 t.1 data.timeout)) :
    nodes.zipIdx.mapM (targetResult answers item data) =
      .ok (targetResults answers item data nodes) := by
  refine mapM_eq_ok_map fun t ht => ?_
  obtain ⟨connector, hconnector⟩ := h t ht
  unfold targetResult
  rw [hconnector]
  rfl

/-- The history is saved when the record of each target is. -/
theorem returns_savedOutcome {nodes : List NodeConnectionDTO} :
    Returns (savedOutcome cfg answers item batch data (targetResults answers item data nodes)) ↔
      (cfg.historyWriter = true → ∀ t ∈ nodes.zipIdx,
        Returns (answers (.saveRecord item (some batch) t.2
          (historyRecord cfg data (executionResult t.1 (targetSession answers item data t)))))) := by
  unfold savedOutcome
  by_cases hwriter : cfg.historyWriter = true
  · rw [if_pos hwriter, forall_prop_of_true hwriter, returns_bind]
    constructor
    · rintro ⟨units, hunits, -⟩ t ht
      exact returns_mapM.1 ⟨units, hunits⟩ _ (mem_zipIdx_targetResults.2 ⟨t, ht, rfl⟩)
    · intro h
      have hall : Returns ((targetResults answers item data nodes).zipIdx.mapM fun t =>
          answers (.saveRecord item (some batch) t.2 (historyRecord cfg data t.1))) := by
        refine returns_mapM.2 fun r hr => ?_
        obtain ⟨t, ht, rfl⟩ := mem_zipIdx_targetResults.1 hr
        exact h t ht
      obtain ⟨units, hunits⟩ := hall
      exact ⟨units, hunits, returns_ok ()⟩
  · rw [if_neg hwriter]
    exact iff_of_true (returns_ok ()) fun h => absurd h hwriter

/-- **Where a bulk execution returns, and with which results.** -/
theorem bulkOutcome_eq_ok {nodes : List NodeConnectionDTO} {result : BulkCommandResultDTO} :
    bulkOutcome cfg answers item batch data nodes = .ok result ↔
      BulkRecorded cfg answers item data nodes batch ∧
        result = bulkResult data (targetResults answers item data nodes) := by
  unfold bulkOutcome
  rw [bind_eq_ok]
  constructor
  · rintro ⟨results, hmapM, hrest⟩
    have hopened : ∀ t ∈ nodes.zipIdx, Returns (openConnector answers item t.2 t.1 data.timeout) :=
      fun t ht => returns_map.1 (returns_mapM.1 ⟨results, hmapM⟩ t ht)
    rw [mapM_targetResult hopened] at hmapM
    cases hmapM
    obtain ⟨u, hstored, hresult⟩ := bind_eq_ok.1 hrest
    exact ⟨⟨hopened, returns_savedOutcome.1 ⟨u, hstored⟩⟩, (Except.ok.inj hresult).symm⟩
  · rintro ⟨hrecorded, rfl⟩
    obtain ⟨u, hstored⟩ := returns_savedOutcome.2 hrecorded.history
    exact ⟨_, mapM_targetResult hrecorded.opened, bind_eq_ok.2 ⟨u, hstored, rfl⟩⟩

theorem BulkStarts.batchOutcome_eq {nodes : List NodeConnectionDTO}
    (h : BulkStarts cfg answers item data nodes batch) :
    batchOutcome cfg answers item data = bulkOutcome cfg answers item batch data nodes := by
  unfold batchOutcome
  rw [h.targets]
  cases nodes with
  | nil => exact absurd rfl h.some_target
  | cons node nodes =>
      show answers (.uuid4 (some item)) >>= _ = _
      rw [h.batch]
      show requestsOutcome cfg answers item data.command (node :: nodes) >>= _ = _
      rw [h.requested]
      rfl

/-- A bulk execution that returns has started its workers. -/
theorem batchOutcome_eq_ok {result : BulkCommandResultDTO} :
    batchOutcome cfg answers item data = .ok result ↔
      ∃ nodes batch, BulkStarts cfg answers item data nodes batch ∧
        BulkRecorded cfg answers item data nodes batch ∧
        result = bulkResult data (targetResults answers item data nodes) := by
  constructor
  · intro h
    have hstarts : ∃ nodes batch, BulkStarts cfg answers item data nodes batch := by
      unfold batchOutcome at h
      obtain ⟨nodes, htargets, h⟩ := bind_eq_ok.1 h
      cases nodes with
      | nil => cases h
      | cons node nodes =>
          obtain ⟨batch, hbatch, h⟩ := bind_eq_ok.1 h
          obtain ⟨u, hrequested, -⟩ := bind_eq_ok.1 h
          exact ⟨node :: nodes, batch, htargets, List.cons_ne_nil _ _, hbatch, hrequested⟩
    obtain ⟨nodes, batch, hstarts⟩ := hstarts
    rw [hstarts.batchOutcome_eq] at h
    exact ⟨nodes, batch, hstarts, bulkOutcome_eq_ok.1 h⟩
  · rintro ⟨nodes, batch, hstarts, hresult⟩
    rw [hstarts.batchOutcome_eq]
    exact bulkOutcome_eq_ok.2 hresult

end Bulk

end Command
end NodeNexus
