import NodeNexus.Command.Outcomes

/-!
# Completed commands

What a service reports after a command has run to its end on a host.

* `nodeExecuteCommand`, `executeCommand` — `execute_command` of `NodeCommandService` and of
  `CommandExecutionService`; both write an event and a record of the history inside the `try`
  around the command.
* `ReportsCompleted` — a call returns the outcome of each command that completed.
* `completed_reported_iff` — the three services do so exactly where the event and the record
  of a completed command are stored; the bulk operation tolerates a lost event, but not a
  node whose secrets do not decrypt.
-/

namespace NodeNexus
namespace Command

open Content Node
open NodeNexus.Core

/-! ## Single commands -/

/-- The record of a single command. -/
def singleRecord (cfg : Setting) (nodeId : Uuid) (command : String) (commandId : Option Uuid)
    (output : SshOutput) : CommandHistoryCreateDTO :=
  historyRecord cfg ⟨command, [], [], commandId, none⟩
    ⟨nodeId, "", output.stdout, output.stderr, output.exitCode⟩

/-- The command, its event and its record, inside of the `try`. -/
def runAndRecord (cfg : Setting) (nodeId : Uuid) (connector : SshConnector) (command : String)
    (details : SshOutput → Json.Fields) (commandId : Option Uuid) : Service SshOutput := do
  let output : SshOutput ← await (.execute 0 connector command)
  cfg.log "execute" (some nodeId) (details output)
  if cfg.historyWriter then
    await (.saveHistory 0 (singleRecord cfg nodeId command commandId output))
    pure output
  else pure output

/-- What stands before the `try`: the node, its secrets, and the required event. -/
def openSession (cfg : Setting) (nodeId : Uuid) (timeout : Option Int) (requested : Service Unit) :
    Service SshConnector := do
  let node : Option NodeConnectionDTO ← await (.getConnection nodeId)
  match node with
  | none => Program.raise (cfg.notFound nodeId)
  | some node => do
      let connector ← buildSshConnector 0 node timeout
      requested
      pure connector

/-- `execute_command` of a service, with what it logs and which exception it raises. -/
def executeSingle (cfg : Setting) (nodeId : Uuid) (command : String) (timeout : Option Int)
    (requested : Service Unit) (details : SshOutput → Json.Fields) (commandId : Option Uuid)
    (failedDetails : NodeFailure → Json.Fields) (rethrow : NodeFailure → NodeFailure) :
    Service SshOutput := do
  let connector ← openSession cfg nodeId timeout requested
  let outcome ← (runAndRecord cfg nodeId connector command details commandId).attempt
  match outcome with
  | .ok output => pure output
  | .error e => do
      cfg.log "execute_failed" (some nodeId) (failedDetails e)
      Program.raise (rethrow e)

/-- `ConnectionFailedError(f"Failed to execute command on node {node_id}: {exc}")`. -/
def failedToExecute (cfg : Setting) (nodeId : Uuid) (e : NodeFailure) : NodeFailure :=
  ⟨.connectionFailedError,
    "Failed to execute command on node " ++ cfg.printUuid nodeId ++ ": " ++ e.text⟩

/-- The fingerprint of a command in the details of an event. -/
def fingerprintDetails (cfg : Setting) (command : String) : Json.Fields :=
  [("command_fingerprint", .str (cfg.commandFingerprint command))]

/-- What `NodeCommandService` logs of an outcome. -/
def nodeDetails (cfg : Setting) (command : String) (output : SshOutput) : Json.Fields :=
  fingerprintDetails cfg command ++ [("exit_code", .int output.exitCode)]

/-- `NodeCommandService.execute_command`. -/
def nodeExecuteCommand (cfg : Setting) (nodeId : Uuid) (command : String) (timeout : Option Int) :
    Service SshOutput :=
  executeSingle cfg nodeId command timeout
    (cfg.logRequired "execute.requested" (some nodeId) (some (fingerprintDetails cfg command)))
    (nodeDetails cfg command) none
    (fun e => fingerprintDetails cfg command ++ [("error", .str e.text)])
    fun e => if e.kind = .connectionFailedError then e else failedToExecute cfg nodeId e

/-- `CommandExecuteRequestDTO`. -/
structure CommandExecuteRequestDTO where
  nodeId : Uuid
  params : Json.Fields
  timeout : Option Int

/-- What `CommandExecutionService` logs of an outcome. -/
def commandDetails (cfg : Setting) (commandId : Uuid) (output : SshOutput) : Json.Fields :=
  [("command_id", .str (cfg.printUuid commandId)), ("exit_code", .int output.exitCode)]

/-- `CommandExecutionService.execute_command` with its rendered command. -/
def executeRendered (cfg : Setting) (commandId nodeId : Uuid) (command : String) (timeout : Int) :
    Service SshOutput :=
  executeSingle cfg nodeId command (some timeout) (pure ()) (commandDetails cfg commandId)
    (some commandId)
    (fun e => [("command_id", .str (cfg.printUuid commandId)), ("error", .str e.text)])
    (failedToExecute cfg nodeId)

/-- `CommandExecutionService.execute_command`. -/
def executeCommand (cfg : Setting) (unicode : Unicode) (commandId : Uuid)
    (data : CommandExecuteRequestDTO) : Endpoint SshOutput := do
  let template : Option CommandTemplateDTO ← ask (.getTemplate commandId)
  match template with
  | none =>
      Program.raise ⟨.domain .commandNotFoundError,
        "Command " ++ cfg.printUuid commandId ++ " not found"⟩
  | some template => do
      let command ← raised (render unicode template.command template.parameters data.params)
      ofService 0 none (executeRendered cfg commandId data.nodeId command
        (data.timeout.getD template.timeout))

/-! ## What completes -/

/-- A command that has run to its end, with the task that ran it. -/
abbrev Completed : Type := Nat × SshOutput

/-- A session completes, or raises. -/
def completedOf (task : Nat) : Except NodeFailure SshOutput → List Completed
  | .ok output => [(task, output)]
  | .error _ => []

/-- What an answer says of completed commands. -/
def completedBy : Note Completed
  | .service _ (.execute task _ _), x => completedOf task x
  | _, _ => []

/-- **A completed command is reported**: where one has completed, the call returns, and shows
it. -/
def ReportsCompleted {α : Type} (answers : Answers) (p : Endpoint α)
    (shows : Completed → α → Prop) : Prop :=
  ∀ c ∈ (Program.run (Program.noting completedBy answers) p []).2, ∃ a,
    (Program.run (Program.noting completedBy answers) p []).1 = .ok a ∧ shows c a

theorem mem_completedOf {task : Nat} {x : Except NodeFailure SshOutput} {c : Completed} :
    c ∈ completedOf task x ↔ c.1 = task ∧ x = .ok c.2 := by
  cases x with
  | error e => simp [completedOf]
  | ok output =>
      rw [completedOf, List.mem_singleton]
      constructor
      · rintro rfl
        exact ⟨rfl, rfl⟩
      · rintro ⟨htask, houtput⟩
        exact Prod.ext htask (Except.ok.inj houtput).symm

theorem reportsCompleted_iff {α : Type} {answers : Answers} {p : Endpoint α}
    {shows : Completed → α → Prop} : ReportsCompleted answers p shows ↔
      ∀ c ∈ Program.noted completedBy answers p, ∃ a,
        Program.answered answers p = .ok a ∧ shows c a := by
  unfold ReportsCompleted
  rw [Program.run_noting, List.nil_append]

/-- A request of a service that runs no command. -/
def RunsNothing (r : Request) : Prop := ∀ task connector command, r ≠ .execute task connector command

theorem decrypt_runsNothing (task : Nat) (value : Option String) :
    RunsNothing (.decrypt task value) :=
  fun _ _ _ => Request.noConfusion

theorem saveHistory_runsNothing (task : Nat) (record : CommandHistoryCreateDTO) :
    RunsNothing (.saveHistory task record) :=
  fun _ _ _ => Request.noConfusion

theorem enqueueRequired_runsNothing (event : AuditEventDTO) :
    RunsNothing (.enqueueRequired event) :=
  fun _ _ _ => Request.noConfusion

theorem enqueueOptional_runsNothing (event : AuditEventDTO) :
    RunsNothing (.enqueueOptional event) :=
  fun _ _ _ => Request.noConfusion

theorem noted_runsNothing {α : Type} {answers : Answers} {item : Nat} {batch : Option Uuid}
    {p : Service α} (h : p.Asks RunsNothing) :
    Program.noted (partNote completedBy item batch) (partAnswers answers item batch) p = [] := by
  refine h.noted_eq_nil fun r x hr => ?_
  cases r with
  | execute task connector command => exact absurd rfl (hr task connector command)
  | _ => rfl

/-! ## Single commands that complete -/

/-- How the part before the command ends. -/
def sessionOpened (cfg : Setting) (answers : Answers) (nodeId : Uuid) (timeout : Option Int)
    (requested : Except NodeFailure Unit) : Except NodeFailure SshConnector := do
  let node : Option NodeConnectionDTO ← answers (.service 0 (.getConnection nodeId))
  match node with
  | none => .error (cfg.notFound nodeId)
  | some node => do
      let connector ← openConnector answers 0 0 node timeout
      requested
      .ok connector

/-- The command has run to its end. -/
def RanSingle (cfg : Setting) (answers : Answers) (nodeId : Uuid) (command : String)
    (timeout : Option Int) (requested : Except NodeFailure Unit) (output : SshOutput) : Prop :=
  ∃ connector, sessionOpened cfg answers nodeId timeout requested = .ok connector ∧
    answers (.service 0 (.execute 0 connector command)) = .ok output

/-- Its event and its record are stored. -/
structure Recorded (cfg : Setting) (answers : Answers) (nodeId : Uuid) (command : String)
    (details : Json.Fields) (commandId : Option Uuid) (output : SshOutput) : Prop where
  event : cfg.audit = true → Returns (answers (.service 0
    (.enqueueOptional (auditEvent "execute" (some nodeId) none (some details)))))
  history : cfg.historyWriter = true → Returns (answers (.saveRecord 0 none 0
    (singleRecord cfg nodeId command commandId output)))

/-- What the bookkeeping after a completed command comes to. -/
def recordedOutcome (cfg : Setting) (answers : Answers) (nodeId : Uuid) (command : String)
    (details : SshOutput → Json.Fields) (commandId : Option Uuid) (output : SshOutput) :
    Except NodeFailure SshOutput := do
  optionalOutcome cfg answers 0 "execute" (some nodeId) (details output)
  if cfg.historyWriter = true then do
    answers (.saveRecord 0 none 0 (singleRecord cfg nodeId command commandId output))
    .ok output
  else .ok output

/-- What the handlers of the exceptions make of an outcome. -/
def handledOutcome (cfg : Setting) (answers : Answers) (nodeId : Uuid)
    (failedDetails : NodeFailure → Json.Fields) (rethrow : NodeFailure → NodeFailure) :
    Except NodeFailure SshOutput → Except NodeFailure SshOutput
  | .ok output => .ok output
  | .error e => do
      optionalOutcome cfg answers 0 "execute_failed" (some nodeId) (failedDetails e)
      .error (rethrow e)

section Single

variable {cfg : Setting} {answers : Answers} {nodeId : Uuid} {command : String}
  {timeout : Option Int} {requested : Service Unit} {outcome : Except NodeFailure Unit}
  {details : SshOutput → Json.Fields} {commandId : Option Uuid}
  {failedDetails : NodeFailure → Json.Fields} {rethrow : NodeFailure → NodeFailure}

theorem recordedOutcome_eq_ok {output : SshOutput} :
    recordedOutcome cfg answers nodeId command details commandId output = .ok output ↔
      Recorded cfg answers nodeId command (details output) commandId output := by
  unfold recordedOutcome
  rw [bind_eq_ok]
  constructor
  · rintro ⟨u, hevent, hrest⟩
    refine ⟨returns_optionalOutcome.1 ⟨u, hevent⟩, fun hwriter => ?_⟩
    rw [if_pos hwriter] at hrest
    obtain ⟨v, hsaved, -⟩ := bind_eq_ok.1 hrest
    exact ⟨v, hsaved⟩
  · intro h
    obtain ⟨u, hevent⟩ := returns_optionalOutcome.2 h.event
    refine ⟨u, hevent, ?_⟩
    by_cases hwriter : cfg.historyWriter = true
    · obtain ⟨v, hsaved⟩ := h.history hwriter
      rw [if_pos hwriter, hsaved]
      rfl
    · rw [if_neg hwriter]

/-- No handler turns an exception into a result. -/
theorem handledOutcome_eq_ok {x : Except NodeFailure SshOutput} {output : SshOutput} :
    handledOutcome cfg answers nodeId failedDetails rethrow x = .ok output ↔ x = .ok output := by
  cases x with
  | ok o => exact Iff.rfl
  | error e =>
      refine iff_of_false (fun h => ?_) nofun
      obtain ⟨_, -, hraised⟩ := bind_eq_ok.1 h
      cases hraised

theorem answered_openSession
    (h : Program.answered (partAnswers answers 0 none) requested = outcome) :
    Program.answered (partAnswers answers 0 none) (openSession cfg nodeId timeout requested) =
      sessionOpened cfg answers nodeId timeout outcome := by
  have hanswer : partAnswers answers 0 none (.getConnection nodeId) =
      answers (.service 0 (.getConnection nodeId)) := rfl
  unfold openSession sessionOpened
  rw [Program.answered_bind, Program.answered_call, hanswer]
  cases answers (.service 0 (.getConnection nodeId)) with
  | error e => rfl
  | ok node =>
      cases node with
      | none => rfl
      | some node =>
          show Program.answered _ (buildSshConnector 0 node timeout >>= _) = _
          rw [Program.answered_bind, answered_buildSshConnector]
          simp only [Program.answered_bind, Program.answered_pure, h]
          rfl

theorem answered_runAndRecord (connector : SshConnector) :
    Program.answered (partAnswers answers 0 none)
      (runAndRecord cfg nodeId connector command details commandId) =
      answers (.service 0 (.execute 0 connector command)) >>=
        recordedOutcome cfg answers nodeId command details commandId := by
  unfold runAndRecord
  rw [Program.answered_bind, Program.answered_call]
  refine congrArg _ (funext fun output => ?_)
  unfold recordedOutcome
  rw [Program.answered_bind, answered_log]
  refine congrArg _ (funext fun u => ?_)
  split
  · rw [Program.answered_bind, Program.answered_call]
    rfl
  · rfl

theorem answered_executeSingle
    (h : Program.answered (partAnswers answers 0 none) requested = outcome) :
    Program.answered (partAnswers answers 0 none) (executeSingle cfg nodeId command timeout requested
        details commandId failedDetails rethrow) =
      sessionOpened cfg answers nodeId timeout outcome >>= fun connector =>
        handledOutcome cfg answers nodeId failedDetails rethrow
          (answers (.service 0 (.execute 0 connector command)) >>=
            recordedOutcome cfg answers nodeId command details commandId) := by
  unfold executeSingle
  rw [Program.answered_bind, answered_openSession h]
  refine congrArg _ (funext fun connector => ?_)
  rw [Program.answered_bind, Program.answered_attempt, answered_runAndRecord]
  cases answers (.service 0 (.execute 0 connector command)) >>=
      recordedOutcome cfg answers nodeId command details commandId with
  | ok output => rfl
  | error e =>
      show Program.answered _ (cfg.log _ _ _ >>= _) = _
      rw [Program.answered_bind, answered_log]
      rfl

theorem asks_openSession {P : Request → Prop} (hget : P (.getConnection nodeId))
    (hdecrypt : ∀ task value, P (.decrypt task value)) (h : requested.Asks P) :
    (openSession cfg nodeId timeout requested).Asks P := by
  have hnode : (await (.getConnection nodeId)).Asks P := .call hget
  refine hnode.bind fun node => ?_
  cases node with
  | none => exact .raise _
  | some node =>
      refine (asks_buildSshConnector hdecrypt ..).bind fun connector => ?_
      exact h.bind fun _ => .done _

/-- What completes in a single command: its session, where that is opened. -/
theorem noted_executeSingle (hrequested : requested.Asks RunsNothing)
    (h : Program.answered (partAnswers answers 0 none) requested = outcome) :
    Program.noted (partNote completedBy 0 none) (partAnswers answers 0 none)
        (executeSingle cfg nodeId command timeout requested details commandId failedDetails rethrow) =
      match sessionOpened cfg answers nodeId timeout outcome with
      | .ok connector => completedOf 0 (answers (.service 0 (.execute 0 connector command)))
      | .error _ => [] := by
  unfold executeSingle
  have hget : RunsNothing (.getConnection nodeId) := fun _ _ _ => Request.noConfusion
  have hsession : (openSession cfg nodeId timeout requested).Asks RunsNothing :=
    asks_openSession hget decrypt_runsNothing hrequested
  rw [Program.noted_bind_of_nil (noted_runsNothing hsession), answered_openSession h]
  cases sessionOpened cfg answers nodeId timeout outcome with
  | error e => rfl
  | ok connector =>
      have hhandled : ∀ x : Except NodeFailure SshOutput, Program.noted (partNote completedBy 0 none)
          (partAnswers answers 0 none) (match x with
            | .ok output => pure output
            | .error e => do
                cfg.log "execute_failed" (some nodeId) (failedDetails e)
                Program.raise (rethrow e)) = [] := by
        intro x
        cases x with
        | ok output => rfl
        | error e =>
            refine noted_runsNothing ?_
            exact (asks_log (fun _ => enqueueOptional_runsNothing) ..).bind fun _ => .raise _
      have hrecorded : ∀ output, Program.noted (partNote completedBy 0 none)
          (partAnswers answers 0 none) (do
            cfg.log "execute" (some nodeId) (details output)
            if cfg.historyWriter then
              await (.saveHistory 0 (singleRecord cfg nodeId command commandId output))
              pure output
            else pure output) = [] := by
        intro output
        refine noted_runsNothing ?_
        refine (asks_log (fun _ => enqueueOptional_runsNothing) ..).bind fun _ => ?_
        split
        · have hsaved : (await (.saveHistory 0 (singleRecord cfg nodeId command commandId
              output))).Asks RunsNothing := .call (saveHistory_runsNothing 0 _)
          exact hsaved.bind fun _ => .done _
        · exact .done _
      show Program.noted _ _ ((runAndRecord cfg nodeId connector command details commandId).attempt >>=
        _) = _
      rw [Program.noted_bind_left hhandled, Program.noted_attempt]
      unfold runAndRecord
      rw [Program.noted_bind_left hrecorded, Program.noted_call]
      rfl

/-- **A single command is reported exactly where it is recorded.** -/
theorem executeSingle_reports_iff (hrequested : requested.Asks RunsNothing)
    (h : Program.answered (partAnswers answers 0 none) requested = outcome) :
    ReportsCompleted answers (ofService 0 none (executeSingle cfg nodeId command timeout requested
        details commandId failedDetails rethrow)) (fun c output => output = c.2) ↔
      ∀ output, RanSingle cfg answers nodeId command timeout outcome output →
        Recorded cfg answers nodeId command (details output) commandId output := by
  rw [reportsCompleted_iff, noted_ofService, answered_ofService, noted_executeSingle hrequested h,
    answered_executeSingle h]
  unfold RanSingle
  cases sessionOpened cfg answers nodeId timeout outcome with
  | error e =>
      refine iff_of_true (fun c hc => absurd hc List.not_mem_nil) ?_
      rintro output ⟨connector, hconnector, -⟩
      cases hconnector
  | ok connector =>
      constructor
      · rintro hreports output ⟨connector', hconnector, hran⟩
        cases hconnector
        obtain ⟨shown, hshown, rfl⟩ := hreports (0, output) (mem_completedOf.2 ⟨rfl, hran⟩)
        have hrun := handledOutcome_eq_ok.1 hshown
        rw [hran] at hrun
        exact recordedOutcome_eq_ok.1 hrun
      · intro hrecorded c hc
        have hran := (mem_completedOf.1 hc).2
        refine ⟨c.2, handledOutcome_eq_ok.2 ?_, rfl⟩
        rw [hran]
        exact recordedOutcome_eq_ok.2 (hrecorded c.2 ⟨connector, rfl, hran⟩)

end Single

/-! ## Bulk commands that complete -/

/-- What a bulk command shows of a completed command: the result of its node. -/
def ShowsTarget (answers : Answers) (item : Nat) (data : BulkCommandRequestDTO) (c : Completed)
    (result : BulkCommandResultDTO) : Prop :=
  ∃ nodes node, answers (.service item (.targets data.nodeIds data.tags)) = .ok nodes ∧
    nodes[c.1]? = some node ∧ result.results[c.1]? = some (executionResult node (.ok c.2))

section Bulk

variable {cfg : Setting} {answers : Answers} {item : Nat} {batch : Uuid}
  {data : BulkCommandRequestDTO}

theorem noted_executeOnSingleNode (t : NodeConnectionDTO × Nat) :
    Program.noted (partNote completedBy item (some batch)) (partAnswers answers item (some batch))
        (executeOnSingleNode t.2 t.1 data.command data.timeout) =
      completedOf t.2 (targetSession answers item data t) := by
  unfold executeOnSingleNode targetSession
  rw [Program.noted_bind_of_nil
    (noted_runsNothing (asks_buildSshConnector decrypt_runsNothing ..)),
    answered_buildSshConnector]
  cases openConnector answers item t.2 t.1 data.timeout with
  | error e => rfl
  | ok connector =>
      show Program.noted _ _ (Program.attempt _ >>= _) = _
      rw [Program.noted_bind_left fun _ => rfl, Program.noted_attempt, Program.noted_call]
      rfl

/-- What completes in a bulk command: the sessions of its targets. -/
theorem noted_executeOn {nodes : List NodeConnectionDTO} (hnodes : nodes ≠ [])
    (hrequested : requestsOutcome cfg answers item data.command nodes = .ok ()) :
    Program.noted (partNote completedBy item (some batch)) (partAnswers answers item (some batch))
        (executeOn cfg data nodes) =
      nodes.zipIdx.flatMap fun t => completedOf t.2 (targetSession answers item data t) := by
  unfold executeOn
  rw [if_neg hnodes,
    Program.noted_bind_of_nil
      (noted_runsNothing (asks_logRequested enqueueRequired_runsNothing ..)),
    answered_logRequested, hrequested]
  have hrest : ∀ results, Program.noted (partNote completedBy item (some batch))
      (partAnswers answers item (some batch)) (do
        saveHistory cfg data results
        logResults cfg data.command results
        pure (bulkResult data results)) = [] := by
    intro results
    refine noted_runsNothing ((asks_saveHistory saveHistory_runsNothing ..).bind fun _ => ?_)
    exact (asks_logResults (fun _ => enqueueOptional_runsNothing) ..).bind fun _ => .done _
  show Program.noted _ _ (Program.gather _ >>= _) = _
  rw [Program.noted_bind_left hrest, Program.noted_gather]
  simp only [noted_executeOnSingleNode]

/-- Before the workers start, nothing has completed. -/
theorem noted_executeBatch_none
    (h : ∀ nodes batch, ¬ BulkStarts cfg answers item data nodes batch) :
    Program.noted completedBy answers (executeBatch cfg item data) = [] := by
  unfold executeBatch
  rw [Program.noted_bind_of_nil (Program.noted_call _), Program.answered_call]
  cases htargets : answers (.service item (.targets data.nodeIds data.tags)) with
  | error e => rfl
  | ok nodes =>
      cases nodes with
      | nil => rfl
      | cons node nodes =>
          show Program.noted _ _ (ask (.uuid4 (some item)) >>= _) = _
          rw [Program.noted_bind_of_nil (Program.noted_call _), Program.answered_call]
          cases hbatch : answers (.uuid4 (some item)) with
          | error e => rfl
          | ok batch =>
              show Program.noted _ _ (ofService item (some batch) _) = _
              unfold executeOn
              rw [noted_ofService, if_neg (List.cons_ne_nil node nodes),
                Program.noted_bind_of_nil
                  (noted_runsNothing (asks_logRequested enqueueRequired_runsNothing ..)),
                answered_logRequested]
              cases hrequested : requestsOutcome cfg answers item data.command (node :: nodes) with
              | error e => rfl
              | ok u =>
                  exact absurd ⟨htargets, List.cons_ne_nil _ _, hbatch, hrequested⟩
                    (h (node :: nodes) batch)

theorem noted_executeBatch {nodes : List NodeConnectionDTO}
    (h : BulkStarts cfg answers item data nodes batch) :
    Program.noted completedBy answers (executeBatch cfg item data) =
      nodes.zipIdx.flatMap fun t => completedOf t.2 (targetSession answers item data t) := by
  unfold executeBatch
  rw [Program.noted_bind_of_nil (Program.noted_call _), Program.answered_call, h.targets]
  cases nodes with
  | nil => exact absurd rfl h.some_target
  | cons node nodes =>
      show Program.noted _ _ (ask (.uuid4 (some item)) >>= _) = _
      rw [Program.noted_bind_of_nil (Program.noted_call _), Program.answered_call, h.batch]
      show Program.noted _ _ (ofService item (some batch) _) = _
      rw [noted_ofService]
      exact noted_executeOn (List.cons_ne_nil node nodes) h.requested

/-- **A bulk command reports what completed exactly where no target and no record fails.** -/
theorem executeBatch_reports_iff :
    ReportsCompleted answers (executeBatch cfg item data) (ShowsTarget answers item data) ↔
      ∀ nodes batch, BulkStarts cfg answers item data nodes batch →
        (∃ t ∈ nodes.zipIdx, Returns (targetSession answers item data t)) →
        BulkRecorded cfg answers item data nodes batch := by
  rw [reportsCompleted_iff, answered_executeBatch]
  constructor
  · rintro hreports nodes batch hstarts ⟨t, ht, output, houtput⟩
    rw [noted_executeBatch hstarts, hstarts.batchOutcome_eq] at hreports
    obtain ⟨result, hresult, -⟩ := hreports (t.2, output)
      (List.mem_flatMap.2 ⟨t, ht, mem_completedOf.2 ⟨rfl, houtput⟩⟩)
    exact (bulkOutcome_eq_ok.1 hresult).1
  · intro h c hc
    by_cases hstarts : ∃ nodes batch, BulkStarts cfg answers item data nodes batch
    · obtain ⟨nodes, batch, hstarts⟩ := hstarts
      rw [noted_executeBatch hstarts] at hc
      obtain ⟨t, ht, hct⟩ := List.mem_flatMap.1 hc
      obtain ⟨htask, houtput⟩ := mem_completedOf.1 hct
      have hrecorded := h nodes batch hstarts ⟨t, ht, c.2, houtput⟩
      rw [hstarts.batchOutcome_eq]
      refine ⟨_, bulkOutcome_eq_ok.2 ⟨hrecorded, rfl⟩, nodes, t.1, hstarts.targets, ?_, ?_⟩
      · rw [htask]
        exact List.mem_zipIdx_iff_getElem?.1 ht
      · have hresult : (executionResult t.1 (targetSession answers item data t), t.2) ∈
            (targetResults answers item data nodes).zipIdx :=
          mem_zipIdx_targetResults.2 ⟨t, ht, rfl⟩
        rw [List.mem_zipIdx_iff_getElem?, houtput] at hresult
        rw [htask]
        exact hresult
    · have hnone : ∀ nodes batch, ¬ BulkStarts cfg answers item data nodes batch :=
        fun nodes batch hb => hstarts ⟨nodes, batch, hb⟩
      rw [noted_executeBatch_none hnone] at hc
      exact absurd hc List.not_mem_nil

end Bulk

/-! ## All of them -/

section All

variable {cfg : Setting} {answers : Answers}

/-- The condition of `CommandExecutionService.execute_command`: for the command that it
renders. -/
def RecordsRendered (cfg : Setting) (answers : Answers) (unicode : Unicode) (commandId : Uuid)
    (data : CommandExecuteRequestDTO) : Prop :=
  ∀ (template : CommandTemplateDTO) (command : String),
    answers (.getTemplate commandId) = .ok (some template) →
    render unicode template.command template.parameters data.params = .ok command →
    ∀ output, RanSingle cfg answers data.nodeId command
      (some (data.timeout.getD template.timeout)) (.ok ()) output →
    Recorded cfg answers data.nodeId command (commandDetails cfg commandId output) (some commandId)
      output

theorem executeCommand_reports_iff {unicode : Unicode} {commandId : Uuid}
    {data : CommandExecuteRequestDTO} :
    ReportsCompleted answers (executeCommand cfg unicode commandId data)
        (fun c output => output = c.2) ↔ RecordsRendered cfg answers unicode commandId data := by
  rw [reportsCompleted_iff]
  unfold executeCommand RecordsRendered
  rw [Program.noted_bind_of_nil (Program.noted_call _), Program.answered_bind, Program.answered_call]
  cases answers (.getTemplate commandId) with
  | error e => exact iff_of_true (fun c hc => absurd hc List.not_mem_nil) fun _ _ h => nomatch h
  | ok found =>
      cases found with
      | none => exact iff_of_true (fun c hc => absurd hc List.not_mem_nil) fun _ _ h => nomatch h
      | some template =>
          show (∀ c ∈ Program.noted _ _ (raised _ >>= _), ∃ a,
            Program.answered _ (raised _ >>= _) = .ok a ∧ _) ↔ _
          rw [Program.noted_bind_of_nil (noted_raised _), Program.answered_bind, answered_raised]
          constructor
          · intro h template' command htemplate hcommand
            cases htemplate
            rw [hcommand] at h
            exact (executeSingle_reports_iff (.done ()) rfl).1 (reportsCompleted_iff.2 h)
          · intro h
            cases hrendered : render unicode template.command template.parameters data.params with
            | error e => exact fun c hc => absurd hc List.not_mem_nil
            | ok command =>
                exact reportsCompleted_iff.1 ((executeSingle_reports_iff (.done ()) rfl).2
                  (h template command rfl hrendered))

theorem nodeExecuteCommand_reports_iff {nodeId : Uuid} {command : String} {timeout : Option Int} :
    ReportsCompleted answers (ofService 0 none (nodeExecuteCommand cfg nodeId command timeout))
        (fun c output => output = c.2) ↔
      ∀ output, RanSingle cfg answers nodeId command timeout
        (requiredOutcome cfg answers 0 "execute.requested" (some nodeId)
          (some (fingerprintDetails cfg command))) output →
      Recorded cfg answers nodeId command (nodeDetails cfg command output) none output :=
  executeSingle_reports_iff (asks_logRequired enqueueRequired_runsNothing ..)
    (answered_logRequired ..)

/-- **When a completed command is reported.**  The single commands are reported exactly where
the event and the record that follow them are stored, and those of a bulk operation where the
secrets of all targets decrypt and all records are stored. -/
theorem completed_reported_iff (cfg : Setting) (unicode : Unicode) (answers : Answers)
    (nodeId : Uuid) (command : String) (timeout : Option Int) (commandId : Uuid)
    (data : CommandExecuteRequestDTO) (bulk : BulkCommandRequestDTO) :
    (ReportsCompleted answers (executeCommand cfg unicode commandId data)
        (fun c output => output = c.2) ↔ RecordsRendered cfg answers unicode commandId data) ∧
      (ReportsCompleted answers (ofService 0 none (nodeExecuteCommand cfg nodeId command timeout))
          (fun c output => output = c.2) ↔
        ∀ output, RanSingle cfg answers nodeId command timeout
          (requiredOutcome cfg answers 0 "execute.requested" (some nodeId)
            (some (fingerprintDetails cfg command))) output →
        Recorded cfg answers nodeId command (nodeDetails cfg command output) none output) ∧
      (ReportsCompleted answers (executeBatch cfg 0 bulk) (ShowsTarget answers 0 bulk) ↔
        ∀ nodes batch, BulkStarts cfg answers 0 bulk nodes batch →
          (∃ t ∈ nodes.zipIdx, Returns (targetSession answers 0 bulk t)) →
          BulkRecorded cfg answers 0 bulk nodes batch) :=
  ⟨executeCommand_reports_iff, nodeExecuteCommand_reports_iff, executeBatch_reports_iff⟩

/-- The command runs, and the outbox of the request is down. -/
def outboxDown : Answers
  | .service _ (.getConnection _) => .ok (some (fleetNode 0).toConnectionDto)
  | .service _ (.decrypt _ value) => .ok value
  | .service _ (.enqueueRequired _) => .ok ()
  | .service _ (.execute ..) => .ok ⟨"ok", "", 0⟩
  | _ => .error ⟨.other, "database is locked"⟩

/-- A lost event turns a completed command into a failed one. -/
theorem not_alwaysReportsCompleted :
    ¬ ∀ (cfg : Setting) (answers : Answers) (nodeId : Uuid) (command : String)
      (timeout : Option Int), ReportsCompleted answers
        (ofService 0 none (nodeExecuteCommand cfg nodeId command timeout))
        (fun c output => output = c.2) := by
  intro h
  have hreports := nodeExecuteCommand_reports_iff.1
    (h { plainSetting with audit := true } outboxDown 0 "uptime" none)
  have hrecorded := hreports ⟨"ok", "", 0⟩ ⟨_, rfl, rfl⟩
  exact not_returns_error _ (hrecorded.event rfl)

end All

end Command
end NodeNexus
