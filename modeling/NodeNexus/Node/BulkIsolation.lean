import NodeNexus.Node.Remote

/-!
# One node's failure in a bulk operation

The workers of a bulk operation are gathered without `return_exceptions`: what
leaves one of them leaves the whole call.

* `TaskOutcome` — how the environment treats one worker; `isolated` answers by it.
* `ExecuteIsolated`, `CheckIsolated` — the call returns one result for each target,
  in their order, each made of that target's own outcome.
* `bulk_isolated_iff` — that is so where the secrets of all targets decrypt and, for
  a command, their history is written.
-/

namespace NodeNexus
namespace Node

open Content

/-! ## Outcomes -/

/-- What becomes of the requests of one worker. -/
structure TaskOutcome where
  decrypt : Option String → Except NodeFailure (Option String)
  session : Except NodeFailure SshOutput
  /-- The write of the command history or of the status history. -/
  history : Except NodeFailure Unit

/-- The gateways, with the outcomes of the workers. -/
def isolated (env : StoreEnv) (outcomes : Nat → TaskOutcome) :
    Program.Handler Answer NodeFailure NodeWorld
  | .decrypt task value, w => ((outcomes task).decrypt value, w)
  | .execute task _ _, w => ((outcomes task).session, w)
  | .saveHistory task record, w =>
      match (outcomes task).history with
      | .ok _ => perform env (.saveHistory task record) w
      | .error e => (.error e, w)
  | .saveStatusChange task change, w =>
      match (outcomes task).history with
      | .ok _ => perform env (.saveStatusChange task change) w
      | .error e => (.error e, w)
  | r, w => perform env r w

/-- The three secrets of a node as the connector gets them. -/
def TaskOutcome.secrets (o : TaskOutcome) (node : NodeConnectionDTO) :
    Except NodeFailure (Option String × Option String × Option String) := do
  let password ← o.decrypt node.credentials.password
  let sshKey ← o.decrypt node.credentials.sshKey
  let passphrase ← o.decrypt node.credentials.passphrase
  .ok (password, sshKey, passphrase)

/-- The secrets of a node decrypt. -/
def TaskOutcome.Decrypts (o : TaskOutcome) (node : NodeConnectionDTO) : Prop :=
  Returns (o.secrets node)

/-! ## What is promised -/

/-- The outcome of `execute` on some targets: one result for each, made of the node
and its session. -/
def ExecuteIsolated (cfg : Setting) (env : StoreEnv) (data : BulkCommandRequestDTO)
    (nodes : List NodeConnectionDTO) (outcomes : Nat → TaskOutcome) (w : NodeWorld) : Prop :=
  ∃ result, (Program.run (isolated env outcomes) (executeOn cfg data nodes) w).1 = .ok result ∧
    result.results = nodes.zipIdx.map (fun (node, i) => executionResult node (outcomes i).session) ∧
    result.total = nodes.length ∧ result.succeeded + result.failed = result.total

/-- The detail of a check, as far as it depends on the node's own outcome. -/
def checkedDetail (text : String) (o : TaskOutcome) : CheckDetail where
  nodeId := text
  success := (checkedStatus o.session).2.isNone
  error := (checkedStatus o.session).2
  newStatus := some (checkedStatus o.session).1

/-- The connection of the node that a text names. -/
def connectionOf (cfg : Setting) (w : NodeWorld) (text : String) : Option NodeConnectionDTO :=
  (cfg.parseUuid text).bind fun id => (w.nodes.find? id).map (·.toConnectionDto)

/-- The detail for a text: of the node it names, or of its own. -/
def expectedDetail (cfg : Setting) (w : NodeWorld) (text : String) (o : TaskOutcome) : CheckDetail :=
  match cfg.parseUuid text with
  | none => ⟨text, false, some "Invalid node id", none⟩
  | some id =>
      match w.nodes.find? id with
      | none => ⟨text, false, some "Node not found", none⟩
      | some _ => checkedDetail text o

/-- The outcome of `bulk_check` on some ids: one detail for each. -/
def CheckIsolated (cfg : Setting) (env : StoreEnv) (ids : List String)
    (outcomes : Nat → TaskOutcome) (w : NodeWorld) : Prop :=
  ∃ result, (Program.run (isolated env outcomes) (bulkCheck cfg ids) w).1 = .ok result ∧
    result.details = ids.zipIdx.map (fun (text, i) => expectedDetail cfg w text (outcomes i)) ∧
    result.total = ids.length ∧ result.succeeded + result.failed = result.total

/-- Every target can be connected to, and its history is written. -/
structure ExecutableTargets (cfg : Setting) (nodes : List NodeConnectionDTO)
    (outcomes : Nat → TaskOutcome) : Prop where
  some_target : nodes ≠ []
  decrypts : ∀ t ∈ nodes.zipIdx, (outcomes t.2).Decrypts t.1
  history : cfg.historyWriter = true → ∀ i < nodes.length, Returns (outcomes i).history

/-- Every node that is named can be connected to. -/
def CheckableTargets (cfg : Setting) (ids : List String) (outcomes : Nat → TaskOutcome)
    (w : NodeWorld) : Prop :=
  ∀ t ∈ ids.zipIdx, ∀ node ∈ connectionOf cfg w t.1, (outcomes t.2).Decrypts node

/-! ## Workers -/

section Workers

variable {cfg : Setting} {env : StoreEnv} {outcomes : Nat → TaskOutcome} {w : NodeWorld}

/-- The connector of a worker is built where the secrets decrypt. -/
theorem run_buildSshConnector (task : Nat) (node : NodeConnectionDTO) (timeout : Option Int) :
    Program.run (isolated env outcomes) (buildSshConnector task node timeout) w =
      (((outcomes task).secrets node).map fun s => ⟨node.endpoint.host, node.endpoint.port,
        node.credentials.username, s.1, s.2.1, s.2.2, timeout⟩, w) := by
  have hanswer : ∀ value, isolated env outcomes (.decrypt task value) w =
      ((outcomes task).decrypt value, w) := fun _ => rfl
  unfold buildSshConnector TaskOutcome.secrets
  rw [Program.run_bind, Program.run_call, hanswer]
  cases (outcomes task).decrypt node.credentials.password with
  | error e => rfl
  | ok password =>
      simp only []
      rw [Program.run_bind, Program.run_call, hanswer]
      cases (outcomes task).decrypt node.credentials.sshKey with
      | error e => rfl
      | ok sshKey =>
          simp only []
          rw [Program.run_bind, Program.run_call, hanswer]
          cases (outcomes task).decrypt node.credentials.passphrase with
          | error e => rfl
          | ok passphrase => rfl

/-- The result of a worker of `execute`. -/
def workerResult (outcomes : Nat → TaskOutcome) (t : NodeConnectionDTO × Nat) :
    Except NodeFailure CommandExecutionDTO :=
  ((outcomes t.2).secrets t.1).map fun _ => executionResult t.1 (outcomes t.2).session

theorem run_executeOnSingleNode (t : NodeConnectionDTO × Nat) (command : String)
    (timeout : Option Int) :
    Program.run (isolated env outcomes) (executeOnSingleNode t.2 t.1 command timeout) w =
      (workerResult outcomes t, w) := by
  unfold executeOnSingleNode workerResult
  rw [Program.run_bind, run_buildSshConnector]
  cases (outcomes t.2).secrets t.1 with
  | error e => rfl
  | ok s =>
      have hanswer : ∀ connector, isolated env outcomes (.execute t.2 connector command) w =
          ((outcomes t.2).session, w) := fun _ => rfl
      show Program.run _ (_ >>= _) w = _
      rw [Program.run_bind, Program.run_attempt, Program.run_call, hanswer]
      rfl

/-- Where all workers of `execute` return, the results are those of their sessions. -/
theorem mapM_workerResult {nodes : List NodeConnectionDTO}
    (h : ∀ t ∈ nodes.zipIdx, (outcomes t.2).Decrypts t.1) :
    nodes.zipIdx.mapM (workerResult outcomes) =
      .ok (nodes.zipIdx.map fun (node, i) => executionResult node (outcomes i).session) := by
  refine mapM_eq_ok_map fun t ht => ?_
  obtain ⟨s, hs⟩ := h t ht
  unfold workerResult
  rw [hs]
  rfl

theorem returns_workerResult {t : NodeConnectionDTO × Nat} :
    Returns (workerResult outcomes t) ↔ (outcomes t.2).Decrypts t.1 := by
  unfold workerResult TaskOutcome.Decrypts
  cases (outcomes t.2).secrets t.1 with
  | error e => simp [Except.map]
  | ok s => simp [Except.map]

end Workers

/-! ## `execute` -/

section Execute

variable {cfg : Setting} {env : StoreEnv} {outcomes : Nat → TaskOutcome} {w : NodeWorld}

/-- The events are stored, whatever becomes of the workers. -/
theorem meets_logOptional (action : String) (nodeId : Option Uuid)
    (details : Option Json.Fields) : Program.Meets (isolated env outcomes)
      (logOptional action nodeId details) w fun x t => x = .ok () ∧ t.nodes = w.nodes := by
  unfold Program.Meets logOptional
  rw [Program.run_bind, Program.run_attempt, Program.run_call]
  exact ⟨rfl, rfl⟩

theorem meets_log (action : String) (nodeId : Option Uuid) (details : Json.Fields) :
    Program.Meets (isolated env outcomes) (cfg.log action nodeId details) w
      fun x t => x = .ok () ∧ t.nodes = w.nodes := by
  unfold Setting.log
  split
  · exact meets_logOptional ..
  · exact ⟨rfl, rfl⟩

theorem isolated_logRequired (action : String) (nodeId : Option Uuid)
    (details : Option Json.Fields) : Program.Meets (isolated env outcomes)
      (cfg.logRequired action nodeId details) w fun x _ => x = .ok () := by
  unfold Setting.logRequired
  split
  · unfold Program.Meets Node.logRequired
    rw [Program.run_bind, Program.run_attempt, Program.run_call]
    rfl
  · exact rfl

theorem meets_logRequested (command : String) (nodes : List NodeConnectionDTO) :
    Program.Meets (isolated env outcomes) (logRequested cfg command nodes) w
      fun x _ => x = .ok () := by
  induction nodes generalizing w with
  | nil => exact rfl
  | cons node nodes ih =>
      refine (isolated_logRequired ..).bind (fun _ t _ => ih) fun e t h => ?_
      cases h

theorem meets_logResults (command : String) (results : List CommandExecutionDTO) :
    Program.Meets (isolated env outcomes) (logResults cfg command results) w
      fun x _ => x = .ok () := by
  induction results generalizing w with
  | nil => exact rfl
  | cons result results ih =>
      have hlog : Program.Meets (isolated env outcomes)
          (cfg.log (if result.exitCode = 0 then "bulk_execute" else "bulk_execute_failed")
            (some result.nodeId) (resultDetails cfg command result)).attempt w
          fun x _ => x = .ok (.ok ()) :=
        Program.meets_attempt.2 ((meets_log ..).mono fun x t h => congrArg _ h.1)
      refine hlog.bind (fun _ t _ => ih) fun e t h => ?_
      cases h

/-- What `_save_history` comes to: the writes of all results, or the exception of one. -/
def historyResult (cfg : Setting) (outcomes : Nat → TaskOutcome)
    (results : List CommandExecutionDTO) : Except NodeFailure Unit :=
  if cfg.historyWriter then
    (results.zipIdx.mapM fun t => (outcomes t.2).history).map fun _ => ()
  else .ok ()

theorem meets_saveHistory (data : BulkCommandRequestDTO) (results : List CommandExecutionDTO) :
    Program.Meets (isolated env outcomes) (saveHistory cfg data results) w
      fun x _ => x = historyResult cfg outcomes results := by
  unfold saveHistory historyResult
  split
  · have hwrites : Program.Meets (isolated env outcomes)
        (Program.gather (results.zipIdx.map fun t =>
          (await (.saveHistory t.2 (historyRecord cfg data t.1)) : Service Unit))) w
        fun x t => x = results.zipIdx.mapM (fun t => (outcomes t.2).history) ∧ True := by
      refine Program.gather_meets (fun t ht w' _ => ?_) trivial
      refine Program.meets_call.2 ⟨?_, trivial⟩
      simp only [isolated]
      cases (outcomes t.2).history with
      | ok _ => rfl
      | error e => rfl
    refine hwrites.bind (fun units t h => ?_) fun e t h => ?_
    · rw [← h.1]
      exact rfl
    · rw [← h.1]
      exact rfl
  · exact rfl

/-- What `execute` comes to on some targets. -/
def executeResult (cfg : Setting) (data : BulkCommandRequestDTO) (nodes : List NodeConnectionDTO)
    (outcomes : Nat → TaskOutcome) : Except NodeFailure BulkCommandResultDTO := do
  let results ← nodes.zipIdx.mapM (workerResult outcomes)
  let _ ← historyResult cfg outcomes results
  .ok (bulkResult data results)

theorem meets_executeOn (data : BulkCommandRequestDTO) {nodes : List NodeConnectionDTO}
    (hnodes : nodes ≠ []) : Program.Meets (isolated env outcomes) (executeOn cfg data nodes) w
      fun x _ => x = executeResult cfg data nodes outcomes := by
  unfold executeOn executeResult
  rw [if_neg hnodes]
  refine (meets_logRequested ..).bind (fun _ w₁ _ => ?_) fun e t h => nomatch h
  have hworkers : Program.Meets (isolated env outcomes)
      (Program.gather (nodes.zipIdx.map fun (node, task) =>
        executeOnSingleNode task node data.command data.timeout)) w₁
      fun x t => x = nodes.zipIdx.mapM (workerResult outcomes) ∧ True := by
    refine Program.gather_meets (fun t _ w' _ => ?_) trivial
    unfold Program.Meets
    rw [run_executeOnSingleNode]
    exact ⟨rfl, trivial⟩
  refine hworkers.bind (fun results w₂ h => ?_) fun e t h => ?_
  · rw [← h.1]
    refine (meets_saveHistory ..).bind (fun _ w₃ h' => ?_) fun e t h' => ?_
    · refine (meets_logResults ..).bind (fun _ w₄ _ => ?_) fun e t h => nomatch h
      simp only [bind, Except.bind, ← h']
      exact rfl
    · simp only [bind, Except.bind, ← h']
  · rw [← h.1]
    exact rfl

/-- What holds of the positions of a list. -/
theorem forall_zipIdx_snd {α : Type} {P : Nat → Prop} {xs : List α} :
    (∀ t ∈ xs.zipIdx, P t.2) ↔ ∀ i < xs.length, P i := by
  have hpositions : ∀ i, i ∈ xs.zipIdx.map Prod.snd ↔ i < xs.length := by
    intro i
    rw [List.zipIdx_map_snd, List.mem_range'_1]
    omega
  constructor
  · intro h i hi
    obtain ⟨t, ht, rfl⟩ := List.mem_map.1 ((hpositions i).2 hi)
    exact h t ht
  · exact fun h t ht => h t.2 ((hpositions t.2).1 (List.mem_map_of_mem ht))

theorem returns_historyResult {results : List CommandExecutionDTO} :
    Returns (historyResult cfg outcomes results) ↔
      (cfg.historyWriter = true → ∀ i < results.length, Returns (outcomes i).history) := by
  unfold historyResult
  split
  · rename_i hwriter
    rw [← forall_zipIdx_snd, forall_prop_of_true hwriter, ← returns_mapM]
    constructor
    · rintro ⟨_, h⟩
      obtain ⟨units, hunits, -⟩ := map_eq_ok.1 h
      exact ⟨units, hunits⟩
    · rintro ⟨units, h⟩
      exact ⟨(), map_eq_ok.2 ⟨units, h, rfl⟩⟩
  · rename_i hwriter
    exact ⟨fun _ h => absurd h hwriter, fun _ => returns_ok _⟩

theorem run_executeOn {data : BulkCommandRequestDTO} {nodes : List NodeConnectionDTO}
    (hnodes : nodes ≠ []) : (Program.run (isolated env outcomes) (executeOn cfg data nodes) w).1 =
      executeResult cfg data nodes outcomes :=
  meets_executeOn data hnodes

/-- **When `execute` isolates its targets.** -/
theorem executeIsolated_iff {data : BulkCommandRequestDTO} {nodes : List NodeConnectionDTO} :
    ExecuteIsolated cfg env data nodes outcomes w ↔ ExecutableTargets cfg nodes outcomes := by
  constructor
  · rintro ⟨result, hrun, -⟩
    by_cases hnodes : nodes = []
    · unfold executeOn at hrun
      rw [if_pos hnodes] at hrun
      cases hrun
    · rw [run_executeOn hnodes] at hrun
      obtain ⟨results, hresults, hrest⟩ := bind_eq_ok.1 hrun
      obtain ⟨_, hhistory, -⟩ := bind_eq_ok.1 hrest
      have hlength : results.length = nodes.length := by
        rw [← (mapM_eq_ok_iff.1 hresults).length_eq, List.length_zipIdx]
      refine ⟨hnodes, fun t ht => ?_, ?_⟩
      · exact returns_workerResult.1 (returns_mapM.1 ⟨results, hresults⟩ t ht)
      · rw [← hlength]
        exact returns_historyResult.1 ⟨_, hhistory⟩
  · intro h
    have hresults := mapM_workerResult h.decrypts
    obtain ⟨u, hhistory⟩ : Returns (historyResult cfg outcomes
        (nodes.zipIdx.map fun (node, i) => executionResult node (outcomes i).session)) := by
      rw [returns_historyResult, List.length_map, List.length_zipIdx]
      exact h.history
    refine ⟨bulkResult data (nodes.zipIdx.map fun (node, i) =>
      executionResult node (outcomes i).session), ?_, rfl, ?_, ?_⟩
    · rw [run_executeOn h.some_target]
      exact bind_eq_ok.2 ⟨_, hresults, bind_eq_ok.2 ⟨u, hhistory, rfl⟩⟩
    · simp [bulkResult]
    · exact Nat.add_sub_cancel' (List.length_filter_le _ _)

end Execute

/-! ## `bulk_check` -/

section Check

variable {cfg : Setting} {env : StoreEnv} {outcomes : Nat → TaskOutcome} {w : NodeWorld}

/-- The same nodes are there, with the same connections. -/
def SameConnections (w w' : NodeWorld) : Prop :=
  ∀ id, (w'.nodes.find? id).map (·.toConnectionDto) = (w.nodes.find? id).map (·.toConnectionDto)

/-- What a worker of `bulk_check` comes to. -/
def checkWorkerResult (cfg : Setting) (w : NodeWorld) (outcomes : Nat → TaskOutcome)
    (t : String × Nat) : Except NodeFailure CheckDetail :=
  match cfg.parseUuid t.1 with
  | none => .ok ⟨t.1, false, some "Invalid node id", none⟩
  | some id =>
      match (w.nodes.find? id).map (·.toConnectionDto) with
      | none => .ok ⟨t.1, false, some "Node not found", none⟩
      | some node => ((outcomes t.2).secrets node).map fun _ => checkedDetail t.1 (outcomes t.2)

/-- Reading the old status changes nothing. -/
theorem meets_readOldStatus (read : Bool) (id : Uuid) :
    Program.Meets (isolated env outcomes) (readOldStatus read id) w
      fun x t => (∃ old, x = .ok old) ∧ t = w := by
  unfold readOldStatus
  split
  · exact ⟨⟨none, rfl⟩, rfl⟩
  · have hperform : isolated env outcomes (.getNode id) w =
        (.ok ((w.nodes.find? id).map (·.toView)), w) := rfl
    unfold Program.Meets
    rw [Program.run_bind, Program.run_attempt, Program.run_call, hperform]
    cases w.nodes.find? id with
    | none => exact ⟨⟨_, rfl⟩, rfl⟩
    | some row => exact ⟨⟨_, rfl⟩, rfl⟩

/-- The status of a node that is there is written, and no connection changes. -/
theorem meets_writeStatus {w₀ : NodeWorld} (hw : SameConnections w₀ w) (task : Nat) {id : Uuid}
    {row : NodeRow} (hrow : w.nodes.find? id = some row) (status : NodeStatus) :
    Program.Meets (isolated env outcomes) (writeStatus cfg task id status) w
      fun x t => x = .ok none ∧ SameConnections w₀ t := by
  unfold writeStatus
  split
  · obtain ⟨t', hupdate⟩ : ∃ t', updateRow env w.nodes id [.status (some status)] =
        .ok (some (t', { row with status := status, updatedAt := env.now })) :=
      updateRow_status hrow status
    have hperform : isolated env outcomes (.updateNodeStatus task id status) w =
        updated w (updateRow env w.nodes id [.status (some status)]) := rfl
    unfold Program.Meets
    rw [Program.run_bind, Program.run_attempt, Program.run_call, hperform, hupdate]
    refine ⟨rfl, fun i => ?_⟩
    rw [← hw i]
    obtain ⟨row', row'', hrow', hset, hnew, hfind⟩ := find?_of_updateRow hupdate
    show (t'.find? i).map _ = _
    rw [hfind i]
    split
    · rename_i hi
      rw [hi, hrow]
      rfl
    · rfl
  · exact ⟨rfl, hw⟩

/-- The entry of the history is best effort. -/
theorem isolated_saveStatusChange {w₀ : NodeWorld} (hw : SameConnections w₀ w) (task : Nat)
    (write : Bool) (change : NodeStatusChangeDTO) :
    Program.Meets (isolated env outcomes) (saveStatusChange task write change) w
      fun x t => x = .ok () ∧ SameConnections w₀ t := by
  unfold saveStatusChange
  split
  · unfold Program.Meets
    rw [Program.run_bind, Program.run_attempt, Program.run_call]
    refine ⟨rfl, ?_⟩
    simp only [isolated]
    cases (outcomes task).history with
    | ok _ => exact hw
    | error e => exact hw
  · exact ⟨rfl, hw⟩

/-- A worker on a node that is there. -/
theorem meets_checkFound {w₀ : NodeWorld} (hw : SameConnections w₀ w) (t : String × Nat)
    {id : Uuid} {row : NodeRow} (hrow : w.nodes.find? id = some row) :
    Program.Meets (isolated env outcomes) (checkFound cfg t.2 t.1 row.toConnectionDto) w
      fun x w' => x = ((outcomes t.2).secrets row.toConnectionDto).map
        (fun _ => checkedDetail t.1 (outcomes t.2)) ∧ SameConnections w₀ w' := by
  have hid : row.toConnectionDto.id = id := (NamedTable.find?_eq_some.1 hrow).2
  have hconnector : Program.Meets (isolated env outcomes)
      (buildSshConnector t.2 row.toConnectionDto none) w fun x w' =>
        x.map (fun _ => ()) = ((outcomes t.2).secrets row.toConnectionDto).map (fun _ => ()) ∧
          w' = w := by
    unfold Program.Meets
    rw [run_buildSshConnector]
    cases (outcomes t.2).secrets row.toConnectionDto with
    | error e => exact ⟨rfl, rfl⟩
    | ok s => exact ⟨rfl, rfl⟩
  unfold checkFound
  refine hconnector.bind (fun connector w₁ h => ?_) fun e w₁ h => ?_
  · obtain ⟨hsecrets, rfl⟩ := h
    obtain ⟨secrets, hsecrets, -⟩ := map_eq_ok.1 hsecrets.symm
    rw [hsecrets]
    have hsession : Program.Meets (isolated env outcomes)
        (await (.execute t.2 connector "echo ok")).attempt w₁
        fun x w' => x = .ok (outcomes t.2).session ∧ w' = w₁ :=
      Program.meets_attempt.2 (Program.meets_call.2 ⟨rfl, rfl⟩)
    refine hsession.bind (fun outcome w₂ h => ?_) fun e w₂ h => nomatch h.1
    obtain ⟨houtcome, rfl⟩ := h
    cases houtcome
    refine (meets_readOldStatus ..).bind (fun old w₃ h => ?_) fun e w₃ h => nomatch h.1
    obtain ⟨-, rfl⟩ := h
    rw [hid]
    refine (meets_writeStatus hw t.2 hrow _).bind (fun failure w₄ h => ?_) fun e w₄ h => nomatch h.1
    obtain ⟨hfailure, hw₄⟩ := h
    cases hfailure
    refine (isolated_saveStatusChange hw₄ ..).bind (fun _ w₅ h => ?_) fun e w₅ h => nomatch h.1
    refine ⟨?_, h.2⟩
    simp [checkedDetail, Except.map]
  · obtain ⟨hsecrets, rfl⟩ := h
    cases hx : (outcomes t.2).secrets row.toConnectionDto with
    | error e' =>
        rw [hx] at hsecrets
        cases hsecrets
        exact ⟨rfl, hw⟩
    | ok s =>
        rw [hx] at hsecrets
        cases hsecrets

theorem meets_checkOne {w₀ : NodeWorld} (hw : SameConnections w₀ w) (t : String × Nat) :
    Program.Meets (isolated env outcomes) (checkOne cfg t.2 t.1) w
      fun x w' => x = checkWorkerResult cfg w₀ outcomes t ∧ SameConnections w₀ w' := by
  unfold checkOne checkWorkerResult
  cases cfg.parseUuid t.1 with
  | none => exact ⟨rfl, hw⟩
  | some id =>
      simp only []
      have hperform : isolated env outcomes (.getConnection id) w =
          (.ok ((w.nodes.find? id).map (·.toConnectionDto)), w) := rfl
      have hread : Program.Meets (isolated env outcomes) (await (.getConnection id)) w
          fun x w' => x = .ok ((w.nodes.find? id).map (·.toConnectionDto)) ∧ w' = w :=
        Program.meets_call.2 ⟨congrArg Prod.fst hperform, congrArg Prod.snd hperform⟩
      refine hread.bind (fun node w₁ h => ?_) fun e w₁ h => absurd h.1 (by simp)
      obtain ⟨hnode, rfl⟩ := h
      cases hnode
      rw [← hw id]
      cases hrow : w₁.nodes.find? id with
      | none => exact ⟨rfl, hw⟩
      | some row => exact meets_checkFound hw t hrow

/-- What `bulk_check` comes to. -/
theorem run_bulkCheck (ids : List String) :
    (Program.run (isolated env outcomes) (bulkCheck cfg ids) w).1 =
      (ids.zipIdx.mapM (checkWorkerResult cfg w outcomes)).map (checkResult cfg ids) := by
  have hworkers : Program.Meets (isolated env outcomes)
      (Program.gather (ids.zipIdx.map fun (text, task) => checkOne cfg task text)) w
      fun x w' => x = ids.zipIdx.mapM (checkWorkerResult cfg w outcomes) ∧ SameConnections w w' :=
    Program.gather_meets (fun t _ w' hw' => meets_checkOne hw' t) fun _ => rfl
  have hall : Program.Meets (isolated env outcomes) (bulkCheck cfg ids) w
      fun x _ => x = (ids.zipIdx.mapM (checkWorkerResult cfg w outcomes)).map
        (checkResult cfg ids) := by
    unfold bulkCheck
    refine hworkers.bind (fun details w₁ h => ?_) fun e w₁ h => ?_
    · rw [← h.1]
      refine (meets_log ..).bind (fun _ w₂ _ => rfl) fun e w₂ h => nomatch h.1
    · rw [← h.1]
      exact rfl
  exact hall

/-- A worker returns where the secrets of its node decrypt. -/
theorem returns_checkWorkerResult {t : String × Nat} :
    Returns (checkWorkerResult cfg w outcomes t) ↔
      ∀ node ∈ connectionOf cfg w t.1, (outcomes t.2).Decrypts node := by
  unfold checkWorkerResult connectionOf TaskOutcome.Decrypts
  cases cfg.parseUuid t.1 with
  | none => simp
  | some id =>
      cases hnode : (w.nodes.find? id).map (·.toConnectionDto) with
      | none => simp [hnode]
      | some node =>
          cases hsecrets : (outcomes t.2).secrets node with
          | error e => simp [hnode, hsecrets, Except.map]
          | ok s => simp [hnode, hsecrets, Except.map]

/-- The result of a worker that returns is the detail of its own node. -/
theorem checkWorkerResult_eq {t : String × Nat} {detail : CheckDetail}
    (h : checkWorkerResult cfg w outcomes t = .ok detail) :
    detail = expectedDetail cfg w t.1 (outcomes t.2) := by
  unfold checkWorkerResult at h
  unfold expectedDetail
  cases hid : cfg.parseUuid t.1 with
  | none =>
      rw [hid] at h
      exact (Except.ok.inj h).symm
  | some id =>
      rw [hid] at h
      cases hrow : w.nodes.find? id with
      | none =>
          simp only [hrow] at h ⊢
          exact (Except.ok.inj h).symm
      | some row =>
          simp only [hrow] at h ⊢
          obtain ⟨_, -, hdetail⟩ := map_eq_ok.1 h
          exact hdetail.symm

/-- **When `bulk_check` isolates its nodes.** -/
theorem checkIsolated_iff {ids : List String} :
    CheckIsolated cfg env ids outcomes w ↔ CheckableTargets cfg ids outcomes w := by
  unfold CheckIsolated CheckableTargets
  rw [run_bulkCheck]
  constructor
  · rintro ⟨result, hrun, -⟩ t ht
    obtain ⟨details, hdetails, -⟩ := map_eq_ok.1 hrun
    exact returns_checkWorkerResult.1 (returns_mapM.1 ⟨details, hdetails⟩ t ht)
  · intro h
    have hdetails : ids.zipIdx.mapM (checkWorkerResult cfg w outcomes) =
        .ok (ids.zipIdx.map fun (text, i) => expectedDetail cfg w text (outcomes i)) := by
      refine mapM_eq_ok_map fun t ht => ?_
      obtain ⟨detail, hdetail⟩ := returns_checkWorkerResult.2 (h t ht)
      rw [hdetail, checkWorkerResult_eq hdetail]
    refine ⟨_, map_eq_ok.2 ⟨_, hdetails, rfl⟩, rfl, rfl, ?_⟩
    have hlength : ∀ details : List CheckDetail, (details.filter (·.success)).length +
        (details.filter fun d => !d.success).length = details.length := by
      intro details
      induction details with
      | nil => rfl
      | cons detail details ih =>
          cases hsuccess : detail.success <;> simp [hsuccess] <;> omega
    simp only [checkResult]
    rw [hlength, List.length_map, List.length_zipIdx]

end Check

/-! ## Both operations -/

/-- **When the bulk operations isolate the failures of their nodes.** -/
theorem bulk_isolated_iff (cfg : Setting) (env : StoreEnv) (data : BulkCommandRequestDTO)
    (nodes : List NodeConnectionDTO) (ids : List String) (outcomes : Nat → TaskOutcome)
    (w : NodeWorld) :
    (ExecuteIsolated cfg env data nodes outcomes w ↔ ExecutableTargets cfg nodes outcomes) ∧
      (CheckIsolated cfg env ids outcomes w ↔ CheckableTargets cfg ids outcomes w) :=
  ⟨executeIsolated_iff, checkIsolated_iff⟩

/-- Two nodes that answer; the password of the second one does not decrypt. -/
def oneUndecryptable (task : Nat) : TaskOutcome where
  decrypt value := if task = 1 then .error ⟨.credentialDecryptionError, "no key"⟩ else .ok value
  session := .ok ⟨"ok", "", 0⟩
  history := .ok ()

/-- One node without a key takes the result of the other one away. -/
theorem not_bulkIsolated :
    ¬ ∀ (cfg : Setting) (env : StoreEnv) (data : BulkCommandRequestDTO)
      (nodes : List NodeConnectionDTO) (ids : List String) (outcomes : Nat → TaskOutcome)
      (w : NodeWorld), nodes ≠ [] →
      ExecuteIsolated cfg env data nodes outcomes w ∧ CheckIsolated cfg env ids outcomes w := by
  intro h
  have hisolated := (h plainSetting plainStoreEnv ⟨"uptime", [], [], none, none⟩
    [(fleetNode 0).toConnectionDto, (fleetNode 1).toConnectionDto] [] oneUndecryptable emptyWorld
    (List.cons_ne_nil _ _)).1
  have hsecond := (executeIsolated_iff.1 hisolated).decrypts ((fleetNode 1).toConnectionDto, 1)
    (List.mem_cons_of_mem _ (List.mem_cons_self ..))
  exact not_returns_error _ hsecond

end Node
end NodeNexus
