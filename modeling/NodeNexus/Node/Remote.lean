import NodeNexus.Remote.Output
import NodeNexus.Node.RequiredAudit

/-!
# Services that talk to nodes

`NodeCommandService.check_connectivity`, `NodeBulkOperationService.bulk_check` in
its ssh mode, and `NodeBulkCommandService.execute`, as programs of the requests of
`Service`.

* `buildSshConnector` decrypts the three secrets of a node; it stands before the
  `try` of each of the services.
* `checkOne` and `executeOnSingleNode` are the workers that the bulk operations
  gather.
-/

namespace NodeNexus
namespace Node

open Content

/-! ## Connections -/

/-- `build_ssh_connector`. -/
def buildSshConnector (task : Nat) (node : NodeConnectionDTO) (timeout : Option Int) :
    Service SshConnector := do
  let password : Option String ← await (.decrypt task node.credentials.password)
  let sshKey : Option String ← await (.decrypt task node.credentials.sshKey)
  let passphrase : Option String ← await (.decrypt task node.credentials.passphrase)
  pure ⟨node.endpoint.host, node.endpoint.port, node.credentials.username, password, sshKey,
    passphrase, timeout⟩

/-- The status that a check of a node comes to, and the text of its error. -/
def checkedStatus : Except NodeFailure SshOutput → NodeStatus × Option String
  | .ok _ => (.active, none)
  | .error e =>
      if e.kind = .credentialDecryptionError then (.error, some e.text)
      else (.unreachable, some e.text)

/-! ## `NodeCommandService.check_connectivity` -/

/-- `NodeCommandService._log`. -/
def Setting.log (cfg : Setting) (action : String) (nodeId : Option Uuid)
    (details : Json.Fields) : Service Unit :=
  if cfg.audit then logOptional action nodeId (some details) else pure ()

/-- `check_connectivity`. -/
def checkConnectivity (cfg : Setting) (nodeId : Uuid) : Service NodeViewDTO := do
  let node : Option NodeConnectionDTO ← await (.getConnection nodeId)
  match node with
  | none => Program.raise (cfg.notFound nodeId)
  | some node => do
      let connector ← buildSshConnector 0 node none
      let outcome ← (await (.execute 0 connector "echo ok")).attempt
      let newStatus := (checkedStatus outcome).1
      cfg.log "check" (some nodeId) [("status", .str newStatus.text)]
      let oldStatus ← readOldStatus cfg.nodeViewReader nodeId
      let updated : Option NodeViewDTO ← await (.updateNodeStatus 0 nodeId newStatus)
      match updated with
      | none => Program.raise (cfg.notFound nodeId)
      | some view => do
          saveStatusChange 0 cfg.statusHistoryWriter
            ⟨nodeId, oldStatus, newStatus.text, .connectivityCheck⟩
          pure view

/-! ## `NodeBulkOperationService.bulk_check` -/

/-- `BulkNodeCheckDetailDTO`. -/
structure CheckDetail where
  nodeId : String
  success : Bool
  error : Option String
  newStatus : Option NodeStatus
  deriving DecidableEq

/-- The status is written; the text is why that failed. -/
def writeStatus (cfg : Setting) (task : Nat) (nodeId : Uuid) (status : NodeStatus) :
    Service (Option String) :=
  if cfg.statusWriter then do
    let updated : Except NodeFailure (Option NodeViewDTO) ←
      (await (.updateNodeStatus task nodeId status)).attempt
    match updated with
    | .ok (some _) => pure none
    | .ok none => pure (some "Node not found on status update")
    | .error e => pure (some ("Status update failed: " ++ e.text))
  else pure none

/-- `_check_one` for a node that was found. -/
def checkFound (cfg : Setting) (task : Nat) (text : String) (node : NodeConnectionDTO) :
    Service CheckDetail := do
  let connector ← buildSshConnector task node none
  let outcome ← (await (.execute task connector "echo ok")).attempt
  let newStatus := (checkedStatus outcome).1
  let oldStatus ← readOldStatus cfg.nodeViewReader node.id
  let failure ← writeStatus cfg task node.id newStatus
  saveStatusChange task (cfg.statusHistoryWriter && failure.isNone)
    ⟨node.id, oldStatus, newStatus.text, .connectivityCheck⟩
  pure
    { nodeId := text
      success := failure.isNone && (checkedStatus outcome).2.isNone
      error := failure.or (checkedStatus outcome).2
      newStatus := some newStatus }

/-- `_check_one`. -/
def checkOne (cfg : Setting) (task : Nat) (text : String) : Service CheckDetail :=
  match cfg.parseUuid text with
  | none => pure ⟨text, false, some "Invalid node id", none⟩
  | some id => do
      let node : Option NodeConnectionDTO ← await (.getConnection id)
      match node with
      | none => pure ⟨text, false, some "Node not found", none⟩
      | some node => checkFound cfg task text node

/-- `BulkNodeCheckResultDTO`. -/
structure BulkNodeCheckResultDTO where
  total : Nat
  succeeded : Nat
  failed : Nat
  nodeIds : List Uuid
  details : List CheckDetail

/-- What `bulk_check` makes of the results of its workers. -/
def checkResult (cfg : Setting) (ids : List String) (details : List CheckDetail) :
    BulkNodeCheckResultDTO where
  total := ids.length
  succeeded := (details.filter (·.success)).length
  failed := (details.filter fun d => !d.success).length
  nodeIds := (details.filter (·.success)).filterMap fun d => cfg.parseUuid d.nodeId
  details := details

/-- `bulk_check` in its ssh mode. -/
def bulkCheck (cfg : Setting) (ids : List String) : Service BulkNodeCheckResultDTO := do
  let details ← Program.gather (ids.zipIdx.map fun (text, task) => checkOne cfg task text)
  let result := checkResult cfg ids details
  cfg.log "bulk_nodes.check" none
    [("total", .int result.total), ("succeeded", .int result.succeeded),
      ("failed", .int result.failed), ("mode", .str "ssh")]
  pure result

/-! ## `NodeBulkCommandService.execute` -/

/-- `CommandExecutionDTO`. -/
structure CommandExecutionDTO where
  nodeId : Uuid
  nodeName : String
  stdout : String
  stderr : String
  exitCode : Int
  deriving DecidableEq

/-- `BulkCommandRequestDTO`. -/
structure BulkCommandRequestDTO where
  command : String
  nodeIds : List Uuid
  tags : List String
  commandId : Option Uuid
  timeout : Option Int

/-- `BulkCommandResultDTO`. -/
structure BulkCommandResultDTO where
  command : String
  results : List CommandExecutionDTO
  total : Nat
  succeeded : Nat
  failed : Nat
  deriving DecidableEq

/-- The result of a session: the output, or the text of the exception. -/
def executionResult (node : NodeConnectionDTO) :
    Except NodeFailure SshOutput → CommandExecutionDTO
  | .ok output => ⟨node.id, node.name, output.stdout, output.stderr, output.exitCode⟩
  | .error e => ⟨node.id, node.name, "", e.text, 1⟩

/-- `_execute_on_single_node`. -/
def executeOnSingleNode (task : Nat) (node : NodeConnectionDTO) (command : String)
    (timeout : Option Int) : Service CommandExecutionDTO := do
  let connector ← buildSshConnector task node timeout
  let outcome ← (await (.execute task connector command)).attempt
  pure (executionResult node outcome)

/-- The record of `_save_single`. -/
def historyRecord (cfg : Setting) (data : BulkCommandRequestDTO) (result : CommandExecutionDTO) :
    CommandHistoryCreateDTO :=
  let bounded := Remote.boundOutput result.stdout.toList Remote.defaultMaxPersistedOutputBytes
  let stderrBounded := Remote.boundOutput result.stderr.toList Remote.defaultMaxPersistedOutputBytes
  { nodeId := result.nodeId
    commandFingerprint := cfg.commandFingerprint data.command
    exitCode := result.exitCode
    stdout := String.ofList bounded.value
    stderr := String.ofList stderrBounded.value
    stdoutBytes := bounded.originalBytes
    stderrBytes := stderrBounded.originalBytes
    truncated := bounded.truncated || stderrBounded.truncated
    commandId := data.commandId }

/-- `_save_history`. -/
def saveHistory (cfg : Setting) (data : BulkCommandRequestDTO)
    (results : List CommandExecutionDTO) : Service Unit :=
  if cfg.historyWriter then do
    let _ ← Program.gather (results.zipIdx.map fun (result, task) =>
      (await (.saveHistory task (historyRecord cfg data result)) : Service Unit))
    pure ()
  else pure ()

/-- The required events before the command runs. -/
def logRequested (cfg : Setting) (command : String) : List NodeConnectionDTO → Service Unit
  | [] => pure ()
  | node :: nodes => do
      cfg.logRequired "bulk_execute.requested" (some node.id)
        (some [("command_fingerprint", .str (cfg.commandFingerprint command))])
      logRequested cfg command nodes

/-- The details of the event for a result. -/
def resultDetails (cfg : Setting) (command : String) (result : CommandExecutionDTO) : Json.Fields :=
  [("command_fingerprint", .str (cfg.commandFingerprint command)),
    ("exit_code", .int result.exitCode)] ++
  if result.exitCode = 0 then [] else [("error", .str result.stderr)]

/-- The events after the command ran; `AuditWriteError` skips one. -/
def logResults (cfg : Setting) (command : String) : List CommandExecutionDTO → Service Unit
  | [] => pure ()
  | result :: results => do
      let _ ← (cfg.log (if result.exitCode = 0 then "bulk_execute" else "bulk_execute_failed")
        (some result.nodeId) (resultDetails cfg command result)).attempt
      logResults cfg command results

/-- What `execute` makes of the results of its workers. -/
def bulkResult (data : BulkCommandRequestDTO) (results : List CommandExecutionDTO) :
    BulkCommandResultDTO where
  command := data.command
  results := results
  total := results.length
  succeeded := (results.filter fun r => decide (r.exitCode = 0)).length
  failed := results.length - (results.filter fun r => decide (r.exitCode = 0)).length

/-- `execute`, once its targets are resolved. -/
def executeOn (cfg : Setting) (data : BulkCommandRequestDTO) (nodes : List NodeConnectionDTO) :
    Service BulkCommandResultDTO :=
  if nodes = [] then
    Program.raise ⟨.nodeNotFoundError, "No nodes matched the given criteria"⟩
  else do
    logRequested cfg data.command nodes
    let results ← Program.gather (nodes.zipIdx.map fun (node, task) =>
      executeOnSingleNode task node data.command data.timeout)
    saveHistory cfg data results
    logResults cfg data.command results
    pure (bulkResult data results)

/-- `execute`. -/
def bulkExecute (cfg : Setting) (data : BulkCommandRequestDTO) : Service BulkCommandResultDTO := do
  let nodes : List NodeConnectionDTO ← await (.targets data.nodeIds data.tags)
  executeOn cfg data nodes

end Node
end NodeNexus
