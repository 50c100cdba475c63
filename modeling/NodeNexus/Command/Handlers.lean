import NodeNexus.Core.ErrorSanitize
import NodeNexus.Node.Writes
import NodeNexus.Command.Programs

/-!
# Bulk endpoints

The handlers that gather one use case for each item of a request.  A use case never leaves
its item: the `except` around it makes an item of an exception.

* `bulkExecutions`, `bulkRawExecutions` — commands on many nodes; the batch id of the
  response is drawn here, those of the history by each use case.
* `bulkCreate` — the pattern of the three creating handlers, `bulkCreateScripts`,
  `bulkCreateCommands` and `bulkCreateNodes`.
-/

namespace NodeNexus
namespace Command

open Content Node
open NodeNexus.Core

/-! ## Executions -/

/-- `CommandManagementService.get_command`. -/
def getCommand (cfg : Setting) (item : Nat) (id : Uuid) : Endpoint CommandView := do
  let command : Option CommandView ← ask (.getCommand item id)
  match command with
  | none =>
      Program.raise ⟨.domain .commandNotFoundError,
        "Command " ++ cfg.printUuid id ++ " not found"⟩
  | some command => pure command

/-- `CommandExecutionsRequest`. -/
structure CommandExecutionsRequest where
  commandIds : List Uuid
  nodeIds : List Uuid
  nodeTags : List String
  params : List (String × Json.Fields)
  timeout : Option Int
  commandIds_ok : 1 ≤ commandIds.length ∧ commandIds.length ≤ 20
  timeout_ok : ∀ t ∈ timeout, timeoutInRange t

/-- `RawExecutionsRequest`. -/
structure RawExecutionsRequest where
  commands : List String
  nodeIds : List Uuid
  nodeTags : List String
  timeout : Option Int
  commands_ok : 1 ≤ commands.length ∧ commands.length ≤ 20
  timeout_ok : ∀ t ∈ timeout, timeoutInRange t

/-- The field `status` of an item. -/
inductive ItemStatus where
  | success
  | error
  deriving DecidableEq

/-- `BulkExecutionItem`. -/
structure BulkExecutionItem where
  commandId : Option Uuid
  command : Option String
  nodeId : Option Uuid
  nodeName : Option String
  stdout : String
  stderr : String
  exitCode : Option Int
  status : ItemStatus
  error : String
  deriving DecidableEq

/-- `BulkExecutionBatchResponse`. -/
structure BulkExecutionBatchResponse where
  batchId : Uuid
  total : Nat
  succeeded : Nat
  failed : Nat
  results : List BulkExecutionItem

/-- What the executing handlers answer. -/
inductive BatchReply where
  /-- `HTTPException(status_code=422, detail=…)`. -/
  | refused (detail : String)
  /-- The response, with the status 207 or that of the route. -/
  | batch (multiStatus : Bool) (response : BulkExecutionBatchResponse)

/-- The item of a result. -/
def executionItem (commandId : Option Uuid) (command : String) (r : CommandExecutionDTO) :
    BulkExecutionItem where
  commandId := commandId
  command := some command
  nodeId := some r.nodeId
  nodeName := some r.nodeName
  stdout := r.stdout
  stderr := r.stderr
  exitCode := some r.exitCode
  status := if r.exitCode = 0 then .success else .error
  error := if r.exitCode = 0 then "" else r.stderr

/-- The item of an exception. -/
def failedItem (commandId : Option Uuid) (command : Option String) (e : NodeFailure) :
    BulkExecutionItem where
  commandId := commandId
  command := command
  nodeId := none
  nodeName := none
  stdout := ""
  stderr := e.text
  exitCode := none
  status := .error
  error := sanitizeBulkError e

/-- `except Exception` around the use case of an item. -/
def itemsOf (commandId : Option Uuid) (command : Option String) :
    Except NodeFailure (List BulkExecutionItem) → List BulkExecutionItem
  | .ok items => items
  | .error e => [failedItem commandId command e]

/-- The `try` of `_execute_one`. -/
def tryCommand (cfg : Setting) (unicode : Unicode) (data : CommandExecutionsRequest)
    (item : Nat) (commandId : Uuid) : Endpoint (List BulkExecutionItem) := do
  let cmd ← getCommand cfg item commandId
  let rendered ← raised (render unicode cmd.command cmd.parameters
    ((data.params.lookup (cfg.printUuid commandId)).getD []))
  let result ← executeBatch cfg item
    ⟨rendered, data.nodeIds, data.nodeTags, some commandId, some (data.timeout.getD cmd.timeout)⟩
  pure (result.results.map (executionItem (some commandId) rendered))

/-- `_execute_one`. -/
def executeOne (cfg : Setting) (unicode : Unicode) (data : CommandExecutionsRequest)
    (item : Nat) (commandId : Uuid) : Endpoint (List BulkExecutionItem) := do
  let outcome ← (tryCommand cfg unicode data item commandId).attempt
  pure (itemsOf (some commandId) none outcome)

/-- The `try` of `_execute_raw`. -/
def tryRaw (cfg : Setting) (data : RawExecutionsRequest) (item : Nat) (command : String) :
    Endpoint (List BulkExecutionItem) := do
  let result ← executeBatch cfg item
    ⟨command, data.nodeIds, data.nodeTags, none, some (data.timeout.getD defaultTimeout)⟩
  pure (result.results.map (executionItem none command))

/-- `_execute_raw`. -/
def executeRaw (cfg : Setting) (data : RawExecutionsRequest) (item : Nat) (command : String) :
    Endpoint (List BulkExecutionItem) := do
  let outcome ← (tryRaw cfg data item command).attempt
  pure (itemsOf none (some command) outcome)

/-- The guard on the number of executions: `est_n` nodes for each command. -/
def exceedsLimit (commands : Nat) (nodeIds : List Uuid) (nodeTags : List String) : Bool :=
  decide (100 < commands *
    if nodeIds ≠ [] then nodeIds.length else if nodeTags = [] then 1 else nodeTags.length)

/-- The response of the flattened items. -/
def batchReply (batchId : Uuid) (flat : List BulkExecutionItem) : BatchReply :=
  let succeeded := (flat.filter fun r => decide (r.status = .success)).length
  let failed := flat.length - succeeded
  .batch (decide (0 < failed ∧ 0 < succeeded)) ⟨batchId, flat.length, succeeded, failed, flat⟩

/-- The handler around the items. -/
def executeItems {ι : Type} (items : List ι) (nodeIds : List Uuid) (nodeTags : List String)
    (worker : Nat → ι → Endpoint (List BulkExecutionItem)) : Endpoint BatchReply := do
  let batchId : Uuid ← ask (.uuid4 none)
  if exceedsLimit items.length nodeIds nodeTags then pure (.refused "M×N must be ≤100")
  else do
    let nested ← Program.gather (items.zipIdx.map fun (i, item) => worker item i)
    pure (batchReply batchId nested.flatten)

/-- `bulk_executions`. -/
def bulkExecutions (cfg : Setting) (unicode : Unicode) (data : CommandExecutionsRequest) :
    Endpoint BatchReply :=
  executeItems data.commandIds data.nodeIds data.nodeTags (executeOne cfg unicode data)

/-- `bulk_raw_executions`. -/
def bulkRawExecutions (cfg : Setting) (data : RawExecutionsRequest) : Endpoint BatchReply :=
  executeItems data.commands data.nodeIds data.nodeTags (executeRaw cfg data)

/-! ## Creating -/

/-- `ScriptManagementService.create_script`. -/
def createScript (cfg : Setting) (item : Nat) (data : ScriptCreateDTO) : Endpoint ScriptView := do
  let script : ScriptView ← ask (.createScript item data)
  ofService item none (cfg.log "create" none [("entity", .str "script"), ("name", .str data.name)])
  pure script

/-- `CommandManagementService.create_command`. -/
def createCommand (cfg : Setting) (item : Nat) (data : CommandCreateDTO) :
    Endpoint CommandView := do
  let command : CommandView ← ask (.createCommand item data)
  ofService item none (cfg.log "create" none [("entity", .str "command"), ("name", .str data.name)])
  pure command

/-- The result of an item: `ScriptBulkCreateResult`, `CommandBulkCreateResult` and, with no
name, `NodeBulkCreateResult`. -/
structure BulkCreateResult where
  id : Option Uuid
  name : Option String
  status : ItemStatus
  error : String
  deriving DecidableEq

/-- `BulkResult` of such results, with the status of the reply. -/
structure BulkResult where
  statusCode : Nat
  total : Nat
  succeeded : Nat
  failed : Nat
  results : List BulkCreateResult

/-- The result of an item that was created, or of an exception. -/
def createResult (name : Option String) :
    Except NodeFailure (Uuid × Option String) → BulkCreateResult
  | .ok (id, created) => ⟨some id, created, .success, ""⟩
  | .error e => ⟨none, name, .error, sanitizeBulkError e⟩

/-- `_create_one`. -/
def createOne (name : Option String) (creates : Endpoint (Uuid × Option String)) :
    Endpoint BulkCreateResult := do
  let outcome ← creates.attempt
  pure (createResult name outcome)

/-- The results with their counts; `allFailed` is the status where nothing succeeded. -/
def bulkResultOf (allFailed : Nat) (results : List BulkCreateResult) : BulkResult :=
  let succeeded := (results.filter fun r => decide (r.status = .success)).length
  let failed := results.length - succeeded
  { statusCode := if 0 < failed ∧ 0 < succeeded then 207 else if 0 < failed then allFailed else 201
    total := results.length
    succeeded := succeeded
    failed := failed
    results := results }

/-- The handler around the items. -/
def bulkCreate {ι : Type} (allFailed : Nat) (items : List ι)
    (worker : Nat → ι → Endpoint BulkCreateResult) : Endpoint BulkResult := do
  let results ← Program.gather (items.zipIdx.map fun (i, item) => worker item i)
  pure (bulkResultOf allFailed results)

/-- `bulk_create_scripts`. -/
def bulkCreateScripts (cfg : Setting) (items : List ScriptCreate) : Endpoint BulkResult :=
  bulkCreate 201 items fun item i => createOne (some i.name) do
    let created ← createScript cfg item i.dto
    pure (created.id, some created.name)

/-- `bulk_create_commands`. -/
def bulkCreateCommands (cfg : Setting) (items : List CommandCreate) : Endpoint BulkResult :=
  bulkCreate 201 items fun item i => createOne (some i.name) do
    let created ← createCommand cfg item i.dto
    pure (created.id, some created.name)

/-- `bulk_create_nodes`. -/
def bulkCreateNodes {uni : Unicode} {isDecimal : Config.IsDecimal} (cfg : Setting)
    (items : List (NodeCreate uni isDecimal)) : Endpoint BulkResult :=
  bulkCreate 200 items fun item i => createOne none do
    let node ← ofService item none (createNode cfg i.dto)
    pure (node.id, none)

end Command
end NodeNexus
