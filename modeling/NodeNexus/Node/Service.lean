import NodeNexus.Lib.Program
import NodeNexus.Lib.Json
import NodeNexus.Node.Targets

/-!
# The services for nodes

What the services for nodes ask of the gateways around them, and
`NodeManagementService` as a program of these requests.

* `Request` — one await of a service: a transaction of a gateway, a session with
  a remote host, a call of the cipher.
* `logRequired` and `logOptional` are `AuditEventService`; `sanitizeAuditDetails`
  is its filter.
* `createNode`, `updateNode`, `deleteNode`, `addTag` and `removeTag` are the
  mutations of `NodeManagementService`.

Structured logging is left out: it asks nothing.
-/

namespace NodeNexus
namespace Node

open Content

/-! ## Data -/

/-- The other classes of `core/exceptions.py`. -/
inductive DomainErrorClass where
  | domainError
  | commandNotFoundError
  | scriptNotFoundError
  | templateRenderError
  | authenticationError
  | apiKeyNotFoundError
  | apiKeyRevokedError
  | apiKeyExpiredError
  | tagNotFoundError
  | dockerError
  | containerNotFoundError
  | networkNotFoundError
  | volumeNotFoundError
  | imageNotFoundError
  | dockerDaemonError
  | dockerValidationError
  | requestTimeoutError
  | unsupportedConfigFormatError
  | scheduleValidationError
  | scheduleNotFoundError
  | schedulerOwnershipError
  | schedulePersistenceError
  | scheduledScriptExecutionError
  | executionNotFoundError
  | auditStatsUnavailableError
  | auditReadError
  | commitFailedError
  | favoriteNotFoundError
  | invalidCredentialsError
  | userNotFoundError
  | userAlreadyExistsError
  | tokenExpiredError
  | invalidTokenError
  | insufficientPermissionsError
  | hostKeyFetchError
  | composeProjectNotFoundError
  | composeProjectAlreadyExistsError
  | packNotFoundError
  | packConflictError
  | registryNotFoundError
  | registryConflictError
  deriving DecidableEq

/-- What a failure is. -/
inductive FailureKind where
  | nodeNotFoundError
  | nodeNameConflictError
  | auditWriteError
  | credentialDecryptionError
  | connectionFailedError
  /-- Any other error of the domain. -/
  | domain (cls : DomainErrorClass)
  /-- Any other exception. -/
  | other
  deriving DecidableEq

/-- An exception with its `str`. -/
structure NodeFailure where
  kind : FailureKind
  text : String
  deriving DecidableEq

/-- The literal of a status. -/
def NodeStatus.text : NodeStatus → String
  | .active => "active"
  | .unreachable => "unreachable"
  | .error => "error"

/-- The literal of a connection type. -/
def ConnectionType.text : ConnectionType → String
  | .ssh => "ssh"

/-- `NodeViewDTO`. -/
structure NodeViewDTO where
  id : Uuid
  name : String
  endpoint : NodeEndpoint
  status : NodeStatus
  username : Option String
  tags : List (Option String)
  createdAt : DateTime
  updatedAt : DateTime

/-- `NodeCreateDTO`. -/
structure NodeCreateDTO where
  name : String
  endpoint : NodeEndpoint
  credentials : NodeCredentials
  tags : List String

/-- One entry of the changes that `NodeUpdate` lets through: a field that was set,
with its value or `None`. -/
inductive NodeChange where
  | name (value : Option String)
  | host (value : Option String)
  | port (value : Option Int)
  | connectionType (value : Option ConnectionType)
  | status (value : Option NodeStatus)
  | username (value : Option String)
  | password (value : Option String)
  | sshKey (value : Option String)
  | passphrase (value : Option String)
  | dockerHost (value : Option String)
  | hasDocker (value : Option Bool)
  | tags (value : Option (List (Option String)))
  | description (value : Option String)

/-- The key of an entry. -/
def NodeChange.field : NodeChange → String
  | .name _ => "name"
  | .host _ => "host"
  | .port _ => "port"
  | .connectionType _ => "connection_type"
  | .status _ => "status"
  | .username _ => "username"
  | .password _ => "password"
  | .sshKey _ => "ssh_key"
  | .passphrase _ => "passphrase"
  | .dockerHost _ => "docker_host"
  | .hasDocker _ => "has_docker"
  | .tags _ => "tags"
  | .description _ => "description"

/-- An optional text as JSON. -/
abbrev jsonText (o : Option String) : Json := o.elim .null .str

/-- The value of an entry, with a tuple as a list. -/
def NodeChange.value : NodeChange → Json
  | .name o | .host o | .username o | .password o | .sshKey o | .passphrase o | .dockerHost o
  | .description o => jsonText o
  | .port o => o.elim .null .int
  | .connectionType o => jsonText (o.map ConnectionType.text)
  | .status o => jsonText (o.map NodeStatus.text)
  | .hasDocker o => o.elim .null .bool
  | .tags o => o.elim .null fun ts => .list (ts.map jsonText)

/-- `NodeUpdateDTO`: the items of a dictionary. -/
structure NodeUpdateDTO where
  changes : List NodeChange
  fields_nodup : (changes.map (·.field)).Nodup

/-- `AuditEventDTO`. -/
structure AuditEventDTO where
  action : String
  nodeId : Option Uuid
  user : Option String
  details : Option Json.Fields

/-- `NodeStatusSource`. -/
inductive NodeStatusSource where
  | connectivityCheck
  | manualUpdate
  deriving DecidableEq

/-- `NodeStatusChangeDTO`. -/
structure NodeStatusChangeDTO where
  nodeId : Uuid
  oldStatus : Option String
  newStatus : String
  source : NodeStatusSource
  deriving DecidableEq

/-- The arguments of `create_ssh`. -/
structure SshConnector where
  host : String
  port : Int
  username : Option String
  password : Option String
  sshKey : Option String
  passphrase : Option String
  timeout : Option Int

/-- What a remote command left. -/
structure SshOutput where
  stdout : String
  stderr : String
  exitCode : Int

/-- `CommandHistoryCreateDTO`, without the moments and the batch. -/
structure CommandHistoryCreateDTO where
  nodeId : Uuid
  commandFingerprint : String
  exitCode : Int
  stdout : String
  stderr : String
  stdoutBytes : Nat
  stderrBytes : Nat
  truncated : Bool
  commandId : Option Uuid

/-! ## Requests -/

/-- What a service awaits.  The requests of bulk operations also say which of the
concurrent tasks asks, so that an environment can answer each in its own way. -/
inductive Request where
  /-- `KnownHostsManager.ensure_host`. -/
  | ensureHost (host : String) (port : Int)
  /-- `CredentialCipher.encrypt`. -/
  | encrypt (value : String)
  /-- `CredentialCipher.decrypt`. -/
  | decrypt (task : Nat) (value : Option String)
  /-- `NodeManagementReader.get_node`. -/
  | getNode (id : Uuid)
  /-- `NodeManagementWriter.create_node`. -/
  | createNode (data : NodeCreateDTO)
  /-- `NodeManagementWriter.update_node`. -/
  | updateNode (id : Uuid) (changes : List NodeChange)
  /-- `NodeManagementWriter.delete_node`. -/
  | deleteNode (id : Uuid)
  /-- `NodeStatusWriter.update_node_status`. -/
  | updateNodeStatus (task : Nat) (id : Uuid) (status : NodeStatus)
  /-- `NodeStatusHistoryWriter.save`. -/
  | saveStatusChange (task : Nat) (data : NodeStatusChangeDTO)
  /-- `NodeBulkOperator.bulk_add_tags`. -/
  | bulkAddTags (ids : List Uuid) (tags : List String)
  /-- `NodeBulkOperator.bulk_remove_tags`. -/
  | bulkRemoveTags (ids : List Uuid) (tags : List String)
  /-- `enqueue` of the required outbox. -/
  | enqueueRequired (event : AuditEventDTO)
  /-- `enqueue` of the optional outbox. -/
  | enqueueOptional (event : AuditEventDTO)
  /-- `NodeConnectionReader.get_connection`. -/
  | getConnection (id : Uuid)
  /-- The queries of `resolve_targets`. -/
  | targets (ids : List Uuid) (tags : List String)
  /-- A session of a connector with one command, from opening to closing. -/
  | execute (task : Nat) (connector : SshConnector) (command : String)
  /-- `CommandHistoryWriter.save`. -/
  | saveHistory (task : Nat) (record : CommandHistoryCreateDTO)

/-- What a request is answered with. -/
abbrev Answer : Request → Type
  | .ensureHost .. => Unit
  | .encrypt .. => String
  | .decrypt .. => Option String
  | .getNode .. => Option NodeViewDTO
  | .createNode .. => NodeViewDTO
  | .updateNode .. => Option NodeViewDTO
  | .deleteNode .. => Bool
  | .updateNodeStatus .. => Option NodeViewDTO
  | .saveStatusChange .. => Unit
  | .bulkAddTags .. => List Uuid
  | .bulkRemoveTags .. => List Uuid
  | .enqueueRequired .. => Unit
  | .enqueueOptional .. => Unit
  | .getConnection .. => Option NodeConnectionDTO
  | .targets .. => List NodeConnectionDTO
  | .execute .. => SshOutput
  | .saveHistory .. => Unit

/-- A service that asks these requests. -/
abbrev Service (α : Type) : Type := Program Answer NodeFailure α

/-- One request of a service. -/
abbrev await (r : Request) : Service (Answer r) := Program.call r

/-- Which optional collaborators a service was given, and the text forms it uses. -/
structure Setting where
  audit : Bool
  statusHistoryWriter : Bool
  knownHosts : Bool
  historyWriter : Bool
  nodeViewReader : Bool
  statusWriter : Bool
  /-- `str` of a UUID. -/
  printUuid : Uuid → String
  /-- `UUID(text)`. -/
  parseUuid : String → Option Uuid
  /-- `command_fingerprint`. -/
  commandFingerprint : String → String

/-- `NodeNotFoundError(f"Node {node_id} not found")`. -/
def Setting.notFound (cfg : Setting) (id : Uuid) : NodeFailure :=
  ⟨.nodeNotFoundError, "Node " ++ cfg.printUuid id ++ " not found"⟩

/-! ## Audit events -/

/-- `_SENSITIVE_DETAIL_KEYS`. -/
def sensitiveDetailKeys : List String :=
  ["password", "ssh_key", "token", "api_key", "authorization", "command", "params", "stdout",
    "stderr"]

/-- `key.lower()`; the keys of details are ASCII. -/
def lowerKey (key : String) : String := String.ofList (key.toList.map Char.toLower)

/-- `sanitize_audit_details`. -/
def sanitizeAuditDetails (details : Json.Fields) : Json.Fields :=
  details.filter fun entry => decide (lowerKey entry.1 ∉ sensitiveDetailKeys)

/-- `AuditEventService._event`. -/
def auditEvent (action : String) (nodeId : Option Uuid) (user : Option String)
    (details : Option Json.Fields) : AuditEventDTO where
  action := action
  nodeId := nodeId
  user := user
  details := match details with
    | none => none
    | some [] => none
    | some fields => some (sanitizeAuditDetails fields)

/-- `AuditEventService.log`. -/
def logOptional (action : String) (nodeId : Option Uuid) (details : Option Json.Fields) :
    Service Unit := do
  let stored ← (await (.enqueueOptional (auditEvent action nodeId none details))).attempt
  match stored with
  | .ok _ => pure ()
  | .error _ => Program.raise ⟨.auditWriteError, "Audit event could not be persisted"⟩

/-- `AuditEventService.log_required`. -/
def logRequired (action : String) (nodeId : Option Uuid) (details : Option Json.Fields) :
    Service Unit := do
  let stored ← (await (.enqueueRequired (auditEvent action nodeId none details))).attempt
  match stored with
  | .ok _ => pure ()
  | .error _ => Program.raise ⟨.auditWriteError, "Required audit event could not be committed"⟩

/-- `NodeManagementService._log_required`. -/
def Setting.logRequired (cfg : Setting) (action : String) (nodeId : Option Uuid)
    (details : Option Json.Fields) : Service Unit :=
  if cfg.audit then Node.logRequired action nodeId details else pure ()

/-! ## `NodeManagementService` -/

/-- `_encrypt_value` of a text: one that is not empty is encrypted. -/
def encryptValue : Option String → Service (Option String)
  | none => pure none
  | some s =>
      if s = "" then pure (some s)
      else do
        let token : String ← await (.encrypt s)
        pure (some token)

theorem encryptValue_some (s : String) : encryptValue (some s) =
    if s = "" then pure (some s) else await (.encrypt s) >>= fun token => pure (some token) :=
  rfl

/-- A change as it is stored: the fields of `_SENSITIVE_FIELDS` are encrypted. -/
def secureChange : NodeChange → Service NodeChange
  | .password o => do
      let o ← encryptValue o
      pure (.password o)
  | .sshKey o => do
      let o ← encryptValue o
      pure (.sshKey o)
  | .passphrase o => do
      let o ← encryptValue o
      pure (.passphrase o)
  | change => pure change

/-- The changes as they are stored. -/
def secureChanges : List NodeChange → Service (List NodeChange)
  | [] => pure []
  | change :: changes => do
      let secured ← secureChange change
      let rest ← secureChanges changes
      pure (secured :: rest)

/-- The host key of a new node is fetched, best effort. -/
def fetchHostKey (cfg : Setting) (host : String) (port : Int) : Service Unit :=
  if cfg.knownHosts then do
    let _ ← (await (.ensureHost host port)).attempt
    pure ()
  else pure ()

/-- `create_node`. -/
def createNode (cfg : Setting) (data : NodeCreateDTO) : Service NodeViewDTO := do
  fetchHostKey cfg data.endpoint.host data.endpoint.port
  let password ← encryptValue data.credentials.password
  let sshKey ← encryptValue data.credentials.sshKey
  let passphrase ← encryptValue data.credentials.passphrase
  let secured := { data with
    credentials := ⟨data.credentials.username, password, sshKey, passphrase⟩ }
  let node : NodeViewDTO ← await (.createNode secured)
  cfg.logRequired "create" (some node.id) (some [("name", .str data.name)])
  pure node

/-- `changes_dict.get("host")`, if it is a text. -/
def hostOf (changes : List NodeChange) : Option String :=
  let set : Option (Option String) := changes.findSome? fun
    | .host o => some o
    | _ => none
  set.join

/-- `changes_dict.get("port")`, if it is a number. -/
def portOf (changes : List NodeChange) : Option Int :=
  let set : Option (Option Int) := changes.findSome? fun
    | .port o => some o
    | _ => none
  set.join

/-- The part of `update_node` that makes the host key known: best effort, but the
current node is read outside the `try`. -/
def ensureKnownHost (cfg : Setting) (nodeId : Uuid) (changes : List NodeChange) : Service Unit :=
  if cfg.knownHosts = false ∨ (hostOf changes).isNone ∧ (portOf changes).isNone then pure ()
  else do
    let current : Option NodeViewDTO ← await (.getNode nodeId)
    match (hostOf changes).or (current.map (·.endpoint.host)),
        (portOf changes).or (current.map (·.endpoint.port)) with
    | some host, some port => fetchHostKey cfg host port
    | _, _ => pure ()

/-- Where docker is disabled, `docker_host` is cleared unless it is set. -/
def clearDockerHost (changes : List NodeChange) : List NodeChange :=
  if changes.any (fun c => match c with
      | .hasDocker (some false) => true
      | _ => false) ∧ "docker_host" ∉ changes.map (·.field) then
    changes ++ [.dockerHost none]
  else changes

theorem nodup_clearDockerHost {changes : List NodeChange} (h : (changes.map (·.field)).Nodup) :
    ((clearDockerHost changes).map (·.field)).Nodup := by
  unfold clearDockerHost
  split
  · rename_i hclear
    rw [List.map_append]
    exact List.nodup_append'.2 ⟨h, List.nodup_singleton _, List.disjoint_singleton.2 hclear.2⟩
  · exact h

/-- When the docker host is cleared. -/
theorem clearDockerHost_cases (changes : List NodeChange) :
    (NodeChange.hasDocker (some false) ∈ changes ∧ "docker_host" ∉ changes.map (·.field)) ∧
        clearDockerHost changes = changes ++ [.dockerHost none] ∨
      ¬(NodeChange.hasDocker (some false) ∈ changes ∧ "docker_host" ∉ changes.map (·.field)) ∧
        clearDockerHost changes = changes := by
  have hany : (changes.any fun c => match c with
      | .hasDocker (some false) => true
      | _ => false) = true ↔ NodeChange.hasDocker (some false) ∈ changes := by
    rw [List.any_eq_true]
    constructor
    · rintro ⟨c, hc, hmatch⟩
      split at hmatch
      · exact hc
      · cases hmatch
    · exact fun hc => ⟨_, hc, rfl⟩
  unfold clearDockerHost
  split
  · rename_i hclear
    exact .inl ⟨⟨hany.1 hclear.1, hclear.2⟩, rfl⟩
  · rename_i hkeep
    exact .inr ⟨fun h => hkeep ⟨hany.2 h.1, h.2⟩, rfl⟩

/-- What the service adds to the changes of a request clears the docker host. -/
theorem mem_clearDockerHost {changes : List NodeChange} {c : NodeChange} :
    c ∈ clearDockerHost changes ↔ c ∈ changes ∨ c = .dockerHost none ∧
      NodeChange.hasDocker (some false) ∈ changes ∧ "docker_host" ∉ changes.map (·.field) := by
  rcases clearDockerHost_cases changes with ⟨h, heq⟩ | ⟨h, heq⟩
  · rw [heq, List.mem_append, List.mem_singleton]
    exact or_congr Iff.rfl ⟨fun hc => ⟨hc, h⟩, fun hc => hc.1⟩
  · rw [heq]
    exact ⟨.inl, fun hc => hc.resolve_right fun hc => h hc.2⟩

/-- `str(value)` of the entry for the status. -/
def newStatusOf (changes : List NodeChange) : Option String :=
  changes.findSome? fun
    | .status o => some (o.elim "None" NodeStatus.text)
    | _ => none

/-- The status of the node before a change; `None` where it cannot be read. -/
def readOldStatus (read : Bool) (nodeId : Uuid) : Service (Option String) :=
  if read = false then pure none
  else do
    let current : Except NodeFailure (Option NodeViewDTO) ← (await (.getNode nodeId)).attempt
    match current with
    | .ok (some node) => pure (some node.status.text)
    | .ok none => pure none
    | .error _ => pure none

/-- The entry of the history is written where the status has changed, best effort. -/
def saveStatusChange (task : Nat) (write : Bool) (change : NodeStatusChangeDTO) : Service Unit :=
  if write = true ∧ change.oldStatus ≠ some change.newStatus then do
    let _ ← (await (.saveStatusChange task change)).attempt
    pure ()
  else pure ()

/-- The history of an update that sets a status. -/
def saveManualUpdate (cfg : Setting) (nodeId : Uuid) (oldStatus : Option String) :
    Option String → Service Unit
  | none => pure ()
  | some newStatus =>
      saveStatusChange 0 cfg.statusHistoryWriter ⟨nodeId, oldStatus, newStatus, .manualUpdate⟩

/-- The details of the audit event of an update. -/
def updateDetails (changes : List NodeChange) : Json.Fields :=
  changes.map fun change => (change.field, change.value)

/-- `update_node`. -/
def updateNode (cfg : Setting) (nodeId : Uuid) (data : NodeUpdateDTO) : Service NodeViewDTO := do
  ensureKnownHost cfg nodeId data.changes
  let secured ← secureChanges (clearDockerHost data.changes)
  let oldStatus ← readOldStatus (newStatusOf secured).isSome nodeId
  cfg.logRequired "update" (some nodeId) (some (updateDetails secured))
  let updated : Option NodeViewDTO ← await (.updateNode nodeId secured)
  match updated with
  | none => Program.raise (cfg.notFound nodeId)
  | some node => do
      saveManualUpdate cfg nodeId oldStatus (newStatusOf secured)
      pure node

/-- `delete_node`. -/
def deleteNode (cfg : Setting) (nodeId : Uuid) : Service Bool := do
  let node : Option NodeViewDTO ← await (.getNode nodeId)
  match node with
  | none => Program.raise (cfg.notFound nodeId)
  | some _ => do
      cfg.logRequired "delete" (some nodeId) none
      let _ ← await (.deleteNode nodeId)
      pure true

/-- The tags of a node are overwritten. -/
def overwriteTags (cfg : Setting) (nodeId : Uuid) (tags : List (Option String)) :
    Service NodeViewDTO := do
  let updated : Option NodeViewDTO ← await (.updateNode nodeId [.tags (some tags)])
  match updated with
  | none => Program.raise (cfg.notFound nodeId)
  | some node => pure node

/-- The end of `add_tag` and of `remove_tag`. -/
def writeTags (cfg : Setting) (action : String) (nodeId : Uuid) (tag : String)
    (tags : List (Option String)) : Service NodeViewDTO := do
  cfg.logRequired action (some nodeId) (some [("tag", .str tag)])
  overwriteTags cfg nodeId tags

/-- `add_tag`. -/
def addTag (cfg : Setting) (nodeId : Uuid) (tag : String) : Service NodeViewDTO := do
  let node : Option NodeViewDTO ← await (.getNode nodeId)
  match node with
  | none => Program.raise (cfg.notFound nodeId)
  | some node =>
      if some tag ∈ node.tags then pure node
      else writeTags cfg "add_tag" nodeId tag (node.tags ++ [some tag])

/-- `remove_tag`; `list.remove` takes the first occurrence out. -/
def removeTag (cfg : Setting) (nodeId : Uuid) (tag : String) : Service NodeViewDTO := do
  let node : Option NodeViewDTO ← await (.getNode nodeId)
  match node with
  | none => Program.raise (cfg.notFound nodeId)
  | some node =>
      if some tag ∈ node.tags then
        writeTags cfg "remove_tag" nodeId tag (node.tags.erase (some tag))
      else pure node

end Node
end NodeNexus
