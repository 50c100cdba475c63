import Mathlib.Data.List.Sort
import NodeNexus.Lib.Json
import NodeNexus.Lib.Table
import NodeNexus.Lib.Transition
import NodeNexus.Content.Formats

/-!
# The audit outbox: the code

Audit events wait in `audit_outbox` until a worker writes them to `audit_logs`.
`run_once` is one transaction: it claims a batch of due events with
`FOR UPDATE SKIP LOCKED`, delivers each of them in a savepoint of its own, and
commits what became of all of them.

* `toAuditLog` and `deliver` are `_to_audit_log` and `_deliver`.
* `Pass` is a transaction of `run_once` that is open, with what it has written
  so far; nobody else sees this before it commits.
* `outboxSystem` lets any number of workers take turns, while events are
  enqueued, old logs are deleted and logs lose the node that is deleted.
* `OutboxStep` lists what can happen, and `outboxStep_of_step` says that this is all.
-/

namespace NodeNexus
namespace Audit

open Content

abbrev Time : Type := Nat

/-! ## Rows -/

/-- The values of `chk_audit_outbox_status`. -/
inductive Status where
  | pending
  | processing
  | completed
  | failed
  deriving DecidableEq

/-- `AuditOutboxModel`.  `lastAttempt` is no column: it is the time of the last
pass that has tried to deliver the event. -/
structure OutboxEvent where
  id : Uuid
  payload : Json
  status : Status
  attempts : Nat
  lastErrorType : Option String
  nextAttemptAt : Time
  createdAt : Time
  deliveredAt : Option Time
  lastAttempt : Option Time

/-- `AuditLogModel`. -/
structure AuditLog where
  id : Uuid
  nodeId : Option Uuid
  action : String
  user : Option String
  details : Option String
  createdAt : Time

/-- The log keeps its node only if this holds. -/
def AuditLog.keepNode (log : AuditLog) (keeps : Uuid → Bool) : AuditLog :=
  { log with nodeId := log.nodeId.filter keeps }

/-! ## Delivery -/

/-- `x is None or isinstance(x, str)`: the value that is stored. -/
def strOrNone : Json → Option (Option String)
  | .null => some none
  | .str s => some (some s)
  | _ => none

/-- The node of an audit log: `UUID(node_id) if node_id else None`, and nothing
when there is no such node. -/
def logNode (parseUuid : String → Option Uuid) (nodeExists : Uuid → Bool) :
    Option String → Except String (Option Uuid)
  | none => .ok none
  | some "" => .ok none
  | some nodeId =>
      match parseUuid nodeId with
      | some u => .ok (if nodeExists u then some u else none)
      | none => .error "ValueError"

/-- `_to_audit_log`; an error is the type of the exception. -/
def toAuditLog (parseUuid : String → Option Uuid) (nodeExists : Uuid → Bool) (now : Time)
    (eventId : Uuid) : Json → Except String AuditLog
  | .dict payload =>
      match strOrNone (Json.getD payload "node_id" .null) with
      | none => .error "ValueError"
      | some nodeId => do
          let parsed ← logNode parseUuid nodeExists nodeId
          match Json.getD payload "action" .null, strOrNone (Json.getD payload "user" .null),
              strOrNone (Json.getD payload "details" .null) with
          | .str action, some user, some details =>
              .ok ⟨eventId, parsed, action, user, details, now⟩
          | _, _, _ => .error "ValueError"
  | _ => .error "AttributeError"

/-- `min(300, 2 ** (attempts - 1))`. -/
def retryDelay (attempts : Nat) : Time :=
  min 300 (2 ^ (attempts - 1))

/-- What a savepoint makes of an event: the log it inserts, if any, or the type
of the exception.  `existing` says that there is such a log, `database` is what
the database raises when the log is inserted. -/
def insertLog (parseUuid : String → Option Uuid) (nodeExists : Uuid → Bool)
    (database : Option String) (now : Time) (existing : Bool) (event : OutboxEvent) :
    Except String (Option AuditLog) :=
  if existing then .ok none
  else match toAuditLog parseUuid nodeExists now event.id event.payload with
    | .error e => .error e
    | .ok log => match database with
      | some e => .error e
      | none => .ok (some log)

/-- The rest of `_deliver`, with what became of the savepoint. -/
def settle (maxAttempts : Nat) (now : Time) (event : OutboxEvent) :
    Except String (Option AuditLog) → OutboxEvent
  | .error e =>
      let event := { event with
        attempts := event.attempts + 1, lastErrorType := some e, lastAttempt := some now }
      if event.attempts ≥ maxAttempts then { event with status := .failed }
      else { event with nextAttemptAt := now + retryDelay event.attempts }
  | .ok _ => { event with
      attempts := event.attempts + 1
      status := .completed
      lastErrorType := none
      deliveredAt := some now
      lastAttempt := some now }

/-! ## Passes -/

/-- An open transaction of `run_once`: the events it has claimed and not tried
yet, the events it has tried, as it leaves them, and the logs it has inserted. -/
structure Pass where
  now : Time
  todo : List OutboxEvent
  tried : List OutboxEvent
  logs : List AuditLog

/-- The rows that the transaction has locked. -/
def Pass.locks (p : Pass) (id : Uuid) : Bool :=
  p.todo.any (fun e => e.id = id) || p.tried.any fun e => e.id = id

/-- The committed rows, and the open transaction of each worker.  `inserted`
are the ids of all audit logs that were ever inserted, in the order of the
commits. -/
structure OutboxState where
  events : Table OutboxEvent.id
  logs : Table AuditLog.id
  inserted : List Uuid
  workers : List (Option Pass)
  nextId : Uuid

/-- `SELECT … FOR UPDATE SKIP LOCKED`: the due events that nobody has locked,
the oldest ones first. -/
def OutboxState.claim (s : OutboxState) (now : Time) (batchSize : Nat) : List OutboxEvent :=
  ((s.events.rows.filter fun e => e.status = .pending && e.nextAttemptAt ≤ now &&
      !s.workers.any fun p => p.any fun p => p.locks e.id).insertionSort
    fun a b => a.createdAt ≤ b.createdAt).take batchSize

/-- An event as the transaction has left it. -/
def Pass.updated (p : Pass) (e : OutboxEvent) : OutboxEvent :=
  match p.tried.find? fun d => d.id = e.id with
  | some d => d
  | none => e

theorem Pass.updated_id (p : Pass) (e : OutboxEvent) : (p.updated e).id = e.id := by
  unfold Pass.updated
  split
  · rename_i d hd
    simpa using List.find?_some hd
  · rfl

/-- COMMIT. -/
def OutboxState.commit (s : OutboxState) (p : Pass) : OutboxState :=
  { s with
    events := s.events.mapRows p.updated p.updated_id
    logs := s.logs.putAll p.logs
    inserted := s.inserted ++ p.logs.map (·.id) }

/-- A transaction has inserted a log of the node, which it has locked by that. -/
def Pass.names (p : Pass) (nodeId : Uuid) : Bool :=
  p.logs.any fun log => log.nodeId = some nodeId

/-- What a worker does next. -/
inductive Action where
  /-- It opens a transaction and claims a batch. -/
  | claim (now : Time) (batchSize : Nat)
  /-- It tries the next event of its batch. -/
  | deliver (nodeExists : Uuid → Bool) (database : Option String) (at_ : Time)
  /-- Its batch is done, and it commits. -/
  | commit
  /-- It dies, or its transaction is rolled back. -/
  | die

/-- What happens. -/
inductive Event where
  | worker (i : Nat) (action : Action)
  /-- `_outbox_model`. -/
  | enqueue (now : Time) (payload : Json)
  /-- `delete_before`. -/
  | deleteBefore (cutoff : Time)
  /-- The transaction that deletes a node is committed; it waits for those that
  have inserted a log of the node, and its foreign key is `ON DELETE SET NULL`. -/
  | deleteNode (nodeId : Uuid)

section System

variable (parseUuid : String → Option Uuid) (maxAttempts : Nat)

/-- `_deliver` for the next event of a batch: `event` is tried, `rest` is left. -/
def OutboxState.deliver (s : OutboxState) (p : Pass) (event : OutboxEvent)
    (rest : List OutboxEvent) (nodeExists : Uuid → Bool) (database : Option String)
    (now : Time) : Pass :=
  let existing := (s.logs.find? event.id).isSome || p.logs.any fun l => l.id = event.id
  let result := insertLog parseUuid nodeExists database now existing event
  { p with
    todo := rest
    tried := settle maxAttempts p.now event result :: p.tried
    logs := match result with
      | .ok (some log) => log :: p.logs
      | _ => p.logs }

/-- What an action of a worker does to the committed rows and to its
transaction. -/
def Action.run (s : OutboxState) : Option Pass → Action → Option (OutboxState × Option Pass)
  | none, .claim now batchSize => some (s, some ⟨now, s.claim now batchSize, [], []⟩)
  | some p, .deliver nodeExists database now =>
      match p.todo with
      | [] => none
      | event :: rest =>
          some (s, some (s.deliver parseUuid maxAttempts p event rest nodeExists database now))
  | some p, .commit => if p.todo.isEmpty then some (s.commit p, none) else none
  | some _, .die => some (s, none)
  | _, _ => none

/-- The outbox, from empty tables and idle workers. -/
def outboxSystem : System OutboxState Event where
  init s := s.events = .empty ∧ s.logs = .empty ∧ s.inserted = [] ∧ ∀ p ∈ s.workers, p = none
  step s e :=
    match e with
    | .worker i action =>
        match s.workers[i]? with
        | none => none
        | some p => (action.run parseUuid maxAttempts s p).map fun next =>
            { next.1 with workers := s.workers.set i next.2 }
    | .enqueue now payload =>
        some { s with
          events := s.events.put ⟨s.nextId, payload, .pending, 0, none, now, now, none, none⟩
          nextId := s.nextId + 1 }
    | .deleteBefore cutoff =>
        some { s with logs := s.logs.keep fun l => cutoff ≤ l.createdAt }
    | .deleteNode nodeId =>
        if s.workers.any fun p => p.any (·.names nodeId) then none
        else some { s with
          logs := s.logs.mapRows (·.keepNode fun u => !decide (u = nodeId)) fun _ => rfl }

end System

/-! ## The steps, one by one -/

/-- What can happen, and what it does. -/
inductive OutboxStep (parseUuid : String → Option Uuid) (maxAttempts : Nat) (s : OutboxState) :
    Event → OutboxState → Prop
  | enqueue (now : Time) (payload : Json) :
      OutboxStep parseUuid maxAttempts s (.enqueue now payload)
        { s with
          events := s.events.put ⟨s.nextId, payload, .pending, 0, none, now, now, none, none⟩
          nextId := s.nextId + 1 }
  | deleteBefore (cutoff : Time) :
      OutboxStep parseUuid maxAttempts s (.deleteBefore cutoff)
        { s with logs := s.logs.keep fun l => cutoff ≤ l.createdAt }
  | deleteNode (nodeId : Uuid)
      (hfree : (s.workers.any fun p => p.any (·.names nodeId)) = false) :
      OutboxStep parseUuid maxAttempts s (.deleteNode nodeId)
        { s with
          logs := s.logs.mapRows (·.keepNode fun u => !decide (u = nodeId)) fun _ => rfl }
  | claim {i : Nat} (hi : s.workers[i]? = some none) (now : Time) (batchSize : Nat) :
      OutboxStep parseUuid maxAttempts s (.worker i (.claim now batchSize))
        { s with workers := s.workers.set i (some ⟨now, s.claim now batchSize, [], []⟩) }
  | deliver {i : Nat} {p : Pass} {event : OutboxEvent} {rest : List OutboxEvent}
      (hi : s.workers[i]? = some (some p)) (htodo : p.todo = event :: rest)
      (nodeExists : Uuid → Bool) (database : Option String) (now : Time) :
      OutboxStep parseUuid maxAttempts s (.worker i (.deliver nodeExists database now))
        { s with
          workers := s.workers.set i <| some <|
            s.deliver parseUuid maxAttempts p event rest nodeExists database now }
  | commit {i : Nat} {p : Pass} (hi : s.workers[i]? = some (some p)) (htodo : p.todo = []) :
      OutboxStep parseUuid maxAttempts s (.worker i .commit)
        { s.commit p with workers := s.workers.set i none }
  | die {i : Nat} {p : Pass} (hi : s.workers[i]? = some (some p)) :
      OutboxStep parseUuid maxAttempts s (.worker i .die)
        { s with workers := s.workers.set i none }

theorem outboxStep_of_step {parseUuid : String → Option Uuid} {maxAttempts : Nat}
    {s s' : OutboxState} {event : Event}
    (hstep : (outboxSystem parseUuid maxAttempts).step s event = some s') :
    OutboxStep parseUuid maxAttempts s event s' := by
  cases event with
  | enqueue now payload =>
      cases hstep
      exact .enqueue now payload
  | deleteBefore cutoff =>
      cases hstep
      exact .deleteBefore cutoff
  | deleteNode nodeId =>
      simp only [outboxSystem] at hstep
      split at hstep
      · cases hstep
      · rename_i hfree
        cases hstep
        exact .deleteNode nodeId (Bool.not_eq_true _ ▸ hfree)
  | worker i action =>
      simp only [outboxSystem] at hstep
      split at hstep
      · cases hstep
      · rename_i w hi
        obtain ⟨⟨t, w'⟩, hrun, rfl⟩ := Option.map_eq_some_iff.1 hstep
        unfold Action.run at hrun
        split at hrun
        · cases hrun
          exact .claim hi _ _
        · split at hrun
          · cases hrun
          · rename_i htodo
            cases hrun
            exact .deliver hi htodo _ _ _
        · split at hrun
          · rename_i htodo
            cases hrun
            exact .commit hi (List.isEmpty_iff.1 htodo)
          · cases hrun
        · cases hrun
          exact .die hi
        · cases hrun

end Audit
end NodeNexus
