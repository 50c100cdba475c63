import NodeNexus.Lib.Critical
import NodeNexus.Command.Handlers
import NodeNexus.Command.Outcomes

/-!
# The session of a request

The optional events of a request are written through its one session, each inside a
savepoint.  The bulk handlers gather whole use cases, each of which writes such events.

* `outboxSection` — `RequestAuditOutbox.enqueue` as a critical section: the savepoint, the
  flush, and the release or the rollback.
* `Gathered` — the tasks that a handler gathers.
* `session_exclusive_iff` — no two tasks use the session at once, in every interleaving,
  exactly where no events are written or one task at most is gathered.
-/

namespace NodeNexus
namespace Command

open Content Node Critical
open NodeNexus.Core

/-! ## The operations of `enqueue` -/

/-- Where a call of `RequestAuditOutbox.enqueue` awaits. -/
inductive SavepointStage where
  /-- `begin_nested()`, entered. -/
  | beginning
  /-- `flush()`, after `add`. -/
  | flushing
  /-- The release of the savepoint. -/
  | releasing
  /-- The rollback to the savepoint, with the exception that left its block. -/
  | rollingBack (e : NodeFailure)

/-- What follows an operation on the session. -/
def SavepointStage.next : SavepointStage → Except NodeFailure Unit →
    SavepointStage ⊕ Except NodeFailure Unit
  | .beginning, .ok _ => .inl .flushing
  | .beginning, .error e => .inr (.error e)
  | .flushing, .ok _ => .inl .releasing
  | .flushing, .error e => .inl (.rollingBack e)
  | .releasing, x => .inr x
  | .rollingBack e, .ok _ => .inr (.error e)
  | .rollingBack _, .error e => .inr (.error e)

/-- The events that are written through the session of the request: the optional ones. -/
def usesSession : (r : CommandRequest) → Option (Unit → CommandAnswer r)
  | .service _ (.enqueueOptional _) => some fun _ => ()
  | _ => none

/-- `RequestAuditOutbox.enqueue` on the session that all tasks share. -/
def outboxSection : Section CommandAnswer NodeFailure SavepointStage where
  enters := usesSession
  first := .beginning
  next := SavepointStage.next

instance : Inhabited NodeFailure := ⟨⟨.other, ""⟩⟩

/-! ## Gathered tasks -/

/-- The tasks that `bulk_executions` gathers. -/
def executionTasks (cfg : Setting) (unicode : Unicode) (data : CommandExecutionsRequest) :
    List (Endpoint (List BulkExecutionItem)) :=
  if exceedsLimit data.commandIds.length data.nodeIds data.nodeTags then []
  else data.commandIds.zipIdx.map fun (id, item) => executeOne cfg unicode data item id

/-- The tasks that `bulk_raw_executions` gathers. -/
def rawExecutionTasks (cfg : Setting) (data : RawExecutionsRequest) :
    List (Endpoint (List BulkExecutionItem)) :=
  if exceedsLimit data.commands.length data.nodeIds data.nodeTags then []
  else data.commands.zipIdx.map fun (command, item) => executeRaw cfg data item command

/-- The tasks that `bulk_create_scripts` gathers. -/
def scriptTasks (cfg : Setting) (items : List ScriptCreate) : List (Endpoint BulkCreateResult) :=
  items.zipIdx.map fun (i, item) => createOne (some i.name) do
    let created ← createScript cfg item i.dto
    pure (created.id, some created.name)

/-- The handlers gather these tasks, after the id of the batch and the guard. -/
theorem handlers_gather (cfg : Setting) (unicode : Unicode) (data : CommandExecutionsRequest)
    (raw : RawExecutionsRequest) (items : List ScriptCreate) :
    bulkExecutions cfg unicode data = (do
      let batchId : Uuid ← ask (.uuid4 none)
      if exceedsLimit data.commandIds.length data.nodeIds data.nodeTags then
        pure (.refused "M×N must be ≤100")
      else do
        let nested ← Program.gather (executionTasks cfg unicode data)
        pure (batchReply batchId nested.flatten)) ∧
    bulkRawExecutions cfg raw = (do
      let batchId : Uuid ← ask (.uuid4 none)
      if exceedsLimit raw.commands.length raw.nodeIds raw.nodeTags then
        pure (.refused "M×N must be ≤100")
      else do
        let nested ← Program.gather (rawExecutionTasks cfg raw)
        pure (batchReply batchId nested.flatten)) ∧
    bulkCreateScripts cfg items = (do
      let results ← Program.gather (scriptTasks cfg items)
      pure (bulkResultOf 201 results)) := by
  refine ⟨?_, ?_, rfl⟩
  · unfold bulkExecutions executeItems executionTasks
    refine congrArg _ (funext fun batchId => ?_)
    split
    · rfl
    · rfl
  · unfold bulkRawExecutions executeItems rawExecutionTasks
    refine congrArg _ (funext fun batchId => ?_)
    split
    · rfl
    · rfl

/-- **The session is used by one task at a time**, in every interleaving of the tasks and
whatever the environment answers. -/
def SessionExclusive {α : Type} (tasks : List (Endpoint α)) : Prop :=
  ∀ ts, (system outboxSection tasks).Reachable ts → Exclusive ts

/-! ## Without events -/

section Quiet

variable {α : Type} {cfg : Setting} {unicode : Unicode} {item : Nat}

/-- An endpoint that never uses the session. -/
abbrev LeavesSession (p : Endpoint α) : Prop := p.Asks fun r => (usesSession r).isSome = false

/-- A request of a service that writes no optional event. -/
def WritesNoEvent (r : Request) : Prop := ∀ event, r ≠ .enqueueOptional event

theorem leaves_ofService {batch : Option Uuid} {p : Service α} (hp : p.Asks WritesNoEvent) :
    LeavesSession (ofService item batch p) := by
  induction hp with
  | done a => exact .done a
  | raise e => exact .raise e
  | @ask r k hr _ ih =>
      rw [ofService]
      cases r with
      | enqueueOptional event => exact absurd rfl (hr event)
      | _ => exact .ask rfl fun x => ih x

theorem leaves_executeBatch (haudit : ¬ cfg.audit = true) (data : BulkCommandRequestDTO) :
    LeavesSession (executeBatch cfg item data) := by
  have htargets : LeavesSession (ask (.service item (.targets data.nodeIds data.tags))) :=
    .call rfl
  refine htargets.bind fun nodes => ?_
  cases nodes with
  | nil => exact .raise _
  | cons node nodes =>
      have hdrawn : LeavesSession (ask (.uuid4 (some item))) := .call rfl
      exact hdrawn.bind fun batch => leaves_ofService (asks_executeOn (fun _ _ => nofun)
        (fun _ _ => nofun) (fun _ _ => nofun) (fun _ => nofun) (fun h => absurd h haudit) _)

theorem leaves_raised (x : Except NodeFailure α) : LeavesSession (raised x) := by
  cases x with
  | ok a => exact .done a
  | error e => exact .raise e

theorem leaves_executeOne (haudit : ¬ cfg.audit = true) (data : CommandExecutionsRequest)
    (item : Nat) (commandId : Uuid) : LeavesSession (executeOne cfg unicode data item commandId) := by
  have hget : LeavesSession (getCommand cfg item commandId) := by
    have hfound : LeavesSession (ask (.getCommand item commandId)) := .call rfl
    refine hfound.bind fun command => ?_
    cases command with
    | none => exact .raise _
    | some command => exact .done command
  have htry : LeavesSession (tryCommand cfg unicode data item commandId) := by
    refine hget.bind fun cmd => (leaves_raised _).bind fun rendered => ?_
    exact (leaves_executeBatch haudit _).bind fun result => .done _
  exact htry.attempt.bind fun outcome => .done _

theorem leaves_executeRaw (haudit : ¬ cfg.audit = true) (data : RawExecutionsRequest)
    (item : Nat) (command : String) : LeavesSession (executeRaw cfg data item command) := by
  have htry : LeavesSession (tryRaw cfg data item command) :=
    (leaves_executeBatch haudit _).bind fun result => .done _
  exact htry.attempt.bind fun outcome => .done _

theorem leaves_createScript (haudit : ¬ cfg.audit = true) (item : Nat) (i : ScriptCreate) :
    LeavesSession (createOne (some i.name) do
      let created ← createScript cfg item i.dto
      pure (created.id, some created.name)) := by
  have hscript : LeavesSession (createScript cfg item i.dto) := by
    have hwrite : LeavesSession (ask (.createScript item i.dto)) := .call rfl
    refine hwrite.bind fun script => ?_
    exact (leaves_ofService (asks_log (fun h => absurd h haudit) ..)).bind fun _ => .done _
  have hcreates : LeavesSession (do
      let created ← createScript cfg item i.dto
      pure (created.id, some created.name)) := hscript.bind fun created => .done _
  exact hcreates.attempt.bind fun outcome => .done _

end Quiet

/-! ## With events -/

/-- Everything is found and goes well. -/
def obliging : Answers
  | .service _ (.targets ..) => .ok [(fleetNode 0).toConnectionDto]
  | .service _ (.decrypt _ value) => .ok value
  | .service _ (.enqueueRequired _) => .ok ()
  | .service _ (.execute ..) => .ok ⟨"ok", "", 0⟩
  | .saveRecord .. => .ok ()
  | .uuid4 _ => .ok 0
  | .getCommand _ id => .ok (some ⟨id, "", none, "", [], [], 30⟩)
  | .createScript _ data => .ok ⟨0, data.name, data.description, data.steps, data.tags.map some,
      data.timeout⟩
  | _ => .error ⟨.other, ""⟩

section Writing

variable {cfg : Setting} {unicode : Unicode} {item : Nat}

/-- What is noted of the session. -/
abbrev sessionNote : Note Unit := outboxSection.note

theorem noted_log_ne_nil (haudit : cfg.audit = true) {batch : Option Uuid} (action : String)
    (nodeId : Option Uuid) (details : Json.Fields) :
    Program.noted (partNote sessionNote item batch) (partAnswers obliging item batch)
      (cfg.log action nodeId details) ≠ [] := by
  unfold Setting.log
  rw [if_pos haudit]
  refine Program.noted_bind_ne_nil_left ?_
  rw [Program.noted_attempt, Program.noted_call]
  exact List.cons_ne_nil _ _

theorem requestsOutcome_obliging (command : String) (nodes : List NodeConnectionDTO) :
    requestsOutcome cfg obliging item command nodes = .ok () := by
  induction nodes with
  | nil => rfl
  | cons node nodes ih =>
      have hstored : requiredOutcome cfg obliging item "bulk_execute.requested" (some node.id)
          (some [("command_fingerprint", .str (cfg.commandFingerprint command))]) = .ok () := by
        unfold requiredOutcome
        split <;> rfl
      rw [requestsOutcome, hstored]
      exact ih

theorem noted_executeBatch_ne_nil (haudit : cfg.audit = true) (data : BulkCommandRequestDTO) :
    Program.noted sessionNote obliging (executeBatch cfg item data) ≠ [] := by
  unfold executeBatch
  refine Program.noted_bind_ne_nil_right (Program.answered_call _) ?_
  refine Program.noted_bind_ne_nil_right (Program.answered_call _) ?_
  rw [noted_ofService]
  unfold executeOn
  rw [if_neg (List.cons_ne_nil _ _)]
  refine Program.noted_bind_ne_nil_right
    ((answered_logRequested ..).trans (requestsOutcome_obliging ..)) ?_
  refine Program.noted_bind_ne_nil_right (a := [⟨(fleetNode 0).toConnectionDto.id,
    (fleetNode 0).toConnectionDto.name, "ok", "", 0⟩]) rfl ?_
  refine Program.noted_bind_ne_nil_right (a := ()) ?_ ?_
  · unfold saveHistory
    split <;> rfl
  · refine Program.noted_bind_ne_nil_left (Program.noted_bind_ne_nil_left ?_)
    rw [Program.noted_attempt]
    exact noted_log_ne_nil haudit _ _ _

theorem reaches_executeOne (haudit : cfg.audit = true) (data : CommandExecutionsRequest)
    (item : Nat) (commandId : Uuid) : Reaches outboxSection (executeOne cfg unicode data item commandId) := by
  refine reaches_of_noted obliging (Program.noted_bind_ne_nil_left ?_)
  rw [Program.noted_attempt]
  unfold tryCommand
  refine Program.noted_bind_ne_nil_right (a := ⟨commandId, "", none, "", [], [], 30⟩) rfl ?_
  refine Program.noted_bind_ne_nil_right (a := "") rfl ?_
  exact Program.noted_bind_ne_nil_left (noted_executeBatch_ne_nil haudit _)

theorem reaches_executeRaw (haudit : cfg.audit = true) (data : RawExecutionsRequest)
    (item : Nat) (command : String) : Reaches outboxSection (executeRaw cfg data item command) := by
  refine reaches_of_noted obliging (Program.noted_bind_ne_nil_left ?_)
  rw [Program.noted_attempt]
  exact Program.noted_bind_ne_nil_left (noted_executeBatch_ne_nil haudit _)

theorem reaches_createScript (haudit : cfg.audit = true) (item : Nat) (i : ScriptCreate) :
    Reaches outboxSection (createOne (some i.name) do
      let created ← createScript cfg item i.dto
      pure (created.id, some created.name)) := by
  refine reaches_of_noted obliging (Program.noted_bind_ne_nil_left ?_)
  rw [Program.noted_attempt]
  refine Program.noted_bind_ne_nil_left ?_
  unfold createScript
  refine Program.noted_bind_ne_nil_right (Program.answered_call _) ?_
  refine Program.noted_bind_ne_nil_left ?_
  rw [noted_ofService]
  exact noted_log_ne_nil haudit _ _ _

end Writing

/-! ## Where the session is used by one task at a time -/

section Exclusive

variable {α : Type} {cfg : Setting} {unicode : Unicode}

/-- Tasks that all write events, or all write none. -/
theorem sessionExclusive_tasks {tasks : List (Endpoint α)}
    (hquiet : ¬ cfg.audit = true → ∀ p ∈ tasks, LeavesSession p)
    (hwrites : cfg.audit = true → ∀ p ∈ tasks, Reaches outboxSection p) :
    SessionExclusive tasks ↔ cfg.audit = false ∨ tasks.length ≤ 1 := by
  unfold SessionExclusive
  rw [exclusive_iff]
  constructor
  · intro h
    by_cases haudit : cfg.audit = true
    · right
      by_contra hlength
      have hfirst : 0 < tasks.length := by omega
      have hsecond : 1 < tasks.length := by omega
      have hsame := h 0 1 tasks[0] tasks[1] (List.getElem?_eq_getElem hfirst)
        (List.getElem?_eq_getElem hsecond) (hwrites haudit _ (List.getElem_mem hfirst))
        (hwrites haudit _ (List.getElem_mem hsecond))
      omega
    · left
      exact Bool.eq_false_iff.2 haudit
  · intro h i j p q hi hj hp hq
    cases h with
    | inl haudit =>
        have hnone := hquiet (Bool.eq_false_iff.1 haudit) p (List.mem_of_getElem? hi)
        exact absurd hp (not_reaches_of_asks hnone)
    | inr hlength =>
        have hi' := (List.getElem?_eq_some_iff.1 hi).1
        have hj' := (List.getElem?_eq_some_iff.1 hj).1
        omega

/-- The same of tasks that are made of the items of a request. -/
theorem sessionExclusive_items {ι : Type} {items : List ι} {worker : Nat → ι → Endpoint α}
    (hquiet : ¬ cfg.audit = true → ∀ item i, LeavesSession (worker item i))
    (hwrites : cfg.audit = true → ∀ item i, Reaches outboxSection (worker item i)) :
    SessionExclusive (items.zipIdx.map fun (i, item) => worker item i) ↔
      cfg.audit = false ∨ items.length ≤ 1 := by
  have hlength : (items.zipIdx.map fun (i, item) => worker item i).length = items.length := by
    rw [List.length_map, List.length_zipIdx]
  rw [← hlength]
  apply sessionExclusive_tasks
  · intro h p hp
    obtain ⟨t, -, rfl⟩ := List.mem_map.1 hp
    exact hquiet h t.2 t.1
  · intro h p hp
    obtain ⟨t, -, rfl⟩ := List.mem_map.1 hp
    exact hwrites h t.2 t.1

/-- No tasks, no overlap. -/
theorem sessionExclusive_nil : SessionExclusive ([] : List (Endpoint α)) :=
  exclusive_iff.2 fun _ _ _ _ hi => nomatch hi

/-- **When the tasks of a bulk request keep off each other's session.**  In every interleaving,
exactly where no events are written or one task at most is gathered. -/
theorem session_exclusive_iff (cfg : Setting) (unicode : Unicode) (data : CommandExecutionsRequest)
    (raw : RawExecutionsRequest) (items : List ScriptCreate) :
    (SessionExclusive (executionTasks cfg unicode data) ↔ cfg.audit = false ∨
        exceedsLimit data.commandIds.length data.nodeIds data.nodeTags = true ∨
        data.commandIds.length ≤ 1) ∧
      (SessionExclusive (rawExecutionTasks cfg raw) ↔ cfg.audit = false ∨
        exceedsLimit raw.commands.length raw.nodeIds raw.nodeTags = true ∨
        raw.commands.length ≤ 1) ∧
      (SessionExclusive (scriptTasks cfg items) ↔ cfg.audit = false ∨ items.length ≤ 1) := by
  refine ⟨?_, ?_, ?_⟩
  · unfold executionTasks
    split
    · rename_i hexceeds
      exact iff_of_true sessionExclusive_nil (.inr (.inl hexceeds))
    · rename_i hwithin
      refine (sessionExclusive_items (fun h => leaves_executeOne h data)
        fun h => reaches_executeOne h data).trans ?_
      simp [hwithin]
  · unfold rawExecutionTasks
    split
    · rename_i hexceeds
      exact iff_of_true sessionExclusive_nil (.inr (.inl hexceeds))
    · rename_i hwithin
      refine (sessionExclusive_items (fun h => leaves_executeRaw h raw)
        fun h => reaches_executeRaw h raw).trans ?_
      simp [hwithin]
  · exact sessionExclusive_items leaves_createScript reaches_createScript

/-- Two commands on one node. -/
def twoCommands : RawExecutionsRequest where
  commands := ["uptime", "whoami"]
  nodeIds := [0]
  nodeTags := []
  timeout := none
  commands_ok := by decide
  timeout_ok := timeoutInRange_none

/-- The events of two commands overlap in the session. -/
theorem not_alwaysSessionExclusive :
    ¬ ∀ (cfg : Setting) (raw : RawExecutionsRequest),
      SessionExclusive (rawExecutionTasks cfg raw) := by
  intro h
  have htasks : rawExecutionTasks plainSetting twoCommands =
      twoCommands.commands.zipIdx.map fun (command, item) =>
        executeRaw plainSetting twoCommands item command := rfl
  have hexclusive := h plainSetting twoCommands
  rw [htasks, sessionExclusive_items (fun h => leaves_executeRaw h twoCommands)
    fun h => reaches_executeRaw h twoCommands] at hexclusive
  revert hexclusive
  decide

end Exclusive

end Command
end NodeNexus
