import Mathlib.Logic.Function.Basic
import NodeNexus.Lib.Transition
import NodeNexus.Script.Run

/-!
# One execution of a script, and the calls that cancel it

`ScriptExecutionService.execute_script` creates one row per target, runs the
targets in child tasks (at most five at a time), and writes the results when
all of them are done.  `ExecutionLifecycleService.cancel_execution` cancels the
child task it finds in the registry, and then marks the row.  The two share
nothing but the registry and the rows, and every await of either is a point at
which the other may run.

* `ScriptRun` is the state of one `execute_script` and of all the calls of
  `cancel_execution` for its rows: the main coroutine (`MainState`), the child
  tasks (`ChildState`), the registry, the rows and the calls.
* `ScriptRun.step` is one stretch of code between two awaits, one landed write,
  or one thing the event loop does; `ExecutionStep` says once what each of them
  does, and the invariants are derived from it.
* `scriptSystem n` is the system for `n` targets.

How a child ends is the status `runRemote` computes for it.  The targets are
numbered, and the number stands for the execution id of the target's row.
-/

namespace NodeNexus
namespace Script

/-! ## Rows -/

/-- The `status` of a row of `script_executions`. -/
inductive ExecutionStatus where
  | pending
  | running
  | success
  | error
  | cancelled
  deriving DecidableEq

/-- Is the status a final one? -/
def ExecutionStatus.terminal : ExecutionStatus → Bool
  | pending | running => false
  | success | error | cancelled => true

/-- The status `execute_script` writes for the result of a target. -/
def TerminalStatus.toExecutionStatus : TerminalStatus → ExecutionStatus
  | success => .success
  | error => .error

/-- The rows of one execution, by target. -/
abbrev Rows : Type := Nat → Option ExecutionStatus

/-- `ScriptExecutionRepository.update` of the status: nothing happens when the
row is missing. -/
def Rows.update (rows : Rows) (i : Nat) (status : ExecutionStatus) : Rows :=
  Function.update rows i ((rows i).map fun _ => status)

/-! ## Tasks -/

/-- A child task `run(target)`. -/
inductive ChildState where
  /-- Not created yet. -/
  | absent
  /-- Waiting for the semaphore. -/
  | waiting
  /-- It has a slot and runs `_run_remote`. -/
  | running
  /-- `task.cancel()` was called, and the task has not ended yet; `slot` says
  whether it holds one of the slots. -/
  | cancelling (slot : Bool)
  /-- It returned a result with this status. -/
  | finished (status : TerminalStatus)
  /-- It ended with `CancelledError`. -/
  | cancelled
  deriving DecidableEq

/-- `task.done()`. -/
def ChildState.done : ChildState → Bool
  | finished _ | cancelled => true
  | _ => false

/-- Did the task return a result? -/
def ChildState.hasResult : ChildState → Bool
  | finished _ => true
  | _ => false

/-- Does the task hold a slot of the semaphore? -/
def ChildState.holdsSlot : ChildState → Bool
  | running => true
  | cancelling slot => slot
  | _ => false

/-- `task.cancel()`. -/
def ChildState.cancel : ChildState → ChildState
  | waiting => cancelling false
  | running => cancelling true
  | child => child

/-- How `execute_script` ended. -/
inductive Exit where
  /-- It returned the batch result. -/
  | returned
  /-- It raised `TimeoutError`. -/
  | timedOut
  /-- The `CancelledError` of a child escaped. -/
  | childCancelled
  /-- `create_execution` raised. -/
  | createRaised
  deriving DecidableEq

/-- Where `execute_script` is. -/
inductive MainState where
  /-- It awaits `create_execution` for target `k`. -/
  | creating (k : Nat)
  /-- It awaits `wait_for(gather(…))`. -/
  | gathering
  /-- The future of `gather` is done: a child was cancelled (`failed`), or all
  results are there; the coroutine has not run on yet. -/
  | gathered (failed : Bool)
  /-- The timeout has expired, the coroutine has not run on yet. -/
  | expiring
  /-- The `TimeoutError` branch, at target `k`. -/
  | timingOut (k : Nat)
  /-- The loop over the results, at target `k`. -/
  | settling (k : Nat)
  /-- It is over. -/
  | ended (exit : Exit)
  deriving DecidableEq

/-! ## Cancel calls -/

/-- Where a call of `cancel_execution` is. -/
inductive CancelState where
  /-- It is about to read the row. -/
  | reading
  /-- It has read a status that may be cancelled, and is about to write. -/
  | writing
  /-- The transaction is over; `result` is what the gateway returned. -/
  | returning (result : Bool)
  /-- It is over. -/
  | over
  deriving DecidableEq

/-- A call of `cancel_execution`. -/
structure CancelCall where
  /-- The target whose row it names. -/
  target : Nat
  /-- `task_cancelled`. -/
  taskCancelled : Bool
  /-- Was the row `running` when the call was made?  Only the statements look
  at this. -/
  wasRunning : Bool
  state : CancelState

/-! ## The whole -/

/-- One `execute_script` and the calls of `cancel_execution` for its rows. -/
structure ScriptRun where
  main : MainState
  child : Nat → ChildState
  /-- Is there an entry in the registry? -/
  registered : Nat → Bool
  rows : Rows
  calls : Nat → Option CancelCall
  /-- Has `cancel_execution` returned `True` for a row that was `running`? -/
  confirmed : Nat → Bool
  /-- Was a remote step started after that? -/
  stepAfter : Nat → Bool
  /-- Was a final status replaced by another one? -/
  overwritten : Bool

/-- `_SCRIPT_NODE_CONCURRENCY`. -/
def scriptNodeConcurrency : Nat := 5

/-- What can happen next. -/
inductive ScriptEvent where
  /-- `create_execution` returns. -/
  | created
  /-- `create_execution` raises. -/
  | createRaised
  /-- All rows are created, and `gather` starts the child tasks. -/
  | started
  /-- A child gets a slot, and is registered. -/
  | acquired (i : Nat)
  /-- A child starts a remote step. -/
  | stepStarted (i : Nat)
  /-- A child returns its result. -/
  | finished (i : Nat) (status : TerminalStatus)
  /-- A cancelled child ends with `CancelledError`. -/
  | childCancelled (i : Nat)
  /-- The `CancelledError` is lost to an exception raised while it passes (by
  `disconnect`, say), and the child returns a result. -/
  | swallowed (i : Nat)
  /-- `_cleanup_expired` drops a registry entry. -/
  | expired (i : Nat)
  /-- The last result is there, and the future of `gather` is done. -/
  | gathered
  /-- `execute_script` runs on after `gather`. -/
  | resumed
  /-- The timeout expires. -/
  | timeout
  /-- `execute_script` runs on into the `TimeoutError` branch. -/
  | timedOut
  /-- `update_execution` lands. -/
  | updated
  /-- `update_execution` raises; both loops log that and go on. -/
  | updateFailed
  /-- The loop is over. -/
  | loopEnded
  /-- `cancel_execution` is called. -/
  | cancelCalled (c i : Nat)
  /-- The gateway reads the row. -/
  | cancelRead (c : Nat)
  /-- The gateway's write commits. -/
  | cancelWritten (c : Nat)
  /-- The gateway raises. -/
  | cancelRaised (c : Nat)
  /-- `cancel_execution` returns, or raises `ExecutionNotFoundError`. -/
  | cancelReturned (c : Nat)
  deriving DecidableEq

namespace ScriptRun

/-- The state in which `execute_script` has loaded everything. -/
def initial : ScriptRun where
  main := .creating 0
  child _ := .absent
  registered _ := false
  rows _ := none
  calls _ := none
  confirmed _ := false
  stepAfter _ := false
  overwritten := false

/-- How many slots are taken. -/
def slotsTaken (s : ScriptRun) (n : Nat) : Nat :=
  ((List.range n).filter fun i => (s.child i).holdsSlot).length

/-- Write a status, and note when it replaces another final one. -/
def write (s : ScriptRun) (i : Nat) (status : ExecutionStatus) : ScriptRun :=
  { s with
    rows := s.rows.update i status
    overwritten := s.overwritten || match s.rows i with
      | some old => old.terminal && decide (old ≠ status)
      | none => false }

/-- Move a child task on. -/
def setChild (s : ScriptRun) (i : Nat) (child : ChildState) : ScriptRun :=
  { s with child := Function.update s.child i child }

/-- A child task is done, and its callback has removed the registry entry. -/
def endChild (s : ScriptRun) (i : Nat) (child : ChildState) : ScriptRun :=
  { s.setChild i child with registered := Function.update s.registered i false }

/-- `cancel_execution_task`: does it find a task to cancel? -/
def cancelsTask (s : ScriptRun) (i : Nat) : Bool :=
  s.registered i && !(s.child i).done

/-- Replace a cancel call. -/
def setCall (s : ScriptRun) (c : Nat) (call : CancelCall) : ScriptRun :=
  { s with calls := Function.update s.calls c (some call) }

/-- `cancel_execution` up to its first await. -/
def callCancel (s : ScriptRun) (c i : Nat) : ScriptRun :=
  { s with
    child := if s.cancelsTask i then Function.update s.child i (s.child i).cancel else s.child
    calls := Function.update s.calls c (some
      { target := i
        taskCancelled := s.cancelsTask i
        wasRunning := decide (s.rows i = some .running)
        state := .reading }) }

/-- The status the loop that is running writes at target `k`. -/
def statusAt (s : ScriptRun) : Option (Nat × ExecutionStatus) :=
  match s.main with
  | .timingOut k => some (k, .error)
  | .settling k => match s.child k with
      | .finished status => some (k, status.toExecutionStatus)
      | _ => none
  | _ => none

/-- The loop that is running goes on to the next target. -/
def nextTarget (s : ScriptRun) : ScriptRun :=
  { s with main := match s.main with
      | .timingOut k => .timingOut (k + 1)
      | .settling k => .settling (k + 1)
      | main => main }

/-- What an event does to an execution with `n` targets. -/
def step (n : Nat) (s : ScriptRun) : ScriptEvent → Option ScriptRun
  | .created => match s.main with
      | .creating k =>
          if k < n then
            some { s with main := .creating (k + 1), rows := Function.update s.rows k (some .running) }
          else none
      | _ => none
  | .createRaised => match s.main with
      | .creating k => if k < n then some { s with main := .ended .createRaised } else none
      | _ => none
  | .started => match s.main with
      | .creating k =>
          if k = n then
            some { s with main := .gathering, child := fun i => if i < n then .waiting else .absent }
          else none
      | _ => none
  | .acquired i => match s.child i with
      | .waiting =>
          if s.slotsTaken n < scriptNodeConcurrency then
            some { s.setChild i .running with registered := Function.update s.registered i true }
          else none
      | _ => none
  | .stepStarted i => match s.child i with
      | .running =>
          some { s with stepAfter := Function.update s.stepAfter i (s.stepAfter i || s.confirmed i) }
      | _ => none
  | .finished i status => match s.child i with
      | .running => some (s.endChild i (.finished status))
      | _ => none
  | .childCancelled i => match s.child i with
      | .cancelling _ =>
          -- the first cancelled child completes the future of `gather`
          some { s.endChild i .cancelled with
            main := if s.main = .gathering then .gathered true else s.main }
      | _ => none
  | .swallowed i => match s.child i with
      | .cancelling true => some (s.endChild i (.finished .error))
      | _ => none
  | .expired i => some { s with registered := Function.update s.registered i false }
  | .gathered => match s.main with
      | .gathering =>
          if ∀ i < n, (s.child i).hasResult = true then
            some { s with main := .gathered false }
          else none
      | _ => none
  | .resumed => match s.main with
      | .gathered true => some { s with main := .ended .childCancelled }
      | .gathered false => some { s with main := .settling 0 }
      | _ => none
  | .timeout => match s.main with
      | .gathering =>
          some { s with main := .expiring, child := fun i => (s.child i).cancel }
      -- the future of `gather` is done already, and no child is cancelled
      | .gathered _ => some { s with main := .expiring }
      | _ => none
  | .timedOut => match s.main with
      | .expiring =>
          if (∃ i < n, s.child i = .cancelled) ∨ ∀ i < n, (s.child i).done = true then
            some { s with main := .timingOut 0 }
          else none
      | _ => none
  | .updated => match s.statusAt with
      | some (k, status) => if k < n then some (s.write k status).nextTarget else none
      | none => none
  | .updateFailed => match s.statusAt with
      | some (k, _) => if k < n then some s.nextTarget else none
      | none => none
  | .loopEnded => match s.main with
      | .timingOut k => if k = n then some { s with main := .ended .timedOut } else none
      | .settling k => if k = n then some { s with main := .ended .returned } else none
      | _ => none
  | .cancelCalled c i =>
      -- only ids of rows that exist can be named
      if (s.rows i).isSome ∧ s.calls c = none then some (s.callCancel c i) else none
  | .cancelRead c => match s.calls c with
      | some call =>
          if call.state = .reading then
            if s.rows call.target = some .pending ∨ s.rows call.target = some .running then
              some (s.setCall c { call with state := .writing })
            else some (s.setCall c { call with state := .returning false })
          else none
      | none => none
  | .cancelWritten c => match s.calls c with
      | some call =>
          if call.state = .writing then
            some ((s.write call.target .cancelled).setCall c { call with state := .returning true })
          else none
      | none => none
  | .cancelRaised c => match s.calls c with
      | some call =>
          if call.state = .reading ∨ call.state = .writing then
            some (s.setCall c { call with state := .over })
          else none
      | none => none
  | .cancelReturned c => match s.calls c with
      | some call => match call.state with
          | .returning result =>
              some { s.setCall c { call with state := .over } with
                confirmed := if (result || call.taskCancelled) && call.wasRunning then
                    Function.update s.confirmed call.target true
                  else s.confirmed }
          | _ => none
      | none => none

end ScriptRun

/-- One execution of a script with `n` targets. -/
def scriptSystem (n : Nat) : System ScriptRun ScriptEvent where
  init s := s = .initial
  step := ScriptRun.step n

/-! ## What a step does -/

/-- The steps of an execution, each with where it is possible and what it leaves. -/
inductive ExecutionStep (n : Nat) (s : ScriptRun) : ScriptEvent → ScriptRun → Prop where
  | created {k : Nat} : s.main = .creating k → k < n → ExecutionStep n s .created
      { s with main := .creating (k + 1), rows := Function.update s.rows k (some .running) }
  | createRaised {k : Nat} : s.main = .creating k → k < n →
      ExecutionStep n s .createRaised { s with main := .ended .createRaised }
  | started : s.main = .creating n → ExecutionStep n s .started
      { s with main := .gathering, child := fun i => if i < n then .waiting else .absent }
  | acquired {i : Nat} : s.child i = .waiting → s.slotsTaken n < scriptNodeConcurrency →
      ExecutionStep n s (.acquired i)
        { s.setChild i .running with registered := Function.update s.registered i true }
  | stepStarted {i : Nat} : s.child i = .running → ExecutionStep n s (.stepStarted i)
      { s with stepAfter := Function.update s.stepAfter i (s.stepAfter i || s.confirmed i) }
  | finished {i : Nat} {status : TerminalStatus} : s.child i = .running →
      ExecutionStep n s (.finished i status) (s.endChild i (.finished status))
  | childCancelled {i : Nat} {slot : Bool} : s.child i = .cancelling slot →
      ExecutionStep n s (.childCancelled i) { s.endChild i .cancelled with
        main := if s.main = .gathering then .gathered true else s.main }
  | swallowed {i : Nat} : s.child i = .cancelling true →
      ExecutionStep n s (.swallowed i) (s.endChild i (.finished .error))
  | expired {i : Nat} : ExecutionStep n s (.expired i)
      { s with registered := Function.update s.registered i false }
  | gathered : s.main = .gathering → (∀ i < n, (s.child i).hasResult = true) →
      ExecutionStep n s .gathered { s with main := .gathered false }
  | escaped : s.main = .gathered true →
      ExecutionStep n s .resumed { s with main := .ended .childCancelled }
  | resumed : s.main = .gathered false → ExecutionStep n s .resumed { s with main := .settling 0 }
  | timeout : s.main = .gathering → ExecutionStep n s .timeout
      { s with main := .expiring, child := fun i => (s.child i).cancel }
  | lateTimeout {failed : Bool} : s.main = .gathered failed →
      ExecutionStep n s .timeout { s with main := .expiring }
  | timedOut : s.main = .expiring →
      (∃ i < n, s.child i = .cancelled) ∨ (∀ i < n, (s.child i).done = true) →
      ExecutionStep n s .timedOut { s with main := .timingOut 0 }
  | updated {k : Nat} {status : ExecutionStatus} : s.statusAt = some (k, status) → k < n →
      ExecutionStep n s .updated (s.write k status).nextTarget
  | updateFailed {k : Nat} {status : ExecutionStatus} : s.statusAt = some (k, status) → k < n →
      ExecutionStep n s .updateFailed s.nextTarget
  | timedOutEnd : s.main = .timingOut n →
      ExecutionStep n s .loopEnded { s with main := .ended .timedOut }
  | returned : s.main = .settling n →
      ExecutionStep n s .loopEnded { s with main := .ended .returned }
  | cancelCalled {c i : Nat} : (s.rows i).isSome = true → s.calls c = none →
      ExecutionStep n s (.cancelCalled c i) (s.callCancel c i)
  | readOpen {c : Nat} {call : CancelCall} : s.calls c = some call → call.state = .reading →
      s.rows call.target = some .pending ∨ s.rows call.target = some .running →
      ExecutionStep n s (.cancelRead c) (s.setCall c { call with state := .writing })
  | readFinal {c : Nat} {call : CancelCall} : s.calls c = some call → call.state = .reading →
      ¬ (s.rows call.target = some .pending ∨ s.rows call.target = some .running) →
      ExecutionStep n s (.cancelRead c) (s.setCall c { call with state := .returning false })
  | cancelWritten {c : Nat} {call : CancelCall} : s.calls c = some call → call.state = .writing →
      ExecutionStep n s (.cancelWritten c)
        ((s.write call.target .cancelled).setCall c { call with state := .returning true })
  | cancelRaised {c : Nat} {call : CancelCall} : s.calls c = some call →
      call.state = .reading ∨ call.state = .writing →
      ExecutionStep n s (.cancelRaised c) (s.setCall c { call with state := .over })
  | cancelReturned {c : Nat} {call : CancelCall} {result : Bool} : s.calls c = some call →
      call.state = .returning result → ExecutionStep n s (.cancelReturned c)
        { s.setCall c { call with state := .over } with
          confirmed := if (result || call.taskCancelled) && call.wasRunning then
              Function.update s.confirmed call.target true
            else s.confirmed }

/-- What an event does is one of these steps. -/
theorem ScriptRun.executionStep_of_step {n : Nat} {s s' : ScriptRun} {e : ScriptEvent}
    (h : s.step n e = some s') : ExecutionStep n s e s' := by
  cases e with
  | created =>
      simp only [step] at h
      split at h <;> try contradiction
      split at h <;> try contradiction
      cases h
      exact .created ‹_› ‹_›
  | createRaised =>
      simp only [step] at h
      split at h <;> try contradiction
      split at h <;> try contradiction
      cases h
      exact .createRaised ‹_› ‹_›
  | started =>
      simp only [step] at h
      split at h <;> try contradiction
      split at h <;> try contradiction
      rename_i hmain hk
      cases h
      subst hk
      exact .started hmain
  | acquired i =>
      simp only [step] at h
      split at h <;> try contradiction
      split at h <;> try contradiction
      cases h
      exact .acquired ‹_› ‹_›
  | stepStarted i =>
      simp only [step] at h
      split at h <;> try contradiction
      cases h
      exact .stepStarted ‹_›
  | finished i status =>
      simp only [step] at h
      split at h <;> try contradiction
      cases h
      exact .finished ‹_›
  | childCancelled i =>
      simp only [step] at h
      split at h <;> try contradiction
      cases h
      exact .childCancelled ‹_›
  | swallowed i =>
      simp only [step] at h
      split at h <;> try contradiction
      cases h
      exact .swallowed ‹_›
  | expired i =>
      cases h
      exact .expired
  | gathered =>
      simp only [step] at h
      split at h <;> try contradiction
      split at h <;> try contradiction
      cases h
      exact .gathered ‹_› ‹_›
  | resumed =>
      simp only [step] at h
      split at h <;> try contradiction
      · cases h
        exact .escaped ‹_›
      · cases h
        exact .resumed ‹_›
  | timeout =>
      simp only [step] at h
      split at h <;> try contradiction
      · cases h
        exact .timeout ‹_›
      · cases h
        exact .lateTimeout ‹_›
  | timedOut =>
      simp only [step] at h
      split at h <;> try contradiction
      split at h <;> try contradiction
      cases h
      exact .timedOut ‹_› ‹_›
  | updated =>
      simp only [step] at h
      split at h <;> try contradiction
      split at h <;> try contradiction
      cases h
      exact .updated ‹_› ‹_›
  | updateFailed =>
      simp only [step] at h
      split at h <;> try contradiction
      split at h <;> try contradiction
      cases h
      exact .updateFailed ‹_› ‹_›
  | loopEnded =>
      simp only [step] at h
      split at h <;> try contradiction
      · split at h <;> try contradiction
        rename_i hmain hk
        cases h
        subst hk
        exact .timedOutEnd hmain
      · split at h <;> try contradiction
        rename_i hmain hk
        cases h
        subst hk
        exact .returned hmain
  | cancelCalled c i =>
      simp only [step] at h
      split at h <;> try contradiction
      rename_i hfree
      cases h
      exact .cancelCalled hfree.1 hfree.2
  | cancelRead c =>
      simp only [step] at h
      split at h <;> try contradiction
      split at h <;> try contradiction
      split at h
      · cases h
        exact .readOpen ‹_› ‹_› ‹_›
      · cases h
        exact .readFinal ‹_› ‹_› ‹_›
  | cancelWritten c =>
      simp only [step] at h
      split at h <;> try contradiction
      split at h <;> try contradiction
      cases h
      exact .cancelWritten ‹_› ‹_›
  | cancelRaised c =>
      simp only [step] at h
      split at h <;> try contradiction
      split at h <;> try contradiction
      cases h
      exact .cancelRaised ‹_› ‹_›
  | cancelReturned c =>
      simp only [step] at h
      split at h <;> try contradiction
      split at h <;> try contradiction
      cases h
      exact .cancelReturned ‹_› ‹_›

/-! ## What it does to the main coroutine and to the rows -/

/-- The moves of `execute_script` that write no row. -/
inductive MainMove (n : Nat) (s : ScriptRun) : ScriptEvent → MainState → Prop where
  | createRaised {k : Nat} : s.main = .creating k → k < n →
      MainMove n s .createRaised (.ended .createRaised)
  | started : s.main = .creating n → MainMove n s .started .gathering
  | childCancelled {i : Nat} : s.main = .gathering →
      MainMove n s (.childCancelled i) (.gathered true)
  | gathered : s.main = .gathering → (∀ i < n, (s.child i).hasResult = true) →
      MainMove n s .gathered (.gathered false)
  | escaped : s.main = .gathered true → MainMove n s .resumed (.ended .childCancelled)
  | resumed : s.main = .gathered false → MainMove n s .resumed (.settling 0)
  | timeout : (s.main = .gathering ∨ ∃ failed, s.main = .gathered failed) →
      MainMove n s .timeout .expiring
  | timedOut : s.main = .expiring → MainMove n s .timedOut (.timingOut 0)
  | updateFailed {k : Nat} {status : ExecutionStatus} : s.statusAt = some (k, status) → k < n →
      MainMove n s .updateFailed s.nextTarget.main
  | timedOutEnd : s.main = .timingOut n → MainMove n s .loopEnded (.ended .timedOut)
  | returned : s.main = .settling n → MainMove n s .loopEnded (.ended .returned)

/-- The writes to the rows, with where `execute_script` is afterwards. -/
inductive RowWrite (n : Nat) (s : ScriptRun) : ScriptEvent → MainState → Rows → Prop where
  | created {k : Nat} : s.main = .creating k → k < n →
      RowWrite n s .created (.creating (k + 1)) (Function.update s.rows k (some .running))
  | updated {k : Nat} {status : ExecutionStatus} : s.statusAt = some (k, status) → k < n →
      RowWrite n s .updated s.nextTarget.main (s.rows.update k status)
  | cancelled {c : Nat} {call : CancelCall} : s.calls c = some call → call.state = .writing →
      RowWrite n s (.cancelWritten c) s.main (s.rows.update call.target .cancelled)

/-- A step leaves main coroutine and rows alone, moves the coroutine, or writes a
row. -/
theorem ExecutionStep.effect {n : Nat} {s s' : ScriptRun} {e : ScriptEvent}
    (h : ExecutionStep n s e s') :
    (s'.main = s.main ∧ s'.rows = s.rows) ∨ (s'.rows = s.rows ∧ MainMove n s e s'.main) ∨
      RowWrite n s e s'.main s'.rows := by
  cases h with
  | created hmain hk => exact .inr (.inr (.created hmain hk))
  | createRaised hmain hk => exact .inr (.inl ⟨rfl, .createRaised hmain hk⟩)
  | started hmain => exact .inr (.inl ⟨rfl, .started hmain⟩)
  | childCancelled hchild =>
      by_cases hmain : s.main = .gathering
      · refine .inr (.inl ⟨rfl, ?_⟩)
        simp only [hmain, if_true]
        exact .childCancelled hmain
      · refine .inl ⟨?_, rfl⟩
        simp only [hmain, if_false]
  | gathered hmain hall => exact .inr (.inl ⟨rfl, .gathered hmain hall⟩)
  | escaped hmain => exact .inr (.inl ⟨rfl, .escaped hmain⟩)
  | resumed hmain => exact .inr (.inl ⟨rfl, .resumed hmain⟩)
  | timeout hmain => exact .inr (.inl ⟨rfl, .timeout (.inl hmain)⟩)
  | lateTimeout hmain => exact .inr (.inl ⟨rfl, .timeout (.inr ⟨_, hmain⟩)⟩)
  | timedOut hmain _ => exact .inr (.inl ⟨rfl, .timedOut hmain⟩)
  | updated hat hk => exact .inr (.inr (.updated hat hk))
  | updateFailed hat hk => exact .inr (.inl ⟨rfl, .updateFailed hat hk⟩)
  | timedOutEnd hmain => exact .inr (.inl ⟨rfl, .timedOutEnd hmain⟩)
  | returned hmain => exact .inr (.inl ⟨rfl, .returned hmain⟩)
  | cancelWritten hc hstate => exact .inr (.inr (.cancelled hc hstate))
  | _ => exact .inl ⟨rfl, rfl⟩

/-- Where the running loop is, and what it goes on to. -/
theorem ScriptRun.statusAt_cases {s : ScriptRun} {k : Nat} {status : ExecutionStatus}
    (h : s.statusAt = some (k, status)) : status.terminal = true ∧
      ((s.main = .timingOut k ∧ s.nextTarget.main = .timingOut (k + 1)) ∨
        s.main = .settling k ∧ s.nextTarget.main = .settling (k + 1)) := by
  simp only [statusAt] at h
  split at h
  · cases h
    rename_i hmain
    exact ⟨rfl, .inl ⟨hmain, by simp [nextTarget, hmain]⟩⟩
  · split at h
    · cases h
      rename_i status' hmain hchild
      refine ⟨by cases status' <;> rfl, .inr ⟨hmain, by simp [nextTarget, hmain]⟩⟩
    · cases h
  · cases h

theorem Rows.update_apply (rows : Rows) (i : Nat) (status : ExecutionStatus) (j : Nat) :
    rows.update i status j = if j = i then (rows j).map fun _ => status else rows j := by
  by_cases h : j = i
  · subst h; simp [Rows.update]
  · simp [Rows.update, h]

end Script
end NodeNexus
