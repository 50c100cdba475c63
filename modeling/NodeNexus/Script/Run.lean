import Mathlib.Algebra.Order.Field.Basic
import Mathlib.Algebra.Order.Ring.NNRat
import Mathlib.Data.NNRat.Defs
import Mathlib.Tactic.NormNum
import Mathlib.Algebra.Order.BigOperators.Group.List
import NodeNexus.Remote.Output

/-!
# Running the steps of a script on one node

`ScriptExecutionService._run_remote` runs the resolved steps of a script one
after the other over one SSH connection.  Three time limits apply: the limit of
the whole script (outside this file), `asyncio.timeout(target.timeout)` around
each step, and the connector's own limit inside `execute_command`.  The
connector is made by `create_ssh` without a `timeout`, so its limit is always
the default of 30 seconds.

* `asyncioTimeout` cuts a timed computation off; the nesting of the limits is
  the nesting of this function.
* `runRemote` is the service method, for a host that may fail at any point.
* `Reports` is what one expects of the result when the connection stays up, and
  `runRemote_reports_iff` says when the code delivers it: when every step that
  is run ends within the 30 seconds of the connector.

What the steps do on the host is the parameter of everything here: how long
each one takes, what it writes, in which chunks, and how it exits.
-/

namespace NodeNexus
namespace Script

open Remote

/-! ## Time limits -/

/-- The exceptions of this file, by the classes that are told apart. -/
inductive RemoteError where
  /-- `TimeoutError`, raised where a limit expires. -/
  | timeoutError
  /-- `asyncssh.Error`. -/
  | asyncsshError
  /-- `ConnectionFailedError`. -/
  | connectionFailedError
  deriving DecidableEq

/-- A computation that takes its time, and then returns or raises. -/
structure Timed (α : Type) where
  /-- How many seconds it takes. -/
  duration : ℚ≥0
  /-- What it returns or raises. -/
  outcome : Except RemoteError α

/-- `async with asyncio.timeout(limit)`: what is not over before the limit is
cancelled and turned into a `TimeoutError`. -/
def asyncioTimeout {α : Type} (limit : ℚ≥0) (x : Timed α) : Timed α :=
  if x.duration < limit then x else ⟨limit, .error .timeoutError⟩

/-! ## The remote host -/

/-- A command that runs to its end. -/
structure Ended where
  /-- How many seconds it takes. -/
  duration : ℚ≥0
  /-- The chunks it writes to the standard output. -/
  stdout : List (List Char)
  /-- The chunks it writes to the standard error. -/
  stderr : List (List Char)
  /-- `process.exit_status`; `None` when a signal ended it. -/
  exitStatus : Option Nat

/-- What becomes of a command on the host. -/
inductive RemoteRun where
  /-- It runs to its end. -/
  | ended (run : Ended)
  /-- The connection is lost after so many seconds. -/
  | lost (after : ℚ≥0)

/-- A host, as one run of `_run_remote` meets it. -/
structure RemoteHost where
  /-- Do the decryption of the secrets and `connect` succeed? -/
  setup : Bool
  /-- What becomes of the command of the step with a given index. -/
  run : Nat → RemoteRun
  /-- Does `disconnect` succeed? -/
  teardown : Bool

/-- A host whose connection is set up and stays up. -/
def RemoteHost.staysUp (run : Nat → Ended) : RemoteHost where
  setup := true
  run i := .ended (run i)
  teardown := true

/-- Standard output, standard error and exit code. -/
structure CommandResult where
  stdout : List Char
  stderr : List Char
  exitCode : Nat
  deriving DecidableEq

/-- `_exit_status`. -/
def Ended.exitCode (run : Ended) : Nat :=
  match run.exitStatus with
  | some status => status
  | none => 255

/-- What `execute_command` returns for a command that runs to its end. -/
def Ended.result (run : Ended) : CommandResult where
  stdout := readBoundedStream run.stdout maxCapturedOutputBytes
  stderr := readBoundedStream run.stderr maxCapturedOutputBytes
  exitCode := run.exitCode

/-- The body of `execute_command`, without its limit. -/
def RemoteRun.process : RemoteRun → Timed CommandResult
  | .ended run => ⟨run.duration, .ok run.result⟩
  | .lost after => ⟨after, .error .asyncsshError⟩

/-- `SSHConnector.execute_command`, for a connector with the limit `timeout`. -/
def executeCommand (timeout : ℚ≥0) (run : RemoteRun) : Timed CommandResult :=
  let x := asyncioTimeout timeout run.process
  match x.outcome with
  | .ok result => ⟨x.duration, .ok result⟩
  -- `except (asyncssh.Error, TimeoutError)`
  | .error .asyncsshError | .error .timeoutError => ⟨x.duration, .error .connectionFailedError⟩
  | .error .connectionFailedError => ⟨x.duration, .error .connectionFailedError⟩

/-- The default of the parameter `timeout` of `create_ssh`, in seconds. -/
def createSshTimeout : ℚ≥0 := 30

/-! ## The steps -/

/-- `ResolvedScriptStepDTO`. -/
structure ResolvedStep where
  label : String
  command : String
  onFailure : String
  resolutionError : Option String
  deriving DecidableEq

/-- `ScriptStepResultDTO`. -/
structure StepResult where
  stepIndex : Nat
  label : String
  commandFingerprint : String
  stdout : List Char
  stderr : List Char
  stdoutBytes : Nat
  stderrBytes : Nat
  truncated : Bool
  exitCode : Nat
  deriving DecidableEq

/-- `ScriptTerminalStatus`. -/
inductive TerminalStatus where
  | success
  | error
  deriving DecidableEq

/-- `ScriptExecutionTargetDTO`, less what only the connection needs. -/
structure ScriptTarget (Id : Type) where
  executionId : Id
  nodeId : Id
  nodeName : String
  steps : List ResolvedStep
  timeout : Nat

/-- `ScriptNodeResultDTO`. -/
structure ScriptNodeResult (Id : Type) where
  executionId : Id
  nodeId : Id
  nodeName : String
  status : TerminalStatus
  steps : List StepResult

variable {Id : Type}

/-- The inner `try` statement of the loop: one step, under its own limit.  A
step that could not be resolved fails without being run. -/
def runStep (timeout : Nat) (run : RemoteRun) (step : ResolvedStep) :
    Except RemoteError CommandResult :=
  match step.resolutionError with
  | some e => .ok ⟨[], e.toList, 1⟩
  | none =>
      match (asyncioTimeout timeout (executeCommand createSshTimeout run)).outcome with
      | .error .timeoutError =>
          .ok ⟨[], ("Timeout after " ++ toString timeout ++ "s").toList, 124⟩
      | outcome => outcome

/-- The entry appended to `results`; `sha256` is `hashlib.sha256(…).hexdigest()`. -/
def stepResult (sha256 : String → String) (index : Nat) (step : ResolvedStep)
    (result : CommandResult) : StepResult :=
  let safeStdout := boundOutput result.stdout defaultMaxPersistedOutputBytes
  let safeStderr := boundOutput result.stderr defaultMaxPersistedOutputBytes
  { stepIndex := index
    label := step.label
    commandFingerprint := sha256 step.command
    stdout := safeStdout.value
    stderr := safeStderr.value
    stdoutBytes := safeStdout.originalBytes
    stderrBytes := safeStderr.originalBytes
    truncated := safeStdout.truncated || safeStderr.truncated
    exitCode := result.exitCode }

/-- How the loop over the steps ends. -/
structure LoopEnd where
  results : List StepResult
  status : TerminalStatus
  /-- Did a step raise? -/
  raised : Bool

/-- The loop over `enumerate(target.steps)`. -/
def runSteps (sha256 : String → String) (timeout : Nat) (run : Nat → RemoteRun) :
    Nat → List ResolvedStep → List StepResult → TerminalStatus → LoopEnd
  | _, [], results, status => ⟨results, status, false⟩
  | index, step :: rest, results, status =>
      match runStep timeout (run index) step with
      | .error _ => ⟨results, status, true⟩
      | .ok result =>
          if result.exitCode ≠ 0 then
            if step.onFailure = "stop" then
              ⟨results ++ [stepResult sha256 index step result], .error, false⟩
            else runSteps sha256 timeout run (index + 1) rest
              (results ++ [stepResult sha256 index step result]) .error
          else runSteps sha256 timeout run (index + 1) rest
            (results ++ [stepResult sha256 index step result]) status

/-- `_run_remote`.  Whatever is raised, also by connecting and disconnecting, is
caught and makes the status `error`; the entries made so far are kept. -/
def runRemote (sha256 : String → String) (host : RemoteHost) (target : ScriptTarget Id) :
    ScriptNodeResult Id :=
  let loop : LoopEnd :=
    if host.setup then runSteps sha256 target.timeout host.run 0 target.steps [] .success
    else ⟨[], .success, true⟩
  { executionId := target.executionId
    nodeId := target.nodeId
    nodeName := target.nodeName
    status := if loop.raised || !host.teardown then .error else loop.status
    steps := loop.results }

/-! ## What is expected -/

/-- The step fails: it could not be resolved, or its command does not exit with 0. -/
def Fails (run : Nat → Ended) (index : Nat) (step : ResolvedStep) : Prop :=
  step.resolutionError ≠ none ∨ (run index).exitStatus ≠ some 0

instance (run : Nat → Ended) (index : Nat) (step : ResolvedStep) :
    Decidable (Fails run index step) :=
  inferInstanceAs (Decidable (_ ∨ _))

/-- The steps, with their indices, up to and including the first failing one
whose `on_failure` is `stop`. -/
def executed (run : Nat → Ended) : Nat → List ResolvedStep → List (Nat × ResolvedStep)
  | _, [] => []
  | index, step :: rest =>
      if Fails run index step ∧ step.onFailure = "stop" then [(index, step)]
      else (index, step) :: executed run (index + 1) rest

/-- How long a step takes; one that could not be resolved takes no time. -/
def stepDuration (run : Nat → Ended) (p : Nat × ResolvedStep) : ℚ≥0 :=
  if p.2.resolutionError = none then (run p.1).duration else 0

/-- How long the executed steps take together. -/
def totalDuration (run : Nat → Ended) (steps : List ResolvedStep) : ℚ≥0 :=
  ((executed run 0 steps).map (stepDuration run)).sum

/-- What a step has for its standard output: all that its command wrote. -/
def stdoutOf (run : Nat → Ended) (index : Nat) (step : ResolvedStep) : List Char :=
  if step.resolutionError = none then (run index).stdout.flatten else []

/-- What it has for its standard error: all that its command wrote, or why it could
not be resolved. -/
def stderrOf (run : Nat → Ended) (index : Nat) (step : ResolvedStep) : List Char :=
  match step.resolutionError with
  | some e => e.toList
  | none => (run index).stderr.flatten

/-- The entry of a step: its index, the exit status of its own command, and of its
own output the beginning that fits. -/
structure EntryOf (run : Nat → Ended) (index : Nat) (step : ResolvedStep)
    (entry : StepResult) : Prop where
  stepIndex : entry.stepIndex = index
  label : entry.label = step.label
  exitStatus : ∀ status, step.resolutionError = none → (run index).exitStatus = some status →
    entry.exitCode = status
  failed : entry.exitCode ≠ 0 ↔ Fails run index step
  stdout : IsLongestFitting (stdoutOf run index step) 65536 entry.stdout
  stderr : IsLongestFitting (stderrOf run index step) 65536 entry.stderr
  truncated : entry.truncated = true ↔ 65536 < (Utf8.encode (stdoutOf run index step)).length ∨
    65536 < (Utf8.encode (stderrOf run index step)).length

/-- The result holds one entry for each executed step, its own, and says whether
all of them exited with 0. -/
structure Reports (run : Nat → Ended) (steps : List ResolvedStep)
    (result : ScriptNodeResult Id) : Prop where
  entries : List.Forall₂ (fun p entry => EntryOf run p.1 p.2 entry) (executed run 0 steps)
    result.steps
  status : result.status = .success ↔ ∀ p ∈ executed run 0 steps, ¬ Fails run p.1 p.2

/-! ## A step's own result -/

/-- What the loop makes of a step that ends before its limits. -/
def ownResult (run : Nat → Ended) (index : Nat) (step : ResolvedStep) : CommandResult :=
  match step.resolutionError with
  | some e => ⟨[], e.toList, 1⟩
  | none => (run index).result

theorem ownResult_exitCode (run : Nat → Ended) (index : Nat) (step : ResolvedStep) :
    (ownResult run index step).exitCode ≠ 0 ↔ Fails run index step := by
  cases he : step.resolutionError with
  | some e => simp [ownResult, Fails, he]
  | none =>
      cases hexit : (run index).exitStatus <;>
        simp [ownResult, Fails, he, Ended.result, Ended.exitCode, hexit]

theorem executed_cons (run : Nat → Ended) (index : Nat) (step : ResolvedStep)
    (rest : List ResolvedStep) : executed run index (step :: rest) =
      if (ownResult run index step).exitCode ≠ 0 ∧ step.onFailure = "stop" then [(index, step)]
      else (index, step) :: executed run (index + 1) rest := by
  simp only [executed, ownResult_exitCode]

/-- The entry that the loop appends is the step's own. -/
theorem entryOf_stepResult (sha256 : String → String) (run : Nat → Ended) (index : Nat)
    (step : ResolvedStep) :
    EntryOf run index step (stepResult sha256 index step (ownResult run index step)) := by
  have hfailed := ownResult_exitCode run index step
  have hroom : defaultMaxPersistedOutputBytes + 4 ≤ maxCapturedOutputBytes := by decide
  cases he : step.resolutionError with
  | some e =>
      refine ⟨rfl, rfl, fun _ hnone => absurd hnone (by simp [he]), hfailed, ?_, ?_, ?_⟩
      · simp only [stepResult, ownResult, stdoutOf, he, boundOutput_eq]
        exact isLongestFitting_fitting _ _
      · simp only [stepResult, ownResult, stderrOf, he, boundOutput_eq]
        exact isLongestFitting_fitting _ _
      · simp [stepResult, ownResult, stdoutOf, stderrOf, he, boundOutput_eq,
          defaultMaxPersistedOutputBytes]
  | none =>
      refine ⟨rfl, rfl, fun status _ hstatus => ?_, hfailed, ?_, ?_, ?_⟩
      · simp [stepResult, ownResult, he, Ended.result, Ended.exitCode, hstatus]
      · simp only [stepResult, ownResult, stdoutOf, he, if_true, Ended.result]
        exact isLongestFitting_captured hroom _
      · simp only [stepResult, ownResult, stderrOf, he, Ended.result]
        exact isLongestFitting_captured hroom _
      · simp only [stepResult, ownResult, stdoutOf, stderrOf, he, if_true, Ended.result,
          Bool.or_eq_true, truncated_captured hroom]
        rfl

/-! ## One step under its limits -/

/-- A step that ends before both limits gives its own result. -/
theorem runStep_of_fast {timeout : Nat} {run : Nat → Ended} {index : Nat} {step : ResolvedStep}
    (h : step.resolutionError = none →
      (run index).duration < createSshTimeout ∧ (run index).duration < timeout) :
    runStep timeout (.ended (run index)) step = .ok (ownResult run index step) := by
  cases he : step.resolutionError with
  | some e => simp [runStep, ownResult, he]
  | none =>
      obtain ⟨hssh, hstep⟩ := h he
      simp [runStep, ownResult, he, executeCommand, RemoteRun.process, asyncioTimeout, hssh, hstep]

/-- A step that the connector's limit cuts off before the step's own limit
raises. -/
theorem runStep_of_slow {timeout : Nat} {run : Ended} {step : ResolvedStep}
    (he : step.resolutionError = none) (hslow : createSshTimeout ≤ run.duration)
    (hstep : run.duration < timeout) :
    runStep timeout (.ended run) step = .error .connectionFailedError := by
  have hcut : ¬ run.duration < createSshTimeout := not_lt.2 hslow
  have hlimit : createSshTimeout < timeout := lt_of_le_of_lt hslow hstep
  simp [runStep, he, executeCommand, RemoteRun.process, asyncioTimeout, hcut, hlimit]

/-! ## The loop -/

/-- **The loop reports every executed step**, when each of them ends before both
limits. -/
theorem runSteps_of_fast (sha256 : String → String) {timeout : Nat} {run : Nat → Ended}
    (steps : List ResolvedStep) (index : Nat) (results : List StepResult)
    (status : TerminalStatus)
    (h : ∀ p ∈ executed run index steps, p.2.resolutionError = none →
      (run p.1).duration < createSshTimeout ∧ (run p.1).duration < timeout) :
    (runSteps sha256 timeout (fun i => .ended (run i)) index steps results status).results =
        results ++ (executed run index steps).map
          (fun p => stepResult sha256 p.1 p.2 (ownResult run p.1 p.2)) ∧
      ((runSteps sha256 timeout (fun i => .ended (run i)) index steps results status).status =
          .success ↔ status = .success ∧
        ∀ p ∈ executed run index steps, (ownResult run p.1 p.2).exitCode = 0) ∧
      (runSteps sha256 timeout (fun i => .ended (run i)) index steps results status).raised =
        false := by
  induction steps generalizing index results status with
  | nil => simp [runSteps, executed]
  | cons step rest ih =>
      have hhead : (index, step) ∈ executed run index (step :: rest) := by
        rw [executed_cons]
        split
        · exact List.mem_singleton_self _
        · exact List.mem_cons_self ..
      rw [runSteps, runStep_of_fast (h _ hhead)]
      simp only
      by_cases hexit : (ownResult run index step).exitCode = 0
      · have hexec : executed run index (step :: rest) =
            (index, step) :: executed run (index + 1) rest := by
          rw [executed_cons, if_neg (fun hc => hc.1 hexit)]
        rw [hexec] at h ⊢
        rw [if_neg (not_not.2 hexit)]
        obtain ⟨hres, hstat, hraise⟩ := ih (index + 1)
          (results ++ [stepResult sha256 index step (ownResult run index step)]) status
          (fun p hp => h p (List.mem_cons_of_mem _ hp))
        refine ⟨?_, ?_, hraise⟩
        · rw [hres, List.map_cons, List.append_assoc, List.singleton_append]
        · rw [hstat, List.forall_mem_cons]
          simp [hexit]
      · rw [if_pos hexit]
        by_cases hstop : step.onFailure = "stop"
        · have hexec : executed run index (step :: rest) = [(index, step)] := by
            rw [executed_cons, if_pos ⟨hexit, hstop⟩]
          rw [if_pos hstop, hexec]
          simp [hexit]
        · have hexec : executed run index (step :: rest) =
              (index, step) :: executed run (index + 1) rest := by
            rw [executed_cons, if_neg (fun hc => hstop hc.2)]
          rw [hexec] at h ⊢
          rw [if_neg hstop]
          obtain ⟨hres, hstat, hraise⟩ := ih (index + 1)
            (results ++ [stepResult sha256 index step (ownResult run index step)]) .error
            (fun p hp => h p (List.mem_cons_of_mem _ hp))
          refine ⟨?_, ?_, hraise⟩
          · rw [hres, List.map_cons, List.append_assoc, List.singleton_append]
          · rw [hstat]
            simp [hexit]

/-- The loop loses an executed step that takes longer than the connector allows:
there are fewer entries than executed steps. -/
theorem runSteps_of_slow (sha256 : String → String) {timeout : Nat} {run : Nat → Ended}
    (steps : List ResolvedStep) (index : Nat) (results : List StepResult)
    (status : TerminalStatus)
    (hstep : ∀ p ∈ executed run index steps, p.2.resolutionError = none →
      (run p.1).duration < timeout)
    (hslow : ∃ p ∈ executed run index steps, p.2.resolutionError = none ∧
      createSshTimeout ≤ (run p.1).duration) :
    (runSteps sha256 timeout (fun i => .ended (run i)) index steps results status).results.length <
      results.length + (executed run index steps).length := by
  induction steps generalizing index results status with
  | nil => obtain ⟨p, hp, -⟩ := hslow; cases hp
  | cons step rest ih =>
      have hhead : (index, step) ∈ executed run index (step :: rest) := by
        rw [executed_cons]
        split
        · exact List.mem_singleton_self _
        · exact List.mem_cons_self ..
      have hpos : 0 < (executed run index (step :: rest)).length := List.length_pos_of_mem hhead
      by_cases hthis : step.resolutionError = none ∧ createSshTimeout ≤ (run index).duration
      · -- this step raises, and nothing is appended any more
        rw [runSteps, runStep_of_slow hthis.1 hthis.2 (hstep _ hhead hthis.1)]
        simp only
        omega
      · have hfast : step.resolutionError = none →
            (run index).duration < createSshTimeout ∧ (run index).duration < timeout := by
          intro he
          exact ⟨not_le.1 fun hle => hthis ⟨he, hle⟩, hstep _ hhead he⟩
        -- the slow step comes later, so the loop goes on
        have hgo : ¬ ((ownResult run index step).exitCode ≠ 0 ∧ step.onFailure = "stop") := by
          intro hstop
          rw [executed_cons, if_pos hstop] at hslow
          obtain ⟨p, hp, he, hle⟩ := hslow
          rw [List.mem_singleton] at hp
          subst hp
          exact hthis ⟨he, hle⟩
        have hexec : executed run index (step :: rest) =
            (index, step) :: executed run (index + 1) rest := by
          rw [executed_cons, if_neg hgo]
        rw [hexec] at hstep hslow ⊢
        have hlater : ∃ p ∈ executed run (index + 1) rest, p.2.resolutionError = none ∧
            createSshTimeout ≤ (run p.1).duration := by
          obtain ⟨p, hp, he, hle⟩ := hslow
          rcases List.mem_cons.1 hp with rfl | hp
          · exact absurd ⟨he, hle⟩ hthis
          · exact ⟨p, hp, he, hle⟩
        have hrec (status' : TerminalStatus) := ih (index + 1)
          (results ++ [stepResult sha256 index step (ownResult run index step)]) status'
          (fun p hp => hstep p (List.mem_cons_of_mem _ hp)) hlater
        simp only [List.length_append, List.length_singleton] at hrec
        rw [runSteps, runStep_of_fast hfast, List.length_cons]
        simp only
        by_cases hexit : (ownResult run index step).exitCode = 0
        · rw [if_neg (not_not.2 hexit)]
          have := hrec status
          omega
        · rw [if_pos hexit, if_neg (fun hs => hgo ⟨hexit, hs⟩)]
          have := hrec .error
          omega

/-! ## The main result -/

/-- The entries of the result are those of the loop. -/
theorem runRemote_steps (sha256 : String → String) (run : Nat → Ended)
    (target : ScriptTarget Id) : (runRemote sha256 (.staysUp run) target).steps =
      (runSteps sha256 target.timeout (fun i => .ended (run i)) 0 target.steps []
        .success).results :=
  rfl

/-- When the executed steps together take less than the limit, so does each. -/
theorem duration_lt_of_total {run : Nat → Ended} {steps : List ResolvedStep} {timeout : Nat}
    (htotal : totalDuration run steps < timeout) :
    ∀ p ∈ executed run 0 steps, p.2.resolutionError = none → (run p.1).duration < timeout := by
  intro p hp he
  have hle : stepDuration run p ≤ totalDuration run steps :=
    List.single_le_sum (fun _ _ => zero_le) _ (List.mem_map.2 ⟨p, hp, rfl⟩)
  have hdur : stepDuration run p = (run p.1).duration := if_pos he
  rw [← hdur]
  exact lt_of_le_of_lt hle htotal

/-- Steps that end before both limits are reported. -/
theorem runRemote_reports_of_fast (sha256 : String → String) (run : Nat → Ended)
    (target : ScriptTarget Id)
    (h : ∀ p ∈ executed run 0 target.steps, p.2.resolutionError = none →
      (run p.1).duration < createSshTimeout ∧ (run p.1).duration < target.timeout) :
    Reports run target.steps (runRemote sha256 (.staysUp run) target) := by
  obtain ⟨hres, hstat, hraise⟩ := runSteps_of_fast sha256 target.steps 0 [] .success h
  constructor
  · rw [runRemote_steps, hres, List.nil_append, List.forall₂_map_right_iff, List.forall₂_same]
    exact fun p _ => entryOf_stepResult sha256 run p.1 p.2
  · have hstatus : (runRemote sha256 (.staysUp run) target).status =
        (runSteps sha256 target.timeout (fun i => .ended (run i)) 0 target.steps []
          .success).status := by
      simp only [runRemote, RemoteHost.staysUp, if_true, hraise, Bool.not_true, Bool.or_self,
        Bool.false_eq_true, if_false]
    have hexit : ∀ p : Nat × ResolvedStep,
        (ownResult run p.1 p.2).exitCode = 0 ↔ ¬ Fails run p.1 p.2 := fun p => by
      rw [← ownResult_exitCode, not_not]
    simp only [hstatus, hstat, hexit, true_and]

/-- **When the steps of a script are reported.**  Suppose the connection is set
up and stays up, and the executed steps together take less time than the
effective timeout.  Then the result holds one entry for each of them, and its
status says whether all exited with 0, exactly when none of them takes the 30
seconds after which the connector gives up. -/
theorem runRemote_reports_iff (sha256 : String → String) (run : Nat → Ended)
    (target : ScriptTarget Id) (htotal : totalDuration run target.steps < target.timeout) :
    Reports run target.steps (runRemote sha256 (.staysUp run) target) ↔
      ∀ p ∈ executed run 0 target.steps, p.2.resolutionError = none → (run p.1).duration < 30 := by
  have hlimit := duration_lt_of_total htotal
  constructor
  · intro h p hp he
    by_contra hslow
    have hshort := runSteps_of_slow sha256 target.steps 0 [] .success hlimit
      ⟨p, hp, he, not_lt.1 hslow⟩
    rw [← runRemote_steps, ← h.entries.length_eq, List.length_nil, Nat.zero_add] at hshort
    exact lt_irrefl _ hshort
  · intro hfast
    exact runRemote_reports_of_fast sha256 run target fun p hp he =>
      ⟨hfast p hp he, hlimit p hp he⟩

/-- Under an effective timeout of at most 30 seconds the steps are always
reported. -/
theorem runRemote_reports_of_timeout_le (sha256 : String → String) (run : Nat → Ended)
    (target : ScriptTarget Id) (htotal : totalDuration run target.steps < target.timeout)
    (hle : target.timeout ≤ 30) :
    Reports run target.steps (runRemote sha256 (.staysUp run) target) := by
  refine runRemote_reports_of_fast sha256 run target fun p hp he => ?_
  have hlt := duration_lt_of_total htotal p hp he
  have hssh : (target.timeout : ℚ≥0) ≤ createSshTimeout := by
    rw [createSshTimeout]
    exact_mod_cast hle
  exact ⟨lt_of_lt_of_le hlt hssh, hlt⟩

/-! ## A slow step -/

/-- A script of one step with an effective timeout of a minute. -/
def backupTarget : ScriptTarget Nat where
  executionId := 1
  nodeId := 1
  nodeName := "node-1"
  steps := [⟨"backup", "./backup.sh", "stop", none⟩]
  timeout := 60

/-- A command that takes so many seconds, prints nothing and exits with 0. -/
def quietRun (duration : ℚ≥0) (_ : Nat) : Ended := ⟨duration, [], [], some 0⟩

theorem executed_backup (duration : ℚ≥0) : executed (quietRun duration) 0 backupTarget.steps =
    [(0, ⟨"backup", "./backup.sh", "stop", none⟩)] := by
  simp [executed, Fails, backupTarget, quietRun]

theorem totalDuration_backup (duration : ℚ≥0) :
    totalDuration (quietRun duration) backupTarget.steps = duration := by
  simp [totalDuration, executed_backup, stepDuration, quietRun]

/-- A step of 40 seconds ends within the effective timeout of a minute, and is
not reported. -/
theorem not_runRemote_reports : ¬ ∀ (run : Nat → Ended) (target : ScriptTarget Nat),
    totalDuration run target.steps < target.timeout →
      Reports run target.steps (runRemote id (.staysUp run) target) := by
  intro h
  have htotal : totalDuration (quietRun 40) backupTarget.steps < backupTarget.timeout := by
    rw [totalDuration_backup]
    norm_num [backupTarget]
  have hentries := (h (quietRun 40) backupTarget htotal).entries
  have hshort := runSteps_of_slow id backupTarget.steps 0 [] .success
    (duration_lt_of_total htotal)
    ⟨_, by rw [executed_backup]; exact List.mem_singleton_self _, rfl,
      by norm_num [quietRun, createSshTimeout]⟩
  rw [← runRemote_steps, ← hentries.length_eq, List.length_nil, Nat.zero_add] at hshort
  exact lt_irrefl _ hshort

/-- Three steps: the first fails and the script goes on, the second could not be
resolved, the third is run. -/
def deployTarget : ScriptTarget Nat where
  executionId := 2
  nodeId := 1
  nodeName := "node-1"
  steps := [⟨"pull", "git pull", "continue", none⟩, ⟨"build", "", "continue", some "gone"⟩,
    ⟨"restart", "./restart.sh", "stop", none⟩]
  timeout := 60

/-- The first command complains and exits with 1, the others print and exit with 0;
each takes 10 seconds. -/
def deployRun (index : Nat) : Ended :=
  if index = 0 then ⟨10, [], ["no ".toList, "remote".toList], some 1⟩
  else ⟨10, ["up".toList], [], some 0⟩

theorem executed_deploy : executed deployRun 0 deployTarget.steps =
    [(0, ⟨"pull", "git pull", "continue", none⟩), (1, ⟨"build", "", "continue", some "gone"⟩),
      (2, ⟨"restart", "./restart.sh", "stop", none⟩)] := by
  simp [executed, Fails, deployTarget, deployRun]

/-- All three are reported, each with its own status, and the script has failed. -/
theorem runRemote_reports_deploy :
    Reports deployRun deployTarget.steps (runRemote id (.staysUp deployRun) deployTarget) ∧
      (runRemote id (.staysUp deployRun) deployTarget).status = .error := by
  have htotal : totalDuration deployRun deployTarget.steps < deployTarget.timeout := by
    rw [totalDuration, executed_deploy]
    simp only [List.map_cons, List.map_nil, stepDuration, deployRun, reduceCtorEq, if_true, if_false]
    norm_num [deployTarget]
  have hreports := (runRemote_reports_iff id deployRun deployTarget htotal).2 fun p _ _ => by
    rw [deployRun]
    split <;> norm_num
  refine ⟨hreports, ?_⟩
  cases hstatus : (runRemote id (.staysUp deployRun) deployTarget).status with
  | error => rfl
  | success =>
      have hnone := hreports.status.1 hstatus (0, ⟨"pull", "git pull", "continue", none⟩)
        (by rw [executed_deploy]; exact List.mem_cons_self)
      exact absurd (Or.inr (by decide)) hnone

end Script
end NodeNexus
