import Mathlib.Data.NNRat.Defs
import Mathlib.Logic.Function.Basic
import NodeNexus.Lib.Table
import NodeNexus.Lib.Transition
import NodeNexus.Content.Formats

/-!
# The registry of running executions

`execution_registry.py` keeps, in the memory of the process, the task that runs each
execution, so that a call can cancel it.  An entry leaves the registry in three
ways: the done callback of a task takes out whatever entry its execution id has,
`_cleanup_expired` takes out entries by their age, and a registration replaces the
entry of its id.

* `RegistryState` — the registry, the clock, the tasks that are done, and the done
  callbacks that still have to run, in the order of the event loop.
* `step` — a registration, the end of a task, one callback, a cancellation, or time
  that passes.
* `Tracks` — the registry has the task that runs an execution; `Safe` — the steps
  that keep it so.
* `registry_tracks_iff` — the registry tracks all along a run exactly when all its
  steps are safe.
-/

namespace NodeNexus
namespace ExecutionRegistry

open Content

/-! ## The registry -/

/-- An `asyncio.Task`. -/
abbrev TaskId : Type := Nat

/-- A value of `_tasks`. -/
inductive Entry where
  | timed (task : TaskId) (ts : ℚ)
  /-- A task without a time, as tests assign it. -/
  | bare (task : TaskId)

/-- The task of an entry. -/
def Entry.task : Entry → TaskId
  | timed task _ => task
  | bare task => task

/-- An item of `_tasks`. -/
structure Item where
  id : Uuid
  entry : Entry

/-- `_TTL_SECONDS`. -/
def ttlSeconds : ℚ := 3600

/-- Does `_cleanup_expired` take the entry out? -/
def Entry.expired (now : ℚ) : Entry → Bool
  | timed _ ts => ttlSeconds < now - ts
  | bare _ => false

/-- A done callback that `register_execution` added: its task and its execution id. -/
structure Callback where
  task : TaskId
  id : Uuid

/-- The registry and the event loop. -/
structure RegistryState where
  tasks : Table Item.id
  /-- `time.monotonic()`. -/
  now : ℚ
  /-- The tasks that are done. -/
  done : List TaskId
  /-- The callbacks of tasks that are not done. -/
  waiting : List Callback
  /-- The callbacks that the loop is about to run, in order. -/
  ready : List Callback
  /-- The tasks that were asked to cancel. -/
  cancelled : List TaskId
  /-- The task that was registered last, which the code does not keep. -/
  latest : Uuid → Option TaskId

/-- Nothing is registered. -/
def initial (now : ℚ) : RegistryState := ⟨.empty, now, [], [], [], [], fun _ => none⟩

/-- `_cleanup_expired`. -/
def cleanupExpired (s : RegistryState) : RegistryState :=
  { s with tasks := s.tasks.keep fun item => !item.entry.expired s.now }

/-- `task.add_done_callback`: the callback of a task that is done runs soon. -/
def addDoneCallback (s : RegistryState) (c : Callback) : RegistryState :=
  if c.task ∈ s.done then { s with ready := s.ready ++ [c] }
  else { s with waiting := s.waiting ++ [c] }

/-- `_tasks[execution_id] = (task, time.monotonic())`. -/
def record (s : RegistryState) (id : Uuid) (task : TaskId) : RegistryState :=
  { s with
    tasks := s.tasks.put ⟨id, .timed task s.now⟩
    latest := Function.update s.latest id (some task) }

/-- `register_execution`. -/
def registerExecution (s : RegistryState) (id : Uuid) (task : TaskId) : RegistryState :=
  addDoneCallback (record (cleanupExpired s) id task) ⟨task, id⟩

/-- `get_execution_task`. -/
def getExecutionTask (s : RegistryState) (id : Uuid) : Option TaskId :=
  (s.tasks.find? id).map (·.entry.task)

/-- `cancel_execution_task`. -/
def cancelExecutionTask (s : RegistryState) (id : Uuid) : Bool × RegistryState :=
  match s.tasks.find? id with
  | none => (false, s)
  | some item =>
      if item.entry.task ∈ s.done then (false, s)
      else (true, { s with cancelled := s.cancelled ++ [item.entry.task] })

/-! ## Steps -/

/-- What happens to the registry. -/
inductive Event where
  | register (id : Uuid) (task : TaskId)
  /-- A task returns, raises or is cancelled. -/
  | complete (task : TaskId)
  /-- The loop runs the next callback. -/
  | runCallback
  | cancel (id : Uuid)
  | wait (seconds : ℚ≥0)

/-- A task is done: the loop is about to run its callbacks. -/
def complete (s : RegistryState) (task : TaskId) : RegistryState :=
  if task ∈ s.done then s
  else
    { s with
      done := task :: s.done
      ready := s.ready ++ s.waiting.filter (·.task = task)
      waiting := s.waiting.filter (·.task ≠ task) }

/-- The next callback: `_tasks.pop(execution_id, None)`. -/
def runCallback (s : RegistryState) : RegistryState :=
  match s.ready with
  | [] => s
  | c :: ready => { s with tasks := s.tasks.erase c.id, ready := ready }

/-- One step. -/
def step (s : RegistryState) : Event → RegistryState
  | .register id task => registerExecution s id task
  | .complete task => complete s task
  | .runCallback => runCallback s
  | .cancel id => (cancelExecutionTask s id).2
  | .wait seconds => { s with now := s.now + seconds }

/-! ## Tracking -/

/-- The task that was registered last for an execution is not done. -/
def IsLive (s : RegistryState) (id : Uuid) (task : TaskId) : Prop :=
  s.latest id = some task ∧ task ∉ s.done

/-- The registry has the task that runs each execution, and no other. -/
structure Tracks (s : RegistryState) : Prop where
  live : ∀ id task, IsLive s id task → getExecutionTask s id = some task
  /-- A task that is done and whose callbacks ran is gone. -/
  gone : ∀ id task, s.latest id = some task → task ∈ s.done → (∀ c ∈ s.ready, c.task ≠ task) →
    getExecutionTask s id = none
  never : ∀ id, s.latest id = none → getExecutionTask s id = none
  cancels : ∀ id task, IsLive s id task →
    cancelExecutionTask s id = (true, { s with cancelled := s.cancelled ++ [task] })
  misses : ∀ id, (∀ task, ¬ IsLive s id task) → cancelExecutionTask s id = (false, s)

/-- The step takes out no entry whose task still runs: a registration finds no such
entry of another execution that is older than the limit, and a callback finds none
under its execution id. -/
def Safe (s : RegistryState) : Event → Prop
  | .register id _ => ∀ item ∈ s.tasks.rows, item.id ≠ id → item.entry.expired s.now = true →
      item.entry.task ∈ s.done
  | .runCallback => ∀ c ∈ s.ready.head?, ∀ item ∈ s.tasks.rows, item.id = c.id →
      item.entry.task ∈ s.done
  | _ => True

/-- What holds of the entries whatever happens: each is of the last registration of
its id, and its callback is still to run. -/
structure Inv (s : RegistryState) : Prop where
  latest : ∀ item ∈ s.tasks.rows, s.latest item.id = some item.entry.task
  ready : ∀ item ∈ s.tasks.rows, item.entry.task ∈ s.done → ⟨item.entry.task, item.id⟩ ∈ s.ready
  waiting : ∀ item ∈ s.tasks.rows, item.entry.task ∉ s.done →
    ⟨item.entry.task, item.id⟩ ∈ s.waiting

section Lookups

variable {s : RegistryState} {id : Uuid} {task : TaskId}

theorem getExecutionTask_eq_some :
    getExecutionTask s id = some task ↔
      ∃ item ∈ s.tasks.rows, item.id = id ∧ item.entry.task = task := by
  simp only [getExecutionTask, Option.map_eq_some_iff, Table.find?_eq_some, and_assoc]

theorem getExecutionTask_eq_none :
    getExecutionTask s id = none ↔ ∀ item ∈ s.tasks.rows, item.id ≠ id := by
  rw [getExecutionTask, Option.map_eq_none_iff, Table.find?_eq_none]

/-- Every entry is found where the tasks that run are. -/
def FindsLive (s : RegistryState) : Prop :=
  ∀ id task, IsLive s id task → ∃ item ∈ s.tasks.rows, item.id = id ∧ item.entry.task = task

theorem cancelExecutionTask_of_live (hfinds : FindsLive s) (hlive : IsLive s id task) :
    cancelExecutionTask s id = (true, { s with cancelled := s.cancelled ++ [task] }) := by
  obtain ⟨item, hitem, rfl, rfl⟩ := hfinds id task hlive
  rw [cancelExecutionTask, Table.find?_of_mem hitem]
  exact if_neg hlive.2

theorem cancelExecutionTask_of_not_live (hs : Inv s) (hnone : ∀ task, ¬ IsLive s id task) :
    cancelExecutionTask s id = (false, s) := by
  unfold cancelExecutionTask
  cases hfound : s.tasks.find? id with
  | none => rfl
  | some item =>
      obtain ⟨hitem, rfl⟩ := Table.find?_eq_some.1 hfound
      have hdone : item.entry.task ∈ s.done := by
        by_contra hrunning
        exact hnone _ ⟨hs.latest item hitem, hrunning⟩
      exact if_pos hdone

/-- The registry tracks exactly when it has the tasks that run. -/
theorem tracks_iff_findsLive (hs : Inv s) : Tracks s ↔ FindsLive s := by
  constructor
  · intro h id task hlive
    exact getExecutionTask_eq_some.1 (h.live id task hlive)
  · intro h
    refine ⟨fun id task hlive => getExecutionTask_eq_some.2 (h id task hlive), ?_, ?_,
      fun id task hlive => cancelExecutionTask_of_live h hlive,
      fun id hnone => cancelExecutionTask_of_not_live hs hnone⟩
    · intro id task hlatest hdone hran
      rw [getExecutionTask_eq_none]
      rintro item hitem rfl
      have hsame : item.entry.task = task :=
        Option.some.inj ((hs.latest item hitem).symm.trans hlatest)
      exact hran _ (hs.ready item hitem (hsame ▸ hdone)) hsame
    · intro id hnever
      rw [getExecutionTask_eq_none]
      rintro item hitem rfl
      rw [hs.latest item hitem] at hnever
      cases hnever

end Lookups

/-! ## The steps -/

section Steps

variable {s : RegistryState}

theorem mem_cleanupExpired {item : Item} : item ∈ (cleanupExpired s).tasks.rows ↔
    item ∈ s.tasks.rows ∧ item.entry.expired s.now = false := by
  rw [cleanupExpired, Table.mem_keep, Bool.not_eq_true']

@[simp] theorem tasks_addDoneCallback (c : Callback) :
    (addDoneCallback s c).tasks = s.tasks := by
  unfold addDoneCallback
  split <;> rfl

@[simp] theorem latest_addDoneCallback (c : Callback) :
    (addDoneCallback s c).latest = s.latest := by
  unfold addDoneCallback
  split <;> rfl

@[simp] theorem done_addDoneCallback (c : Callback) : (addDoneCallback s c).done = s.done := by
  unfold addDoneCallback
  split <;> rfl

theorem mem_ready_addDoneCallback {c c' : Callback} :
    c' ∈ (addDoneCallback s c).ready ↔ c' ∈ s.ready ∨ c' = c ∧ c.task ∈ s.done := by
  unfold addDoneCallback
  split <;> simp [*]

theorem mem_waiting_addDoneCallback {c c' : Callback} :
    c' ∈ (addDoneCallback s c).waiting ↔ c' ∈ s.waiting ∨ c' = c ∧ c.task ∉ s.done := by
  unfold addDoneCallback
  split <;> simp [*]

/-- The entries after a registration. -/
theorem mem_registerExecution {id : Uuid} {task : TaskId} {item : Item} :
    item ∈ (registerExecution s id task).tasks.rows ↔ item = ⟨id, .timed task s.now⟩ ∨
      (item ∈ s.tasks.rows ∧ item.entry.expired s.now = false) ∧ item.id ≠ id := by
  rw [registerExecution, tasks_addDoneCallback, record, Table.mem_put, mem_cleanupExpired]
  rfl

@[simp] theorem latest_registerExecution (id : Uuid) (task : TaskId) :
    (registerExecution s id task).latest = Function.update s.latest id (some task) :=
  latest_addDoneCallback _

@[simp] theorem done_registerExecution (id : Uuid) (task : TaskId) :
    (registerExecution s id task).done = s.done :=
  done_addDoneCallback _

theorem inv_initial (now : ℚ) : Inv (initial now) :=
  ⟨fun _ hitem => absurd hitem List.not_mem_nil, fun _ hitem => absurd hitem List.not_mem_nil,
    fun _ hitem => absurd hitem List.not_mem_nil⟩

theorem inv_registerExecution (hs : Inv s) (id : Uuid) (task : TaskId) :
    Inv (registerExecution s id task) := by
  refine ⟨?_, ?_, ?_⟩
  · intro item hitem
    rw [latest_registerExecution]
    rcases mem_registerExecution.1 hitem with rfl | ⟨⟨hold, -⟩, hne⟩
    · exact Function.update_self ..
    · rw [Function.update_of_ne hne]
      exact hs.latest item hold
  · intro item hitem hdone
    rw [done_registerExecution] at hdone
    refine mem_ready_addDoneCallback.2 ?_
    rcases mem_registerExecution.1 hitem with rfl | ⟨⟨hold, -⟩, -⟩
    · exact .inr ⟨rfl, hdone⟩
    · exact .inl (hs.ready item hold hdone)
  · intro item hitem hdone
    rw [done_registerExecution] at hdone
    refine mem_waiting_addDoneCallback.2 ?_
    rcases mem_registerExecution.1 hitem with rfl | ⟨⟨hold, -⟩, -⟩
    · exact .inr ⟨rfl, hdone⟩
    · exact .inl (hs.waiting item hold hdone)

theorem inv_complete (hs : Inv s) (task : TaskId) : Inv (complete s task) := by
  unfold complete
  split
  · exact hs
  · rename_i hnew
    refine ⟨hs.latest, ?_, ?_⟩
    · intro item hitem hdone
      by_cases hbefore : item.entry.task ∈ s.done
      · exact List.mem_append_left _ (hs.ready item hitem hbefore)
      · have hsame : item.entry.task = task := (List.mem_cons.1 hdone).resolve_right hbefore
        refine List.mem_append_right _ (List.mem_filter.2 ⟨hs.waiting item hitem hbefore, ?_⟩)
        exact decide_eq_true hsame
    · intro item hitem hdone
      obtain ⟨hother, hbefore⟩ := not_or.1 (mt List.mem_cons.2 hdone)
      exact List.mem_filter.2 ⟨hs.waiting item hitem hbefore, decide_eq_true hother⟩

theorem inv_runCallback (hs : Inv s) : Inv (runCallback s) := by
  unfold runCallback
  split
  · exact hs
  · rename_i c ready hc
    refine ⟨?_, ?_, ?_⟩
    · intro item hitem
      exact hs.latest item (Table.mem_erase.1 hitem).1
    · intro item hitem hdone
      obtain ⟨hold, hne⟩ := Table.mem_erase.1 hitem
      have hmem := hs.ready item hold hdone
      rw [hc] at hmem
      rcases List.mem_cons.1 hmem with hself | hrest
      · exact absurd (congrArg Callback.id hself) hne
      · exact hrest
    · intro item hitem hdone
      exact hs.waiting item (Table.mem_erase.1 hitem).1 hdone

theorem inv_cancelExecutionTask (hs : Inv s) (id : Uuid) : Inv (cancelExecutionTask s id).2 := by
  unfold cancelExecutionTask
  split
  · exact hs
  · split
    · exact hs
    · exact ⟨hs.latest, hs.ready, hs.waiting⟩

/-- Every step keeps the invariant. -/
theorem inv_step (s : RegistryState) (e : Event) (hs : Inv s) : Inv (step s e) := by
  cases e with
  | register id task => exact inv_registerExecution hs id task
  | complete task => exact inv_complete hs task
  | runCallback => exact inv_runCallback hs
  | cancel id => exact inv_cancelExecutionTask hs id
  | wait seconds => exact ⟨hs.latest, hs.ready, hs.waiting⟩

/-! ## What is lost -/

/-- A registration loses no running task exactly when it expires none. -/
theorem findsLive_registerExecution (hs : Inv s) (hfinds : FindsLive s) (id : Uuid)
    (task : TaskId) :
    FindsLive (registerExecution s id task) ↔ Safe s (.register id task) := by
  constructor
  · intro h item hitem hne hexpired
    by_contra hrunning
    have hlive : IsLive (registerExecution s id task) item.id item.entry.task := by
      refine ⟨?_, by rwa [done_registerExecution]⟩
      rw [latest_registerExecution, Function.update_of_ne hne]
      exact hs.latest item hitem
    obtain ⟨item', hitem', hid, -⟩ := h _ _ hlive
    rcases mem_registerExecution.1 hitem' with rfl | ⟨⟨hold, hfresh⟩, -⟩
    · exact hne hid.symm
    · rw [s.tasks.eq_of_key_eq hold hitem hid, hexpired] at hfresh
      cases hfresh
  · rintro hsafe id' task' ⟨hlatest, hrunning⟩
    rw [done_registerExecution] at hrunning
    rw [latest_registerExecution] at hlatest
    by_cases hid : id' = id
    · rw [hid, Function.update_self] at hlatest
      cases hlatest
      exact ⟨_, mem_registerExecution.2 (.inl rfl), hid.symm, rfl⟩
    · rw [Function.update_of_ne hid] at hlatest
      obtain ⟨item, hitem, rfl, rfl⟩ := hfinds id' task' ⟨hlatest, hrunning⟩
      have hfresh : item.entry.expired s.now = false := by
        by_contra hexpired
        exact hrunning (hsafe item hitem hid (Bool.of_not_eq_false hexpired))
      exact ⟨item, mem_registerExecution.2 (.inr ⟨⟨hitem, hfresh⟩, hid⟩), rfl, rfl⟩

theorem findsLive_complete (hfinds : FindsLive s) (task : TaskId) :
    FindsLive (complete s task) := by
  unfold complete
  split
  · exact hfinds
  · rintro id task' ⟨hlatest, hrunning⟩
    exact hfinds id task' ⟨hlatest, fun hdone => hrunning (List.mem_cons_of_mem _ hdone)⟩

/-- A callback takes out the entry of its execution, whatever its task is. -/
theorem getExecutionTask_runCallback {c : Callback} {ready : List Callback}
    (hready : s.ready = c :: ready) : getExecutionTask (runCallback s) c.id = none := by
  rw [getExecutionTask_eq_none, runCallback, hready]
  intro item hitem
  exact (Table.mem_erase.1 hitem).2

/-- A callback loses no running task exactly when its execution has none. -/
theorem findsLive_runCallback (hs : Inv s) (hfinds : FindsLive s) :
    FindsLive (runCallback s) ↔ Safe s .runCallback := by
  unfold runCallback Safe
  cases hready : s.ready with
  | nil => exact iff_of_true hfinds fun c hc => absurd hc (Option.not_mem_none c)
  | cons c ready =>
      constructor
      · intro h c' hc' item hitem hid
        cases hc'
        by_contra hrunning
        obtain ⟨item', hitem', hid', -⟩ :=
          h item.id item.entry.task ⟨hs.latest item hitem, hrunning⟩
        exact (Table.mem_erase.1 hitem').2 (hid'.trans hid)
      · rintro hsafe id task ⟨hlatest, hrunning⟩
        obtain ⟨item, hitem, rfl, rfl⟩ := hfinds id task ⟨hlatest, hrunning⟩
        refine ⟨item, Table.mem_erase.2 ⟨hitem, fun hid => ?_⟩, rfl, rfl⟩
        exact hrunning (hsafe c rfl item hitem hid)

theorem findsLive_cancelExecutionTask (hfinds : FindsLive s) (id : Uuid) :
    FindsLive (cancelExecutionTask s id).2 := by
  unfold cancelExecutionTask
  split
  · exact hfinds
  · split
    · exact hfinds
    · exact fun id' task hlive => hfinds id' task hlive

/-- **A step keeps the registry tracking exactly when it is safe.** -/
theorem tracks_step_iff (s : RegistryState) (e : Event) (hs : Inv s) (htracks : Tracks s) :
    Tracks (step s e) ↔ Safe s e := by
  have hfinds := (tracks_iff_findsLive hs).1 htracks
  rw [tracks_iff_findsLive (inv_step s e hs)]
  cases e with
  | register id task => exact findsLive_registerExecution hs hfinds id task
  | complete task => exact iff_of_true (findsLive_complete hfinds task) trivial
  | runCallback => exact findsLive_runCallback hs hfinds
  | cancel id => exact iff_of_true (findsLive_cancelExecutionTask hfinds id) trivial
  | wait seconds => exact iff_of_true (fun id task hlive => hfinds id task hlive) trivial

end Steps

/-! ## Runs -/

/-- The state after some events. -/
def run (now : ℚ) (es : List Event) : RegistryState := es.foldl step (initial now)

/-- The registry tracks all along a run. -/
def TracksAlong (now : ℚ) (es : List Event) : Prop :=
  ∀ front, front <+: es → Tracks (run now front)

theorem tracks_initial (now : ℚ) : Tracks (initial now) := by
  rw [tracks_iff_findsLive (inv_initial now)]
  rintro id task ⟨hlatest, -⟩
  cases hlatest

/-- **The registry tracks the tasks that run** all along a run exactly when no step of
it takes out an entry whose task still runs. -/
theorem registry_tracks_iff (now : ℚ) (es : List Event) :
    TracksAlong now es ↔ ∀ front e, front ++ [e] <+: es → Safe (run now front) e :=
  forall_prefix_iff (inv_initial now) (tracks_initial now) inv_step tracks_step_iff es

/-- An execution is registered again, then the first task ends: its callback takes out
the entry of the second task, which still runs. -/
theorem not_tracksAlong_again : ¬ ∀ now es, TracksAlong now es := by
  intro h
  have htracks := h 0 [.register 0 1, .register 0 2, .complete 1, .runCallback] _ List.prefix_rfl
  have hlive := htracks.live 0 2 ⟨rfl, by decide⟩
  have hready : (run 0 [.register 0 1, .register 0 2, .complete 1]).ready = [⟨1, 0⟩] := rfl
  have hnone := getExecutionTask_runCallback hready
  rw [run, List.foldl_cons, List.foldl_cons, List.foldl_cons, List.foldl_cons] at hlive
  exact absurd (hnone.symm.trans hlive) (by simp)

end ExecutionRegistry
end NodeNexus
