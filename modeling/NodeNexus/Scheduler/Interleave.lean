import NodeNexus.Lib.Transition
import NodeNexus.Scheduler.Reconcile

/-!
# Schedule changes and reconciliation passes, interleaved: the code

`ScheduleManagementService` writes the stored schedule and then, after an
await, the runtime job; `reconcile` works on the schedules it read before and
awaits a write between every two registrations.  Nothing locks a script across
these awaits, so the calls on one replica interleave.

* `Call` says where a call is suspended, and `Call.advance` runs it to its next
  await.
* `scheduleSystem` lets any number of calls take turns.
* `Projected` is the law for a runtime at rest: it has a job for a script
  exactly when an enabled schedule is stored, and the job is that schedule's.
* `Undisturbed` is the condition on a step under which the law survives.
-/

namespace NodeNexus
namespace Scheduler

variable {Id Params Zone Trigger Time : Type} [DecidableEq Id]

/-! ## One call -/

/-- Where a call of `create_or_update`, `delete` or `reconcile` is suspended. -/
inductive Call (Id Params Time : Type) where
  /-- `create_or_update` reads the script and the nodes, and validates; `fresh`
  is the id a new row will get. -/
  | validating (scriptId fresh : Id) (data : ScheduleRequest Id Params)
  /-- `await self._writer.upsert_schedule(script_id, data)`. -/
  | upserting (scriptId fresh : Id) (data : ScheduleRequest Id Params)
  /-- The upsert has committed, `create_or_update` has not run on yet. -/
  | upserted (desired : ScheduleView Id Params Time)
  /-- `create_or_update` awaits `mark_registration`; what it does afterwards (a
  published event and a read) changes nothing. -/
  | marking (scriptId : Id) (reg : Registration Time)
  /-- `await self._writer.delete_schedule(script_id)`. -/
  | deleting (scriptId : Id)
  /-- The delete has committed, `delete` has not run on yet. -/
  | deleted (scriptId : Id) (found : Bool)
  /-- `await self._reader.list_enabled_schedules()`. -/
  | listing
  /-- The schedules are read, `reconcile` has not run on yet. -/
  | listed (schedules : List (ScheduleView Id Params Time))
  /-- `reconcile` awaits `mark_registration`; `rest` is left of its loop. -/
  | restoring (scriptId : Id) (reg : Registration Time)
      (rest : List (ScheduleView Id Params Time))
  /-- The registration is marked, `reconcile` has not run on yet. -/
  | restored (rest : List (ScheduleView Id Params Time))

/-- What can happen to a call. -/
inductive Action (Time : Type) where
  /-- The script and the nodes exist, and `validate` accepts cron and zone. -/
  | validated
  /-- Validation, or the statement the call awaits, raises. -/
  | failed
  /-- The transaction the call awaits takes effect. -/
  | landed
  /-- The call runs on, at the time `now`, to its next await. -/
  | resumed (now : Time)

/-- The second loop of `reconcile` up to its next await. -/
def restoreNext (cal : Calendar Zone Trigger Time) (d : Deployment Id Params Trigger Time)
    (now : Time) :
    List (ScheduleView Id Params Time) →
      Deployment Id Params Trigger Time × Option (Call Id Params Time)
  | [] => (d, none)
  | s :: rest =>
      match register cal d.jobs s now with
      | (jobs, .error _) => ({ d with jobs := jobs }, none)
      | (jobs, .ok reg) => ({ d with jobs := jobs }, some (.restoring s.scriptId reg rest))

/-- What an action does to a call: the new deployment, and where the call is
suspended next, or `none` when it is over. -/
def Call.advance (cal : Calendar Zone Trigger Time) (d : Deployment Id Params Trigger Time) :
    Call Id Params Time → Action Time →
      Option (Deployment Id Params Trigger Time × Option (Call Id Params Time))
  | .validating x fresh data, .validated =>
      match cal.trigger data.cron data.timezone with
      | .ok _ => some (d, some (.upserting x fresh data))
      | .error _ => none
  | .validating .., .failed => some (d, none)
  | .upserting x fresh data, .landed =>
      some ({ d with store := (d.store.upsertSchedule fresh x data).1 },
        some (.upserted (d.store.upsertSchedule fresh x data).2))
  | .upserting .., .failed => some (d, none)
  | .upserted desired, .resumed now =>
      match register cal d.jobs desired now with
      | (jobs, .error _) => some ({ d with jobs := jobs }, none)
      | (jobs, .ok reg) => some ({ d with jobs := jobs }, some (.marking desired.scriptId reg))
  | .marking x reg, .landed =>
      match d.store.markRegistration x reg.state reg.errorType reg.nextRunAt with
      | .ok store => some ({ d with store := store }, none)
      | .error _ => some (d, none)
  | .marking .., .failed => some (d, none)
  | .deleting x, .landed =>
      some ({ d with store := (d.store.deleteSchedule x).1 },
        some (.deleted x (d.store.deleteSchedule x).2))
  | .deleting _, .failed => some (d, none)
  | .deleted x found, .resumed _ =>
      -- `ScheduleNotFoundError` when there was no row
      if found then some ({ d with jobs := d.jobs.remove x }, none) else some (d, none)
  | .listing, .landed => some (d, some (.listed d.store.listEnabledSchedules))
  | .listing, .failed => some (d, none)
  | .listed schedules, .resumed now =>
      some (restoreNext cal (d.removeOrphans schedules) now schedules)
  | .restoring x reg rest, .landed =>
      match d.store.markRegistration x reg.state reg.errorType reg.nextRunAt with
      | .ok store => some ({ d with store := store }, some (.restored rest))
      | .error _ => some (d, none)
  | .restoring .., .failed => some (d, none)
  | .restored rest, .resumed now => some (restoreNext cal d now rest)
  | _, _ => none

/-! ## Any number of calls -/

/-- The deployment, and the calls in flight by their numbers. -/
structure Concurrent (Id Params Trigger Time : Type) where
  deployment : Deployment Id Params Trigger Time
  calls : Table (Prod.fst : Nat × Call Id Params Time → Nat)

namespace Concurrent

/-- The call with a given number, when it is in flight. -/
def call (s : Concurrent Id Params Trigger Time) (n : Nat) : Option (Call Id Params Time) :=
  (s.calls.find? n).map Prod.snd

/-- The state after the call `n` ran to where it is suspended next. -/
def settle (s : Concurrent Id Params Trigger Time) (n : Nat)
    (d : Deployment Id Params Trigger Time) (c : Option (Call Id Params Time)) :
    Concurrent Id Params Trigger Time where
  deployment := d
  calls := match c with
    | none => s.calls.erase n
    | some c => s.calls.put (n, c)

/-- A new call starts. -/
def begin (s : Concurrent Id Params Trigger Time) (n : Nat) (c : Call Id Params Time) :
    Option (Concurrent Id Params Trigger Time) :=
  match s.call n with
  | none => some (s.settle n s.deployment (some c))
  | some _ => none

/-- All calls have finished. -/
def Quiet (s : Concurrent Id Params Trigger Time) : Prop := s.calls.rows = []

end Concurrent

/-- What can happen next. -/
inductive ScheduleEvent (Id Params Time : Type) where
  /-- A call of `create_or_update`. -/
  | createOrUpdate (n : Nat) (scriptId fresh : Id) (data : ScheduleRequest Id Params)
  /-- A call of `delete`. -/
  | delete (n : Nat) (scriptId : Id)
  /-- A reconciliation pass. -/
  | reconcile (n : Nat)
  /-- Something happens to a call in flight. -/
  | advance (n : Nat) (a : Action Time)

/-- What an event does. -/
def Concurrent.step (cal : Calendar Zone Trigger Time) (s : Concurrent Id Params Trigger Time) :
    ScheduleEvent Id Params Time → Option (Concurrent Id Params Trigger Time)
  | .createOrUpdate n x fresh data => s.begin n (.validating x fresh data)
  | .delete n x => s.begin n (.deleting x)
  | .reconcile n => s.begin n .listing
  | .advance n a => (s.call n).bind fun c =>
      (c.advance cal s.deployment a).map fun next => s.settle n next.1 next.2

/-- The law: a script has a job exactly when an enabled schedule is stored for
it, and the job is the one of that schedule. -/
structure Projected (cal : Calendar Zone Trigger Time) (d : Deployment Id Params Trigger Time) :
    Prop where
  /-- A job for a script exactly when an enabled schedule is stored. -/
  jobs_iff : ∀ x, (∃ job, d.jobs.find? x = some job) ↔
    ∃ row, d.store.find? x = some row ∧ row.enabled = true
  /-- The job has the schedule's cron, time zone, nodes and parameters. -/
  job_eq : ∀ x row job, d.store.find? x = some row → d.jobs.find? x = some job →
    cal.trigger row.cron row.timezone = .ok job.trigger ∧ job.nodeIds = row.nodeIds ∧
      job.params = row.params

/-- Can every enabled schedule be registered? -/
def AllRegistrable (cal : Calendar Zone Trigger Time) (store : ScheduleStore Id Params Time) :
    Prop :=
  ∀ s ∈ store.listEnabledSchedules, Registrable cal s

/-- What a completed pass leaves behind: every script has the job it should
have, and no schedule fails to register. -/
structure InStep (cal : Calendar Zone Trigger Time) (d : Deployment Id Params Trigger Time) :
    Prop where
  registrable : AllRegistrable cal d.store
  jobs : ∀ x, d.jobs.find? x = desiredJob cal d.store x

/-- The calls of one replica, started when runtime and store are in step. -/
def scheduleSystem (cal : Calendar Zone Trigger Time) :
    System (Concurrent Id Params Trigger Time) (ScheduleEvent Id Params Time) where
  init s := InStep cal s.deployment ∧ s.Quiet
  step := Concurrent.step cal

/-! ## Calls that are not disturbed -/

/-- Does the call still have a write to the job of script `x` ahead of it, on
the ground of what it has read or committed already? -/
def Call.owes (c : Call Id Params Time) (x : Id) : Prop :=
  match c with
  | .upserted desired => desired.scriptId = x
  | .deleted y found => found = true ∧ y = x
  | .listed _ => True
  | .restoring _ _ rest | .restored rest => x ∈ rest.map (·.scriptId)
  | _ => False

/-- Is the call about to commit a change of the schedule of script `x`? -/
def Call.commits (c : Call Id Params Time) (x : Id) : Prop :=
  match c with
  | .upserting y _ _ | .deleting y => y = x
  | _ => False

/-- Is this where a call starts? -/
def Call.Starts (c : Call Id Params Time) : Prop :=
  match c with
  | .validating .. | .deleting _ | .listing => True
  | _ => False

/-- No change of a script's schedule commits while a call still has a write to
that script's job ahead of it. -/
def Undisturbed (s : Concurrent Id Params Trigger Time) (e : ScheduleEvent Id Params Time) : Prop :=
  match e with
  | .advance n .landed => ∀ c x, s.call n = some c → c.commits x →
      ∀ m c', s.call m = some c' → ¬ c'.owes x
  | _ => True

end Scheduler
end NodeNexus
