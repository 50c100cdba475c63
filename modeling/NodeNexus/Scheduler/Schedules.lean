import NodeNexus.Lib.Table

/-!
# Persisted schedules and runtime jobs: the code

A script has at most one schedule, stored in `script_schedules`, and the
scheduler of a replica has at most one job for it.  This file models both
sides: `SqlAlchemyScheduleGateway` over the table with its unique index and its
CHECK constraint, and the part of `ApschedulerRuntime` and
`ApschedulerJobScheduler` that adds, replaces, lists and removes jobs.

What comes from outside (`zoneinfo` and APScheduler's cron trigger) is the
parameter `Calendar`.  Job ids are the script ids printed as strings, and
`inspect` parses them back, so jobs are kept under the script id itself.
-/

namespace NodeNexus
namespace Scheduler

/-! ## Exceptions -/

/-- The built-in class an exception inherits from, as far as the `except`
clauses of the schedule services ask. -/
inductive ExceptionClass where
  | runtimeError
  | valueError
  | keyError
  | other
  deriving DecidableEq

/-- An exception raised outside this repository. -/
structure RaisedError where
  /-- `type(exc).__name__`. -/
  typeName : String
  /-- The built-in class it inherits from. -/
  cls : ExceptionClass
  deriving DecidableEq

/-- Does `except (RuntimeError, ValueError)` catch it? -/
def RaisedError.isRuntimeOrValueError (e : RaisedError) : Bool :=
  match e.cls with
  | .runtimeError | .valueError => true
  | .keyError | .other => false

/-- `sqlalchemy.exc.IntegrityError`, with the constraint that was violated. -/
structure IntegrityError where
  /-- The name of the constraint. -/
  constraint : String
  deriving DecidableEq

/-! ## Cron triggers -/

/-- The time zone database and the cron triggers of APScheduler. -/
structure Calendar (Zone Trigger Time : Type) where
  /-- `ZoneInfo(timezone)`. -/
  zoneInfo : String → Except RaisedError Zone
  /-- `CronTrigger.from_crontab(cron, timezone=zone)`. -/
  fromCrontab : String → Zone → Except RaisedError Trigger
  /-- The next time the trigger fires, seen from a moment. -/
  nextFireTime : Trigger → Time → Option Time

variable {Id Params Zone Trigger Time : Type}

/-- `CronTrigger.from_crontab(cron, timezone=ZoneInfo(timezone))`. -/
def Calendar.trigger (cal : Calendar Zone Trigger Time) (cron timezone : String) :
    Except RaisedError Trigger :=
  match cal.zoneInfo timezone with
  | .error e => .error e
  | .ok zone => cal.fromCrontab cron zone

/-! ## The store -/

/-- `ScheduleViewDTO`. -/
structure ScheduleView (Id Params Time : Type) where
  id : Id
  scriptId : Id
  cron : String
  timezone : String
  nodeIds : List Id
  params : Params
  enabled : Bool
  misfireGraceSeconds : Int
  operationalState : String
  lastErrorType : Option String
  nextRunAt : Option Time

/-- `ScheduleRequestDTO`. -/
structure ScheduleRequest (Id Params : Type) where
  cron : String
  timezone : String
  nodeIds : List Id
  params : Params
  misfireGraceSeconds : Int

/-- The CHECK constraint `chk_script_schedules_operational_state`. -/
def chkOperationalState (state : String) : Bool :=
  state == "registered" || state == "pending_registration"

theorem chkOperationalState_pending : chkOperationalState "pending_registration" = true := by
  decide

/-- A row of `script_schedules`; the CHECK constraint is part of it. -/
structure StoredSchedule (Id Params Time : Type) extends ScheduleView Id Params Time where
  /-- The row passes its CHECK constraint. -/
  check : chkOperationalState operationalState = true

/-- The column under the unique index `ix_script_schedules_script_id`. -/
def StoredSchedule.key (r : StoredSchedule Id Params Time) : Id := r.scriptId

/-- The table `script_schedules`. -/
abbrev ScheduleStore (Id Params Time : Type) : Type :=
  Table (@StoredSchedule.key Id Params Time)

/-- The columns `mark_registration` writes. -/
def StoredSchedule.mark (r : StoredSchedule Id Params Time) (state : String)
    (errorType : Option String) (nextRunAt : Option Time)
    (h : chkOperationalState state = true) : StoredSchedule Id Params Time :=
  { r with
    operationalState := state
    lastErrorType := errorType
    nextRunAt := nextRunAt
    check := h }

@[simp] theorem StoredSchedule.key_mark (r : StoredSchedule Id Params Time) (state : String)
    (errorType : Option String) (nextRunAt : Option Time)
    (h : chkOperationalState state = true) : (r.mark state errorType nextRunAt h).key = r.key :=
  rfl

namespace ScheduleStore

/-- `list_enabled_schedules`. -/
def listEnabledSchedules (store : ScheduleStore Id Params Time) :
    List (ScheduleView Id Params Time) :=
  (store.rows.filter (·.enabled)).map (·.toScheduleView)

variable [DecidableEq Id]

/-- The row `upsert_schedule` writes: a new one, or the stored one with every
field of `values` replaced. -/
def upserted (store : ScheduleStore Id Params Time) (fresh scriptId : Id)
    (data : ScheduleRequest Id Params) : StoredSchedule Id Params Time where
  id := match store.find? scriptId with
    | none => fresh
    | some row => row.id
  scriptId := scriptId
  cron := data.cron
  timezone := data.timezone
  nodeIds := data.nodeIds
  params := data.params
  enabled := true
  misfireGraceSeconds := data.misfireGraceSeconds
  operationalState := "pending_registration"
  lastErrorType := none
  nextRunAt := none
  check := chkOperationalState_pending

/-- `upsert_schedule`; `fresh` is the id a new row gets. -/
def upsertSchedule (store : ScheduleStore Id Params Time) (fresh scriptId : Id)
    (data : ScheduleRequest Id Params) :
    ScheduleStore Id Params Time × ScheduleView Id Params Time :=
  (store.put (upserted store fresh scriptId data),
    (upserted store fresh scriptId data).toScheduleView)

/-- `delete_schedule`. -/
def deleteSchedule (store : ScheduleStore Id Params Time) (scriptId : Id) :
    ScheduleStore Id Params Time × Bool :=
  match store.find? scriptId with
  | none => (store, false)
  | some _ => (store.erase scriptId, true)

/-- `mark_registration`: an `UPDATE … WHERE script_id = …`.  The CHECK
constraint looks at updated rows, so a state it forbids only raises when there
is a row. -/
def markRegistration (store : ScheduleStore Id Params Time) (scriptId : Id) (state : String)
    (errorType : Option String) (nextRunAt : Option Time) :
    Except IntegrityError (ScheduleStore Id Params Time) :=
  if h : chkOperationalState state = true then
    .ok (store.modify scriptId (fun row => row.mark state errorType nextRunAt h)
      fun row => row.key_mark state errorType nextRunAt h)
  else match store.find? scriptId with
    | none => .ok store
    | some _ => .error ⟨"chk_script_schedules_operational_state"⟩

end ScheduleStore

/-! ## The runtime jobs -/

/-- `RuntimeScheduleDTO`. -/
structure RuntimeSchedule (Id Params : Type) where
  scheduleId : Id
  scriptId : Id
  cron : String
  timezone : String
  nodeIds : List Id
  params : Params
  misfireGraceSeconds : Int

/-- `_to_runtime`, the same in both services. -/
def ScheduleView.toRuntime (s : ScheduleView Id Params Time) : RuntimeSchedule Id Params where
  scheduleId := s.id
  scriptId := s.scriptId
  cron := s.cron
  timezone := s.timezone
  nodeIds := s.nodeIds
  params := s.params
  misfireGraceSeconds := s.misfireGraceSeconds

/-- A job of the scheduler, as `schedule_script` adds it. -/
structure Job (Id Params Trigger : Type) where
  scriptId : Id
  trigger : Trigger
  nodeIds : List Id
  params : Params
  misfireGraceTime : Int

/-- The id of a job is the script id. -/
def Job.key (j : Job Id Params Trigger) : Id := j.scriptId

/-- The jobs of one scheduler. -/
abbrev JobStore (Id Params Trigger : Type) : Type :=
  Table (@Job.key Id Params Trigger)

/-- The job `schedule_script` makes of a schedule and its trigger. -/
def RuntimeSchedule.job (s : RuntimeSchedule Id Params) (trigger : Trigger) :
    Job Id Params Trigger where
  scriptId := s.scriptId
  trigger := trigger
  nodeIds := s.nodeIds
  params := s.params
  misfireGraceTime := s.misfireGraceSeconds

namespace JobStore

/-- `inspect`, which the services only ask for the script ids. -/
def inspect (jobs : JobStore Id Params Trigger) : List Id := jobs.rows.map (·.scriptId)

variable [DecidableEq Id]

/-- `add_or_replace`.  The trigger is built before the old job is removed, so a
schedule that cannot be registered leaves the jobs as they are. -/
def addOrReplace (cal : Calendar Zone Trigger Time) (jobs : JobStore Id Params Trigger)
    (s : RuntimeSchedule Id Params) (now : Time) :
    Except RaisedError (JobStore Id Params Trigger × Option Time) :=
  match cal.trigger s.cron s.timezone with
  | .error e => .error e
  | .ok trigger => .ok (jobs.put (s.job trigger), cal.nextFireTime trigger now)

/-- `remove`. -/
def remove (jobs : JobStore Id Params Trigger) (scriptId : Id) : JobStore Id Params Trigger :=
  jobs.erase scriptId

/-- The first loop of `reconcile`, over what `inspect` returned: remove the jobs
of scripts that are not desired. -/
def removeOrphans (desired : List Id) :
    List Id → JobStore Id Params Trigger → JobStore Id Params Trigger
  | [], jobs => jobs
  | scriptId :: rest, jobs =>
      removeOrphans desired rest (if scriptId ∈ desired then jobs else jobs.remove scriptId)

end JobStore

/-! ## What the operations do to a lookup -/

section Lookups

variable [DecidableEq Id]

theorem ScheduleStore.scriptId_of_find? {store : ScheduleStore Id Params Time} {x : Id}
    {row : StoredSchedule Id Params Time} (h : store.find? x = some row) : row.scriptId = x :=
  have hk : row.key = x := Table.key_of_find? h
  hk

theorem ScheduleStore.find?_of_mem {store : ScheduleStore Id Params Time}
    {row : StoredSchedule Id Params Time} (h : row ∈ store.rows) :
    store.find? row.scriptId = some row :=
  Table.find?_of_mem h

theorem ScheduleStore.find?_upsertSchedule (store : ScheduleStore Id Params Time)
    (fresh x : Id) (data : ScheduleRequest Id Params) (y : Id) :
    (store.upsertSchedule fresh x data).1.find? y =
      if y = x then some (store.upserted fresh x data) else store.find? y :=
  Table.find?_put _ _ _

theorem ScheduleStore.find?_deleteSchedule (store : ScheduleStore Id Params Time) (x y : Id) :
    (store.deleteSchedule x).1.find? y = if y = x then none else store.find? y := by
  cases h : store.find? x with
  | none =>
      by_cases hy : y = x
      · simp [deleteSchedule, h, hy]
      · simp [deleteSchedule, h, hy]
  | some row => simpa [deleteSchedule, h] using Table.find?_erase store x y

/-- A state the CHECK constraint allows is always stored. -/
theorem ScheduleStore.markRegistration_ok {store : ScheduleStore Id Params Time} {x : Id}
    {state : String} {err : Option String} {next : Option Time}
    (h : chkOperationalState state = true) :
    store.markRegistration x state err next =
      .ok (store.modify x (fun row => row.mark state err next h)
        fun row => row.key_mark state err next h) := by
  rw [markRegistration, dif_pos h]

/-- A state the CHECK constraint forbids is never stored in a row. -/
theorem ScheduleStore.markRegistration_error {store : ScheduleStore Id Params Time} {x : Id}
    {state : String} {err : Option String} {next : Option Time} {row}
    (h : chkOperationalState state = false) (hrow : store.find? x = some row) :
    store.markRegistration x state err next =
      .error ⟨"chk_script_schedules_operational_state"⟩ := by
  rw [markRegistration, dif_neg (by simp [h]), hrow]

theorem JobStore.find?_remove (jobs : JobStore Id Params Trigger) (x y : Id) :
    (jobs.remove x).find? y = if y = x then none else jobs.find? y :=
  Table.find?_erase _ _ _

/-- The removal pass takes away the jobs of the inspected scripts that are not
desired, and no others. -/
theorem JobStore.find?_removeOrphans (desired inspected : List Id)
    (jobs : JobStore Id Params Trigger) (y : Id) :
    (removeOrphans desired inspected jobs).find? y =
      if y ∈ inspected ∧ y ∉ desired then none else jobs.find? y := by
  induction inspected generalizing jobs with
  | nil => simp [removeOrphans]
  | cons x rest ih =>
      rw [removeOrphans, ih]
      by_cases hy : y = x
      · subst hy
        by_cases hd : y ∈ desired
        · simp [hd]
        · simp [hd, find?_remove]
      · by_cases hd : x ∈ desired
        · simp [hd, hy]
        · simp [hd, hy, find?_remove]

/-- After the removal pass the jobs left are the desired ones. -/
theorem JobStore.find?_removeOrphans_inspect (desired : List Id)
    (jobs : JobStore Id Params Trigger) (y : Id) :
    (removeOrphans desired jobs.inspect jobs).find? y =
      if y ∈ desired then jobs.find? y else none := by
  rw [find?_removeOrphans]
  by_cases hd : y ∈ desired
  · simp [hd]
  · by_cases hi : y ∈ jobs.inspect
    · simp [hd, hi]
    · have hnone : jobs.find? y = none := by
        rw [Table.find?_eq_none]
        intro j hj hk
        exact hi (List.mem_map.2 ⟨j, hj, hk⟩)
      simp [hd, hi, hnone]

end Lookups

end Scheduler
end NodeNexus
