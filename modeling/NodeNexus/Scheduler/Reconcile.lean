import NodeNexus.Scheduler.Schedules

/-!
# Reconciling the runtime with the stored schedules

`ScheduleReconciliationService.reconcile` reads the enabled schedules, removes
the jobs of all other scripts, and then registers the schedules one after the
other, writing to each row how its registration went.

* `reconcile` is the service method: the state it leaves behind, and the result
  or the exception it ends with.
* `desiredJob` says which job a script should have, given what is stored.
* `Settled` is what one would expect of a pass; `reconcile_settled_iff` says
  exactly when the code delivers it: when no enabled schedule fails to
  register.  A failed registration is written as `registration_failed`, which
  the CHECK constraint of the table forbids, so the pass ends there with an
  `IntegrityError`; an unknown time zone is not caught at all.
-/

namespace NodeNexus
namespace Scheduler

variable {Id Params Zone Trigger Time : Type} [DecidableEq Id]

/-! ## The service -/

/-- What the reconciliation reads and writes: the table and the jobs. -/
structure Deployment (Id Params Trigger Time : Type) where
  /-- The persisted schedules. -/
  store : ScheduleStore Id Params Time
  /-- The jobs of the running scheduler. -/
  jobs : JobStore Id Params Trigger

/-- `ScheduleReconciliationResultDTO`. -/
structure ReconciliationResult where
  restored : Nat
  failed : Nat
  deriving DecidableEq

/-- How the `try` statement around `add_or_replace` ends. -/
inductive Registration (Time : Type) where
  /-- The `else` branch. -/
  | registered (nextRunAt : Option Time)
  /-- The `except (RuntimeError, ValueError)` branch. -/
  | failed (errorType : String)

namespace Registration

/-- The `state` passed to `mark_registration`. -/
def state : Registration Time → String
  | registered _ => "registered"
  | failed _ => "registration_failed"

/-- The `error_type` passed to `mark_registration`. -/
def errorType : Registration Time → Option String
  | registered _ => none
  | failed e => some e

/-- The `next_run_at` passed to `mark_registration`. -/
def nextRunAt : Registration Time → Option Time
  | registered t => t
  | failed _ => none

end Registration

/-- `add_or_replace` inside its `try` statement: the jobs afterwards, and how
the statement ends; the error is an exception that is not caught. -/
def register (cal : Calendar Zone Trigger Time) (jobs : JobStore Id Params Trigger)
    (s : ScheduleView Id Params Time) (now : Time) :
    JobStore Id Params Trigger × Except RaisedError (Registration Time) :=
  match jobs.addOrReplace cal s.toRuntime now with
  | .ok (jobs', next) => (jobs', .ok (.registered next))
  | .error e =>
      if e.isRuntimeOrValueError then (jobs, .ok (.failed e.typeName)) else (jobs, .error e)

/-- The exceptions `reconcile` may end with. -/
inductive ReconcileError where
  /-- `add_or_replace` raised something the `try` statement does not catch. -/
  | registration (e : RaisedError)
  /-- `mark_registration` raised. -/
  | integrity (e : IntegrityError)
  deriving DecidableEq

/-- One schedule more is restored, or failed. -/
def ReconciliationResult.count (acc : ReconciliationResult) :
    Registration Time → ReconciliationResult
  | .registered _ => { acc with restored := acc.restored + 1 }
  | .failed _ => { acc with failed := acc.failed + 1 }

/-- The second loop of `reconcile`.  `clock` says when each schedule is
registered; what was written before an exception stays written. -/
def reconcileLoop (cal : Calendar Zone Trigger Time) (clock : ScheduleView Id Params Time → Time) :
    List (ScheduleView Id Params Time) → Deployment Id Params Trigger Time →
      ReconciliationResult →
      Deployment Id Params Trigger Time × Except ReconcileError ReconciliationResult
  | [], d, acc => (d, .ok acc)
  | s :: rest, d, acc =>
      match register cal d.jobs s (clock s) with
      | (jobs, .error e) => ({ d with jobs := jobs }, .error (.registration e))
      | (jobs, .ok reg) =>
          match d.store.markRegistration s.scriptId reg.state reg.errorType reg.nextRunAt with
          | .error e => ({ d with jobs := jobs }, .error (.integrity e))
          | .ok store => reconcileLoop cal clock rest ⟨store, jobs⟩ (acc.count reg)

/-- The part of `reconcile` before the second loop, for the schedules it read:
the jobs of other scripts are removed. -/
def Deployment.removeOrphans (d : Deployment Id Params Trigger Time)
    (schedules : List (ScheduleView Id Params Time)) : Deployment Id Params Trigger Time :=
  { d with
    jobs := JobStore.removeOrphans (schedules.map (·.scriptId)) d.jobs.inspect d.jobs }

/-- `reconcile`. -/
def reconcile (cal : Calendar Zone Trigger Time) (clock : ScheduleView Id Params Time → Time)
    (d : Deployment Id Params Trigger Time) :
    Deployment Id Params Trigger Time × Except ReconcileError ReconciliationResult :=
  reconcileLoop cal clock d.store.listEnabledSchedules
    (d.removeOrphans d.store.listEnabledSchedules) ⟨0, 0⟩

/-! ## What should be scheduled -/

/-- Can the schedule be registered? -/
def Registrable (cal : Calendar Zone Trigger Time) (s : ScheduleView Id Params Time) : Prop :=
  ∃ trigger, cal.trigger s.cron s.timezone = .ok trigger

/-- The job a schedule asks for: none when it is disabled or cannot be
registered. -/
def ScheduleView.desiredJob (cal : Calendar Zone Trigger Time) (s : ScheduleView Id Params Time) :
    Option (Job Id Params Trigger) :=
  if s.enabled then
    match cal.trigger s.cron s.timezone with
    | .ok trigger => some (s.toRuntime.job trigger)
    | .error _ => none
  else none

/-- The job a script should have, given what is stored. -/
def desiredJob (cal : Calendar Zone Trigger Time) (store : ScheduleStore Id Params Time) (x : Id) :
    Option (Job Id Params Trigger) :=
  (store.find? x).bind fun row => row.desiredJob cal

/-- A pass over `before` that ended with `res` and left `after` behind did what
is asked of it. -/
structure Settled (cal : Calendar Zone Trigger Time)
    (before after : Deployment Id Params Trigger Time) (res : ReconciliationResult) : Prop where
  /-- One job for every enabled schedule that can be registered, and no other. -/
  jobs : ∀ x, (after.jobs.rows.filter fun j => decide (j.scriptId = x)) =
    (desiredJob cal before.store x).toList
  /-- Every enabled schedule is counted. -/
  count : res.restored + res.failed = before.store.listEnabledSchedules.length
  /-- The row of an enabled schedule says whether it was registered. -/
  states : ∀ s ∈ before.store.listEnabledSchedules, ∃ row ∈ after.store.rows,
    row.scriptId = s.scriptId ∧ (row.operationalState = "registered" ↔ Registrable cal s)

/-! ## Reading the enabled schedules -/

omit [DecidableEq Id] in
theorem ScheduleStore.mem_listEnabledSchedules {store : ScheduleStore Id Params Time}
    {s : ScheduleView Id Params Time} :
    s ∈ store.listEnabledSchedules ↔
      ∃ row ∈ store.rows, row.enabled = true ∧ row.toScheduleView = s := by
  simp [listEnabledSchedules, and_assoc]

theorem ScheduleStore.find?_of_mem_enabled {store : ScheduleStore Id Params Time}
    {s : ScheduleView Id Params Time} (h : s ∈ store.listEnabledSchedules) :
    ∃ row, store.find? s.scriptId = some row ∧ row.toScheduleView = s := by
  obtain ⟨row, hrow, -, rfl⟩ := mem_listEnabledSchedules.1 h
  exact ⟨row, find?_of_mem hrow, rfl⟩

omit [DecidableEq Id] in
/-- No script has two schedules. -/
theorem ScheduleStore.nodup_listEnabledSchedules (store : ScheduleStore Id Params Time) :
    (store.listEnabledSchedules.map (·.scriptId)).Nodup := by
  rw [listEnabledSchedules, List.map_map]
  exact (List.Sublist.map _ List.filter_sublist).nodup store.nodup

/-- A script that is not among the enabled schedules should have no job. -/
theorem desiredJob_of_not_mem {cal : Calendar Zone Trigger Time}
    {store : ScheduleStore Id Params Time} {x : Id}
    (h : x ∉ store.listEnabledSchedules.map (·.scriptId)) : desiredJob cal store x = none := by
  cases hrow : store.find? x with
  | none => rw [desiredJob, hrow]; rfl
  | some row =>
      have hen : row.enabled ≠ true := by
        intro hen
        refine h (List.mem_map.2 ⟨row.toScheduleView, ?_,
          ScheduleStore.scriptId_of_find? hrow⟩)
        exact ScheduleStore.mem_listEnabledSchedules.2 ⟨row, Table.mem_of_find? hrow, hen, rfl⟩
      simp [desiredJob, hrow, ScheduleView.desiredJob, hen]

/-- A script with an enabled schedule should have the job that schedule asks
for. -/
theorem desiredJob_of_mem {cal : Calendar Zone Trigger Time}
    {store : ScheduleStore Id Params Time} {s : ScheduleView Id Params Time} {trigger : Trigger}
    (h : s ∈ store.listEnabledSchedules) (ht : cal.trigger s.cron s.timezone = .ok trigger) :
    desiredJob cal store s.scriptId = some (s.toRuntime.job trigger) := by
  obtain ⟨row, hrow, hen, rfl⟩ := ScheduleStore.mem_listEnabledSchedules.1 h
  have hfind := ScheduleStore.find?_of_mem hrow
  simp [desiredJob, hfind, ScheduleView.desiredJob, hen, ht]

/-! ## One turn of the loop -/

theorem register_of_registrable {cal : Calendar Zone Trigger Time}
    {jobs : JobStore Id Params Trigger} {s : ScheduleView Id Params Time} {now : Time}
    {trigger : Trigger} (h : cal.trigger s.cron s.timezone = .ok trigger) :
    register cal jobs s now =
      (jobs.put (s.toRuntime.job trigger), .ok (.registered (cal.nextFireTime trigger now))) := by
  simp [register, JobStore.addOrReplace, ScheduleView.toRuntime, h]

/-- A registration that raises changes no job, and ends the `try` statement
with a state the CHECK constraint forbids or with an exception. -/
theorem register_of_not_registrable {cal : Calendar Zone Trigger Time}
    {s : ScheduleView Id Params Time} (jobs : JobStore Id Params Trigger) (now : Time)
    (h : ¬ Registrable cal s) :
    (∃ errorType, register cal jobs s now = (jobs, .ok (.failed errorType))) ∨
      ∃ e, register cal jobs s now = (jobs, .error e) := by
  cases ht : cal.trigger s.cron s.timezone with
  | ok trigger => exact absurd ⟨trigger, ht⟩ h
  | error e =>
      by_cases hc : e.isRuntimeOrValueError = true
      · left
        exact ⟨e.typeName, by simp [register, JobStore.addOrReplace, ScheduleView.toRuntime, ht, hc]⟩
      · right
        exact ⟨e, by simp [register, JobStore.addOrReplace, ScheduleView.toRuntime, ht, hc]⟩

/-- The row of a script after its registration was marked. -/
def ScheduleStore.markRegistered (store : ScheduleStore Id Params Time) (x : Id)
    (next : Option Time) : ScheduleStore Id Params Time :=
  store.modify x (fun row => row.mark "registered" none next (by decide))
    fun row => row.key_mark "registered" none next (by decide)

theorem ScheduleStore.find?_markRegistered (store : ScheduleStore Id Params Time) (x : Id)
    (next : Option Time) (y : Id) :
    (store.markRegistered x next).find? y =
      if y = x then (store.find? y).map fun row => row.mark "registered" none next (by decide)
      else store.find? y :=
  Table.find?_modify _ _ _ _ _

/-- The turn of a schedule that can be registered. -/
theorem reconcileLoop_cons_ok {cal : Calendar Zone Trigger Time}
    {clock : ScheduleView Id Params Time → Time} {s : ScheduleView Id Params Time}
    {rest : List (ScheduleView Id Params Time)} {d : Deployment Id Params Trigger Time}
    {acc : ReconciliationResult} {trigger : Trigger}
    (h : cal.trigger s.cron s.timezone = .ok trigger) :
    reconcileLoop cal clock (s :: rest) d acc =
      reconcileLoop cal clock rest
        ⟨d.store.markRegistered s.scriptId (cal.nextFireTime trigger (clock s)),
          d.jobs.put (s.toRuntime.job trigger)⟩
        { acc with restored := acc.restored + 1 } := by
  have hchk : chkOperationalState "registered" = true := by decide
  simp only [reconcileLoop, register_of_registrable h, Registration.state, Registration.errorType,
    Registration.nextRunAt, ScheduleStore.markRegistration_ok hchk, ReconciliationResult.count]
  rfl

/-- The turn of a schedule that cannot be registered ends the pass. -/
theorem reconcileLoop_cons_error {cal : Calendar Zone Trigger Time}
    {clock : ScheduleView Id Params Time → Time} {s : ScheduleView Id Params Time}
    {rest : List (ScheduleView Id Params Time)} {d : Deployment Id Params Trigger Time}
    {acc : ReconciliationResult} {row : StoredSchedule Id Params Time}
    (h : ¬ Registrable cal s) (hrow : d.store.find? s.scriptId = some row) :
    ∃ e, (reconcileLoop cal clock (s :: rest) d acc).2 = .error e := by
  have hchk : chkOperationalState "registration_failed" = false := by decide
  rcases register_of_not_registrable d.jobs (clock s) h with ⟨e, he⟩ | ⟨e, he⟩
  · refine ⟨.integrity ⟨"chk_script_schedules_operational_state"⟩, ?_⟩
    simp only [reconcileLoop, he, Registration.state, Registration.errorType,
      Registration.nextRunAt, ScheduleStore.markRegistration_error hchk hrow]
  · refine ⟨.registration e, ?_⟩
    simp only [reconcileLoop, he]

/-! ## The whole pass -/

/-- What the loop leaves behind when every schedule it is given can be
registered. -/
structure Restored (cal : Calendar Zone Trigger Time) (schedules : List (ScheduleView Id Params Time))
    (before after : Deployment Id Params Trigger Time) : Prop where
  /-- The schedules have their jobs. -/
  registered : ∀ s ∈ schedules, ∀ trigger, cal.trigger s.cron s.timezone = .ok trigger →
    after.jobs.find? s.scriptId = some (s.toRuntime.job trigger)
  /-- The jobs of the other scripts are untouched. -/
  others : ∀ x, x ∉ schedules.map (·.scriptId) → after.jobs.find? x = before.jobs.find? x
  /-- The rows of the schedules say so. -/
  marked : ∀ s ∈ schedules, ∀ row, before.store.find? s.scriptId = some row →
    ∃ row', after.store.find? s.scriptId = some row' ∧ row'.operationalState = "registered"
  /-- The rows of the other scripts are untouched. -/
  unmarked : ∀ x, x ∉ schedules.map (·.scriptId) → after.store.find? x = before.store.find? x
  /-- No row asks for a different job than before. -/
  desired : ∀ x, desiredJob cal after.store x = desiredJob cal before.store x

/-- Marking a registration does not change which job is asked for. -/
theorem desiredJob_markRegistered (cal : Calendar Zone Trigger Time)
    (store : ScheduleStore Id Params Time) (x : Id) (next : Option Time) (y : Id) :
    desiredJob cal (store.markRegistered x next) y = desiredJob cal store y := by
  rw [desiredJob, ScheduleStore.find?_markRegistered, desiredJob]
  by_cases hy : y = x
  · rw [if_pos hy]
    cases store.find? y with
    | none => rfl
    | some row => rfl
  · rw [if_neg hy]

/-- **The loop restores every schedule it is given**, when all of them can be
registered and no script occurs twice. -/
theorem reconcileLoop_restores {cal : Calendar Zone Trigger Time}
    (clock : ScheduleView Id Params Time → Time) (schedules : List (ScheduleView Id Params Time))
    (d : Deployment Id Params Trigger Time) (acc : ReconciliationResult)
    (hreg : ∀ s ∈ schedules, Registrable cal s) (hnd : (schedules.map (·.scriptId)).Nodup) :
    (reconcileLoop cal clock schedules d acc).2 =
        .ok { acc with restored := acc.restored + schedules.length } ∧
      Restored cal schedules d (reconcileLoop cal clock schedules d acc).1 := by
  induction schedules generalizing d acc with
  | nil =>
      refine ⟨rfl, ⟨?_, fun _ _ => rfl, ?_, fun _ _ => rfl, fun _ => rfl⟩⟩
      · intro s hs; cases hs
      · intro s hs; cases hs
  | cons s rest ih =>
      obtain ⟨trigger, ht⟩ := hreg s (List.mem_cons_self ..)
      rw [List.map_cons, List.nodup_cons] at hnd
      obtain ⟨hfresh, hnd⟩ := hnd
      rw [reconcileLoop_cons_ok ht]
      obtain ⟨hres, hrest⟩ := ih
        ⟨d.store.markRegistered s.scriptId (cal.nextFireTime trigger (clock s)),
          d.jobs.put (s.toRuntime.job trigger)⟩
        { acc with restored := acc.restored + 1 }
        (fun s' hs' => hreg s' (List.mem_cons_of_mem _ hs')) hnd
      refine ⟨?_, ?_, ?_, ?_, ?_, ?_⟩
      · have hlen : acc.restored + 1 + rest.length = acc.restored + (rest.length + 1) := by omega
        rw [hres, List.length_cons, hlen]
      · intro s' hs' trigger' ht'
        rcases List.mem_cons.1 hs' with rfl | hs'
        · -- the job just added is not touched by the turns that follow
          rw [hrest.others _ hfresh, Table.find?_put]
          rw [ht] at ht'
          cases ht'
          exact if_pos rfl
        · exact hrest.registered s' hs' trigger' ht'
      · intro x hx
        rw [List.map_cons, List.mem_cons, not_or] at hx
        rw [hrest.others x hx.2, Table.find?_put]
        exact if_neg hx.1
      · intro s' hs' row hrow
        rcases List.mem_cons.1 hs' with rfl | hs'
        · rw [hrest.unmarked _ hfresh, ScheduleStore.find?_markRegistered, if_pos rfl, hrow]
          exact ⟨_, rfl, rfl⟩
        · have hne : s'.scriptId ≠ s.scriptId := fun he =>
            hfresh (he ▸ List.mem_map.2 ⟨s', hs', rfl⟩)
          refine hrest.marked s' hs' row ?_
          rw [ScheduleStore.find?_markRegistered, if_neg hne, hrow]
      · intro x hx
        rw [List.map_cons, List.mem_cons, not_or] at hx
        rw [hrest.unmarked x hx.2, ScheduleStore.find?_markRegistered, if_neg hx.1]
      · intro x
        rw [hrest.desired x, desiredJob_markRegistered]

/-- The loop raises when one of its schedules cannot be registered, wherever
that schedule stands in the list. -/
theorem reconcileLoop_raises {cal : Calendar Zone Trigger Time}
    (clock : ScheduleView Id Params Time → Time) (schedules : List (ScheduleView Id Params Time))
    (d : Deployment Id Params Trigger Time) (acc : ReconciliationResult)
    (hrows : ∀ s ∈ schedules, ∃ row, d.store.find? s.scriptId = some row)
    (hbad : ∃ s ∈ schedules, ¬ Registrable cal s) :
    ∃ e, (reconcileLoop cal clock schedules d acc).2 = .error e := by
  induction schedules generalizing d acc with
  | nil => obtain ⟨s, hs, -⟩ := hbad; cases hs
  | cons s rest ih =>
      by_cases hs : Registrable cal s
      · obtain ⟨trigger, ht⟩ := hs
        rw [reconcileLoop_cons_ok ht]
        refine ih _ _ (fun s' hs' => ?_) ?_
        · obtain ⟨row, hrow⟩ := hrows s' (List.mem_cons_of_mem _ hs')
          rw [ScheduleStore.find?_markRegistered, hrow]
          split
          · exact ⟨_, rfl⟩
          · exact ⟨_, rfl⟩
        · obtain ⟨s', hs', hbad⟩ := hbad
          rcases List.mem_cons.1 hs' with rfl | hs'
          · exact absurd ⟨trigger, ht⟩ hbad
          · exact ⟨s', hs', hbad⟩
      · obtain ⟨row, hrow⟩ := hrows s (List.mem_cons_self ..)
        exact reconcileLoop_cons_error hs hrow

/-- A pass over schedules that can all be registered ends with the runtime as it
should be, and with the rows marked. -/
theorem reconcile_restores {cal : Calendar Zone Trigger Time}
    (clock : ScheduleView Id Params Time → Time) (d : Deployment Id Params Trigger Time)
    (hreg : ∀ s ∈ d.store.listEnabledSchedules, Registrable cal s) :
    (reconcile cal clock d).2 = .ok ⟨d.store.listEnabledSchedules.length, 0⟩ ∧
      Restored cal d.store.listEnabledSchedules (d.removeOrphans d.store.listEnabledSchedules)
        (reconcile cal clock d).1 := by
  have h := reconcileLoop_restores clock d.store.listEnabledSchedules
    (d.removeOrphans d.store.listEnabledSchedules) ⟨0, 0⟩ hreg d.store.nodup_listEnabledSchedules
  rwa [Nat.zero_add] at h

/-- After the orphans are removed and the enabled schedules restored, every
script has exactly the job it should have. -/
theorem Restored.jobs_eq {cal : Calendar Zone Trigger Time}
    {d after : Deployment Id Params Trigger Time}
    (h : Restored cal d.store.listEnabledSchedules
      (d.removeOrphans d.store.listEnabledSchedules) after)
    (hreg : ∀ s ∈ d.store.listEnabledSchedules, Registrable cal s) (x : Id) :
    after.jobs.find? x = desiredJob cal d.store x := by
  by_cases hx : x ∈ d.store.listEnabledSchedules.map (·.scriptId)
  · obtain ⟨s, hs, rfl⟩ := List.mem_map.1 hx
    obtain ⟨trigger, ht⟩ := hreg s hs
    rw [h.registered s hs trigger ht, desiredJob_of_mem hs ht]
  · rw [h.others x hx, desiredJob_of_not_mem hx, Deployment.removeOrphans]
    simp only
    rw [JobStore.find?_removeOrphans_inspect, if_neg hx]

/-- **When a reconciliation pass does what is asked of it.**  It returns, with
one job for every enabled schedule that can be registered and none beside them,
all schedules counted and every row saying how its registration went, exactly
when no enabled schedule fails to register. -/
theorem reconcile_settled_iff (cal : Calendar Zone Trigger Time)
    (clock : ScheduleView Id Params Time → Time) (d : Deployment Id Params Trigger Time) :
    (∃ res, (reconcile cal clock d).2 = .ok res ∧ Settled cal d (reconcile cal clock d).1 res) ↔
      ∀ s ∈ d.store.listEnabledSchedules, Registrable cal s := by
  constructor
  · rintro ⟨res, hres, -⟩ s hs
    by_contra hbad
    obtain ⟨e, he⟩ := reconcileLoop_raises clock d.store.listEnabledSchedules
      (d.removeOrphans d.store.listEnabledSchedules) ⟨0, 0⟩
      (fun s hs => (ScheduleStore.find?_of_mem_enabled hs).imp fun _ h => h.1) ⟨s, hs, hbad⟩
    rw [reconcile, he] at hres
    cases hres
  · intro hreg
    obtain ⟨hres, hrest⟩ := reconcile_restores clock d hreg
    refine ⟨_, hres, fun x => ?_, Nat.add_zero _, fun s hs => ?_⟩
    · rw [← hrest.jobs_eq hreg x]
      exact Table.filter_key _ x
    · obtain ⟨row, hrow, -⟩ := ScheduleStore.find?_of_mem_enabled hs
      obtain ⟨row', hrow', hstate⟩ := hrest.marked s hs row hrow
      exact ⟨row', Table.mem_of_find? hrow', ScheduleStore.scriptId_of_find? hrow', fun _ => hreg s hs,
        fun _ => hstate⟩

/-! ## A schedule that cannot be registered -/

/-- A calendar that knows one time zone and one cron expression. -/
def tinyCalendar : Calendar Unit Unit Nat where
  zoneInfo timezone :=
    if timezone = "UTC" then .ok () else .error ⟨"ZoneInfoNotFoundError", .keyError⟩
  fromCrontab cron _ :=
    if cron = "0 2 * * *" then .ok () else .error ⟨"ValueError", .valueError⟩
  nextFireTime _ now := some (now + 1)

/-- An enabled schedule for the script `x`, in the state `upsert_schedule` leaves
it. -/
def enabledSchedule (x : Nat) (cron timezone : String) : StoredSchedule Nat Unit Nat where
  id := x
  scriptId := x
  cron := cron
  timezone := timezone
  nodeIds := []
  params := ()
  enabled := true
  misfireGraceSeconds := 60
  operationalState := "pending_registration"
  lastErrorType := none
  nextRunAt := none
  check := chkOperationalState_pending

/-- Two enabled schedules, the first with a cron expression of four fields, and
no jobs. -/
def badCronFirst : Deployment Nat Unit Unit Nat where
  store := ⟨[enabledSchedule 1 "0 2 * *" "UTC", enabledSchedule 2 "0 2 * * *" "UTC"], by decide⟩
  jobs := .empty

/-- The pass over `badCronFirst` raises, and the second schedule is never
registered. -/
theorem reconcile_badCronFirst :
    (reconcile tinyCalendar (fun _ => 0) badCronFirst).2 =
        .error (.integrity ⟨"chk_script_schedules_operational_state"⟩) ∧
      (reconcile tinyCalendar (fun _ => 0) badCronFirst).1.jobs.rows = [] := by
  constructor
  · rfl
  · rfl

/-- Not every pass does what is asked of it. -/
theorem not_reconcile_settled :
    ¬ ∀ d : Deployment Nat Unit Unit Nat, ∃ res,
      (reconcile tinyCalendar (fun _ => 0) d).2 = .ok res ∧
        Settled tinyCalendar d (reconcile tinyCalendar (fun _ => 0) d).1 res := by
  intro h
  obtain ⟨res, hres, -⟩ := h badCronFirst
  rw [reconcile_badCronFirst.1] at hres
  cases hres

end Scheduler
end NodeNexus
