import NodeNexus.Lib.Recurrence
import NodeNexus.Scheduler.Reconcile

/-!
# Jobs and their next run times

A job of APScheduler has a `next_run_time`, which `add_job` computes from the moment of
the call.  This file adds it to the jobs of `Scheduler.Schedules` and to the pass of
`Scheduler.Reconcile`.

* `TimedJobs.addOrReplace`, `timedReconcile` — the operations with next run times.
* `untimed_reconcile` — forgetting the times gives the pass without them.
* `InSync` — the enabled schedules all equal their registered jobs.
* `pass_undisturbed_iff` — a pass leaves every job as it was if and only if each of
  them is registered again before it is due.

Times are microseconds since the epoch.
-/

namespace NodeNexus
namespace Scheduler

variable {Id Params Zone Trigger : Type}

/-! ## Timed jobs -/

/-- A job and its `next_run_time`. -/
structure TimedJob (Id Params Trigger : Type) extends Job Id Params Trigger where
  nextRunTime : Option Int

/-- The id of a job is the script id. -/
def TimedJob.key (j : TimedJob Id Params Trigger) : Id := j.scriptId

/-- The jobs of one scheduler. -/
abbrev TimedJobs (Id Params Trigger : Type) : Type :=
  Table (@TimedJob.key Id Params Trigger)

/-- The jobs without their times. -/
def TimedJobs.untimed (jobs : TimedJobs Id Params Trigger) : JobStore Id Params Trigger :=
  jobs.image (·.toJob) fun _ => rfl

/-- The table and the timed jobs. -/
structure TimedDeployment (Id Params Trigger : Type) where
  store : ScheduleStore Id Params Int
  jobs : TimedJobs Id Params Trigger

/-- The deployment without the times. -/
def TimedDeployment.untimed (d : TimedDeployment Id Params Trigger) :
    Deployment Id Params Trigger Int :=
  ⟨d.store, d.jobs.untimed⟩

variable [DecidableEq Id]

/-- `add_or_replace`: the old job is removed, with any run that is due, and the new one
runs next when its trigger next fires from now on. -/
def TimedJobs.addOrReplace (cal : Calendar Zone Trigger Int) (jobs : TimedJobs Id Params Trigger)
    (s : RuntimeSchedule Id Params) (now : Int) :
    Except RaisedError (TimedJobs Id Params Trigger × Option Int) :=
  match cal.trigger s.cron s.timezone with
  | .error e => .error e
  | .ok trigger =>
      .ok (jobs.put ⟨s.job trigger, cal.nextFireTime trigger now⟩, cal.nextFireTime trigger now)

/-- `add_or_replace` inside its `try` statement. -/
def timedRegister (cal : Calendar Zone Trigger Int) (jobs : TimedJobs Id Params Trigger)
    (s : ScheduleView Id Params Int) (now : Int) :
    TimedJobs Id Params Trigger × Except RaisedError (Registration Int) :=
  match jobs.addOrReplace cal s.toRuntime now with
  | .ok (jobs', next) => (jobs', .ok (.registered next))
  | .error e =>
      if e.isRuntimeOrValueError then (jobs, .ok (.failed e.typeName)) else (jobs, .error e)

/-- The second loop of `reconcile`. -/
def timedReconcileLoop (cal : Calendar Zone Trigger Int)
    (clock : ScheduleView Id Params Int → Int) :
    List (ScheduleView Id Params Int) → TimedDeployment Id Params Trigger →
      ReconciliationResult →
      TimedDeployment Id Params Trigger × Except ReconcileError ReconciliationResult
  | [], d, acc => (d, .ok acc)
  | s :: rest, d, acc =>
      match timedRegister cal d.jobs s (clock s) with
      | (jobs, .error e) => ({ d with jobs := jobs }, .error (.registration e))
      | (jobs, .ok reg) =>
          match d.store.markRegistration s.scriptId reg.state reg.errorType reg.nextRunAt with
          | .error e => ({ d with jobs := jobs }, .error (.integrity e))
          | .ok store => timedReconcileLoop cal clock rest ⟨store, jobs⟩ (acc.count reg)

/-- The first loop of `reconcile`. -/
def TimedJobs.removeOrphans (desired : List Id) :
    List Id → TimedJobs Id Params Trigger → TimedJobs Id Params Trigger
  | [], jobs => jobs
  | scriptId :: rest, jobs =>
      removeOrphans desired rest (if scriptId ∈ desired then jobs else jobs.erase scriptId)

/-- `reconcile`. -/
def timedReconcile (cal : Calendar Zone Trigger Int) (clock : ScheduleView Id Params Int → Int)
    (d : TimedDeployment Id Params Trigger) :
    TimedDeployment Id Params Trigger × Except ReconcileError ReconciliationResult :=
  timedReconcileLoop cal clock d.store.listEnabledSchedules
    { d with
      jobs := d.jobs.removeOrphans (d.store.listEnabledSchedules.map (·.scriptId))
        (d.jobs.rows.map (·.scriptId)) } ⟨0, 0⟩

/-! ## Forgetting the times -/

theorem TimedJobs.untimed_removeOrphans (desired inspected : List Id)
    (jobs : TimedJobs Id Params Trigger) :
    (jobs.removeOrphans desired inspected).untimed =
      JobStore.removeOrphans desired inspected jobs.untimed := by
  induction inspected generalizing jobs with
  | nil => rfl
  | cons x rest ih =>
      rw [removeOrphans, ih, JobStore.removeOrphans]
      by_cases hx : x ∈ desired
      · rw [if_pos hx, if_pos hx]
      · rw [if_neg hx, if_neg hx]
        exact congrArg _ (Table.image_erase jobs x)

theorem register_untimed (cal : Calendar Zone Trigger Int) (jobs : TimedJobs Id Params Trigger)
    (s : ScheduleView Id Params Int) (now : Int) :
    register cal jobs.untimed s now =
      ((timedRegister cal jobs s now).1.untimed, (timedRegister cal jobs s now).2) := by
  unfold register timedRegister JobStore.addOrReplace TimedJobs.addOrReplace
  cases cal.trigger s.toRuntime.cron s.toRuntime.timezone with
  | ok trigger =>
      have hput : TimedJobs.untimed
          (jobs.put ⟨s.toRuntime.job trigger, cal.nextFireTime trigger now⟩) =
          jobs.untimed.put (s.toRuntime.job trigger) := Table.image_put jobs _
      simp only [hput]
  | error e =>
      by_cases he : e.isRuntimeOrValueError = true
      · simp only [he, if_true]
      · simp only [he]
        rfl

theorem untimed_reconcileLoop (cal : Calendar Zone Trigger Int)
    (clock : ScheduleView Id Params Int → Int) (schedules : List (ScheduleView Id Params Int))
    (d : TimedDeployment Id Params Trigger) (acc : ReconciliationResult) :
    reconcileLoop cal clock schedules d.untimed acc =
      ((timedReconcileLoop cal clock schedules d acc).1.untimed,
        (timedReconcileLoop cal clock schedules d acc).2) := by
  induction schedules generalizing d acc with
  | nil => rfl
  | cons s rest ih =>
      have hregister : register cal d.untimed.jobs s (clock s) = _ :=
        register_untimed cal d.jobs s (clock s)
      simp only [reconcileLoop, timedReconcileLoop, hregister]
      rcases timedRegister cal d.jobs s (clock s) with ⟨jobs, e | reg⟩
      · rfl
      · simp only [TimedDeployment.untimed]
        cases d.store.markRegistration s.scriptId reg.state reg.errorType reg.nextRunAt with
        | error e => rfl
        | ok store => exact ih ⟨store, jobs⟩ (acc.count reg)

/-- **Forgetting the times** gives the pass without them. -/
theorem untimed_reconcile (cal : Calendar Zone Trigger Int)
    (clock : ScheduleView Id Params Int → Int) (d : TimedDeployment Id Params Trigger) :
    reconcile cal clock d.untimed =
      ((timedReconcile cal clock d).1.untimed, (timedReconcile cal clock d).2) := by
  rw [timedReconcile, ← untimed_reconcileLoop]
  have horphans : d.untimed.removeOrphans d.store.listEnabledSchedules =
      TimedDeployment.untimed { d with
        jobs := d.jobs.removeOrphans (d.store.listEnabledSchedules.map (·.scriptId))
          (d.jobs.rows.map (·.scriptId)) } := by
    have hinspect : d.untimed.jobs.inspect = d.jobs.rows.map (·.scriptId) := by
      simp [TimedDeployment.untimed, TimedJobs.untimed, JobStore.inspect, Table.image]
    simp only [Deployment.removeOrphans, TimedDeployment.untimed]
    rw [TimedJobs.untimed_removeOrphans]
    exact congrArg _ (congrArg (JobStore.removeOrphans _ · _) hinspect)
  rw [← horphans]
  rfl

/-! ## Jobs that a pass leaves alone -/

open Recurrence

/-- The moments at which a job is to run. -/
abbrev TimedJob.Instant (cal : Calendar Zone Trigger Int) (j : TimedJob Id Params Trigger)
    (v : Int) : Prop :=
  Occurs (cal.nextFireTime j.trigger) v

/-- The next run of the job lies ahead of a moment: it is not over yet, and no other run
comes before it. -/
def TimedJob.Ahead (cal : Calendar Zone Trigger Int) (j : TimedJob Id Params Trigger)
    (now : Int) : Prop :=
  (∀ n, j.nextRunTime = some n → now ≤ n) ∧
    ∀ v, now ≤ v → (∀ n, j.nextRunTime = some n → v < n) → ¬ j.Instant cal v

/-- The next run time was computed from some moment. -/
def TimedJob.Aimed (cal : Calendar Zone Trigger Int) (j : TimedJob Id Params Trigger) : Prop :=
  ∃ m, j.nextRunTime = cal.nextFireTime j.trigger m

omit [DecidableEq Id] in
/-- Computing the next run time again gives the same if and only if it lies ahead. -/
theorem nextFireTime_eq_iff {cal : Calendar Zone Trigger Int} {j : TimedJob Id Params Trigger}
    (hcal : Lawful (cal.nextFireTime j.trigger)) (haimed : j.Aimed cal) {now : Int} :
    cal.nextFireTime j.trigger now = j.nextRunTime ↔ j.Ahead cal now := by
  obtain ⟨m, hm⟩ := haimed
  cases hnext : j.nextRunTime with
  | none =>
      rw [hcal.eq_none_iff]
      constructor
      · intro hnever
        refine ⟨fun n hn => ?_, fun v hv _ => hnever v hv⟩
        rw [hnext] at hn
        cases hn
      · rintro ⟨-, hnever⟩ v hv
        refine hnever v hv fun n hn => ?_
        rw [hnext] at hn
        cases hn
  | some n =>
      have hn : j.Instant cal n := hcal.occurs m n (hm.symm.trans hnext)
      have honly : ∀ n', j.nextRunTime = some n' → n' = n := fun n' hn' => by
        rw [hnext] at hn'
        cases hn'
        rfl
      rw [hcal.eq_some_iff]
      constructor
      · rintro ⟨hle, -, hfirst⟩
        refine ⟨fun n' hn' => ?_, fun v hv hbefore => hfirst v hv (hbefore n hnext)⟩
        rw [honly n' hn']
        exact hle
      · rintro ⟨hle, hfirst⟩
        refine ⟨hle n hnext, hn, fun v hv hvn => hfirst v hv fun n' hn' => ?_⟩
        rw [honly n' hn']
        exact hvn

/-- The enabled schedules all equal their registered jobs, and there are no other jobs. -/
structure InSync (cal : Calendar Zone Trigger Int) (d : TimedDeployment Id Params Trigger) :
    Prop where
  registered : ∀ s ∈ d.store.listEnabledSchedules, ∃ trigger job,
    cal.trigger s.cron s.timezone = .ok trigger ∧ d.jobs.find? s.scriptId = some job ∧
      job.toJob = s.toRuntime.job trigger
  noOrphan : ∀ job ∈ d.jobs.rows,
    job.scriptId ∈ d.store.listEnabledSchedules.map (·.scriptId)

/-- When there are no orphans the first loop removes nothing. -/
theorem TimedJobs.removeOrphans_eq_self {desired inspected : List Id}
    (h : ∀ x ∈ inspected, x ∈ desired) (jobs : TimedJobs Id Params Trigger) :
    jobs.removeOrphans desired inspected = jobs := by
  induction inspected with
  | nil => rfl
  | cons x rest ih =>
      rw [removeOrphans, if_pos (h x (List.mem_cons_self ..))]
      exact ih fun y hy => h y (List.mem_cons_of_mem _ hy)

/-- The registration of a schedule whose trigger can be built. -/
theorem timedRegister_of_registrable {cal : Calendar Zone Trigger Int}
    {jobs : TimedJobs Id Params Trigger} {s : ScheduleView Id Params Int} {now : Int}
    {trigger : Trigger} (h : cal.trigger s.cron s.timezone = .ok trigger) :
    timedRegister cal jobs s now =
      (jobs.put ⟨s.toRuntime.job trigger, cal.nextFireTime trigger now⟩,
        .ok (.registered (cal.nextFireTime trigger now))) := by
  simp [timedRegister, TimedJobs.addOrReplace, ScheduleView.toRuntime, h]

/-- **What the second loop does to the jobs**: each schedule gets its job, to run next
when its trigger next fires from the moment of its turn on. -/
theorem timedReconcileLoop_jobs {cal : Calendar Zone Trigger Int}
    (clock : ScheduleView Id Params Int → Int) (schedules : List (ScheduleView Id Params Int))
    (d : TimedDeployment Id Params Trigger) (acc : ReconciliationResult)
    (hreg : ∀ s ∈ schedules, Registrable cal s) (hnd : (schedules.map (·.scriptId)).Nodup) :
    (∀ s ∈ schedules, ∀ trigger, cal.trigger s.cron s.timezone = .ok trigger →
        (timedReconcileLoop cal clock schedules d acc).1.jobs.find? s.scriptId =
          some ⟨s.toRuntime.job trigger, cal.nextFireTime trigger (clock s)⟩) ∧
      ∀ x, x ∉ schedules.map (·.scriptId) →
        (timedReconcileLoop cal clock schedules d acc).1.jobs.find? x = d.jobs.find? x := by
  induction schedules generalizing d acc with
  | nil => exact ⟨nofun, fun _ _ => rfl⟩
  | cons s rest ih =>
      obtain ⟨trigger, htrigger⟩ := hreg s (List.mem_cons_self ..)
      rw [List.map_cons, List.nodup_cons] at hnd
      have hchk : chkOperationalState "registered" = true := by decide
      have hturn : timedReconcileLoop cal clock (s :: rest) d acc =
          timedReconcileLoop cal clock rest
            ⟨d.store.markRegistered s.scriptId (cal.nextFireTime trigger (clock s)),
              d.jobs.put ⟨s.toRuntime.job trigger, cal.nextFireTime trigger (clock s)⟩⟩
            { acc with restored := acc.restored + 1 } := by
        simp only [timedReconcileLoop, timedRegister_of_registrable htrigger, Registration.state,
          Registration.errorType, Registration.nextRunAt, ScheduleStore.markRegistration_ok hchk,
          ReconciliationResult.count]
        rfl
      rw [hturn]
      obtain ⟨hjobs, hothers⟩ := ih
        ⟨d.store.markRegistered s.scriptId (cal.nextFireTime trigger (clock s)),
          d.jobs.put ⟨s.toRuntime.job trigger, cal.nextFireTime trigger (clock s)⟩⟩
        { acc with restored := acc.restored + 1 }
        (fun s' hs' => hreg s' (List.mem_cons_of_mem _ hs')) hnd.2
      refine ⟨fun s' hs' trigger' htrigger' => ?_, fun x hx => ?_⟩
      · rcases List.mem_cons.1 hs' with rfl | hs'
        · rw [hothers _ hnd.1, Table.find?_put]
          rw [htrigger] at htrigger'
          cases htrigger'
          exact if_pos rfl
        · exact hjobs s' hs' trigger' htrigger'
      · rw [List.map_cons, List.mem_cons, not_or] at hx
        rw [hothers x hx.2, Table.find?_put]
        exact if_neg hx.1

/-- The jobs after a pass over schedules in sync. -/
theorem timedReconcile_jobs {cal : Calendar Zone Trigger Int}
    {d : TimedDeployment Id Params Trigger} (h : InSync cal d)
    (clock : ScheduleView Id Params Int → Int) :
    (∀ s ∈ d.store.listEnabledSchedules, ∀ job, d.jobs.find? s.scriptId = some job →
        (timedReconcile cal clock d).1.jobs.find? s.scriptId =
          some ⟨job.toJob, cal.nextFireTime job.trigger (clock s)⟩) ∧
      ∀ x, x ∉ d.store.listEnabledSchedules.map (·.scriptId) →
        (timedReconcile cal clock d).1.jobs.find? x = d.jobs.find? x := by
  have hself : d.jobs.removeOrphans (d.store.listEnabledSchedules.map (·.scriptId))
      (d.jobs.rows.map (·.scriptId)) = d.jobs := by
    refine TimedJobs.removeOrphans_eq_self (fun x hx => ?_) d.jobs
    obtain ⟨job, hjob, rfl⟩ := List.mem_map.1 hx
    exact h.noOrphan job hjob
  have hreg : ∀ s ∈ d.store.listEnabledSchedules, Registrable cal s := fun s hs => by
    obtain ⟨trigger, job, htrigger, -, -⟩ := h.registered s hs
    exact ⟨trigger, htrigger⟩
  obtain ⟨hjobs, hothers⟩ := timedReconcileLoop_jobs clock d.store.listEnabledSchedules d ⟨0, 0⟩
    hreg d.store.nodup_listEnabledSchedules
  rw [timedReconcile, hself]
  refine ⟨fun s hs job hjob => ?_, hothers⟩
  obtain ⟨trigger, job', htrigger, hjob', heq⟩ := h.registered s hs
  rw [hjob] at hjob'
  cases hjob'
  rw [hjobs s hs trigger htrigger, heq]
  rfl

/-- **A pass leaves every job as it was** if and only if the next run of each of them
lies ahead of the moment at which it is registered again. -/
theorem pass_undisturbed_iff {cal : Calendar Zone Trigger Int}
    (hcal : ∀ trigger, Lawful (cal.nextFireTime trigger))
    {d : TimedDeployment Id Params Trigger} (h : InSync cal d)
    (haimed : ∀ job ∈ d.jobs.rows, job.Aimed cal) (clock : ScheduleView Id Params Int → Int) :
    (∀ x, (timedReconcile cal clock d).1.jobs.find? x = d.jobs.find? x) ↔
      ∀ s ∈ d.store.listEnabledSchedules, ∀ job, d.jobs.find? s.scriptId = some job →
        job.Ahead cal (clock s) := by
  obtain ⟨hjobs, hothers⟩ := timedReconcile_jobs h clock
  constructor
  · intro hsame s hs job hjob
    have hafter := hsame s.scriptId
    rw [hjobs s hs job hjob, hjob] at hafter
    refine (nextFireTime_eq_iff (hcal _) (haimed job (Table.mem_of_find? hjob))).1 ?_
    exact congrArg TimedJob.nextRunTime (Option.some.inj hafter)
  · intro hahead x
    by_cases hx : x ∈ d.store.listEnabledSchedules.map (·.scriptId)
    · obtain ⟨s, hs, rfl⟩ := List.mem_map.1 hx
      obtain ⟨trigger, job, -, hjob, -⟩ := h.registered s hs
      have hnext := (nextFireTime_eq_iff (hcal _) (haimed job (Table.mem_of_find? hjob))).2
        (hahead s hs job hjob)
      rw [hjobs s hs job hjob, hnext, hjob]
    · exact hothers x hx

end Scheduler
end NodeNexus
