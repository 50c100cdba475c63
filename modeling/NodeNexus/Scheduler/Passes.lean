import NodeNexus.Lib.Transition
import NodeNexus.Scheduler.TimedJobs

/-!
# Passes and wake-ups

The scheduler wakes up and hands the runs that are due to its executor; the
reconciliation registers all enabled schedules again every few seconds.  Both run in one
event loop, so a pass may fall between the moment of a run and the wake-up.

* `TimedJob.runTimes`, `TimedJob.advance` — what a wake-up does with a job, as APScheduler
  documents it, with the options `schedule_script` passes: `coalesce` and
  `max_instances=1`.
* `runSystem` — registrations, passes and wake-ups in any order.
* `timedReconcileLoop_turns` — the loop of a pass is a sequence of its steps.
* `Follows` — the runs of a job that have been taken are exactly those before its next
  run time, each once.
* `reconcile_keeps_runs` — a pass leaves the jobs as they are if and only if none is
  overdue; as long as no pass finds an overdue job no run is lost.
* `not_reconcileKeepsRuns` — a pass that comes between a run and the wake-up loses it.

A pass awaits its writes between two registrations, so the system takes the turns of its
loop one at a time.
-/

namespace NodeNexus
namespace Scheduler

open Recurrence

deriving instance DecidableEq for Job

variable {Id Params Zone Trigger : Type}

/-! ## A wake-up -/

/-- The runs of a job that are due: from its next run time to now. -/
def TimedJob.runTimes (cal : Calendar Zone Trigger Int) (j : TimedJob Id Params Trigger)
    (now : Int) : List Int :=
  upTo (cal.nextFireTime j.trigger) now (now + 1 - j.nextRunTime.getD (now + 1)).toNat
    j.nextRunTime

/-- The job after a wake-up; it is removed when it has no run left. -/
def TimedJob.advance (cal : Calendar Zone Trigger Int) (now : Int)
    (j : TimedJob Id Params Trigger) : Option (TimedJob Id Params Trigger) :=
  match (j.runTimes cal now).getLast? with
  | none => some j
  | some last =>
      match cal.nextFireTime j.trigger (last + 1) with
      | none => none
      | some n => some { j with nextRunTime := some n }

/-- What becomes of a run that is due. -/
inductive Outcome where
  /-- The executor runs it. -/
  | run
  /-- It is reported as a misfire, since it was started too late. -/
  | misfired
  /-- A later run that is due as well stands for it. -/
  | coalesced
  /-- It is reported as skipped, since the run before is not over. -/
  | overlapped
  deriving DecidableEq

/-- What becomes of the runs that are due at a wake-up, when the executor starts at
`startedAt` and the run before is still `running`. -/
def TimedJob.handOver (cal : Calendar Zone Trigger Int) (j : TimedJob Id Params Trigger)
    (now : Int) (running : Bool) (startedAt : Int) : List (Int × Outcome) :=
  match (j.runTimes cal now).getLast? with
  | none => []
  | some last =>
      (j.runTimes cal now).dropLast.map (·, .coalesced) ++
        [(last,
          if running then .overlapped
          else if j.misfireGraceTime * 1000000 < startedAt - last then .misfired
          else .run)]

/-! ## The system -/

/-- What happened to a schedule since it was last changed. -/
structure Track where
  /-- When it was registered first. -/
  since : Int
  /-- The last wake-up. -/
  wokenAt : Option Int
  /-- The runs that were due at a wake-up, and what became of them. -/
  taken : List (Int × Outcome)

/-- The clock, the jobs, and the tracks of the schedules. -/
structure RunState (Id Params Trigger : Type) where
  now : Int
  jobs : TimedJobs Id Params Trigger
  tracks : Id → Option Track

/-- What can happen, and when. -/
inductive RunStep (Id Params : Type) where
  /-- The management service registers a new or changed schedule. -/
  | schedule (s : ScheduleView Id Params Int) (t : Int)
  /-- The turn of a schedule in a pass. -/
  | pass (s : ScheduleView Id Params Int) (t : Int)
  /-- A job is removed, with its schedule or as an orphan. -/
  | remove (x : Id) (t : Int)
  /-- The scheduler wakes up; which jobs are still running, and when their runs start. -/
  | wake (t : Int) (running : Id → Bool) (startedAt : Id → Int)

/-- When the step happens. -/
def RunStep.time : RunStep Id Params → Int
  | .schedule _ t => t
  | .pass _ t => t
  | .remove _ t => t
  | .wake t _ _ => t

theorem TimedJob.key_advance (cal : Calendar Zone Trigger Int) (now : Int)
    (j j' : TimedJob Id Params Trigger) (h : j.advance cal now = some j') : j'.key = j.key := by
  unfold advance at h
  split at h
  · cases h
    rfl
  · split at h
    · cases h
    · cases h
      rfl

section System

variable [DecidableEq Id]

/-- A registration that starts a new track. -/
def RunState.schedule (cal : Calendar Zone Trigger Int) (r : RunState Id Params Trigger)
    (s : ScheduleView Id Params Int) (t : Int) : RunState Id Params Trigger :=
  match cal.trigger s.cron s.timezone with
  | .error _ => { r with now := t }
  | .ok _ =>
      { now := t
        jobs := (timedRegister cal r.jobs s t).1
        tracks := Function.update r.tracks s.scriptId (some ⟨t, none, []⟩) }

/-- The tracks after a wake-up. -/
def RunState.wake (cal : Calendar Zone Trigger Int) (r : RunState Id Params Trigger) (t : Int)
    (running : Id → Bool) (startedAt : Id → Int) : RunState Id Params Trigger where
  now := t
  jobs := r.jobs.collect (·.advance cal t) fun j j' => TimedJob.key_advance cal t j j'
  tracks x :=
    match r.jobs.find? x with
    | none => r.tracks x
    | some j => (r.tracks x).map fun track =>
        { track with
          wokenAt := some t
          taken := track.taken ++ j.handOver cal t (running x) (startedAt x) }

variable [DecidableEq Params] [DecidableEq Trigger]

/-- Does the schedule equal its registered job? -/
def unchanged (cal : Calendar Zone Trigger Int) (jobs : TimedJobs Id Params Trigger)
    (s : ScheduleView Id Params Int) : Bool :=
  match cal.trigger s.cron s.timezone, jobs.find? s.scriptId with
  | .ok trigger, some job => decide (job.toJob = s.toRuntime.job trigger)
  | _, _ => false

/-- One step; the clock does not go back. -/
def runStep (cal : Calendar Zone Trigger Int) (r : RunState Id Params Trigger)
    (step : RunStep Id Params) : Option (RunState Id Params Trigger) :=
  if step.time < r.now then none
  else match step with
    | .schedule s t => some (r.schedule cal s t)
    | .pass s t =>
        if unchanged cal r.jobs s then
          some { r with now := t, jobs := (timedRegister cal r.jobs s t).1 }
        else some (r.schedule cal s t)
    | .remove x t => some { r with now := t, jobs := r.jobs.erase x }
    | .wake t running startedAt => some (r.wake cal t running startedAt)

/-- Registrations, passes and wake-ups in any order, from a scheduler without jobs. -/
def runSystem (cal : Calendar Zone Trigger Int) :
    System (RunState Id Params Trigger) (RunStep Id Params) where
  init r := r.jobs = Table.empty ∧ ∀ x, r.tracks x = none
  step := runStep cal

/-- A pass finds no unchanged schedule whose job is overdue. -/
def PassesAhead (cal : Calendar Zone Trigger Int) (r : RunState Id Params Trigger) :
    RunStep Id Params → Prop
  | .pass s t => unchanged cal r.jobs s = true →
      ∀ job, r.jobs.find? s.scriptId = some job → job.Ahead cal t
  | _ => True

/-- A wake-up finds at most one run of each job, and the one before is over. -/
def WakesInTime (cal : Calendar Zone Trigger Int) (r : RunState Id Params Trigger) :
    RunStep Id Params → Prop
  | .wake t running _ => ∀ job ∈ r.jobs.rows, (job.runTimes cal t).length ≤ 1 ∧
      (job.runTimes cal t ≠ [] → running job.scriptId = false)
  | _ => True

/-- Every run of a registered schedule up to the last wake-up was taken exactly once. -/
def TakenOnce (cal : Calendar Zone Trigger Int) (r : RunState Id Params Trigger) : Prop :=
  ∀ job ∈ r.jobs.rows, ∀ track, r.tracks job.scriptId = some track →
    ∀ v, job.Instant cal v → track.since ≤ v → (∃ w, track.wokenAt = some w ∧ v ≤ w) →
      (track.taken.map (·.1)).count v = 1

/-- And it was run, or reported as a misfire. -/
def RunOrMisfired (r : RunState Id Params Trigger) : Prop :=
  ∀ x track, r.tracks x = some track → ∀ e ∈ track.taken, e.2 = .run ∨ e.2 = .misfired

end System

/-! ## The runs of one job -/

/-- The runs that have been taken are exactly those before the next one, each once. -/
structure Follows (cal : Calendar Zone Trigger Int) (job : TimedJob Id Params Trigger)
    (track : Track) : Prop where
  aimed : job.Aimed cal
  later : ∀ n, job.nextRunTime = some n → track.since ≤ n
  exact : ∀ v, v ∈ track.taken.map (·.1) ↔
    job.Instant cal v ∧ track.since ≤ v ∧ ∀ n, job.nextRunTime = some n → v < n
  once : (track.taken.map (·.1)).Nodup
  woken : ∀ w, track.wokenAt = some w → ∀ n, job.nextRunTime = some n → w < n

theorem handOver_times (cal : Calendar Zone Trigger Int) (j : TimedJob Id Params Trigger)
    (now : Int) (running : Bool) (startedAt : Int) :
    (j.handOver cal now running startedAt).map (·.1) = j.runTimes cal now := by
  unfold TimedJob.handOver
  split
  · rename_i hnone
    rw [List.getLast?_eq_none_iff.1 hnone]
    rfl
  · rename_i last hlast
    rw [List.map_append, List.map_map]
    have hid : (Prod.fst ∘ fun v : Int => (v, Outcome.coalesced)) = id := rfl
    rw [hid, List.map_id]
    exact List.dropLast_append_getLast? last hlast

/-- The runs that are due are looked for from the next run time on. -/
theorem TimedJob.runTimes_eq {cal : Calendar Zone Trigger Int} {j : TimedJob Id Params Trigger}
    {n : Int} (h : j.nextRunTime = some n) (hn : j.Instant cal n) (now : Int) :
    j.runTimes cal now =
      upTo (cal.nextFireTime j.trigger) now (now + 1 - n).toNat (cal.nextFireTime j.trigger n) := by
  have hn' : cal.nextFireTime j.trigger n = some n := hn
  rw [runTimes, h, hn']
  rfl

theorem TimedJob.runTimes_none {cal : Calendar Zone Trigger Int} {j : TimedJob Id Params Trigger}
    (h : j.nextRunTime = none) (now : Int) : j.runTimes cal now = [] := by
  rw [runTimes, h]
  cases (now + 1 - (none : Option Int).getD (now + 1)).toNat with
  | zero => rfl
  | succ bound => rfl

/-- **A wake-up takes all runs that are due.** -/
theorem Follows.wake {cal : Calendar Zone Trigger Int} {job job' : TimedJob Id Params Trigger}
    {track : Track} (hcal : Lawful (cal.nextFireTime job.trigger)) (h : Follows cal job track)
    {now : Int} (hadvance : job.advance cal now = some job') (running : Bool) (startedAt : Int) :
    Follows cal job' { track with
      wokenAt := some now
      taken := track.taken ++ job.handOver cal now running startedAt } := by
  have htimes := handOver_times cal job now running startedAt
  unfold TimedJob.advance at hadvance
  split at hadvance
  · -- nothing is due
    rename_i hnone
    cases hadvance
    have hempty := List.getLast?_eq_none_iff.1 hnone
    rw [hempty] at htimes
    have hnothing : job.handOver cal now running startedAt = [] := List.map_eq_nil_iff.1 htimes
    rw [hnothing, List.append_nil]
    refine ⟨h.aimed, h.later, h.exact, h.once, fun w hw n hn => ?_⟩
    cases hw
    obtain ⟨m, hm⟩ := h.aimed
    have hn' : job.Instant cal n := hcal.occurs m n (hm.symm.trans hn)
    by_contra hle
    have hmem : n ∈ job.runTimes cal now := by
      rw [TimedJob.runTimes_eq hn hn', mem_upTo_iff hcal (Nat.le_refl _)]
      exact ⟨hn', Int.le_refl n, Int.not_lt.1 hle⟩
    rw [hempty] at hmem
    cases hmem
  · rename_i last hlast
    split at hadvance
    · cases hadvance
    · rename_i next hnext
      cases hadvance
      cases hfrom : job.nextRunTime with
      | none =>
          rw [TimedJob.runTimes_none hfrom] at hlast
          cases hlast
      | some n =>
          obtain ⟨m, hm⟩ := h.aimed
          have hn : job.Instant cal n := hcal.occurs m n (hm.symm.trans hfrom)
          have hruns := TimedJob.runTimes_eq hfrom hn now
          rw [hruns] at hlast htimes
          have hdue := fun v => mem_upTo_iff_lt (v := v) hcal (Nat.le_refl _) hlast
          have hlastmem := (hdue last).1 (List.mem_of_getLast? hlast)
          have hbefore := hlastmem.2.2 next hnext
          refine ⟨⟨last + 1, hnext.symm⟩, ?_, ?_, ?_, ?_⟩
          · rintro n' hn'
            cases hn'
            have hsince := h.later n hfrom
            have hle := hlastmem.2.1
            simp only
            omega
          · intro v
            simp only [List.map_append, List.mem_append, htimes, hdue v, h.exact v]
            constructor
            · rintro (⟨hv, hsince, hvn⟩ | ⟨hv, hnv, hvnext⟩)
              · refine ⟨hv, hsince, fun n' hn' => ?_⟩
                cases hn'
                have hvn' := hvn n hfrom
                have hle := hlastmem.2.1
                omega
              · refine ⟨hv, ?_, fun n' hn' => ?_⟩
                · have hsince := h.later n hfrom
                  omega
                · cases hn'
                  exact hvnext next hnext
            · rintro ⟨hv, hsince, hvnext⟩
              rcases Int.lt_or_le v n with hvn | hnv
              · refine .inl ⟨hv, hsince, fun n' hn' => ?_⟩
                rw [hfrom] at hn'
                cases hn'
                exact hvn
              · refine .inr ⟨hv, hnv, fun u hu => ?_⟩
                rw [hnext] at hu
                cases hu
                exact hvnext next rfl
          · simp only [List.map_append, htimes]
            refine List.nodup_append.2 ⟨h.once, upTo_nodup hcal _ n, ?_⟩
            rintro v hv _ hv' rfl
            have hvn := ((h.exact v).1 hv).2.2 n hfrom
            have hnv := ((hdue v).1 hv').2.1
            omega
          · rintro w hw n' hn'
            cases hw
            cases hn'
            exact lt_next_of_last hcal (Nat.le_refl _) hlast hnext

/-! ## The invariant of a run -/

variable [DecidableEq Id]

/-- Each job follows its track. -/
def AllFollow (cal : Calendar Zone Trigger Int) (r : RunState Id Params Trigger) : Prop :=
  ∀ job ∈ r.jobs.rows, ∃ track, r.tracks job.scriptId = some track ∧ Follows cal job track

omit [DecidableEq Id] in
/-- A job that was just registered, with a new track. -/
theorem follows_fresh {cal : Calendar Zone Trigger Int} {job : Job Id Params Trigger} {t : Int}
    (hcal : Lawful (cal.nextFireTime job.trigger)) :
    Follows cal ⟨job, cal.nextFireTime job.trigger t⟩ ⟨t, none, []⟩ where
  aimed := ⟨t, rfl⟩
  later n hn := hcal.le t n hn
  exact v := by
    constructor
    · intro hv
      cases hv
    · rintro ⟨hv, htv, hbefore⟩
      cases hnext : cal.nextFireTime job.trigger t with
      | none => exact absurd hv (hcal.never t v hnext htv)
      | some n =>
          have hnv := hcal.first t n v hnext htv hv
          have hvn := hbefore n hnext
          omega
  once := List.nodup_nil
  woken _ hw := by cases hw

theorem AllFollow.schedule {cal : Calendar Zone Trigger Int}
    (hcal : ∀ trigger, Lawful (cal.nextFireTime trigger)) {r : RunState Id Params Trigger}
    (h : AllFollow cal r) (s : ScheduleView Id Params Int) (t : Int) :
    AllFollow cal (r.schedule cal s t) := by
  unfold RunState.schedule
  split
  · exact h
  · rename_i trigger htrigger
    intro job hjob
    rw [timedRegister_of_registrable htrigger] at hjob
    rcases Table.mem_put.1 hjob with rfl | ⟨hold, hne⟩
    · exact ⟨_, Function.update_self .., follows_fresh (hcal trigger)⟩
    · obtain ⟨track, htrack, hfollows⟩ := h job hold
      have hother : job.scriptId ≠ s.scriptId := hne
      exact ⟨track, (Function.update_of_ne hother ..).trans htrack, hfollows⟩

theorem mem_wake {cal : Calendar Zone Trigger Int} {r : RunState Id Params Trigger} {t : Int}
    {running : Id → Bool} {startedAt : Id → Int} {job' : TimedJob Id Params Trigger}
    (h : job' ∈ (r.wake cal t running startedAt).jobs.rows) :
    ∃ job ∈ r.jobs.rows, job.advance cal t = some job' :=
  List.mem_filterMap.1 h

theorem AllFollow.wake {cal : Calendar Zone Trigger Int}
    (hcal : ∀ trigger, Lawful (cal.nextFireTime trigger)) {r : RunState Id Params Trigger}
    (h : AllFollow cal r) (t : Int) (running : Id → Bool) (startedAt : Id → Int) :
    AllFollow cal (r.wake cal t running startedAt) := by
  intro job' hjob'
  obtain ⟨job, hjob, hadvance⟩ := mem_wake hjob'
  obtain ⟨track, htrack, hfollows⟩ := h job hjob
  have hkey : job'.scriptId = job.scriptId := TimedJob.key_advance cal t job job' hadvance
  have hfind : r.jobs.find? job.scriptId = some job := Table.find?_of_mem hjob
  refine ⟨_, ?_, hfollows.wake (hcal _) hadvance (running job.scriptId) (startedAt job.scriptId)⟩
  rw [hkey]
  simp only [RunState.wake, hfind, htrack, Option.map_some]

variable [DecidableEq Params] [DecidableEq Trigger]

theorem unchanged_iff {cal : Calendar Zone Trigger Int} {jobs : TimedJobs Id Params Trigger}
    {s : ScheduleView Id Params Int} :
    unchanged cal jobs s = true ↔ ∃ trigger job, cal.trigger s.cron s.timezone = .ok trigger ∧
      jobs.find? s.scriptId = some job ∧ job.toJob = s.toRuntime.job trigger := by
  unfold unchanged
  constructor
  · intro h
    split at h
    · rename_i trigger job htrigger hjob
      exact ⟨trigger, job, htrigger, hjob, of_decide_eq_true h⟩
    · cases h
  · rintro ⟨trigger, job, htrigger, hjob, heq⟩
    simp only [htrigger, hjob, heq, decide_true]

/-- The turn of an unchanged schedule computes the next run time of its job again. -/
theorem find?_pass {cal : Calendar Zone Trigger Int} {jobs : TimedJobs Id Params Trigger}
    {s : ScheduleView Id Params Int} (h : unchanged cal jobs s = true) (t : Int) :
    ∃ job, jobs.find? s.scriptId = some job ∧
      ∀ job', job' ∈ (timedRegister cal jobs s t).1.rows →
        job' = ⟨job.toJob, cal.nextFireTime job.trigger t⟩ ∨
          job' ∈ jobs.rows ∧ job'.scriptId ≠ s.scriptId := by
  obtain ⟨trigger, job, htrigger, hjob, heq⟩ := unchanged_iff.1 h
  refine ⟨job, hjob, fun job' hjob' => ?_⟩
  rw [timedRegister_of_registrable htrigger] at hjob'
  rcases Table.mem_put.1 hjob' with rfl | ⟨hold, hne⟩
  · left
    rw [heq]
    rfl
  · exact .inr ⟨hold, hne⟩

theorem AllFollow.step {cal : Calendar Zone Trigger Int}
    (hcal : ∀ trigger, Lawful (cal.nextFireTime trigger)) {r r' : RunState Id Params Trigger}
    {step : RunStep Id Params} (h : AllFollow cal r) (hahead : PassesAhead cal r step)
    (hstep : runStep cal r step = some r') : AllFollow cal r' := by
  unfold runStep at hstep
  split at hstep
  · cases hstep
  cases step with
  | schedule s t =>
      cases hstep
      exact h.schedule hcal s t
  | pass s t =>
      simp only at hstep
      split at hstep
      · rename_i hsame
        cases hstep
        obtain ⟨job, hjob, hrows⟩ := find?_pass hsame t
        have hmem := Table.mem_of_find? hjob
        obtain ⟨track, htrack, hfollows⟩ := h job hmem
        have hnext := (nextFireTime_eq_iff (hcal job.trigger) hfollows.aimed).2
          (hahead hsame job hjob)
        intro job' hjob'
        rcases hrows job' hjob' with rfl | ⟨hold, -⟩
        · rw [hnext]
          exact ⟨track, htrack, hfollows⟩
        · exact h job' hold
      · cases hstep
        exact h.schedule hcal s t
  | remove x t =>
      cases hstep
      exact fun job hjob => h job (Table.mem_erase.1 hjob).1
  | wake t running startedAt =>
      cases hstep
      exact h.wake hcal t running startedAt

theorem allFollow_of_reach {cal : Calendar Zone Trigger Int}
    (hcal : ∀ trigger, Lawful (cal.nextFireTime trigger)) {r : RunState Id Params Trigger}
    (h : (runSystem cal).Reach (PassesAhead cal) r) : AllFollow cal r := by
  refine h.invariant (I := AllFollow cal) (fun r hinit job hjob => ?_)
    fun _ _ _ hfollow hahead hstep => hfollow.step hcal hahead hstep
  rw [hinit.1] at hjob
  cases hjob

omit [DecidableEq Id] [DecidableEq Params] [DecidableEq Trigger] in
theorem takenOnce_of_allFollow {cal : Calendar Zone Trigger Int} {r : RunState Id Params Trigger}
    (h : AllFollow cal r) : TakenOnce cal r := by
  intro job hjob track htrack v hv hsince hwoken
  obtain ⟨track', htrack', hfollows⟩ := h job hjob
  rw [htrack] at htrack'
  cases htrack'
  obtain ⟨w, hw, hvw⟩ := hwoken
  refine List.count_eq_one_of_mem hfollows.once ((hfollows.exact v).2 ⟨hv, hsince, fun n hn => ?_⟩)
  have hwn := hfollows.woken w hw n hn
  omega

/-! ## Next run times in any run -/

theorem aimed_of_reachable {cal : Calendar Zone Trigger Int} {r : RunState Id Params Trigger}
    (h : (runSystem cal).Reachable r) : ∀ job ∈ r.jobs.rows, job.Aimed cal := by
  refine h.invariant (I := fun r => ∀ job ∈ r.jobs.rows, job.Aimed cal)
    (fun r hinit job hjob => ?_) fun r step r' ih _ hstep => ?_
  · rw [hinit.1] at hjob
    cases hjob
  have hregister : ∀ s t, ∀ job ∈ (timedRegister cal r.jobs s t).1.rows, job.Aimed cal := by
    intro s t job hjob
    cases htrigger : cal.trigger s.cron s.timezone with
    | ok trigger =>
        rw [timedRegister_of_registrable htrigger] at hjob
        rcases Table.mem_put.1 hjob with rfl | ⟨hold, -⟩
        · exact ⟨t, rfl⟩
        · exact ih job hold
    | error e =>
        have hsame : (timedRegister cal r.jobs s t).1 = r.jobs := by
          unfold timedRegister TimedJobs.addOrReplace
          rw [show cal.trigger s.toRuntime.cron s.toRuntime.timezone = .error e from htrigger]
          simp only
          split
          · rfl
          · rfl
        rw [hsame] at hjob
        exact ih job hjob
  have hschedule : ∀ s t, ∀ job ∈ (r.schedule cal s t).jobs.rows, job.Aimed cal := by
    intro s t job hjob
    unfold RunState.schedule at hjob
    split at hjob
    · exact ih job hjob
    · exact hregister s t job hjob
  have hstep : runStep cal r step = some r' := hstep
  unfold runStep at hstep
  split at hstep
  · cases hstep
  cases step with
  | schedule s t =>
      cases hstep
      exact hschedule s t
  | pass s t =>
      simp only at hstep
      split at hstep
      · cases hstep
        exact hregister s t
      · cases hstep
        exact hschedule s t
  | remove x t =>
      cases hstep
      exact fun job hjob => ih job (Table.mem_erase.1 hjob).1
  | wake t running startedAt =>
      cases hstep
      intro job' hjob'
      obtain ⟨job, hjob, hadvance⟩ := mem_wake hjob'
      unfold TimedJob.advance at hadvance
      split at hadvance
      · cases hadvance
        exact ih job' hjob
      · split at hadvance
        · cases hadvance
        · rename_i hnext
          cases hadvance
          exact ⟨_, hnext.symm⟩

/-! ## What becomes of the runs -/

omit [DecidableEq Id] [DecidableEq Params] [DecidableEq Trigger] in
/-- A wake-up in time runs what is due, or reports it as a misfire. -/
theorem handOver_outcome {cal : Calendar Zone Trigger Int} {j : TimedJob Id Params Trigger}
    {now startedAt : Int} {running : Bool} (hone : (j.runTimes cal now).length ≤ 1)
    (hover : j.runTimes cal now ≠ [] → running = false) :
    ∀ e ∈ j.handOver cal now running startedAt, e.2 = .run ∨ e.2 = .misfired := by
  intro e he
  unfold TimedJob.handOver at he
  split at he
  · cases he
  · rename_i last hlast
    have hne : j.runTimes cal now ≠ [] := by
      intro hempty
      rw [hempty] at hlast
      cases hlast
    have hfront : (j.runTimes cal now).dropLast = [] := by
      rw [← List.length_eq_zero_iff, List.length_dropLast]
      omega
    rw [hfront, hover hne] at he
    simp only [List.map_nil, List.nil_append, List.mem_singleton] at he
    subst he
    by_cases hlate : j.misfireGraceTime * 1000000 < startedAt - last
    · simp [hlate]
    · simp [hlate]

theorem RunOrMisfired.step {cal : Calendar Zone Trigger Int} {r r' : RunState Id Params Trigger}
    {step : RunStep Id Params} (h : RunOrMisfired r) (hwake : WakesInTime cal r step)
    (hstep : runStep cal r step = some r') : RunOrMisfired r' := by
  have hschedule : ∀ s t, RunOrMisfired (r.schedule cal s t) := by
    intro s t
    unfold RunState.schedule
    split
    · exact h
    · intro x track htrack e he
      simp only at htrack
      by_cases hx : x = s.scriptId
      · rw [hx, Function.update_self] at htrack
        cases htrack
        cases he
      · rw [Function.update_of_ne hx] at htrack
        exact h x track htrack e he
  unfold runStep at hstep
  split at hstep
  · cases hstep
  cases step with
  | schedule s t =>
      cases hstep
      exact hschedule s t
  | pass s t =>
      simp only at hstep
      split at hstep
      · cases hstep
        exact h
      · cases hstep
        exact hschedule s t
  | remove x t =>
      cases hstep
      exact h
  | wake t running startedAt =>
      cases hstep
      intro x track htrack e he
      simp only [RunState.wake] at htrack
      split at htrack
      · exact h x track htrack e he
      · rename_i job hjob
        obtain ⟨old, hold, rfl⟩ := Option.map_eq_some_iff.1 htrack
        rcases List.mem_append.1 he with he | he
        · exact h x old hold e he
        · obtain ⟨hone, hover⟩ := hwake job (Table.mem_of_find? hjob)
          have hkey : job.key = x := Table.key_of_find? hjob
          have hover : job.runTimes cal t ≠ [] → running x = false := hkey ▸ hover
          exact handOver_outcome hone hover e he

theorem runOrMisfired_of_reach {cal : Calendar Zone Trigger Int} {r : RunState Id Params Trigger}
    (h : (runSystem cal).Reach (WakesInTime cal) r) : RunOrMisfired r := by
  refine h.invariant (I := RunOrMisfired) (fun r hinit x track htrack => ?_)
    fun _ _ _ hruns hwake hstep => hruns.step hwake hstep
  rw [hinit.2 x] at htrack
  cases htrack

/-! ## A pass is a sequence of turns -/

/-- **The loop of a pass is its turns** in the system, when its schedules equal their jobs
and its clock does not go back. -/
theorem timedReconcileLoop_turns {cal : Calendar Zone Trigger Int}
    (clock : ScheduleView Id Params Int → Int) (schedules : List (ScheduleView Id Params Int))
    (d : TimedDeployment Id Params Trigger) (acc : ReconciliationResult)
    (r : RunState Id Params Trigger) (hjobs : r.jobs = d.jobs)
    (hsame : ∀ s ∈ schedules, unchanged cal d.jobs s = true)
    (hnd : (schedules.map (·.scriptId)).Nodup) (hnow : ∀ s ∈ schedules, r.now ≤ clock s)
    (hclock : schedules.Pairwise fun s s' => clock s ≤ clock s') :
    ∃ r', (runSystem cal).exec r (schedules.map fun s => .pass s (clock s)) = some r' ∧
      r'.jobs = (timedReconcileLoop cal clock schedules d acc).1.jobs ∧ r'.tracks = r.tracks := by
  induction schedules generalizing d acc r with
  | nil => exact ⟨r, rfl, hjobs, rfl⟩
  | cons s rest ih =>
      rw [List.map_cons, List.nodup_cons] at hnd
      rw [List.pairwise_cons] at hclock
      have hs := hsame s (List.mem_cons_self ..)
      obtain ⟨trigger, job, htrigger, hjob, heq⟩ := unchanged_iff.1 hs
      have hregister : timedRegister cal d.jobs s (clock s) = _ :=
        timedRegister_of_registrable htrigger
      have hchk : chkOperationalState "registered" = true := by decide
      have hrest : ∀ s' ∈ rest, unchanged cal (timedRegister cal d.jobs s (clock s)).1 s' = true := by
        intro s' hs'
        obtain ⟨trigger', job', htrigger', hjob', heq'⟩ :=
          unchanged_iff.1 (hsame s' (List.mem_cons_of_mem _ hs'))
        have hne : s'.scriptId ≠ s.scriptId := fun he =>
          hnd.1 (he ▸ List.mem_map.2 ⟨s', hs', rfl⟩)
        refine unchanged_iff.2 ⟨trigger', job', htrigger', ?_, heq'⟩
        rw [hregister, Table.find?_put]
        exact (if_neg hne).trans hjob'
      obtain ⟨r', hexec, hafter, htracks⟩ := ih
        ⟨d.store.markRegistered s.scriptId (cal.nextFireTime trigger (clock s)),
          (timedRegister cal d.jobs s (clock s)).1⟩
        { acc with restored := acc.restored + 1 }
        { r with now := clock s, jobs := (timedRegister cal d.jobs s (clock s)).1 } rfl
        hrest hnd.2 (fun s' hs' => hclock.1 s' hs') hclock.2
      refine ⟨r', ?_, ?_, htracks⟩
      · have hlate : ¬ clock s < r.now := Int.not_lt.2 (hnow s (List.mem_cons_self ..))
        have hstep : (runSystem cal).step r (.pass s (clock s)) =
            some { r with now := clock s, jobs := (timedRegister cal d.jobs s (clock s)).1 } := by
          rw [← hjobs] at hs ⊢
          simp [runSystem, runStep, RunStep.time, hlate, hs]
        rw [List.map_cons, System.exec, hstep]
        exact hexec
      · rw [hafter]
        simp only [timedReconcileLoop, hregister, Registration.state,
          Registration.errorType, Registration.nextRunAt, ScheduleStore.markRegistration_ok hchk,
          ReconciliationResult.count]
        rfl

/-! ## A calendar -/

/-- A calendar whose triggers fire every ten microseconds. -/
def everyTen : Calendar Unit Unit Int where
  zoneInfo _ := .ok ()
  fromCrontab _ _ := .ok ()
  nextFireTime _ t := some (t + (-t) % 10)

theorem everyTen_occurs {v : Int} : Occurs (everyTen.nextFireTime ()) v ↔ v % 10 = 0 := by
  have heq : everyTen.nextFireTime () v = some (v + (-v) % 10) := rfl
  rw [Occurs, heq, Option.some.injEq]
  omega

theorem everyTen_lawful (trigger : Unit) : Lawful (everyTen.nextFireTime trigger) where
  le t u h := by
    cases h
    omega
  occurs t u h := by
    cases h
    exact everyTen_occurs.2 (by omega)
  first t u v h htv hv := by
    cases h
    have hv' := everyTen_occurs.1 hv
    omega
  never t v h := by cases h

/-- A schedule of the script 0. -/
def anySchedule : ScheduleView Nat Unit Int :=
  ⟨7, 0, "* * * * *", "UTC", [], (), true, 60, "registered", none, none⟩

/-- A scheduler without jobs. -/
def noJobs : RunState Nat Unit Unit := ⟨0, Table.empty, fun _ => none⟩

/-- **Passes keep the runs when nothing is overdue.**  In every state a run reaches, a pass
over schedules that equal their jobs leaves each job as it was if and only if its next run
lies ahead when the pass registers it.  In a run whose passes find nothing overdue, every
run of an unchanged schedule is taken by exactly one wake-up, and when the wake-ups find one
run at a time, it is run or reported as a misfire. -/
theorem reconcile_keeps_runs (cal : Calendar Zone Trigger Int)
    (hcal : ∀ trigger, Lawful (cal.nextFireTime trigger)) :
    (∀ (r : RunState Id Params Trigger) (store : ScheduleStore Id Params Int)
      (clock : ScheduleView Id Params Int → Int), (runSystem cal).Reachable r →
      InSync cal ⟨store, r.jobs⟩ →
        ((∀ x, (timedReconcile cal clock ⟨store, r.jobs⟩).1.jobs.find? x = r.jobs.find? x) ↔
          ∀ s ∈ store.listEnabledSchedules, ∀ job, r.jobs.find? s.scriptId = some job →
            job.Ahead cal (clock s))) ∧
      (∀ r : RunState Id Params Trigger, (runSystem cal).Reach (PassesAhead cal) r →
        TakenOnce cal r) ∧
      ∀ r : RunState Id Params Trigger,
        (runSystem cal).Reach (fun r step => PassesAhead cal r step ∧ WakesInTime cal r step) r →
          TakenOnce cal r ∧ RunOrMisfired r := by
  refine ⟨fun r store clock hreach hsync => ?_, fun r hreach => ?_, fun r hreach => ⟨?_, ?_⟩⟩
  · exact pass_undisturbed_iff hcal hsync (aimed_of_reachable hreach) clock
  · exact takenOnce_of_allFollow (allFollow_of_reach hcal hreach)
  · exact takenOnce_of_allFollow (allFollow_of_reach hcal (hreach.mono fun _ _ hc => hc.1))
  · exact runOrMisfired_of_reach (hreach.mono fun _ _ hc => hc.2)

/-- A run with a pass before the run at 10, and one after the wake-up that took it. -/
theorem reconcile_keeps_runs_everyTen :
    ∃ r, (runSystem everyTen).exec noJobs
        [.schedule anySchedule 1, .pass anySchedule 9, .wake 10 (fun _ => false) (fun _ => 11),
          .pass anySchedule 12] = some r ∧
      TakenOnce everyTen r ∧ RunOrMisfired r := by
  have hscheduled : (runSystem everyTen).Reach
      (fun r step => PassesAhead everyTen r step ∧ WakesInTime everyTen r step) _ :=
    .next (.start (s := noJobs) ⟨rfl, fun _ => rfl⟩) (e := .schedule anySchedule 1)
      ⟨trivial, trivial⟩ rfl
  have hpassed := hscheduled.next (e := RunStep.pass anySchedule 9) ⟨by
    rintro - job hjob
    cases hjob
    refine ⟨fun n hn => by cases hn; decide, fun v hv hbefore hinstant => ?_⟩
    have hv' := everyTen_occurs.1 hinstant
    have hv10 := hbefore 10 rfl
    omega, trivial⟩ rfl
  have hwoken := hpassed.next (e := RunStep.wake 10 (fun _ => false) (fun _ => 11)) ⟨trivial, by
    intro job hjob
    cases List.mem_singleton.1 hjob
    exact ⟨Nat.le_refl 1, fun _ => rfl⟩⟩ rfl
  have hagain := hwoken.next (e := RunStep.pass anySchedule 12) ⟨by
    rintro - job hjob
    cases hjob
    refine ⟨fun n hn => by cases hn; decide, fun v hv hbefore hinstant => ?_⟩
    have hv' := everyTen_occurs.1 hinstant
    have hv20 := hbefore 20 rfl
    omega, trivial⟩ rfl
  exact ⟨_, rfl, (reconcile_keeps_runs everyTen everyTen_lawful).2.2 _ hagain⟩

/-- A pass at 11, before the scheduler has woken up for the run at 10: the wake-up at 12
finds a job that runs next at 20. -/
theorem not_reconcileKeepsRuns :
    ¬ ∀ r : RunState Nat Unit Unit, (runSystem everyTen).Reach (WakesInTime everyTen) r →
      TakenOnce everyTen r := by
  intro h
  have hpassed : (runSystem everyTen).Reach (WakesInTime everyTen) _ :=
    .next (.next (.start (s := noJobs) ⟨rfl, fun _ => rfl⟩)
      (e := .schedule anySchedule 1) trivial rfl) (e := .pass anySchedule 11) trivial rfl
  have hwoken : (runSystem everyTen).Reach (WakesInTime everyTen) _ :=
    .next hpassed (e := .wake 12 (fun _ => false) (fun _ => 12)) (by
      intro job hjob
      cases List.mem_singleton.1 hjob
      exact ⟨Nat.zero_le 1, fun _ => rfl⟩) rfl
  have htaken := h _ hwoken _ (List.mem_singleton.2 rfl) ⟨1, some 12, []⟩ rfl 10
    (everyTen_occurs.2 rfl) (by decide) ⟨12, rfl, by decide⟩
  cases htaken

end Scheduler
end NodeNexus
