import NodeNexus.Scheduler.Interleave

/-!
# Schedule changes and reconciliation passes, interleaved: the law

* `schedules_converge` is the main result.  The law holds once all calls have
  finished, when no change of a script's schedule commits while another call
  still has a write to that script's job ahead of it.  And from any state of any
  run, one pass that is not disturbed brings the law about.
* `stale_create` is a run without that condition that ends with a job for a
  deleted schedule.

The invariant behind the first half (`ConvergeInv`) says what the calls in
flight have read is still what is stored, and that a script whose job is not
the wanted one has been promised a write by a call in flight.
-/

namespace NodeNexus
namespace Scheduler

variable {Id Params Zone Trigger Time : Type} [DecidableEq Id]

/-! ## Steps -/

namespace Concurrent

omit [DecidableEq Id] in
theorem call_settle (s : Concurrent Id Params Trigger Time) (n : Nat)
    (d : Deployment Id Params Trigger Time) (c : Option (Call Id Params Time)) (m : Nat) :
    (s.settle n d c).call m = if m = n then c else s.call m := by
  cases c with
  | none =>
      simp only [call, settle, Table.find?_erase]
      split
      · rfl
      · rfl
  | some c =>
      simp only [call, settle, Table.find?_put]
      split
      · rfl
      · rfl

omit [DecidableEq Id] in
theorem Quiet.call_eq {s : Concurrent Id Params Trigger Time} (h : s.Quiet) (n : Nat) :
    s.call n = none := by
  simp only [Quiet] at h
  simp [call, Table.find?, h]

omit [DecidableEq Id] in
theorem begin_eq {s s' : Concurrent Id Params Trigger Time} {n : Nat} {c : Call Id Params Time}
    (h : s.begin n c = some s') : s.call n = none ∧ s' = s.settle n s.deployment (some c) := by
  rw [begin] at h
  cases hc : s.call n with
  | none => rw [hc] at h; cases h; exact ⟨rfl, rfl⟩
  | some c' => rw [hc] at h; cases h

/-- A step either starts a call or advances one. -/
theorem step_cases {cal : Calendar Zone Trigger Time} {s s' : Concurrent Id Params Trigger Time}
    {e : ScheduleEvent Id Params Time} (h : s.step cal e = some s') :
    (∃ n c, c.Starts ∧ s.call n = none ∧ s' = s.settle n s.deployment (some c)) ∨
    (∃ n a c next, e = .advance n a ∧ s.call n = some c ∧
      c.advance cal s.deployment a = some next ∧ s' = s.settle n next.1 next.2) := by
  cases e with
  | createOrUpdate n x fresh data =>
      obtain ⟨hn, hs⟩ := begin_eq h
      exact .inl ⟨n, .validating x fresh data, trivial, hn, hs⟩
  | delete n x =>
      obtain ⟨hn, hs⟩ := begin_eq h
      exact .inl ⟨n, .deleting x, trivial, hn, hs⟩
  | reconcile n =>
      obtain ⟨hn, hs⟩ := begin_eq h
      exact .inl ⟨n, .listing, trivial, hn, hs⟩
  | advance n a =>
      rw [step, Option.bind_eq_some_iff] at h
      obtain ⟨c, hc, h⟩ := h
      obtain ⟨next, hnext, rfl⟩ := Option.map_eq_some_iff.1 h
      exact .inr ⟨n, a, c, next, rfl, hc, hnext, rfl⟩

end Concurrent

/-! ## What a step does to the stored schedules -/

/-- The columns of a row that `mark_registration` does not write. -/
def StoredSchedule.core (row : StoredSchedule Id Params Time) : ScheduleView Id Params Time :=
  { row.toScheduleView with operationalState := "", lastErrorType := none, nextRunAt := none }

theorem ScheduleStore.core_markRegistration {store store' : ScheduleStore Id Params Time} {x : Id}
    {state : String} {err : Option String} {next : Option Time}
    (h : store.markRegistration x state err next = .ok store') (y : Id) :
    (store'.find? y).map (·.core) = (store.find? y).map (·.core) := by
  rw [markRegistration] at h
  split at h
  · cases h
    rw [Table.find?_modify]
    split
    · rw [Option.map_map]; rfl
    · rfl
  · split at h
    · cases h; rfl
    · cases h

theorem desiredJob_eq_core (cal : Calendar Zone Trigger Time)
    (store : ScheduleStore Id Params Time) (x : Id) :
    desiredJob cal store x = ((store.find? x).map (·.core)).bind fun v => v.desiredJob cal := by
  cases h : store.find? x with
  | none => rw [desiredJob, h]; rfl
  | some row => rw [desiredJob, h]; rfl

theorem allRegistrable_iff_core {cal : Calendar Zone Trigger Time}
    {store : ScheduleStore Id Params Time} :
    AllRegistrable cal store ↔ ∀ x v, (store.find? x).map (·.core) = some v → v.enabled = true →
      Registrable cal v := by
  constructor
  · intro h x v hv hen
    obtain ⟨row, hrow, rfl⟩ := Option.map_eq_some_iff.1 hv
    exact h row.toScheduleView
      (ScheduleStore.mem_listEnabledSchedules.2 ⟨row, Table.mem_of_find? hrow, hen, rfl⟩)
  · intro h s hs
    obtain ⟨row, hrow, hen, rfl⟩ := ScheduleStore.mem_listEnabledSchedules.1 hs
    exact h row.scriptId row.core (by rw [ScheduleStore.find?_of_mem hrow]; rfl) hen

/-- An action leaves the store alone, commits an upsert or a delete, or marks a
registration. -/
theorem Call.advance_store {cal : Calendar Zone Trigger Time}
    {d : Deployment Id Params Trigger Time} {c : Call Id Params Time} {a : Action Time}
    {next : Deployment Id Params Trigger Time × Option (Call Id Params Time)}
    (h : c.advance cal d a = some next) :
    next.1.store = d.store ∨
    (∃ x fresh data, c = .upserting x fresh data ∧
      next.1.store = (d.store.upsertSchedule fresh x data).1) ∨
    (∃ x, c = .deleting x ∧ next.1.store = (d.store.deleteSchedule x).1) ∨
    ∃ x state err at', d.store.markRegistration x state err at' = .ok next.1.store := by
  have restore (d' : Deployment Id Params Trigger Time) (now : Time)
      (l : List (ScheduleView Id Params Time)) :
      (restoreNext cal d' now l).1.store = d'.store := by
    cases l with
    | nil => rfl
    | cons s rest => rw [restoreNext]; split <;> rfl
  cases c with
  | validating x fresh data =>
      cases a <;> simp only [advance, reduceCtorEq] at h
      · split at h <;> cases h
        exact .inl rfl
      · cases h; exact .inl rfl
  | upserting x fresh data =>
      cases a <;> simp only [advance, reduceCtorEq] at h
      · cases h; exact .inl rfl
      · cases h; exact .inr (.inl ⟨x, fresh, data, rfl, rfl⟩)
  | upserted desired =>
      cases a <;> simp only [advance, reduceCtorEq] at h
      split at h <;> cases h <;> exact .inl rfl
  | marking x reg =>
      cases a <;> simp only [advance, reduceCtorEq] at h
      · cases h; exact .inl rfl
      · split at h <;> cases h
        · exact .inr (.inr (.inr ⟨_, _, _, _, by assumption⟩))
        · exact .inl rfl
  | deleting x =>
      cases a <;> simp only [advance, reduceCtorEq] at h
      · cases h; exact .inl rfl
      · cases h; exact .inr (.inr (.inl ⟨x, rfl, rfl⟩))
  | deleted x found =>
      cases a <;> simp only [advance, reduceCtorEq] at h
      split at h <;> cases h <;> exact .inl rfl
  | listing =>
      cases a <;> simp only [advance, reduceCtorEq] at h <;> cases h <;> exact .inl rfl
  | listed schedules =>
      cases a <;> simp only [advance, reduceCtorEq] at h
      cases h
      exact .inl (restore _ _ _)
  | restoring x reg rest =>
      cases a <;> simp only [advance, reduceCtorEq] at h
      · cases h; exact .inl rfl
      · split at h <;> cases h
        · exact .inr (.inr (.inr ⟨_, _, _, _, by assumption⟩))
        · exact .inl rfl
  | restored rest =>
      cases a <;> simp only [advance, reduceCtorEq] at h
      cases h
      exact .inl (restore _ _ _)

/-- Only `validated` leads to a call that is about to upsert. -/
theorem Call.advance_upserting {cal : Calendar Zone Trigger Time}
    {d : Deployment Id Params Trigger Time} {c : Call Id Params Time} {a : Action Time}
    {next : Deployment Id Params Trigger Time × Option (Call Id Params Time)}
    {x fresh : Id} {data : ScheduleRequest Id Params}
    (h : c.advance cal d a = some next) (hc : next.2 = some (.upserting x fresh data)) :
    ∃ trigger, cal.trigger data.cron data.timezone = .ok trigger := by
  have restore (d' : Deployment Id Params Trigger Time) (now : Time)
      (l : List (ScheduleView Id Params Time)) :
      (restoreNext cal d' now l).2 ≠ some (.upserting x fresh data) := by
    cases l with
    | nil => simp [restoreNext]
    | cons s rest => rw [restoreNext]; split <;> simp
  cases c <;> cases a <;> simp only [advance, reduceCtorEq] at h
  case validating.validated x' fresh' data' =>
    split at h <;> cases h
    cases hc
    exact ⟨_, by assumption⟩
  case listed.resumed => cases h; exact absurd hc (restore _ _ _)
  case restored.resumed => cases h; exact absurd hc (restore _ _ _)
  all_goals
    first
    | (cases h; exact absurd hc (by simp))
    | (split at h <;> cases h <;> exact absurd hc (by simp))

/-- Only registrable schedules are stored, and only such are about to be. -/
structure Sound (cal : Calendar Zone Trigger Time) (s : Concurrent Id Params Trigger Time) :
    Prop where
  /-- The enabled schedules can be registered. -/
  stored : AllRegistrable cal s.deployment.store
  /-- So can those that were validated and are about to be stored. -/
  validated : ∀ n x fresh data, s.call n = some (.upserting x fresh data) →
    ∃ trigger, cal.trigger data.cron data.timezone = .ok trigger

theorem sound_init {cal : Calendar Zone Trigger Time} {s : Concurrent Id Params Trigger Time}
    (h : (scheduleSystem cal).init s) : Sound cal s := by
  obtain ⟨hstep, hquiet⟩ := h
  refine ⟨hstep.registrable, fun n x fresh data hc => ?_⟩
  rw [hquiet.call_eq n] at hc
  cases hc

theorem sound_step {cal : Calendar Zone Trigger Time} {s s' : Concurrent Id Params Trigger Time}
    {e : ScheduleEvent Id Params Time} (hs : Sound cal s) (h : s.step cal e = some s') :
    Sound cal s' := by
  rcases Concurrent.step_cases h with ⟨n, c, hstart, -, rfl⟩ | ⟨n, a, c, next, -, hc, ha, rfl⟩
  · refine ⟨hs.stored, fun m x fresh data hm => ?_⟩
    rw [Concurrent.call_settle] at hm
    split at hm
    · cases hm; exact hstart.elim
    · exact hs.validated m x fresh data hm
  · constructor
    · show AllRegistrable cal next.1.store
      rcases Call.advance_store ha with heq | ⟨x, fresh, data, rfl, heq⟩ | ⟨x, -, heq⟩ |
        ⟨x, state, err, at', heq⟩
      · rw [heq]; exact hs.stored
      · rw [heq, allRegistrable_iff_core]
        intro y v hv hen
        rw [ScheduleStore.find?_upsertSchedule] at hv
        split at hv
        · cases hv; exact hs.validated n x fresh data hc
        · exact allRegistrable_iff_core.1 hs.stored y v hv hen
      · rw [heq, allRegistrable_iff_core]
        intro y v hv hen
        rw [ScheduleStore.find?_deleteSchedule] at hv
        split at hv
        · cases hv
        · exact allRegistrable_iff_core.1 hs.stored y v hv hen
      · rw [allRegistrable_iff_core]
        intro y v hv hen
        rw [ScheduleStore.core_markRegistration heq] at hv
        exact allRegistrable_iff_core.1 hs.stored y v hv hen
    · intro m x fresh data hm
      rw [Concurrent.call_settle] at hm
      split at hm
      · exact Call.advance_upserting ha hm
      · exact hs.validated m x fresh data hm

theorem sound_of_reach {cal : Calendar Zone Trigger Time} {C}
    {s : Concurrent Id Params Trigger Time} (h : (scheduleSystem cal).Reach C s) : Sound cal s :=
  h.invariant (fun _ hi => sound_init hi) fun _ _ _ hi _ hs => sound_step hi hs

/-! ## The invariant of undisturbed runs -/

/-- The schedule can be registered, and its job is the one that is wanted. -/
def ScheduleView.Wanted (cal : Calendar Zone Trigger Time)
    (want : Id → Option (Job Id Params Trigger))
    (s : ScheduleView Id Params Time) : Prop :=
  ∃ trigger, cal.trigger s.cron s.timezone = .ok trigger ∧
    want s.scriptId = some (s.toRuntime.job trigger)

/-- What a call has read or committed still is what is wanted. -/
def Call.Current (cal : Calendar Zone Trigger Time) (want : Id → Option (Job Id Params Trigger))
    (c : Call Id Params Time) : Prop :=
  match c with
  | .upserted desired => desired.Wanted cal want
  | .deleted x found => found = true → want x = none
  | .listed schedules => (∀ s ∈ schedules, s.Wanted cal want) ∧
      ∀ x, x ∉ schedules.map (·.scriptId) → want x = none
  | .restoring _ _ rest | .restored rest => ∀ s ∈ rest, s.Wanted cal want
  | _ => True

omit [DecidableEq Id] in
/-- A call only depends on what is wanted for the scripts it still writes to. -/
theorem Call.Current.congr {cal : Calendar Zone Trigger Time}
    {want want' : Id → Option (Job Id Params Trigger)} {c : Call Id Params Time}
    (h : c.Current cal want) (hw : ∀ x, c.owes x → want' x = want x) : c.Current cal want' := by
  have wanted {rest : List (ScheduleView Id Params Time)} (hr : ∀ s ∈ rest, s.Wanted cal want)
      (hw : ∀ x, x ∈ rest.map (·.scriptId) → want' x = want x) :
      ∀ s ∈ rest, s.Wanted cal want' := by
    intro s hs
    obtain ⟨trigger, ht, hwant⟩ := hr s hs
    exact ⟨trigger, ht, (hw _ (List.mem_map.2 ⟨s, hs, rfl⟩)).trans hwant⟩
  cases c with
  | upserted desired =>
      obtain ⟨trigger, ht, hwant⟩ := h
      exact ⟨trigger, ht, (hw _ rfl).trans hwant⟩
  | deleted x found => exact fun hf => (hw x ⟨hf, rfl⟩).trans (h hf)
  | listed schedules =>
      exact ⟨wanted h.1 fun x _ => hw x trivial, fun x hx => (hw x trivial).trans (h.2 x hx)⟩
  | restoring x reg rest => exact wanted h hw
  | restored rest => exact wanted h hw
  | validating => trivial
  | upserting => trivial
  | marking => trivial
  | deleting => trivial
  | listing => trivial

/-- Has the call committed a change of the schedule of script `x` that its job
does not show yet? -/
def Call.promises (c : Call Id Params Time) (x : Id) : Prop :=
  match c with
  | .upserted desired => desired.scriptId = x
  | .deleted y found => found = true ∧ y = x
  | _ => False

/-- Calls in flight are up to date, and a script whose job is not the wanted
one has been promised a write by a call in flight. -/
structure ConvergeInv (cal : Calendar Zone Trigger Time) (s : Concurrent Id Params Trigger Time) :
    Prop where
  /-- What the calls hold is what is wanted. -/
  current : ∀ n c, s.call n = some c → c.Current cal (desiredJob cal s.deployment.store)
  /-- Every job is as wanted, or about to be written. -/
  jobs : ∀ x, s.deployment.jobs.find? x = desiredJob cal s.deployment.store x ∨
    ∃ n c, s.call n = some c ∧ c.promises x

/-- How a step of the call `n` keeps the invariant: what the other calls hold
must not change, and every job must be as wanted, be promised by `n`, or be
untouched. -/
theorem ConvergeInv.settle {cal : Calendar Zone Trigger Time}
    {s : Concurrent Id Params Trigger Time} (h : ConvergeInv cal s) {n : Nat}
    {d : Deployment Id Params Trigger Time} {c' : Option (Call Id Params Time)}
    (hother : ∀ m c, m ≠ n → s.call m = some c → ∀ x, c.owes x →
      desiredJob cal d.store x = desiredJob cal s.deployment.store x)
    (hcur : ∀ c, c' = some c → c.Current cal (desiredJob cal d.store))
    (hjobs : ∀ x, d.jobs.find? x = desiredJob cal d.store x ∨ (∃ c, c' = some c ∧ c.promises x) ∨
      d.jobs.find? x = s.deployment.jobs.find? x ∧
        desiredJob cal d.store x = desiredJob cal s.deployment.store x ∧
        ∀ c, s.call n = some c → ¬ c.promises x) :
    ConvergeInv cal (s.settle n d c') where
  current m c hm := by
    rw [Concurrent.call_settle] at hm
    by_cases hmn : m = n
    · rw [if_pos hmn] at hm
      exact hcur c hm
    · rw [if_neg hmn] at hm
      exact (h.current m c hm).congr (hother m c hmn hm)
  jobs x := by
    rcases hjobs x with heq | ⟨c, hc, ho⟩ | ⟨hsame, hwant, hnot⟩
    · exact .inl heq
    · exact .inr ⟨n, c, by rw [Concurrent.call_settle, if_pos rfl, hc], ho⟩
    · rcases h.jobs x with heq | ⟨m, c, hm, ho⟩
      · left
        show d.jobs.find? x = desiredJob cal d.store x
        rw [hsame, heq, hwant]
      · have hmn : m ≠ n := by
          rintro rfl
          exact hnot c hm ho
        exact .inr ⟨m, c, by rw [Concurrent.call_settle, if_neg hmn, hm], ho⟩

/-- A step that changes neither jobs nor wishes, by a call that had promised
nothing. -/
theorem ConvergeInv.settle_idle {cal : Calendar Zone Trigger Time}
    {s : Concurrent Id Params Trigger Time} (h : ConvergeInv cal s) {n : Nat}
    {d : Deployment Id Params Trigger Time} {c' : Option (Call Id Params Time)}
    (hwant : ∀ x, desiredJob cal d.store x = desiredJob cal s.deployment.store x)
    (hsame : d.jobs = s.deployment.jobs)
    (hcur : ∀ c, c' = some c → c.Current cal (desiredJob cal d.store))
    (hnot : ∀ x c, s.call n = some c → ¬ c.promises x) : ConvergeInv cal (s.settle n d c') :=
  h.settle (fun _ _ _ _ x _ => hwant x) hcur fun x =>
    .inr (.inr ⟨by rw [hsame], hwant x, hnot x⟩)

theorem desiredJob_of_core {cal : Calendar Zone Trigger Time}
    {store store' : ScheduleStore Id Params Time} {x : Id}
    (h : (store'.find? x).map (·.core) = (store.find? x).map (·.core)) :
    desiredJob cal store' x = desiredJob cal store x := by
  rw [desiredJob_eq_core, desiredJob_eq_core, h]

/-- Registering a wanted schedule gives its script the wanted job. -/
theorem register_of_wanted {cal : Calendar Zone Trigger Time}
    {want : Id → Option (Job Id Params Trigger)} {v : ScheduleView Id Params Time}
    (jobs : JobStore Id Params Trigger) (now : Time) (h : v.Wanted cal want) :
    ∃ job reg, register cal jobs v now = (jobs.put job, .ok reg) ∧ job.scriptId = v.scriptId ∧
      want v.scriptId = some job := by
  obtain ⟨trigger, ht, hwant⟩ := h
  exact ⟨_, _, register_of_registrable ht, rfl, hwant⟩

theorem JobStore.find?_put (jobs : JobStore Id Params Trigger) (job : Job Id Params Trigger)
    (x : Id) : (Table.put jobs job).find? x = if x = job.scriptId then some job else jobs.find? x :=
  Table.find?_put _ _ _

/-- The loop of a pass over wanted schedules up to its next await, when every
job is as wanted or untouched. -/
theorem ConvergeInv.restoreNext {cal : Calendar Zone Trigger Time}
    {s : Concurrent Id Params Trigger Time} (h : ConvergeInv cal s) {n : Nat}
    {d : Deployment Id Params Trigger Time} {now : Time}
    {schedules : List (ScheduleView Id Params Time)}
    (hstore : d.store = s.deployment.store)
    (hwanted : ∀ v ∈ schedules, v.Wanted cal (desiredJob cal s.deployment.store))
    (hjobs : ∀ x, d.jobs.find? x = desiredJob cal s.deployment.store x ∨
      d.jobs.find? x = s.deployment.jobs.find? x)
    (hnot : ∀ x c, s.call n = some c → ¬ c.promises x) :
    ConvergeInv cal (s.settle n (restoreNext cal d now schedules).1
      (restoreNext cal d now schedules).2) := by
  cases schedules with
  | nil =>
      refine h.settle (fun _ _ _ _ x _ => ?_) (fun c hc => by cases hc) fun x => ?_
      · rw [Scheduler.restoreNext, hstore]
      · rw [Scheduler.restoreNext, hstore]
        rcases hjobs x with heq | hsame
        · exact .inl heq
        · exact .inr (.inr ⟨hsame, rfl, hnot x⟩)
  | cons v rest =>
      obtain ⟨job, reg, hreg, hid, hwant⟩ :=
        register_of_wanted d.jobs now (hwanted v (List.mem_cons_self ..))
      have heq : Scheduler.restoreNext cal d now (v :: rest) =
          ({ d with jobs := d.jobs.put job }, some (.restoring v.scriptId reg rest)) := by
        rw [Scheduler.restoreNext, hreg]
      rw [heq]
      refine h.settle (fun _ _ _ _ x _ => by rw [hstore]) (fun c hc => ?_) fun x => ?_
      · cases hc
        rw [hstore]
        exact fun v' hv' => hwanted v' (List.mem_cons_of_mem _ hv')
      · simp only [hstore]
        by_cases hxv : x = v.scriptId
        · left
          rw [JobStore.find?_put, hid, if_pos hxv, hxv, hwant]
        · rw [JobStore.find?_put, hid, if_neg hxv]
          rcases hjobs x with heq | hsame
          · exact .inl heq
          · exact .inr (.inr ⟨hsame, trivial, hnot x⟩)

theorem desiredJob_upsertSchedule {cal : Calendar Zone Trigger Time}
    (store : ScheduleStore Id Params Time) (fresh x : Id) (data : ScheduleRequest Id Params)
    (y : Id) : desiredJob cal (store.upsertSchedule fresh x data).1 y =
      if y = x then (store.upserted fresh x data).desiredJob cal else desiredJob cal store y := by
  rw [desiredJob, ScheduleStore.find?_upsertSchedule]
  split
  · rfl
  · rfl

theorem desiredJob_deleteSchedule {cal : Calendar Zone Trigger Time}
    (store : ScheduleStore Id Params Time) (x y : Id) :
    desiredJob cal (store.deleteSchedule x).1 y =
      if y = x then none else desiredJob cal store y := by
  rw [desiredJob, ScheduleStore.find?_deleteSchedule]
  split
  · rfl
  · rfl

/-- Reading the enabled schedules tells what is wanted. -/
theorem current_listed {cal : Calendar Zone Trigger Time} {store : ScheduleStore Id Params Time}
    (h : AllRegistrable cal store) :
    (Call.listed store.listEnabledSchedules).Current cal (desiredJob cal store) := by
  constructor
  · intro v hv
    obtain ⟨trigger, ht⟩ := h v hv
    exact ⟨trigger, ht, desiredJob_of_mem hv ht⟩
  · exact fun x hx => desiredJob_of_not_mem hx

/-- A committed change of one schedule: the other calls do not hold anything
about that script, and its job is now promised by the call itself. -/
theorem ConvergeInv.commit {cal : Calendar Zone Trigger Time}
    {s : Concurrent Id Params Trigger Time} (h : ConvergeInv cal s) {n : Nat} {x : Id}
    {c c' : Call Id Params Time} {store : ScheduleStore Id Params Time}
    (hc : s.call n = some c) (hcx : c.commits x)
    (hk : Undisturbed s (.advance n (.landed : Action Time)))
    (hwant : ∀ y, y ≠ x → desiredJob cal store y = desiredJob cal s.deployment.store y)
    (hcur : c'.Current cal (desiredJob cal store)) (hpromise : c'.promises x) :
    ConvergeInv cal (s.settle n { s.deployment with store := store } (some c')) := by
  refine h.settle (fun m c₁ _ hm y ho => hwant y ?_) (fun c₁ hc₁ => by cases hc₁; exact hcur)
    fun y => ?_
  · rintro rfl
    exact hk c y hc hcx m c₁ hm ho
  · by_cases hyx : y = x
    · subst hyx
      exact .inr (.inl ⟨c', rfl, hpromise⟩)
    · refine .inr (.inr ⟨rfl, hwant y hyx, fun c₁ hc₁ ho => ?_⟩)
      -- a call that commits has promised nothing yet
      rw [hc] at hc₁
      cases hc₁
      cases c with
      | upserting => exact ho
      | deleting => exact ho
      | _ => exact hcx

omit [DecidableEq Id] in
/-- A call that starts holds nothing yet. -/
theorem Call.Starts.current {cal : Calendar Zone Trigger Time}
    {want : Id → Option (Job Id Params Trigger)} {c : Call Id Params Time} (h : c.Starts) :
    c.Current cal want := by
  cases c with
  | validating => trivial
  | deleting => trivial
  | listing => trivial
  | _ => exact h.elim

/-- A call that raises changes nothing, and had promised nothing. -/
theorem Call.advance_failed {cal : Calendar Zone Trigger Time}
    {d : Deployment Id Params Trigger Time} {c : Call Id Params Time}
    {next : Deployment Id Params Trigger Time × Option (Call Id Params Time)}
    (h : c.advance cal d .failed = some next) : (∀ x, ¬ c.promises x) ∧ next = (d, none) := by
  cases c <;> cases h <;> exact ⟨fun _ ho => ho, rfl⟩

omit [DecidableEq Id] in
/-- What a call has not promised, no call under its number has. -/
theorem not_promises_of_call {s : Concurrent Id Params Trigger Time} {n : Nat}
    {c : Call Id Params Time} (hc : s.call n = some c) {x : Id} (hno : ¬ c.promises x) :
    ∀ c', s.call n = some c' → ¬ c'.promises x := by
  intro c' hc'
  rw [hc] at hc'
  cases hc'
  exact hno

/-- What a call writes or reads in the store keeps the law. -/
theorem ConvergeInv.landed {cal : Calendar Zone Trigger Time}
    {s : Concurrent Id Params Trigger Time} {n : Nat} {c : Call Id Params Time}
    {next : Deployment Id Params Trigger Time × Option (Call Id Params Time)}
    (hi : ConvergeInv cal s) (hs : Sound cal s)
    (hk : Undisturbed s (.advance n (.landed : Action Time))) (hc : s.call n = some c)
    (ha : c.advance cal s.deployment .landed = some next) :
    ConvergeInv cal (s.settle n next.1 next.2) := by
  have only {x : Id} (hno : ¬ c.promises x) := not_promises_of_call hc hno
  have hcur := hi.current n c hc
  cases c with
  | upserting x fresh data =>
      cases ha
      refine hi.commit hc rfl hk (fun y hy => ?_) ?_ rfl
      · rw [desiredJob_upsertSchedule, if_neg hy]
      · obtain ⟨trigger, ht⟩ := hs.validated n x fresh data hc
        refine ⟨trigger, ht, ?_⟩
        rw [desiredJob_upsertSchedule]
        simp [ScheduleStore.upsertSchedule, ScheduleStore.upserted,
          ScheduleView.desiredJob, ht]
  | marking x reg =>
      simp only [Call.advance] at ha
      split at ha <;> cases ha
      · exact hi.settle_idle
          (fun y => desiredJob_of_core (ScheduleStore.core_markRegistration (by assumption) y))
          rfl (fun c' hc' => by cases hc') (fun _ => only fun ho => ho)
      · exact hi.settle_idle (fun _ => rfl) rfl (fun c' hc' => by cases hc')
          (fun _ => only fun ho => ho)
  | deleting x =>
      cases ha
      cases hrow : s.deployment.store.find? x with
      | none =>
          -- nothing to delete: the store is as before
          rw [ScheduleStore.deleteSchedule, hrow]
          refine hi.settle_idle (fun _ => rfl) rfl (fun c' hc' => ?_) (fun _ => only fun ho => ho)
          cases hc'
          exact fun hf => by cases hf
      | some row =>
          refine hi.commit hc rfl hk (fun y hy => ?_) (fun _ => ?_) ⟨?_, rfl⟩
          · rw [desiredJob_deleteSchedule, if_neg hy]
          · rw [desiredJob_deleteSchedule, if_pos rfl]
          · rw [ScheduleStore.deleteSchedule, hrow]
  | listing =>
      cases ha
      exact hi.settle_idle (fun _ => rfl) rfl
        (fun c' hc' => by cases hc'; exact current_listed hs.stored) (fun _ => only fun ho => ho)
  | restoring x reg rest =>
      simp only [Call.advance] at ha
      split at ha <;> cases ha
      · have hsame (y : Id) : desiredJob cal _ y = desiredJob cal _ y :=
          desiredJob_of_core (ScheduleStore.core_markRegistration (by assumption) y)
        refine hi.settle_idle hsame rfl (fun c' hc' => ?_) (fun _ => only fun ho => ho)
        cases hc'
        exact hcur.congr fun y _ => hsame y
      · exact hi.settle_idle (fun _ => rfl) rfl (fun c' hc' => by cases hc')
          (fun _ => only fun ho => ho)
  | _ => cases ha

/-- What a call does to the jobs after its transaction keeps the law. -/
theorem ConvergeInv.resumed {cal : Calendar Zone Trigger Time}
    {s : Concurrent Id Params Trigger Time} {n : Nat} {c : Call Id Params Time}
    {next : Deployment Id Params Trigger Time × Option (Call Id Params Time)} {now : Time}
    (hi : ConvergeInv cal s) (hc : s.call n = some c)
    (ha : c.advance cal s.deployment (.resumed now) = some next) :
    ConvergeInv cal (s.settle n next.1 next.2) := by
  have only {x : Id} (hno : ¬ c.promises x) := not_promises_of_call hc hno
  have hcur := hi.current n c hc
  cases c with
  | upserted desired =>
      obtain ⟨job, reg, hreg, hid, hwant⟩ := register_of_wanted s.deployment.jobs now hcur
      simp only [Call.advance, hreg, Option.some.injEq] at ha
      subst ha
      refine hi.settle (fun _ _ _ _ _ _ => rfl) (fun c' hc' => by cases hc'; trivial)
        fun x => ?_
      by_cases hx : x = desired.scriptId
      · left
        rw [JobStore.find?_put, hid, if_pos hx, hx, hwant]
      · refine .inr (.inr ⟨?_, rfl, only fun ho => hx ho.symm⟩)
        rw [JobStore.find?_put, hid, if_neg hx]
  | deleted x found =>
      simp only [Call.advance] at ha
      split at ha <;> cases ha
      · rename_i hfound
        refine hi.settle (fun _ _ _ _ _ _ => rfl) (fun c' hc' => by cases hc') fun y => ?_
        by_cases hy : y = x
        · left
          rw [JobStore.find?_remove, if_pos hy, hy, hcur hfound]
        · refine .inr (.inr ⟨?_, rfl, only fun ho => hy ho.2.symm⟩)
          rw [JobStore.find?_remove, if_neg hy]
      · rename_i hfound
        exact hi.settle_idle (fun _ => rfl) rfl (fun c' hc' => by cases hc')
          (fun _ => only fun ho => hfound ho.1)
  | listed schedules =>
      cases ha
      refine hi.restoreNext rfl hcur.1 (fun x => ?_) (fun _ => only fun ho => ho)
      -- the removal pass takes away exactly what is not wanted
      by_cases hx : x ∈ schedules.map (·.scriptId)
      · right
        exact (JobStore.find?_removeOrphans_inspect _ _ x).trans (if_pos hx)
      · left
        exact ((JobStore.find?_removeOrphans_inspect _ _ x).trans (if_neg hx)).trans
          (hcur.2 x hx).symm
  | restored rest =>
      cases ha
      exact hi.restoreNext rfl hcur (fun _ => .inr rfl) (fun _ => only fun ho => ho)
  | _ => cases ha

/-- **A step of an undisturbed run keeps the invariant.** -/
theorem convergeInv_step {cal : Calendar Zone Trigger Time}
    {s s' : Concurrent Id Params Trigger Time} {e : ScheduleEvent Id Params Time}
    (hs : Sound cal s) (hi : ConvergeInv cal s) (hk : Undisturbed s e)
    (h : s.step cal e = some s') : ConvergeInv cal s' := by
  rcases Concurrent.step_cases h with ⟨n, c, hstart, hn, rfl⟩ | ⟨n, a, c, next, rfl, hc, ha, rfl⟩
  · refine hi.settle_idle (fun _ => rfl) rfl (fun c' hc' => ?_) fun x c' hc' => ?_
    · cases hc'
      exact hstart.current
    · rw [hn] at hc'
      cases hc'
  · have only {x : Id} (hno : ¬ c.promises x) := not_promises_of_call hc hno
    cases a with
    | validated =>
        cases c with
        | validating x fresh data =>
            simp only [Call.advance] at ha
            split at ha <;> cases ha
            exact hi.settle_idle (fun _ => rfl) rfl (fun c' hc' => by cases hc'; trivial)
              (fun _ => only fun ho => ho)
        | _ => cases ha
    | failed =>
        obtain ⟨hno, rfl⟩ := Call.advance_failed ha
        exact hi.settle_idle (fun _ => rfl) rfl (fun c' hc' => by cases hc') (fun x => only (hno x))
    | landed => exact hi.landed hs hk hc ha
    | resumed now => exact hi.resumed hc ha

/-! ## The law at rest -/

/-- A deployment that is in step obeys the law. -/
theorem InStep.projected {cal : Calendar Zone Trigger Time}
    {d : Deployment Id Params Trigger Time} (h : InStep cal d) : Projected cal d := by
  have row_job {x : Id} {row : StoredSchedule Id Params Time} (hrow : d.store.find? x = some row)
      (hen : row.enabled = true) : ∃ trigger, cal.trigger row.cron row.timezone = .ok trigger ∧
        d.jobs.find? x = some (row.toRuntime.job trigger) := by
    obtain ⟨trigger, ht⟩ := h.registrable row.toScheduleView
      (ScheduleStore.mem_listEnabledSchedules.2 ⟨row, Table.mem_of_find? hrow, hen, rfl⟩)
    refine ⟨trigger, ht, ?_⟩
    rw [h.jobs x, desiredJob, hrow]
    simp [ScheduleView.desiredJob, hen, ht]
  have job_row {x : Id} {job : Job Id Params Trigger} (hjob : d.jobs.find? x = some job) :
      ∃ row, d.store.find? x = some row ∧ row.enabled = true := by
    rw [h.jobs x, desiredJob, Option.bind_eq_some_iff] at hjob
    obtain ⟨row, hrow, hjob⟩ := hjob
    refine ⟨row, hrow, ?_⟩
    by_contra hen
    rw [ScheduleView.desiredJob, if_neg hen] at hjob
    cases hjob
  constructor
  · intro x
    constructor
    · rintro ⟨job, hjob⟩
      exact job_row hjob
    · rintro ⟨row, hrow, hen⟩
      obtain ⟨trigger, -, hjob⟩ := row_job hrow hen
      exact ⟨_, hjob⟩
  · intro x row job hrow hjob
    obtain ⟨row', hrow', hen⟩ := job_row hjob
    rw [hrow] at hrow'
    cases hrow'
    obtain ⟨trigger, ht, hjob'⟩ := row_job hrow hen
    rw [hjob] at hjob'
    cases hjob'
    exact ⟨ht, rfl, rfl⟩

/-- In an undisturbed run, once all calls have finished, runtime and store are
in step. -/
theorem inStep_of_undisturbed {cal : Calendar Zone Trigger Time}
    {s : Concurrent Id Params Trigger Time} (h : (scheduleSystem cal).Reach Undisturbed s)
    (hquiet : s.Quiet) : InStep cal s.deployment := by
  have hinit (s : Concurrent Id Params Trigger Time) (hs : (scheduleSystem cal).init s) :
      ConvergeInv cal s := by
    refine ⟨fun n c hc => ?_, fun x => .inl (hs.1.jobs x)⟩
    rw [hs.2.call_eq n] at hc
    cases hc
  have hinv : Sound cal s ∧ ConvergeInv cal s :=
    h.invariant (I := fun s => Sound cal s ∧ ConvergeInv cal s)
      (fun s hs => ⟨sound_init hs, hinit s hs⟩)
      fun s e s' hi hk hs => ⟨sound_step hi.1 hs, convergeInv_step hi.1 hi.2 hk hs⟩
  refine ⟨hinv.1.stored, fun x => ?_⟩
  rcases hinv.2.jobs x with heq | ⟨n, c, hc, -⟩
  · exact heq
  · rw [hquiet.call_eq n] at hc
    cases hc

/-! ## One pass on its own -/

/-- The rest of a pass with `k` schedules left: it runs on, and its registration
is marked, until nothing is left. -/
def passTurns (n : Nat) (now : Time) : Nat → List (ScheduleEvent Id Params Time)
  | 0 => [.advance n (.resumed now)]
  | k + 1 => .advance n (.resumed now) :: .advance n .landed :: passTurns n now k

/-- A whole pass over `k` schedules. -/
def passAlone (n : Nat) (now : Time) (k : Nat) : List (ScheduleEvent Id Params Time) :=
  .reconcile n :: .advance n .landed :: passTurns n now k

theorem Concurrent.exec_advance {cal : Calendar Zone Trigger Time}
    {s : Concurrent Id Params Trigger Time} {n : Nat} {a : Action Time} {c : Call Id Params Time}
    {next : Deployment Id Params Trigger Time × Option (Call Id Params Time)}
    (hc : s.call n = some c) (ha : c.advance cal s.deployment a = some next)
    (es : List (ScheduleEvent Id Params Time)) :
    (scheduleSystem cal).exec s (.advance n a :: es) =
      (scheduleSystem cal).exec (s.settle n next.1 next.2) es := by
  simp [System.exec, scheduleSystem, step, hc, ha]

omit [DecidableEq Id] in
/-- A call that settles twice has settled once. -/
theorem Concurrent.call_settle_settle (s : Concurrent Id Params Trigger Time) (n : Nat)
    (d d' : Deployment Id Params Trigger Time) (c c' : Option (Call Id Params Time)) (m : Nat) :
    ((s.settle n d c).settle n d' c').call m = if m = n then c' else s.call m := by
  rw [call_settle, call_settle]
  by_cases h : m = n
  · simp [h]
  · simp [h]

/-- The turns of a pass compute the loop of `reconcile`. -/
theorem exec_passTurns {cal : Calendar Zone Trigger Time} {n : Nat} {now : Time}
    (rest : List (ScheduleView Id Params Time)) (hreg : ∀ v ∈ rest, Registrable cal v)
    (s : Concurrent Id Params Trigger Time) (d : Deployment Id Params Trigger Time)
    (c : Call Id Params Time) (acc : ReconciliationResult) (hc : s.call n = some c)
    (hresume : c.advance cal s.deployment (.resumed now) = some (restoreNext cal d now rest)) :
    ∃ s', (scheduleSystem cal).exec s (passTurns n now rest.length) = some s' ∧
      s'.deployment = (reconcileLoop cal (fun _ => now) rest d acc).1 ∧
      ∀ m, s'.call m = if m = n then none else s.call m := by
  induction rest generalizing s d c acc with
  | nil =>
      refine ⟨s.settle n d none, ?_, rfl, Concurrent.call_settle s n d none⟩
      rw [List.length_nil, passTurns, Concurrent.exec_advance hc hresume]
      rfl
  | cons v rest ih =>
      obtain ⟨trigger, ht⟩ := hreg v (List.mem_cons_self ..)
      have hchk : chkOperationalState "registered" = true := by decide
      -- the registration up to the mark, and the mark that lands
      have hnext : restoreNext cal d now (v :: rest) =
          ({ d with jobs := d.jobs.put (v.toRuntime.job trigger) },
            some (.restoring v.scriptId (.registered (cal.nextFireTime trigger now)) rest)) := by
        simp only [restoreNext, register_of_registrable ht]
      have hland (d' : Deployment Id Params Trigger Time) (next : Option Time) :
          (Call.restoring v.scriptId (.registered next) rest).advance cal d' .landed =
            some ({ d' with store := d'.store.markRegistered v.scriptId next },
              some (.restored rest)) := by
        simp only [Call.advance, Registration.state, Registration.errorType,
          Registration.nextRunAt, ScheduleStore.markRegistration_ok hchk]
        rfl
      rw [List.length_cons, passTurns, Concurrent.exec_advance hc hresume, hnext,
        Concurrent.exec_advance ((Concurrent.call_settle ..).trans (if_pos rfl)) (hland _ _),
        reconcileLoop_cons_ok ht]
      obtain ⟨s', hs', hd', hcalls⟩ := ih (fun v' hv' => hreg v' (List.mem_cons_of_mem _ hv'))
        _ _ (.restored rest) { acc with restored := acc.restored + 1 }
        ((Concurrent.call_settle_settle ..).trans (if_pos rfl)) rfl
      refine ⟨s', hs', hd', fun m => ?_⟩
      rw [hcalls m, Concurrent.call_settle_settle]
      by_cases hm : m = n
      · simp [hm]
      · simp [hm]

/-- A pass that is not disturbed is the service method `reconcile`. -/
theorem exec_passAlone {cal : Calendar Zone Trigger Time} {s : Concurrent Id Params Trigger Time}
    {n : Nat} (now : Time) (hn : s.call n = none) (hreg : AllRegistrable cal s.deployment.store) :
    ∃ s', (scheduleSystem cal).exec s
        (passAlone n now s.deployment.store.listEnabledSchedules.length) = some s' ∧
      s'.deployment = (reconcile cal (fun _ => now) s.deployment).1 ∧
      ∀ m, s'.call m = s.call m := by
  have hbegin (es : List (ScheduleEvent Id Params Time)) :
      (scheduleSystem cal).exec s (.reconcile n :: es) =
        (scheduleSystem cal).exec (s.settle n s.deployment (some .listing)) es := by
    simp [System.exec, scheduleSystem, Concurrent.step, Concurrent.begin, hn]
  have hlist : (Call.listing : Call Id Params Time).advance cal s.deployment .landed =
      some (s.deployment, some (.listed s.deployment.store.listEnabledSchedules)) := rfl
  rw [passAlone, hbegin,
    Concurrent.exec_advance ((Concurrent.call_settle ..).trans (if_pos rfl)) hlist]
  obtain ⟨s', hs', hd', hcalls⟩ := exec_passTurns _ hreg _ _
    (.listed s.deployment.store.listEnabledSchedules) ⟨0, 0⟩
    ((Concurrent.call_settle_settle ..).trans (if_pos rfl)) rfl
  refine ⟨s', hs', hd', fun m => ?_⟩
  rw [hcalls m, Concurrent.call_settle_settle]
  by_cases hm : m = n
  · simp [hm, hn]
  · simp [hm]

/-- One pass that is not disturbed brings runtime and store in step, from every
state of every run. -/
theorem inStep_after_pass {cal : Calendar Zone Trigger Time}
    {s s' : Concurrent Id Params Trigger Time} {now : Time}
    (h : (scheduleSystem cal).Reachable s) (h' : (scheduleSystem cal).Reachable s')
    (hd : s'.deployment = (reconcile cal (fun _ => now) s.deployment).1) :
    InStep cal s'.deployment := by
  have hreg := (sound_of_reach h).stored
  refine ⟨(sound_of_reach h').stored, fun x => ?_⟩
  obtain ⟨-, hrest⟩ := reconcile_restores (fun _ => now) s.deployment hreg
  rw [hd, hrest.jobs_eq hreg x]
  exact (hrest.desired x).symm

/-! ## The main result -/

/-- **Schedules converge.**  Once all calls of an undisturbed run have finished,
the runtime has a job for a script exactly when an enabled schedule is stored,
and the job is that schedule's.  In any run whatever, one reconciliation pass
that takes its turns without interruption establishes this, and leaves the
calls in flight alone. -/
theorem schedules_converge (cal : Calendar Zone Trigger Time) :
    (∀ s : Concurrent Id Params Trigger Time, (scheduleSystem cal).Reach Undisturbed s →
      s.Quiet → Projected cal s.deployment) ∧
    ∀ (s : Concurrent Id Params Trigger Time) (n : Nat) (now : Time),
      (scheduleSystem cal).Reachable s → s.call n = none →
      ∃ s', (scheduleSystem cal).exec s
          (passAlone n now s.deployment.store.listEnabledSchedules.length) = some s' ∧
        (∀ m, s'.call m = s.call m) ∧ Projected cal s'.deployment := by
  constructor
  · intro s h hquiet
    exact (inStep_of_undisturbed h hquiet).projected
  · intro s n now h hn
    obtain ⟨s', hs', hd, hcalls⟩ := exec_passAlone now hn (sound_of_reach h).stored
    exact ⟨s', hs', hcalls, (inStep_after_pass h (h.exec hs') hd).projected⟩

/-! ## Disturbed calls -/

/-- Nothing stored, no jobs, no calls. -/
def atRest : Concurrent Nat Unit Unit Nat where
  deployment := ⟨.empty, .empty⟩
  calls := .empty

theorem atRest_init : (scheduleSystem tinyCalendar).init atRest :=
  ⟨⟨fun _ hs => (List.not_mem_nil hs).elim, fun _ => rfl⟩, rfl⟩

/-- A request to run a script every night. -/
def nightly : ScheduleRequest Nat Unit where
  cron := "0 2 * * *"
  timezone := "UTC"
  nodeIds := []
  params := ()
  misfireGraceSeconds := 60

/-- A schedule is created, and deleted between the commit of the upsert and the
registration of its job. -/
def staleCreate : List (ScheduleEvent Nat Unit Nat) :=
  [.createOrUpdate 0 1 10 nightly, .advance 0 .validated, .advance 0 .landed,
    .delete 1 1, .advance 1 .landed, .advance 1 (.resumed 0),
    .advance 0 (.resumed 0), .advance 0 .landed]

/-- All calls have finished, and the script has a job without a schedule. -/
theorem stale_create : ∃ s, (scheduleSystem tinyCalendar).exec atRest staleCreate = some s ∧
    s.Quiet ∧ (∃ job, s.deployment.jobs.find? 1 = some job) ∧
    s.deployment.store.find? 1 = none :=
  ⟨_, rfl, rfl, ⟨_, rfl⟩, rfl⟩

/-- The law does not hold at the end of every run. -/
theorem not_schedules_projected : ¬ ∀ s : Concurrent Nat Unit Unit Nat,
    (scheduleSystem tinyCalendar).Reachable s → s.Quiet →
      Projected tinyCalendar s.deployment := by
  intro h
  obtain ⟨s, hs, hquiet, hjob, hnone⟩ := stale_create
  have hproj := h s (System.reachable_of_exec atRest_init hs) hquiet
  obtain ⟨row, hrow, -⟩ := (hproj.jobs_iff 1).1 hjob
  rw [hnone] at hrow
  cases hrow

instance (c : Call Id Params Time) (x : Id) : Decidable (c.owes x) :=
  match c with
  | .upserted desired => inferInstanceAs (Decidable (desired.scriptId = x))
  | .deleted y found => inferInstanceAs (Decidable (found = true ∧ y = x))
  | .listed _ => .isTrue trivial
  | .restoring _ _ rest | .restored rest =>
      inferInstanceAs (Decidable (x ∈ rest.map (·.scriptId)))
  | .validating .. | .upserting .. | .marking .. | .deleting _ | .listing => .isFalse id

/-- No call in flight has a write ahead of it to the job of script `x`. -/
def Concurrent.free (s : Concurrent Id Params Trigger Time) (x : Id) : Bool :=
  s.calls.rows.all fun r => !decide (r.2.owes x)

/-- `Undisturbed`, evaluated. -/
def undisturbed (s : Concurrent Id Params Trigger Time) : ScheduleEvent Id Params Time → Bool
  | .advance n .landed =>
      match s.call n with
      | some (.upserting x _ _) | some (.deleting x) => s.free x
      | _ => true
  | _ => true

theorem undisturbed_sound (s : Concurrent Id Params Trigger Time)
    (e : ScheduleEvent Id Params Time) (h : undisturbed s e = true) : Undisturbed s e := by
  have hfree : ∀ x, s.free x = true → ∀ m c', s.call m = some c' → ¬ c'.owes x := by
    intro x hx m c' hm
    obtain ⟨r, hr, rfl⟩ := Option.map_eq_some_iff.1 hm
    have hall := List.all_eq_true.1 hx r (Table.mem_of_find? hr)
    simpa using hall
  cases e with
  | advance n a =>
      cases a with
      | landed =>
          intro c x hc hcommits
          simp only [undisturbed, hc] at h
          cases c with
          | upserting y fresh data =>
              cases hcommits
              exact hfree _ h
          | deleting y =>
              cases hcommits
              exact hfree _ h
          | _ => cases hcommits
      | _ => trivial
  | _ => trivial

/-- Two schedules are created by calls that take turns, while a reconciliation pass lists them
before their jobs are registered. -/
def nightlyTwice : List (ScheduleEvent Nat Unit Nat) :=
  [.createOrUpdate 0 1 10 nightly, .createOrUpdate 1 2 11 nightly, .reconcile 2,
    .advance 0 .validated, .advance 1 .validated, .advance 0 .landed, .advance 1 .landed,
    .advance 2 .landed, .advance 1 (.resumed 0), .advance 2 (.resumed 0), .advance 2 .landed,
    .advance 0 (.resumed 0), .advance 0 .landed, .advance 2 (.resumed 0), .advance 2 .landed,
    .advance 2 (.resumed 0), .advance 1 .landed]

/-- No call of the run is disturbed, and the law holds at its end. -/
theorem schedules_converge_nightly : ∃ s : Concurrent Nat Unit Unit Nat,
    (scheduleSystem tinyCalendar).exec atRest nightlyTwice = some s ∧
    (∃ job, s.deployment.jobs.find? 1 = some job) ∧
    (∃ job, s.deployment.jobs.find? 2 = some job) ∧ Projected tinyCalendar s.deployment := by
  obtain ⟨s, hs, hquiet, hfirst, hsecond⟩ : ∃ s,
      (scheduleSystem tinyCalendar).exec atRest nightlyTwice = some s ∧ s.Quiet ∧
        (∃ job, s.deployment.jobs.find? 1 = some job) ∧
        ∃ job, s.deployment.jobs.find? 2 = some job :=
    ⟨_, rfl, rfl, ⟨_, rfl⟩, ⟨_, rfl⟩⟩
  have hstart : (scheduleSystem tinyCalendar).Reach Undisturbed atRest := .start atRest_init
  have hreach := hstart.exec_of_checks undisturbed_sound hs rfl
  exact ⟨s, hs, hfirst, hsecond, (schedules_converge tinyCalendar).1 s hreach hquiet⟩

end Scheduler
end NodeNexus
