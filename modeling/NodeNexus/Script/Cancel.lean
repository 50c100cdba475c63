import NodeNexus.Script.Execution

/-!
# When a cancelled execution stays cancelled

A call of `cancel_execution` for a `running` row only finds the child task in
the registry while the child holds a slot, and `execute_script` writes results
and timeouts without looking at the row.  So it depends on the moment of the
call whether the cancellation is final.

* `CancelFinal` is the law: after `cancel_execution` has returned `True` for a
  running row, no remote step starts and the row stays `cancelled`, and no final
  status is ever replaced by another one.
* `CancelsInTime` says which moments are good ones: the child is running and
  registered (or already being cancelled) while `gather` is awaited, or
  `execute_script` writes nothing any more and the child cannot start.  After
  that the timeout must not expire before the `CancelledError` gets through,
  and it must not be lost on its way.
* `cancel_is_final` — the law holds in every run that keeps to these moments.
* `late_cancel` — a run in which a call between the end of the child and the
  write of its result is undone.
-/

namespace NodeNexus
namespace Script

/-- Was `cancel_execution` called for the row of target `i` while it was
`running`? -/
def Requested (s : ScriptRun) (i : Nat) : Prop :=
  ∃ c call, s.calls c = some call ∧ call.target = i ∧ call.wasRunning = true

/-- Cancelling an execution is final. -/
structure CancelFinal (s : ScriptRun) : Prop where
  /-- A row whose cancellation was confirmed is cancelled. -/
  row : ∀ i, s.confirmed i = true → s.rows i = some .cancelled
  /-- No remote step was started after the confirmation. -/
  steps : ∀ i, s.stepAfter i = false
  /-- No final status was replaced by another one. -/
  kept : s.overwritten = false

/-- A good moment to cancel the `running` row of target `i`. -/
structure InTime (s : ScriptRun) (i : Nat) : Prop where
  /-- The child is not about to start. -/
  notWaiting : s.child i ≠ .waiting
  /-- A running child is found in the registry. -/
  found : s.child i = .running → s.registered i = true
  /-- `execute_script` will not write the row any more. -/
  main : (∃ exit, s.main = .ended exit) ∨ s.main = .gathered true ∨
    s.main = .gathering ∧ (s.child i = .running ∨ ∃ slot, s.child i = .cancelling slot)

/-- Calls for running rows come in time, the timeout does not expire after one,
and a `CancelledError` gets through to `gather`. -/
def CancelsInTime (s : ScriptRun) (e : ScriptEvent) : Prop :=
  match e with
  | .cancelCalled _ i => s.rows i = some .running → InTime s i
  | .timeout => ∀ i, ¬ Requested s i
  | .swallowed _ => s.main ≠ .gathering
  | _ => True

/-! ## The invariant -/

/-- `execute_script` has given up writing the rows. -/
def MainState.doomed : MainState → Prop
  | gathering | gathered true | ended _ => True
  | _ => False

/-- The child can neither run nor start, and while `gather` is awaited its
`CancelledError` is still to come. -/
def ChildState.Stopping (main : MainState) (child : ChildState) : Prop :=
  child ≠ waiting ∧ child ≠ running ∧
    (main = .gathering → ∃ slot, child = cancelling slot)

/-- How many rows `execute_script` has created, at most. -/
def MainState.rowBound (n : Nat) : MainState → Nat
  | creating k => k
  | _ => n

/-- Is the row of target `i` still to be written by `execute_script`? -/
def MainState.unwritten (i : Nat) : MainState → Prop
  | timingOut k | settling k => k ≤ i
  | ended _ => False
  | _ => True

/-- What every run that cancels in time keeps true. -/
structure CancelInv (n : Nat) (s : ScriptRun) : Prop where
  /-- Once a running row is to be cancelled, no loop writes results. -/
  main : ∀ i, Requested s i → s.main.doomed
  /-- Its child is on the way out. -/
  child : ∀ i, Requested s i → (s.child i).Stopping s.main
  /-- Its row is not final in any other way. -/
  row : ∀ i, Requested s i → s.rows i = some .running ∨ s.rows i = some .cancelled
  /-- The other rows are `running` until they are written. -/
  open_ : ∀ i status, s.rows i = some status → ¬ Requested s i → s.main.unwritten i →
    status = .running
  bound : ∀ i status, s.rows i = some status → i < s.main.rowBound n ∧ status ≠ .pending
  /-- Calls for rows that were final find them final, and write nothing. -/
  idle : ∀ c call, s.calls c = some call → call.wasRunning = false →
    call.state ≠ .writing ∧ ∃ status, s.rows call.target = some status ∧ status.terminal = true
  /-- Calls for running rows leave them cancelled. -/
  returning : ∀ c call result, s.calls c = some call → call.wasRunning = true →
    call.state = .returning result → s.rows call.target = some .cancelled
  confirmed : ∀ i, s.confirmed i = true → Requested s i ∧ s.rows i = some .cancelled
  steps : ∀ i, s.stepAfter i = false
  kept : s.overwritten = false

theorem cancelInv_init {n : Nat} {s : ScriptRun} (h : (scriptSystem n).init s) :
    CancelInv n s := by
  cases h
  have none_requested (i : Nat) : ¬ Requested .initial i := by
    rintro ⟨c, call, hc, -⟩
    cases hc
  exact
    { main := fun i hi => absurd hi (none_requested i)
      child := fun i hi => absurd hi (none_requested i)
      row := fun i hi => absurd hi (none_requested i)
      open_ := fun i status hrow => by cases hrow
      bound := fun i status hrow => by cases hrow
      idle := fun c call hc => by cases hc
      returning := fun c call result hc => by cases hc
      confirmed := fun i hi => by cases hi
      steps := fun _ => rfl
      kept := rfl }

/-! ## Steps of the children -/

/-- A child task moves on: no requested child may start again. -/
theorem CancelInv.setChild {n : Nat} {s : ScriptRun} (h : CancelInv n s) {i : Nat}
    {child : ChildState} (registered : Nat → Bool)
    (hi : Requested s i → child.Stopping s.main) :
    CancelInv n { s.setChild i child with registered := registered } :=
  { h with
    child := fun j hj => by
      by_cases hji : j = i
      · subst hji
        simpa [ScriptRun.setChild] using hi hj
      · simpa [ScriptRun.setChild, hji] using h.child j hj }

/-- A running or waiting child was not requested. -/
theorem CancelInv.not_requested {n : Nat} {s : ScriptRun} (h : CancelInv n s) {i : Nat}
    (hi : s.child i = .waiting ∨ s.child i = .running) : ¬ Requested s i := by
  intro hreq
  obtain ⟨hw, hr, -⟩ := h.child i hreq
  rcases hi with hi | hi
  · exact hw hi
  · exact hr hi

/-- A remote step starts: its child was not cancelled, so nothing was confirmed. -/
theorem CancelInv.stepStarted {n : Nat} {s : ScriptRun} (h : CancelInv n s) {i : Nat}
    (hi : s.child i = .running) : CancelInv n
      { s with stepAfter := Function.update s.stepAfter i (s.stepAfter i || s.confirmed i) } := by
  have hnot := h.not_requested (.inr hi)
  refine { h with steps := fun j => ?_ }
  by_cases hji : j = i
  · subst hji
    have hconf : s.confirmed j = false := by
      rw [Bool.eq_false_iff]
      exact fun hc => hnot (h.confirmed j hc).1
    simp [hconf, h.steps j]
  · simpa [hji] using h.steps j

/-- The last step of a child that was cancelled: `gather` learns of it. -/
theorem CancelInv.childCancelled {n : Nat} {s : ScriptRun} (h : CancelInv n s) (i : Nat) :
    CancelInv n { s.endChild i .cancelled with
      main := if s.main = .gathering then .gathered true else s.main } := by
  have hmain : (if s.main = .gathering then .gathered true else s.main) ≠ .gathering := by
    split
    · simp
    · assumption
  refine { h with main := ?_, child := ?_, open_ := ?_, bound := ?_ }
  · intro j hj
    have hd := h.main j hj
    simp only
    split
    · trivial
    · exact hd
  · intro j hj
    obtain ⟨hw, hr, -⟩ := h.child j hj
    refine ⟨?_, ?_, fun hm => absurd hm hmain⟩
    · by_cases hji : j = i
      · simp [ScriptRun.endChild, ScriptRun.setChild, hji]
      · simpa [ScriptRun.endChild, ScriptRun.setChild, hji] using hw
    · by_cases hji : j = i
      · simp [ScriptRun.endChild, ScriptRun.setChild, hji]
      · simpa [ScriptRun.endChild, ScriptRun.setChild, hji] using hr
  · intro j status hrow hnot hun
    refine h.open_ j status hrow hnot ?_
    simp only at hun
    split at hun
    · rename_i hg
      rw [hg]
      trivial
    · exact hun
  · intro j status hrow
    have hb := h.bound j status hrow
    simp only
    split
    · rename_i hg
      rw [hg] at hb
      exact hb
    · exact hb

/-! ## Steps of `execute_script` -/

/-- A move of the main coroutine while no cancellation is requested. -/
theorem CancelInv.moveMain {n : Nat} {s : ScriptRun} (h : CancelInv n s) {main : MainState}
    (hnone : ∀ i, ¬ Requested s i) (child : Nat → ChildState)
    (hun : ∀ i, main.unwritten i → s.main.unwritten i)
    (hbound : s.main.rowBound n ≤ main.rowBound n) :
    CancelInv n { s with main := main, child := child } :=
  { h with
    main := fun i hi => absurd hi (hnone i)
    child := fun i hi => absurd hi (hnone i)
    open_ := fun i status hrow hnot hi => h.open_ i status hrow hnot (hun i hi)
    bound := fun i status hrow =>
      ⟨lt_of_lt_of_le (h.bound i status hrow).1 hbound, (h.bound i status hrow).2⟩ }

/-- `execute_script` ends without writing. -/
theorem CancelInv.endMain {n : Nat} {s : ScriptRun} (h : CancelInv n s) (exit : Exit)
    (hbound : s.main.rowBound n ≤ n) : CancelInv n { s with main := .ended exit } :=
  { h with
    main := fun _ _ => trivial
    child := fun i hi => by
      obtain ⟨hw, hr, -⟩ := h.child i hi
      exact ⟨hw, hr, fun hm => by cases hm⟩
    open_ := fun _ _ _ _ hi => hi.elim
    bound := fun i status hrow =>
      ⟨lt_of_lt_of_le (h.bound i status hrow).1 hbound, (h.bound i status hrow).2⟩ }

/-- No cancellation is requested where `execute_script` still goes on to write. -/
theorem CancelInv.none_requested {n : Nat} {s : ScriptRun} (h : CancelInv n s)
    (hmain : ¬ s.main.doomed) (i : Nat) : ¬ Requested s i :=
  fun hi => hmain (h.main i hi)

/-- A row is created. -/
theorem CancelInv.created {n : Nat} {s : ScriptRun} (h : CancelInv n s) {k : Nat}
    (hmain : s.main = .creating k) : CancelInv n
      { s with main := .creating (k + 1), rows := Function.update s.rows k (some .running) } := by
  have hnone := h.none_requested (by rw [hmain]; exact id)
  have hold (i : Nat) (status : ExecutionStatus) (hrow : s.rows i = some status) : i < k := by
    have hb := (h.bound i status hrow).1
    rwa [hmain] at hb
  refine { h with
    main := fun i hi => absurd hi (hnone i)
    child := fun i hi => absurd hi (hnone i)
    row := fun i hi => absurd hi (hnone i)
    open_ := ?_, bound := ?_, idle := ?_, returning := ?_, confirmed := ?_ }
  · intro i status hrow _ _
    by_cases hik : i = k
    · simp only [hik, Function.update_self, Option.some.injEq] at hrow
      exact hrow.symm
    · simp only [Function.update_of_ne hik] at hrow
      exact h.open_ i status hrow (hnone i) (by rw [hmain]; trivial)
  · intro i status hrow
    show i < k + 1 ∧ status ≠ .pending
    by_cases hik : i = k
    · simp only [hik, Function.update_self, Option.some.injEq] at hrow
      rw [hik, ← hrow]
      exact ⟨Nat.lt_succ_self k, by simp⟩
    · simp only [Function.update_of_ne hik] at hrow
      exact ⟨Nat.lt_succ_of_lt (hold i status hrow), (h.bound i status hrow).2⟩
  · intro c call hc hwas
    obtain ⟨hst, status, hrow, hterm⟩ := h.idle c call hc hwas
    have hne : call.target ≠ k := Nat.ne_of_lt (hold _ _ hrow)
    exact ⟨hst, status, by simpa only [Function.update_of_ne hne] using hrow, hterm⟩
  · intro c call result hc hwas hst
    exact absurd ⟨c, call, hc, rfl, hwas⟩ (hnone call.target)
  · intro i hi
    exact absurd (h.confirmed i hi).1 (hnone i)

/-- A result or a timeout is written. -/
theorem CancelInv.updated {n : Nat} {s : ScriptRun} (h : CancelInv n s) {k : Nat}
    {status : ExecutionStatus} (hat : s.statusAt = some (k, status)) :
    CancelInv n (s.write k status).nextTarget := by
  obtain ⟨hterm, hloop⟩ := ScriptRun.statusAt_cases hat
  have hnone : ∀ i, ¬ Requested s i := by
    rcases hloop with ⟨hmain, -⟩ | ⟨hmain, -⟩
    · exact h.none_requested (by rw [hmain]; exact id)
    · exact h.none_requested (by rw [hmain]; exact id)
  -- the row that is written is still `running`
  have hopen (i : Nat) (old : ExecutionStatus) (hki : k ≤ i) (hrow : s.rows i = some old) :
      old = .running := by
    refine h.open_ i old hrow (hnone i) ?_
    rcases hloop with ⟨hmain, -⟩ | ⟨hmain, -⟩
    · rw [hmain]; exact hki
    · rw [hmain]; exact hki
  have hbound : s.main.rowBound n = n := by
    rcases hloop with ⟨hmain, -⟩ | ⟨hmain, -⟩
    · rw [hmain]; rfl
    · rw [hmain]; rfl
  have hmain' : (s.write k status).nextTarget.main = s.nextTarget.main := rfl
  have hrows' : (s.write k status).nextTarget.rows = s.rows.update k status := rfl
  have hnone' : ∀ i, ¬ Requested (s.write k status).nextTarget i := hnone
  refine
    { main := fun i hi => absurd hi (hnone' i)
      child := fun i hi => absurd hi (hnone' i)
      row := fun i hi => absurd hi (hnone' i)
      open_ := ?_, bound := ?_, idle := ?_
      returning := fun c call result hc hwas _ => absurd ⟨c, call, hc, rfl, hwas⟩ (hnone' _)
      confirmed := fun i hi => absurd (h.confirmed i hi).1 (hnone i)
      steps := h.steps
      kept := ?_ }
  · intro i status' hrow _ hun
    have hki : k + 1 ≤ i := by
      rw [hmain'] at hun
      rcases hloop with ⟨-, hnext⟩ | ⟨-, hnext⟩
      · rw [hnext] at hun; exact hun
      · rw [hnext] at hun; exact hun
    rw [hrows', Rows.update_apply, if_neg (by omega)] at hrow
    exact hopen i status' (by omega) hrow
  · intro i status' hrow
    have hb : (s.write k status).nextTarget.main.rowBound n = n := by
      rw [hmain']
      rcases hloop with ⟨-, hnext⟩ | ⟨-, hnext⟩
      · rw [hnext]; rfl
      · rw [hnext]; rfl
    rw [hb]
    rw [hrows', Rows.update_apply] at hrow
    split at hrow
    · obtain ⟨old, hold, rfl⟩ := Option.map_eq_some_iff.1 hrow
      refine ⟨hbound ▸ (h.bound i old hold).1, ?_⟩
      rintro rfl
      cases hterm
    · exact ⟨hbound ▸ (h.bound i status' hrow).1, (h.bound i status' hrow).2⟩
  · intro c call hc hwas
    obtain ⟨hst, old, hrow, hold⟩ := h.idle c call hc hwas
    refine ⟨hst, ?_⟩
    rw [hrows', Rows.update_apply]
    split
    · exact ⟨status, by rw [hrow]; rfl, hterm⟩
    · exact ⟨old, hrow, hold⟩
  · show (s.overwritten || _) = false
    rw [h.kept, Bool.false_or]
    cases hrow : s.rows k with
    | none => rfl
    | some old =>
        rw [hopen k old (Nat.le_refl k) hrow]
        rfl

/-- Where every child has a result, none was requested: its `CancelledError` would still be to
come. -/
theorem CancelInv.none_requested_of_results {n : Nat} {s : ScriptRun} (h : CancelInv n s)
    (hmain : s.main = .gathering) (hall : ∀ i < n, (s.child i).hasResult = true) (i : Nat) :
    ¬ Requested s i := by
  intro hi
  have hlt : i < n := by
    rcases h.row i hi with hrow | hrow
    · have hbound := (h.bound i _ hrow).1
      rwa [hmain] at hbound
    · have hbound := (h.bound i _ hrow).1
      rwa [hmain] at hbound
  obtain ⟨slot, hchild⟩ := (h.child i hi).2.2 hmain
  have hresult := hall i hlt
  rw [hchild] at hresult
  cases hresult

/-- The coroutine moves on to where all rows are created and still to be written. -/
theorem CancelInv.moveOpen {n : Nat} {s : ScriptRun} (h : CancelInv n s) {main : MainState}
    (hnone : ∀ i, ¬ Requested s i) (child : Nat → ChildState)
    (hopen : ∀ i, s.main.unwritten i) (hbound : s.main.rowBound n ≤ n)
    (hmain : main.rowBound n = n) : CancelInv n { s with main := main, child := child } :=
  h.moveMain hnone child (fun i _ => hopen i) (hbound.trans (Nat.le_of_eq hmain.symm))

/-- The loop goes on without having written. -/
theorem CancelInv.updateFailed {n : Nat} {s : ScriptRun} (h : CancelInv n s) {k : Nat}
    {status : ExecutionStatus} (hat : s.statusAt = some (k, status)) :
    CancelInv n s.nextTarget := by
  obtain ⟨-, ⟨hmain, hnext⟩ | ⟨hmain, hnext⟩⟩ := ScriptRun.statusAt_cases hat
  · refine h.moveMain (h.none_requested (by rw [hmain]; exact id)) s.child (fun i hi => ?_) ?_
    · simp only [hmain] at hi ⊢
      exact Nat.le_of_succ_le hi
    · simp only [hmain]
      exact Nat.le_refl n
  · refine h.moveMain (h.none_requested (by rw [hmain]; exact id)) s.child (fun i hi => ?_) ?_
    · simp only [hmain] at hi ⊢
      exact Nat.le_of_succ_le hi
    · simp only [hmain]
      exact Nat.le_refl n

/-! ## Steps of the cancel calls -/

/-- A call that changes its own state only does not change what is requested. -/
theorem requested_setCall {s : ScriptRun} {c : Nat} {call call' : CancelCall}
    (hc : s.calls c = some call) (ht : call'.target = call.target)
    (hw : call'.wasRunning = call.wasRunning) (i : Nat) :
    Requested (s.setCall c call') i ↔ Requested s i := by
  constructor
  · rintro ⟨d, call'', hd, hi, hwas⟩
    by_cases hdc : d = c
    · simp only [ScriptRun.setCall, hdc, Function.update_self, Option.some.injEq] at hd
      subst hd
      exact ⟨c, call, hc, ht ▸ hi, hw ▸ hwas⟩
    · simp only [ScriptRun.setCall, Function.update_of_ne hdc] at hd
      exact ⟨d, call'', hd, hi, hwas⟩
  · rintro ⟨d, call'', hd, hi, hwas⟩
    by_cases hdc : d = c
    · subst hdc
      rw [hc] at hd
      cases hd
      exact ⟨d, call', by simp [ScriptRun.setCall], ht.trans hi, hw.trans hwas⟩
    · exact ⟨d, call'', by simpa [ScriptRun.setCall, hdc] using hd, hi, hwas⟩

/-- A call moves on without writing. -/
theorem CancelInv.setCall {n : Nat} {s : ScriptRun} (h : CancelInv n s) {c : Nat}
    {call : CancelCall} (hc : s.calls c = some call) (state : CancelState)
    (hidle : call.wasRunning = false → state ≠ .writing)
    (hret : call.wasRunning = true → ∀ result, state = .returning result →
      s.rows call.target = some .cancelled) :
    CancelInv n (s.setCall c { call with state := state }) := by
  have hreq (i : Nat) : Requested (s.setCall c { call with state := state }) i ↔ Requested s i := by
    refine requested_setCall hc ?_ ?_ i
    · rfl
    · rfl
  refine { h with
    main := fun i hi => h.main i ((hreq i).1 hi)
    child := fun i hi => h.child i ((hreq i).1 hi)
    row := fun i hi => h.row i ((hreq i).1 hi)
    open_ := fun i status hrow hnot => h.open_ i status hrow fun hi => hnot ((hreq i).2 hi)
    idle := ?_, returning := ?_
    confirmed := fun i hi => ⟨(hreq i).2 (h.confirmed i hi).1, (h.confirmed i hi).2⟩ }
  · intro d call' hd hwas
    by_cases hdc : d = c
    · simp only [ScriptRun.setCall, hdc, Function.update_self, Option.some.injEq] at hd
      subst hd
      exact ⟨hidle hwas, (h.idle c call hc hwas).2⟩
    · simp only [ScriptRun.setCall, Function.update_of_ne hdc] at hd
      exact h.idle d call' hd hwas
  · intro d call' result hd hwas hst
    by_cases hdc : d = c
    · simp only [ScriptRun.setCall, hdc, Function.update_self, Option.some.injEq] at hd
      subst hd
      exact hret hwas result hst
    · simp only [ScriptRun.setCall, Function.update_of_ne hdc] at hd
      exact h.returning d call' result hd hwas hst

/-- The gateway's write of a cancellation. -/
theorem CancelInv.cancelled {n : Nat} {s : ScriptRun} (h : CancelInv n s) {i : Nat}
    (hi : Requested s i) : CancelInv n (s.write i .cancelled) := by
  have hrow (j : Nat) (status : ExecutionStatus)
      (hj : (s.write i .cancelled).rows j = some status) :
      ∃ old, s.rows j = some old ∧ (j ≠ i → old = status) ∧ (j = i → status = .cancelled) := by
    have hj' : s.rows.update i .cancelled j = some status := hj
    rw [Rows.update_apply] at hj'
    split at hj'
    · rename_i hji
      obtain ⟨old, hold, rfl⟩ := Option.map_eq_some_iff.1 hj'
      exact ⟨old, hold, fun hne => absurd hji hne, fun _ => rfl⟩
    · rename_i hji
      exact ⟨status, hj', fun _ => rfl, fun heq => absurd heq hji⟩
  have hsame (j : Nat) (hji : j ≠ i) : (s.write i .cancelled).rows j = s.rows j := by
    show s.rows.update i .cancelled j = _
    rw [Rows.update_apply, if_neg hji]
  have hwritten (j : Nat) (hji : j = i) (old : ExecutionStatus) (hold : s.rows j = some old) :
      (s.write i .cancelled).rows j = some .cancelled := by
    show s.rows.update i .cancelled j = _
    rw [Rows.update_apply, if_pos hji, hold]
    rfl
  refine { h with row := ?_, open_ := ?_, bound := ?_, idle := ?_, returning := ?_,
                  confirmed := ?_, kept := ?_ }
  · intro j hj
    by_cases hji : j = i
    · rcases h.row j hj with hold | hold
      · exact .inr (hwritten j hji _ hold)
      · exact .inr (hwritten j hji _ hold)
    · rw [hsame j hji]
      exact h.row j hj
  · intro j status hj hnot hun
    have hji : j ≠ i := by
      rintro rfl
      exact hnot hi
    rw [hsame j hji] at hj
    exact h.open_ j status hj hnot hun
  · intro j status hj
    obtain ⟨old, hold, hne, heq⟩ := hrow j status hj
    refine ⟨(h.bound j old hold).1, ?_⟩
    by_cases hji : j = i
    · rw [heq hji]; simp
    · rw [← hne hji]; exact (h.bound j old hold).2
  · intro d call hd hwas
    obtain ⟨hst, old, hold, hterm⟩ := h.idle d call hd hwas
    refine ⟨hst, ?_⟩
    by_cases hji : call.target = i
    · exact ⟨.cancelled, hwritten _ hji _ hold, rfl⟩
    · exact ⟨old, by rw [hsame _ hji]; exact hold, hterm⟩
  · intro d call result hd hwas hst
    have hold := h.returning d call result hd hwas hst
    by_cases hji : call.target = i
    · exact hwritten _ hji _ hold
    · rw [hsame _ hji]; exact hold
  · intro j hj
    obtain ⟨hreq, hold⟩ := h.confirmed j hj
    refine ⟨hreq, ?_⟩
    by_cases hji : j = i
    · exact hwritten j hji _ hold
    · rw [hsame j hji]; exact hold
  · show (s.overwritten || _) = false
    rw [h.kept, Bool.false_or]
    rcases h.row i hi with hold | hold
    · rw [hold]; rfl
    · rw [hold]; rfl

/-- Cancelling a task that is already on the way out changes nothing. -/
theorem ChildState.cancel_eq_self {child : ChildState} (hw : child ≠ .waiting)
    (hr : child ≠ .running) : child.cancel = child := by
  cases child with
  | waiting => exact absurd rfl hw
  | running => exact absurd rfl hr
  | _ => rfl

/-- What a new call does to the child tasks. -/
theorem ScriptRun.child_callCancel (s : ScriptRun) (c i j : Nat) :
    (s.callCancel c i).child j =
      if j = i ∧ s.cancelsTask i = true then (s.child j).cancel else s.child j := by
  by_cases hc : s.cancelsTask i = true
  · by_cases hji : j = i
    · subst hji
      simp [callCancel, hc]
    · simp [callCancel, hc, hji]
  · simp [callCancel, hc]

/-- What a new call requests. -/
theorem requested_callCancel {s : ScriptRun} {c : Nat} (hc : s.calls c = none) (i j : Nat) :
    Requested (s.callCancel c i) j ↔ Requested s j ∨ j = i ∧ s.rows i = some .running := by
  constructor
  · rintro ⟨d, call, hd, hj, hwas⟩
    by_cases hdc : d = c
    · simp only [ScriptRun.callCancel, hdc, Function.update_self, Option.some.injEq] at hd
      subst hd
      exact .inr ⟨hj.symm, of_decide_eq_true hwas⟩
    · simp only [ScriptRun.callCancel, Function.update_of_ne hdc] at hd
      exact .inl ⟨d, call, hd, hj, hwas⟩
  · rintro (⟨d, call, hd, hj, hwas⟩ | ⟨rfl, hrow⟩)
    · have hdc : d ≠ c := by
        rintro rfl
        rw [hc] at hd
        cases hd
      exact ⟨d, call, by simpa [ScriptRun.callCancel, hdc] using hd, hj, hwas⟩
    · exact ⟨c, _, by simp [ScriptRun.callCancel]; rfl, rfl, decide_eq_true hrow⟩

/-- A new call, at a good moment. -/
theorem CancelInv.callCancel {n : Nat} {s : ScriptRun} (h : CancelInv n s) {c i : Nat}
    (hc : s.calls c = none) (hrow : (s.rows i).isSome = true)
    (hk : s.rows i = some .running → InTime s i) : CancelInv n (s.callCancel c i) := by
  have hreq (j : Nat) := requested_callCancel hc i j
  refine { h with
    main := ?_, child := ?_, row := ?_
    open_ := fun j status hj hnot => h.open_ j status hj fun hr => hnot ((hreq j).2 (.inl hr))
    idle := ?_, returning := ?_
    confirmed := fun j hj => ⟨(hreq j).2 (.inl (h.confirmed j hj).1), (h.confirmed j hj).2⟩ }
  · intro j hj
    rcases (hreq j).1 hj with hj | ⟨rfl, hrun⟩
    · exact h.main j hj
    · rcases (hk hrun).main with ⟨exit, hm⟩ | hm | ⟨hm, -⟩
      · show s.main.doomed
        rw [hm]; trivial
      · show s.main.doomed
        rw [hm]; trivial
      · show s.main.doomed
        rw [hm]; trivial
  · intro j hj
    rw [ScriptRun.child_callCancel]
    rcases (hreq j).1 hj with hj | ⟨rfl, hrun⟩
    · -- requested before: its child is on the way out already
      obtain ⟨hw, hr, hg⟩ := h.child j hj
      rw [ChildState.cancel_eq_self hw hr, ite_self]
      exact ⟨hw, hr, hg⟩
    · have htime := hk hrun
      by_cases hrunning : s.child j = .running
      · have hfound : s.cancelsTask j = true := by
          simp [ScriptRun.cancelsTask, htime.found hrunning, hrunning, ChildState.done]
        rw [if_pos ⟨rfl, hfound⟩, hrunning]
        exact ⟨by simp [ChildState.cancel], by simp [ChildState.cancel], fun _ => ⟨true, rfl⟩⟩
      · rw [ChildState.cancel_eq_self htime.notWaiting hrunning, ite_self]
        refine ⟨htime.notWaiting, hrunning, fun hm => ?_⟩
        have hm : s.main = .gathering := hm
        rcases htime.main with ⟨exit, hm'⟩ | hm' | ⟨-, hchild⟩
        · rw [hm] at hm'; cases hm'
        · rw [hm] at hm'; cases hm'
        · exact hchild.resolve_left hrunning
  · intro j hj
    rcases (hreq j).1 hj with hj | ⟨rfl, hrun⟩
    · exact h.row j hj
    · exact .inl hrun
  · intro d call hd hwas
    by_cases hdc : d = c
    · simp only [ScriptRun.callCancel, hdc, Function.update_self, Option.some.injEq] at hd
      subst hd
      obtain ⟨status, hstatus⟩ := Option.isSome_iff_exists.1 hrow
      refine ⟨by simp, status, hstatus, ?_⟩
      have hne : s.rows i ≠ some .running := of_decide_eq_false hwas
      have hpending := (h.bound i status hstatus).2
      cases status with
      | running => exact absurd hstatus hne
      | pending => exact absurd rfl hpending
      | _ => rfl
    · simp only [ScriptRun.callCancel, Function.update_of_ne hdc] at hd
      exact h.idle d call hd hwas
  · intro d call result hd hwas hst
    by_cases hdc : d = c
    · simp only [ScriptRun.callCancel, hdc, Function.update_self, Option.some.injEq] at hd
      subst hd
      cases hst
    · simp only [ScriptRun.callCancel, Function.update_of_ne hdc] at hd
      exact h.returning d call result hd hwas hst

/-- A call that reads an open row goes on to write: it was not one for a final row. -/
theorem CancelInv.readOpen {n : Nat} {s : ScriptRun} (h : CancelInv n s) {c : Nat}
    {call : CancelCall} (hc : s.calls c = some call)
    (hrow : s.rows call.target = some .pending ∨ s.rows call.target = some .running) :
    CancelInv n (s.setCall c { call with state := .writing }) := by
  refine h.setCall hc _ (fun hwas => ?_) fun _ result hr => by cases hr
  obtain ⟨-, status, hstatus, hterm⟩ := h.idle c call hc hwas
  rcases hrow with hrow | hrow
  · rw [hrow] at hstatus
    cases hstatus
    cases hterm
  · rw [hrow] at hstatus
    cases hstatus
    cases hterm

/-- A call that reads a final row returns; if it was one for a running row, the row is
cancelled. -/
theorem CancelInv.readFinal {n : Nat} {s : ScriptRun} (h : CancelInv n s) {c : Nat}
    {call : CancelCall} (hc : s.calls c = some call)
    (hrow : ¬ (s.rows call.target = some .pending ∨ s.rows call.target = some .running)) :
    CancelInv n (s.setCall c { call with state := .returning false }) := by
  refine h.setCall hc _ (fun _ => by simp) fun hwas result _ => ?_
  rcases h.row call.target ⟨c, call, hc, rfl, hwas⟩ with hold | hold
  · exact absurd (.inr hold) hrow
  · exact hold

theorem CancelInv.cancelWritten {n : Nat} {s : ScriptRun} (h : CancelInv n s) {c : Nat}
    {call : CancelCall} (hc : s.calls c = some call) (hst : call.state = .writing) :
    CancelInv n
      ((s.write call.target .cancelled).setCall c { call with state := .returning true }) := by
  have hwas : call.wasRunning = true := by
    by_contra hw
    exact (h.idle c call hc (by simpa using hw)).1 hst
  have hreq : Requested s call.target := ⟨c, call, hc, rfl, hwas⟩
  refine (h.cancelled hreq).setCall hc _ (fun hw => ?_) fun _ _ _ => ?_
  · rw [hwas] at hw
    cases hw
  · show s.rows.update call.target .cancelled call.target = _
    rw [Rows.update_apply, if_pos rfl]
    rcases h.row _ hreq with hold | hold
    · rw [hold]; rfl
    · rw [hold]; rfl

/-- A call that returns confirms the cancellation of a row that is cancelled. -/
theorem CancelInv.cancelReturned {n : Nat} {s : ScriptRun} (h : CancelInv n s) {c : Nat}
    {call : CancelCall} {result : Bool} (hc : s.calls c = some call)
    (hst : call.state = .returning result) :
    CancelInv n { s.setCall c { call with state := .over } with
      confirmed := if (result || call.taskCancelled) && call.wasRunning then
          Function.update s.confirmed call.target true
        else s.confirmed } := by
  have hover := h.setCall hc .over (fun _ => by simp) fun _ result hr => by cases hr
  refine { hover with confirmed := fun i hi => ?_ }
  by_cases htrue : ((result || call.taskCancelled) && call.wasRunning) = true
  · simp only [htrue, if_true] at hi
    by_cases hit : i = call.target
    · have hwas : call.wasRunning = true := (Bool.and_eq_true_iff.1 htrue).2
      rw [hit]
      exact ⟨⟨c, { call with state := .over }, by simp [ScriptRun.setCall], rfl, hwas⟩,
        h.returning c call result hc hwas hst⟩
    · rw [Function.update_of_ne hit] at hi
      exact hover.confirmed i hi
  · simp only [htrue] at hi
    exact hover.confirmed i hi

/-! ## The step and the run -/

/-- **A step of a run that cancels in time keeps the invariant.** -/
theorem cancelInv_step {n : Nat} {s s' : ScriptRun} {e : ScriptEvent} (h : CancelInv n s)
    (hk : CancelsInTime s e) (hs : s.step n e = some s') : CancelInv n s' := by
  cases ScriptRun.executionStep_of_step hs with
  | created hmain => exact h.created hmain
  | createRaised hmain hlt => exact h.endMain _ (by rw [hmain]; exact Nat.le_of_lt hlt)
  | started hmain =>
      refine h.moveOpen (h.none_requested (by rw [hmain]; exact id)) _ (fun i => ?_) ?_ rfl
      · rw [hmain]; trivial
      · rw [hmain]; exact Nat.le_refl n
  | acquired hchild =>
      exact h.setChild _ fun hi => absurd hi (h.not_requested (.inl hchild))
  | stepStarted hchild => exact h.stepStarted hchild
  | finished hchild => exact h.setChild _ fun hi => absurd hi (h.not_requested (.inr hchild))
  | childCancelled => exact h.childCancelled _
  | swallowed => exact h.setChild _ fun _ => ⟨by simp, by simp, fun hm => absurd hm hk⟩
  | expired => exact { h with }
  | gathered hmain hall =>
      refine h.moveOpen (h.none_requested_of_results hmain hall) s.child (fun i => ?_) ?_ rfl
      · rw [hmain]; trivial
      · rw [hmain]; exact Nat.le_refl n
  | escaped hmain => exact h.endMain _ (by rw [hmain]; exact Nat.le_refl n)
  | resumed hmain =>
      refine h.moveOpen (h.none_requested (by rw [hmain]; exact id)) s.child (fun i => ?_) ?_ rfl
      · rw [hmain]; trivial
      · rw [hmain]; exact Nat.le_refl n
  | timeout hmain =>
      refine h.moveOpen hk _ (fun i => ?_) ?_ rfl
      · rw [hmain]; trivial
      · rw [hmain]; exact Nat.le_refl n
  | lateTimeout hmain =>
      refine h.moveOpen hk s.child (fun i => ?_) ?_ rfl
      · rw [hmain]; trivial
      · rw [hmain]; exact Nat.le_refl n
  | timedOut hmain =>
      refine h.moveOpen (h.none_requested (by rw [hmain]; exact id)) s.child (fun i => ?_) ?_ rfl
      · rw [hmain]; trivial
      · rw [hmain]; exact Nat.le_refl n
  | updated hat => exact h.updated hat
  | updateFailed hat => exact h.updateFailed hat
  | timedOutEnd hmain => exact h.endMain _ (by rw [hmain]; exact Nat.le_refl n)
  | returned hmain => exact h.endMain _ (by rw [hmain]; exact Nat.le_refl n)
  | cancelCalled hrow hc => exact h.callCancel hc hrow hk
  | readOpen hc _ hrow => exact h.readOpen hc hrow
  | readFinal hc _ hrow => exact h.readFinal hc hrow
  | cancelWritten hc hst => exact h.cancelWritten hc hst
  | cancelRaised hc =>
      exact h.setCall hc _ (fun _ => by simp) fun _ result hr => by cases hr
  | cancelReturned hc hst => exact h.cancelReturned hc hst

/-- **Cancelling is final** in every run that cancels in time: once
`cancel_execution` has returned `True` for a running row, no remote step starts
and the row stays cancelled, and no final status is replaced by another one. -/
theorem cancel_is_final {n : Nat} {s : ScriptRun}
    (h : (scriptSystem n).Reach CancelsInTime s) : CancelFinal s := by
  have hinv : CancelInv n s :=
    h.invariant (fun _ hi => cancelInv_init hi) fun _ _ _ hi hk hs => cancelInv_step hi hk hs
  exact ⟨fun i hi => (hinv.confirmed i hi).2, hinv.steps, hinv.kept⟩

/-! ## A call that comes too late -/

/-- The only target has finished, and is cancelled before its result is
written. -/
def lateCancel : List ScriptEvent :=
  [.created, .started, .acquired 0, .stepStarted 0, .finished 0 .success, .cancelCalled 0 0,
    .cancelRead 0, .cancelWritten 0, .cancelReturned 0, .gathered, .resumed, .updated, .loopEnded]

/-- The cancellation is confirmed, and the row ends as a success. -/
theorem late_cancel : ∃ s, (scriptSystem 1).exec .initial lateCancel = some s ∧
    s.confirmed 0 = true ∧ s.rows 0 = some .success :=
  ⟨_, rfl, rfl, rfl⟩

/-- Cancelling is not final in every run. -/
theorem not_cancel_is_final : ¬ ∀ (n : Nat) (s : ScriptRun),
    (scriptSystem n).Reachable s → CancelFinal s := by
  intro h
  obtain ⟨s, hs, hconf, hrow⟩ := late_cancel
  have hfinal := h 1 s (System.reachable_of_exec rfl hs)
  rw [hfinal.row 0 hconf] at hrow
  cases hrow

/-- The only target is cancelled while its step runs, and stays cancelled. -/
theorem cancel_is_final_running : ∃ s : ScriptRun, s.main = .ended .childCancelled ∧
    s.confirmed 0 = true ∧ s.rows 0 = some .cancelled ∧ CancelFinal s := by
  refine ⟨_, ?_, ?_, ?_, cancel_is_final (n := 1) (.next (e := .resumed)
    (.next (e := .childCancelled 0) (.next (e := .cancelReturned 0)
    (.next (e := .cancelWritten 0) (.next (e := .cancelRead 0) (.next (e := .cancelCalled 0 0)
    (.next (e := .stepStarted 0) (.next (e := .acquired 0) (.next (e := .started)
    (.next (e := .created) (.start rfl) trivial rfl) trivial rfl) trivial rfl) trivial rfl)
    ?_ rfl) trivial rfl) trivial rfl) trivial rfl) trivial rfl) trivial rfl)⟩
  · rfl
  · rfl
  · rfl
  · intro _
    exact ⟨by decide, fun _ => rfl, .inr (.inr ⟨rfl, .inl rfl⟩)⟩

end Script
end NodeNexus
