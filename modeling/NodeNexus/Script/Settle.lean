import NodeNexus.Script.Execution

/-!
# No row is left behind

`execute_script` creates its rows before it runs anything and settles them
after everything has run.  Two of its exits skip the settling: an exception of
`create_execution`, and the `CancelledError` of a child that escapes `gather`.

* `none_left_behind` — if, at such an exit, every row created so far was
  cancelled before, then no row is left `running` when `execute_script` is over.
* `exit_leaves_none_iff` — at each single exit the condition is exact.
* `sibling_left_behind` — a run in which cancelling one of two targets leaves
  the row of the other one `running`.
-/

namespace NodeNexus
namespace Script

/-- Every row has a final status. -/
def NoneRunning (s : ScriptRun) : Prop :=
  ∀ i status, s.rows i = some status → status.terminal = true

/-- When `execute_script` is over, every row has a final status. -/
def NoneLeft (s : ScriptRun) : Prop :=
  ∀ exit, s.main = .ended exit → NoneRunning s

/-- The writer's `update_execution` calls succeed. -/
def UpdatesSucceed (_ : ScriptRun) (e : ScriptEvent) : Prop := e ≠ .updateFailed

/-- The exits that settle nothing are only taken when every row created so far
was cancelled by `cancel_execution`; and the updates succeed. -/
def SettlesBeforeExit (s : ScriptRun) (e : ScriptEvent) : Prop :=
  UpdatesSucceed s e ∧
    (e = .createRaised ∨ e = .resumed ∧ s.main = .gathered true →
      ∀ i status, s.rows i = some status → status = .cancelled)

/-! ## The invariant -/

/-- What the row of target `i` may say, by where `execute_script` is. -/
def RowOk (main : MainState) (i : Nat) (status : ExecutionStatus) : Prop :=
  match main with
  | .timingOut k | .settling k =>
      status.terminal = true ∨ k ≤ i ∧ status = .running
  | .ended _ => True
  | _ => status = .running ∨ status = .cancelled

/-- Only targets below `n` have rows, and every row says what it may. -/
structure RowsInv (n : Nat) (s : ScriptRun) : Prop where
  bound : ∀ i status, s.rows i = some status → i < n
  row : ∀ i status, s.rows i = some status → RowOk s.main i status

/-- A cancelled row is fine wherever `execute_script` is. -/
theorem RowOk.cancelled (main : MainState) (i : Nat) : RowOk main i .cancelled := by
  cases main with
  | timingOut k => exact .inl rfl
  | settling k => exact .inl rfl
  | ended exit => trivial
  | creating k => exact .inr rfl
  | gathering => exact .inr rfl
  | gathered failed => exact .inr rfl
  | expiring => exact .inr rfl

/-- A row that is running or cancelled may wait for either loop. -/
theorem terminal_or_running {status : ExecutionStatus}
    (h : status = .running ∨ status = .cancelled) (i : Nat) :
    status.terminal = true ∨ 0 ≤ i ∧ status = .running := by
  rcases h with rfl | rfl
  · exact .inr ⟨Nat.zero_le i, rfl⟩
  · exact .inl rfl

theorem rowsInv_init {n : Nat} {s : ScriptRun} (h : (scriptSystem n).init s) : RowsInv n s := by
  cases h
  constructor
  · intro i status hrow; cases hrow
  · intro i status hrow; cases hrow

/-- A move of `execute_script` that writes no row keeps the invariant, as long as
no update fails. -/
theorem RowsInv.move {n : Nat} {s s' : ScriptRun} {e : ScriptEvent} (h : RowsInv n s)
    (hk : UpdatesSucceed s e) (hrows : s'.rows = s.rows) (hmove : MainMove n s e s'.main) :
    RowsInv n s' := by
  refine ⟨fun i status hrow => h.bound i status (hrows ▸ hrow), fun i status hrow => ?_⟩
  rw [hrows] at hrow
  have hok := h.row i status hrow
  generalize s'.main = main at hmove
  cases hmove with
  | createRaised => trivial
  | started hmain => rw [hmain] at hok; exact hok
  | childCancelled hmain => rw [hmain] at hok; exact hok
  | gathered hmain => rw [hmain] at hok; exact hok
  | escaped => trivial
  | resumed hmain => rw [hmain] at hok; exact terminal_or_running hok i
  | timeout hmain =>
      rcases hmain with hmain | ⟨failed, hmain⟩
      · rw [hmain] at hok; exact hok
      · rw [hmain] at hok; exact hok
  | timedOut hmain => rw [hmain] at hok; exact terminal_or_running hok i
  | updateFailed => exact absurd rfl hk
  | timedOutEnd => trivial
  | returned => trivial

/-- A write to a row keeps the invariant. -/
theorem RowsInv.write {n : Nat} {s s' : ScriptRun} {e : ScriptEvent} (h : RowsInv n s)
    (hwrite : RowWrite n s e s'.main s'.rows) : RowsInv n s' := by
  obtain ⟨main, rows, hmain', hrows'⟩ : ∃ main rows, s'.main = main ∧ s'.rows = rows :=
    ⟨_, _, rfl, rfl⟩
  rw [hmain', hrows'] at hwrite
  constructor
  · intro i status hrow
    rw [hrows'] at hrow
    cases hwrite with
    | created hmain hk =>
        rename_i k
        by_cases hi : i = k
        · rw [hi]; exact hk
        · rw [Function.update_of_ne hi] at hrow
          exact h.bound i status hrow
    | updated _ hk =>
        rw [Rows.update_apply] at hrow
        split at hrow
        · rename_i hi; rw [hi]; exact hk
        · exact h.bound i status hrow
    | cancelled hc hw =>
        rw [Rows.update_apply] at hrow
        split at hrow
        · obtain ⟨old, hold, -⟩ := Option.map_eq_some_iff.1 hrow
          exact h.bound i old hold
        · exact h.bound i status hrow
  · intro i status hrow
    rw [hrows'] at hrow
    rw [hmain']
    cases hwrite with
    | created hmain hk =>
        rename_i k
        by_cases hi : i = k
        · rw [hi, Function.update_self] at hrow
          cases hrow
          exact .inl rfl
        · rw [Function.update_of_ne hi] at hrow
          have hok := h.row i status hrow
          rw [hmain] at hok
          exact hok
    | updated hat hk =>
        rename_i k status'
        obtain ⟨hterm, hloop⟩ := ScriptRun.statusAt_cases hat
        have hgoal : status.terminal = true ∨ k + 1 ≤ i ∧ status = .running := by
          rw [Rows.update_apply] at hrow
          split at hrow
          · obtain ⟨old, -, rfl⟩ := Option.map_eq_some_iff.1 hrow
            exact .inl hterm
          · rename_i hi
            have hok := h.row i status hrow
            rcases hloop with ⟨hmain, -⟩ | ⟨hmain, -⟩
            · rw [hmain] at hok
              rcases hok with hok | ⟨hle, hok⟩
              · exact .inl hok
              · exact .inr ⟨by omega, hok⟩
            · rw [hmain] at hok
              rcases hok with hok | ⟨hle, hok⟩
              · exact .inl hok
              · exact .inr ⟨by omega, hok⟩
        rcases hloop with ⟨-, hnext⟩ | ⟨-, hnext⟩
        · rw [hnext]; exact hgoal
        · rw [hnext]; exact hgoal
    | cancelled hc hw =>
        rw [Rows.update_apply] at hrow
        split at hrow
        · obtain ⟨old, -, rfl⟩ := Option.map_eq_some_iff.1 hrow
          exact RowOk.cancelled _ i
        · exact h.row i status hrow

theorem rowsInv_step {n : Nat} {s s' : ScriptRun} {e : ScriptEvent} (h : RowsInv n s)
    (hk : UpdatesSucceed s e) (hs : s.step n e = some s') : RowsInv n s' := by
  rcases (ScriptRun.executionStep_of_step hs).effect with ⟨hmain, hrows⟩ | ⟨hrows, hmove⟩ | hwrite
  · constructor
    · intro i status hrow
      rw [hrows] at hrow
      exact h.bound i status hrow
    · intro i status hrow
      rw [hrows] at hrow
      rw [hmain]
      exact h.row i status hrow
  · exact h.move hk hrows hmove
  · exact h.write hwrite

/-! ## At the exits -/

/-- **What an exit leaves behind.**  At each step with which `execute_script`
ends, every row has a final status exactly when the condition holds. -/
theorem exit_leaves_none_iff {n : Nat} {s s' : ScriptRun} {e : ScriptEvent}
    (hinv : RowsInv n s) (hk : UpdatesSucceed s e) (hs : s.step n e = some s')
    (hbefore : ∀ exit, s.main ≠ .ended exit) {exit : Exit} (hafter : s'.main = .ended exit) :
    NoneRunning s' ↔ SettlesBeforeExit s e := by
  have cancelled_iff (hopen : ∀ i status, s.rows i = some status →
      status = .running ∨ status = .cancelled) :
      NoneRunning s ↔ ∀ i status, s.rows i = some status → status = .cancelled := by
    constructor
    · intro h i status hrow
      rcases hopen i status hrow with rfl | rfl
      · exact absurd (h i _ hrow) (by decide)
      · rfl
    · intro h i status hrow
      rw [h i status hrow]
      rfl
  rcases (ScriptRun.executionStep_of_step hs).effect with ⟨hmain, -⟩ | ⟨hrows, hmove⟩ | hwrite
  · rw [hmain] at hafter
    exact absurd hafter (hbefore exit)
  · have hsame : NoneRunning s' ↔ NoneRunning s := by rw [NoneRunning, hrows, NoneRunning]
    rw [hsame]
    rw [hafter] at hmove
    generalize hend : MainState.ended exit = main at hmove
    cases hmove with
    | createRaised hmain hlt =>
        rw [cancelled_iff fun i status hrow => by
          have hok := hinv.row i status hrow
          rwa [hmain] at hok]
        exact ⟨fun h => ⟨hk, fun _ => h⟩, fun h => h.2 (.inl rfl)⟩
    | escaped hmain =>
        rw [cancelled_iff fun i status hrow => by
          have hok := hinv.row i status hrow
          rwa [hmain] at hok]
        exact ⟨fun h => ⟨hk, fun _ => h⟩, fun h => h.2 (.inr ⟨rfl, hmain⟩)⟩
    | timedOutEnd hmain =>
        -- every row below `n` has been written
        refine ⟨fun _ => ⟨hk, fun he => ?_⟩, fun _ i status hrow => ?_⟩
        · rcases he with he | ⟨he, -⟩ <;> cases he
        · have hok := hinv.row i status hrow
          have hlt := hinv.bound i status hrow
          rw [hmain] at hok
          rcases hok with hok | ⟨hle, -⟩
          · exact hok
          · omega
    | returned hmain =>
        refine ⟨fun _ => ⟨hk, fun he => ?_⟩, fun _ i status hrow => ?_⟩
        · rcases he with he | ⟨he, -⟩ <;> cases he
        · have hok := hinv.row i status hrow
          have hlt := hinv.bound i status hrow
          rw [hmain] at hok
          rcases hok with hok | ⟨hle, -⟩
          · exact hok
          · omega
    | updateFailed hat =>
        obtain ⟨-, ⟨-, hnext⟩ | ⟨-, hnext⟩⟩ := ScriptRun.statusAt_cases hat
        · rw [hnext] at hend; cases hend
        · rw [hnext] at hend; cases hend
    | _ => cases hend
  · rw [hafter] at hwrite
    generalize hend : MainState.ended exit = main at hwrite
    generalize s'.rows = rows at hwrite
    cases hwrite with
    | created => cases hend
    | updated hat =>
        obtain ⟨-, ⟨-, hnext⟩ | ⟨-, hnext⟩⟩ := ScriptRun.statusAt_cases hat
        · rw [hnext] at hend; cases hend
        · rw [hnext] at hend; cases hend
    | cancelled => exact absurd hend.symm (hbefore exit)

/-- Once `execute_script` is over, only `cancel_execution` writes. -/
theorem noneRunning_step {n : Nat} {s s' : ScriptRun} {e : ScriptEvent} {exit : Exit}
    (hmain : s.main = .ended exit) (h : NoneRunning s) (hs : s.step n e = some s') :
    NoneRunning s' := by
  rcases (ScriptRun.executionStep_of_step hs).effect with ⟨-, hrows⟩ | ⟨hrows, -⟩ | hwrite
  · rwa [NoneRunning, hrows]
  · rwa [NoneRunning, hrows]
  · obtain ⟨main', rows', hmain', hrows'⟩ : ∃ main rows, s'.main = main ∧ s'.rows = rows :=
      ⟨_, _, rfl, rfl⟩
    rw [hmain', hrows'] at hwrite
    intro i status hrow
    rw [hrows'] at hrow
    cases hwrite with
    | created hm => rw [hm] at hmain; cases hmain
    | updated hat =>
        obtain ⟨-, ⟨hm, -⟩ | ⟨hm, -⟩⟩ := ScriptRun.statusAt_cases hat
        · rw [hm] at hmain; cases hmain
        · rw [hm] at hmain; cases hmain
    | cancelled hc hw =>
        rw [Rows.update_apply] at hrow
        split at hrow
        · obtain ⟨old, -, rfl⟩ := Option.map_eq_some_iff.1 hrow
          rfl
        · exact h i status hrow

/-- **No row is left behind** in a run whose exits settle every row, or find
every row cancelled. -/
theorem none_left_behind {n : Nat} {s : ScriptRun}
    (h : (scriptSystem n).Reach SettlesBeforeExit s) : NoneLeft s := by
  have hinv : RowsInv n s ∧ NoneLeft s := by
    refine h.invariant (I := fun s => RowsInv n s ∧ NoneLeft s) (fun s hi => ?_)
      fun s e s' hi hk hs => ⟨rowsInv_step hi.1 hk.1 hs, fun exit hexit => ?_⟩
    · refine ⟨rowsInv_init hi, fun exit hexit => ?_⟩
      cases hi
      cases hexit
    · by_cases hbefore : ∃ exit, s.main = .ended exit
      · obtain ⟨exit', hmain⟩ := hbefore
        exact noneRunning_step hmain (hi.2 exit' hmain) hs
      · exact (exit_leaves_none_iff hi.1 hk.1 hs (fun exit' hm => hbefore ⟨exit', hm⟩) hexit).2 hk
  exact hinv.2

/-! ## A sibling that is left behind -/

/-- Two targets run, the first is cancelled, and its `CancelledError` ends
`execute_script`. -/
def siblingLeftBehind : List ScriptEvent :=
  [.created, .created, .started, .acquired 0, .acquired 1, .stepStarted 0, .stepStarted 1,
    .cancelCalled 0 0, .cancelRead 0, .cancelWritten 0, .cancelReturned 0, .childCancelled 0,
    .resumed]

theorem sibling_left_behind : ∃ s, (scriptSystem 2).exec .initial siblingLeftBehind = some s ∧
    s.main = .ended .childCancelled ∧ s.rows 1 = some .running :=
  ⟨_, rfl, rfl, rfl⟩

/-- Not every run of `execute_script` settles its rows. -/
theorem not_none_left_behind : ¬ ∀ (n : Nat) (s : ScriptRun),
    (scriptSystem n).Reach UpdatesSucceed s → NoneLeft s := by
  intro h
  obtain ⟨s, hs, hmain, hrow⟩ := sibling_left_behind
  have hreach : (scriptSystem 2).Reach UpdatesSucceed s := by
    refine System.Reach.exec_of (.start rfl) (fun e he t => ?_) hs
    rintro rfl
    exact absurd he (by decide)
  exact absurd (h 2 s hreach _ hmain 1 _ hrow) (by decide)

/-- One target, whose step takes too long. -/
def slowTarget : List ScriptEvent :=
  [.created, .started, .acquired 0, .stepStarted 0, .timeout, .childCancelled 0, .timedOut,
    .updated, .loopEnded]

theorem exec_slowTarget : ∃ s, (scriptSystem 1).exec .initial slowTarget = some s ∧
    s.main = .ended .timedOut ∧ s.rows 0 = some .error :=
  ⟨_, rfl, rfl, rfl⟩

/-- The timeout settles its row. -/
theorem none_left_behind_slowTarget : ∃ s : ScriptRun,
    s.main = .ended .timedOut ∧ s.rows 0 = some .error ∧ NoneLeft s := by
  obtain ⟨s, hs, hmain, hrow⟩ := exec_slowTarget
  refine ⟨s, hmain, hrow, none_left_behind (n := 1)
    (System.Reach.exec_of (.start rfl) (fun e he t => ⟨?_, ?_⟩) hs)⟩
  · rintro rfl
    exact absurd he (by decide)
  · rintro (rfl | ⟨rfl, -⟩)
    · exact absurd he (by decide)
    · exact absurd he (by decide)

end Script
end NodeNexus
