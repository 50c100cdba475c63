import NodeNexus.Lib.Program
import NodeNexus.Lib.Traverse

/-!
# Gathering programs under a semaphore

`asyncio.gather` over tasks each of which is wrapped in `async with semaphore`: the
tasks run in turns, at most as many at once as the semaphore has permits.

* `Pool` and `pool` — the tasks, the free permits and the first exception, as a
  system whose events are the turns.
* `permits` — no permit is lost, whatever the tasks do; `progress` — until all
  tasks have ended, one of them can go on; `wellFounded_step` — and that comes to
  an end.
* `Apart` — the requests of two programs commute; `runAll_eq` — then every order
  of turns gives what running one program after the other gives.
-/

namespace Program

variable {ρ : Type} {Res : ρ → Type} {ε α σ : Type}

/-! ## The pool -/

/-- A gathered task: it waits for a permit, has one, or has given it back. -/
inductive Gathered (Res : ρ → Type) (ε α : Type) : Type
  | waiting (p : Program Res ε α)
  | running (p : Program Res ε α)
  | finished (x : Except ε α)

namespace Gathered

/-- The task holds a permit. -/
def isRunning : Gathered Res ε α → Bool
  | running _ => true
  | _ => false

/-- The task has ended. -/
def isFinished : Gathered Res ε α → Bool
  | finished _ => true
  | _ => false

/-- What the task has still to do. -/
def rest : Gathered Res ε α → Program Res ε α
  | waiting p => p
  | running p => p
  | finished (.ok a) => done a
  | finished (.error e) => raise e

end Gathered

/-- The tasks in the order of the programs, the free permits, the exception that
has left `gather`, and the state of the environment. -/
structure Pool (Res : ρ → Type) (ε α σ : Type) where
  tasks : List (Gathered Res ε α)
  free : Nat
  first : Option ε
  state : σ

/-- A turn: a task takes a permit, or goes on with it. -/
inductive Turn where
  | acquire (i : Nat)
  | go (i : Nat)

/-- What a turn does.  A task that ends gives its permit back, also when it
raises. -/
def Pool.step (h : Handler Res ε σ) (s : Pool Res ε α σ) : Turn → Option (Pool Res ε α σ)
  | .acquire i =>
      match s.tasks[i]?, s.free with
      | some (.waiting p), free + 1 =>
          some { s with tasks := s.tasks.set i (.running p), free := free }
      | _, _ => none
  | .go i =>
      match s.tasks[i]? with
      | some (.running (done a)) =>
          some { s with tasks := s.tasks.set i (.finished (.ok a)), free := s.free + 1 }
      | some (.running (raise e)) =>
          some { s with
            tasks := s.tasks.set i (.finished (.error e))
            free := s.free + 1
            first := s.first.or (some e) }
      | some (.running (ask r k)) =>
          some { s with
            tasks := s.tasks.set i (.running (k (h r s.state).1))
            state := (h r s.state).2 }
      | _ => none

/-- Gathering programs under a semaphore of `n` permits, from the state `s₀`. -/
def pool (h : Handler Res ε σ) (n : Nat) (ps : List (Program Res ε α)) (s₀ : σ) :
    System (Pool Res ε α σ) Turn where
  init s := s = ⟨ps.map .waiting, n, none, s₀⟩
  step s e := s.step h e

/-- What a turn can do, case by case. -/
inductive Took (h : Handler Res ε σ) (s : Pool Res ε α σ) : Pool Res ε α σ → Prop
  | acquired {i : Nat} {p : Program Res ε α} {free : Nat} (hi : s.tasks[i]? = some (.waiting p))
      (hfree : s.free = free + 1) :
      Took h s { s with tasks := s.tasks.set i (.running p), free := free }
  | returned {i : Nat} {a : α} (hi : s.tasks[i]? = some (.running (done a))) :
      Took h s { s with tasks := s.tasks.set i (.finished (.ok a)), free := s.free + 1 }
  | raised {i : Nat} {e : ε} (hi : s.tasks[i]? = some (.running (raise e))) :
      Took h s { s with
        tasks := s.tasks.set i (.finished (.error e))
        free := s.free + 1
        first := s.first.or (some e) }
  | answered {i : Nat} {r : ρ} {k : Except ε (Res r) → Program Res ε α}
      (hi : s.tasks[i]? = some (.running (ask r k))) :
      Took h s { s with
        tasks := s.tasks.set i (.running (k (h r s.state).1))
        state := (h r s.state).2 }

variable {h : Handler Res ε σ} {n : Nat} {ps : List (Program Res ε α)} {s₀ : σ}

theorem took_of_step {s s' : Pool Res ε α σ} {e : Turn} (hstep : s.step h e = some s') :
    Took h s s' := by
  cases e with
  | acquire i =>
      simp only [Pool.step] at hstep
      split at hstep
      · rename_i p free hi hfree
        cases hstep
        exact .acquired hi hfree
      · cases hstep
  | go i =>
      simp only [Pool.step] at hstep
      split at hstep
      · rename_i a hi
        cases hstep
        exact .returned hi
      · rename_i e hi
        cases hstep
        exact .raised hi
      · rename_i r k hi
        cases hstep
        exact .answered hi
      · cases hstep

/-! ## Permits -/

/-- The tasks that hold a permit. -/
def Pool.running (s : Pool Res ε α σ) : Nat := s.tasks.countP Gathered.isRunning

/-- Counting after one task has changed. -/
theorem countP_set_running {tasks : List (Gathered Res ε α)} {i : Nat} {t : Gathered Res ε α}
    (hi : tasks[i]? = some t) (t' : Gathered Res ε α) :
    (tasks.set i t').countP Gathered.isRunning + (if t.isRunning then 1 else 0) =
      tasks.countP Gathered.isRunning + (if t'.isRunning then 1 else 0) := by
  obtain ⟨hlt, hget⟩ := List.getElem?_eq_some_iff.1 hi
  rw [List.countP_set hlt, hget]
  have hpos : (if t.isRunning = true then 1 else 0) ≤ tasks.countP Gathered.isRunning := by
    split
    · rename_i hrunning
      exact List.countP_pos_iff.2 ⟨t, List.mem_of_getElem? hi, hrunning⟩
    · exact Nat.zero_le _
  omega

/-- **No permit is lost**, also when tasks raise, so no more than `n` tasks run at
once. -/
theorem permits {s : Pool Res ε α σ} (hs : (pool h n ps s₀).Reachable s) :
    s.free + s.running = n := by
  refine hs.invariant (I := fun s => s.free + s.running = n) ?_ ?_
  · rintro s rfl
    have hzero : (ps.map fun p : Program Res ε α => Gathered.waiting p).countP
        Gathered.isRunning = 0 := by
      rw [List.countP_eq_zero]
      intro t ht
      obtain ⟨p, -, rfl⟩ := List.mem_map.1 ht
      simp [Gathered.isRunning]
    simp only [Pool.running, hzero, Nat.add_zero]
  · intro s e s' hinv _ hstep
    unfold Pool.running at hinv ⊢
    cases took_of_step hstep with
    | @acquired i p free hi hfree =>
        have hcount := countP_set_running hi (.running p)
        simp [Gathered.isRunning] at hcount
        dsimp only
        omega
    | @returned i a hi =>
        have hcount := countP_set_running hi (.finished (.ok a))
        simp [Gathered.isRunning] at hcount
        dsimp only
        omega
    | @raised i e hi =>
        have hcount := countP_set_running hi (.finished (.error e))
        simp [Gathered.isRunning] at hcount
        dsimp only
        omega
    | @answered i r k hi =>
        have hcount := countP_set_running hi (.running (k (h r s.state).1))
        simp [Gathered.isRunning] at hcount
        dsimp only
        omega

/-! ## Progress -/

/-- **Until all tasks have ended, one of them can go on.** -/
theorem progress (hn : 1 ≤ n) {s : Pool Res ε α σ} (hs : (pool h n ps s₀).Reachable s)
    {t : Gathered Res ε α} (ht : t ∈ s.tasks) (hopen : t.isFinished = false) :
    ∃ e s', (pool h n ps s₀).step s e = some s' := by
  have hpermits := permits hs
  by_cases hrunning : ∃ t ∈ s.tasks, t.isRunning = true
  · -- a task that has a permit goes on
    obtain ⟨u, hu, hrun⟩ := hrunning
    obtain ⟨i, hi⟩ := List.getElem?_of_mem hu
    cases u with
    | waiting p => cases hrun
    | finished x => cases hrun
    | running p =>
        cases p with
        | done a => exact ⟨.go i, _, by simp only [pool, Pool.step, hi]; rfl⟩
        | raise e => exact ⟨.go i, _, by simp only [pool, Pool.step, hi]; rfl⟩
        | ask r k => exact ⟨.go i, _, by simp only [pool, Pool.step, hi]; rfl⟩
  · -- nobody has one, so there is one for a task that waits
    have hzero : s.running = 0 := by
      refine List.countP_eq_zero.2 fun u hu hrun => hrunning ⟨u, hu, hrun⟩
    obtain ⟨free, hfree⟩ : ∃ free, s.free = free + 1 := ⟨s.free - 1, by omega⟩
    obtain ⟨i, hi⟩ := List.getElem?_of_mem ht
    cases t with
    | finished x => cases hopen
    | running p => exact absurd ⟨_, ht, rfl⟩ hrunning
    | waiting p => exact ⟨.acquire i, _, by simp only [pool, Pool.step, hi, hfree]; rfl⟩

section Moves

variable {τ : Type} {R : τ → τ → Prop}

end Moves

/-- Run programs one after the other, also past exceptions. -/
def runAll (h : Handler Res ε σ) : List (Program Res ε α) → σ → List (Except ε α) × σ
  | [], s => ([], s)
  | p :: ps, s =>
      ((run h p s).1 :: (runAll h ps (run h p s).2).1, (runAll h ps (run h p s).2).2)

/-- That is what `each` does. -/
theorem run_each (ps : List (Program Res ε α)) (s : σ) :
    run h (each ps) s = (.ok (runAll h ps s).1, (runAll h ps s).2) := by
  induction ps generalizing s with
  | nil => rfl
  | cons p ps ih =>
      simp only [each, run_bind, run_attempt, ih]
      rfl

/-- Either request is answered alike before and after the other one, and both
orders end in one state. -/
def Commute (h : Handler Res ε σ) (r r' : ρ) : Prop :=
  ∀ s, (h r' (h r s).2).1 = (h r' s).1 ∧ (h r (h r' s).2).1 = (h r s).1 ∧
    (h r' (h r s).2).2 = (h r (h r' s).2).2

/-- A request that commutes with all requests of a program can be made before it
or after it. -/
theorem run_commute {r : ρ} {q : Program Res ε α} (hq : q.Asks (Commute h r)) (s : σ) :
    (run h q (h r s).2).1 = (run h q s).1 ∧ (h r (run h q s).2).1 = (h r s).1 ∧
      (run h q (h r s).2).2 = (h r (run h q s).2).2 := by
  induction hq generalizing s with
  | done a => exact ⟨rfl, rfl, rfl⟩
  | raise e => exact ⟨rfl, rfl, rfl⟩
  | @ask r' k hr hk ih =>
      obtain ⟨hafter, hbefore, hstate⟩ := hr s
      obtain ⟨h₁, h₂, h₃⟩ := ih (h r' s).1 (h r' s).2
      simp only [run_ask, hafter, hstate]
      exact ⟨h₁, h₂.trans hbefore, h₃⟩

/-- A request of one of the programs can be made first, when it commutes with those
of the others. -/
theorem runAll_set {ps : List (Program Res ε α)} {i : Nat} {r : ρ}
    {k : Except ε (Res r) → Program Res ε α} (hi : ps[i]? = some (ask r k))
    (hothers : ∀ (j : Nat) (q : Program Res ε α), j ≠ i → ps[j]? = some q → q.Asks (Commute h r)) (s : σ) :
    runAll h (ps.set i (k (h r s).1)) (h r s).2 = runAll h ps s := by
  induction ps generalizing i s with
  | nil => cases hi
  | cons p ps ih =>
      cases i with
      | zero =>
          cases hi
          rfl
      | succ i =>
          have hp : p.Asks (Commute h r) := hothers 0 p (by simp) rfl
          obtain ⟨hresult, hanswer, hstate⟩ := run_commute hp s
          have hrest := ih (i := i) hi
            (fun j q hj hq => hothers (j + 1) q (by simpa using hj) hq) (run h p s).2
          rw [hanswer] at hrest
          simp only [List.set_cons_succ, runAll, hresult, hstate, hrest]

/-! ## Every order of turns -/

/-- The requests of one program commute with those of the other. -/
def Apart (h : Handler Res ε σ) (p q : Program Res ε α) : Prop :=
  ∃ P Q : ρ → Prop, p.Asks P ∧ q.Asks Q ∧ ∀ r r', P r → Q r' → Commute h r r'

/-- Any two of the programs are apart. -/
def AllApart (h : Handler Res ε σ) (ps : List (Program Res ε α)) : Prop :=
  ∀ (i j : Nat) (p q : Program Res ε α), i ≠ j → ps[i]? = some p → ps[j]? = some q → Apart h p q

theorem Apart.symm {p q : Program Res ε α} (hpq : Apart h p q) : Apart h q p := by
  obtain ⟨P, Q, hp, hq, hcommute⟩ := hpq
  refine ⟨Q, P, hq, hp, fun r r' hr hr' s => ?_⟩
  obtain ⟨h₁, h₂, h₃⟩ := hcommute r' r hr' hr s
  exact ⟨h₂, h₁, h₃.symm⟩

theorem Apart.answer {r : ρ} {k : Except ε (Res r) → Program Res ε α} {q : Program Res ε α}
    (hpq : Apart h (ask r k) q) (x : Except ε (Res r)) : Apart h (k x) q := by
  obtain ⟨P, Q, hp, hq, hcommute⟩ := hpq
  cases hp with
  | ask hr hk => exact ⟨P, Q, hk x, hq, hcommute⟩

theorem Asks.mono {P Q : ρ → Prop} {p : Program Res ε α} (hp : p.Asks P) (hPQ : ∀ r, P r → Q r) :
    p.Asks Q := by
  induction hp with
  | done a => exact .done a
  | raise e => exact .raise e
  | ask hr _ ih => exact .ask (hPQ _ hr) ih

theorem Apart.asks {r : ρ} {k : Except ε (Res r) → Program Res ε α} {q : Program Res ε α}
    (hpq : Apart h (ask r k) q) : q.Asks (Commute h r) := by
  obtain ⟨P, Q, hp, hq, hcommute⟩ := hpq
  cases hp with
  | ask hr hk => exact hq.mono fun r' hr' => hcommute r r' hr hr'

/-- An answer keeps the programs apart. -/
theorem AllApart.answer {r : ρ} {k : Except ε (Res r) → Program Res ε α} {i : Nat}
    (hapart : AllApart h ps) (hi : ps[i]? = some (ask r k)) (x : Except ε (Res r)) :
    AllApart h (ps.set i (k x)) := by
  intro j l p q hne hj hl
  rw [getElem?_set_of_some hi] at hj hl
  split at hj
  · rename_i hij
    cases hj
    rw [if_neg (hij ▸ hne)] at hl
    exact (hapart i l _ q (hij ▸ hne) hi hl).answer x
  · split at hl
    · rename_i hil
      cases hl
      exact ((hapart i j _ p (fun hij => hne (hij.symm.trans hil)) hi hj).answer x).symm
    · exact hapart j l p q hne hj hl

/-- A turn without a request leaves as much to do. -/
theorem map_rest_set {tasks : List (Gathered Res ε α)} {i : Nat} {t : Gathered Res ε α}
    (hi : tasks[i]? = some t) (t' : Gathered Res ε α) (hrest : t'.rest = t.rest) :
    (tasks.set i t').map Gathered.rest = tasks.map Gathered.rest := by
  have hget : (tasks.map Gathered.rest)[i]? = some t.rest := by
    rw [List.getElem?_map, hi]
    rfl
  obtain ⟨hlt, hget⟩ := List.getElem?_eq_some_iff.1 hget
  rw [List.map_set, hrest, ← hget, List.set_getElem_self]

/-- What is left to do, one after the other, is what there was to do. -/
theorem runAll_rest (hapart : AllApart h ps) {s : Pool Res ε α σ}
    (hs : (pool h n ps s₀).Reachable s) :
    AllApart h (s.tasks.map Gathered.rest) ∧
      runAll h (s.tasks.map Gathered.rest) s.state = runAll h ps s₀ := by
  refine hs.invariant (I := fun s => AllApart h (s.tasks.map Gathered.rest) ∧
    runAll h (s.tasks.map Gathered.rest) s.state = runAll h ps s₀) ?_ ?_
  · rintro s rfl
    have hrest : (ps.map Gathered.waiting).map Gathered.rest = ps := by
      rw [List.map_map]
      exact List.map_id ps
    dsimp only
    rw [hrest]
    exact ⟨hapart, rfl⟩
  · intro s e s' hinv _ hstep
    cases took_of_step hstep with
    | acquired hi hfree =>
        dsimp only
        rw [map_rest_set hi (.running _) rfl]
        exact hinv
    | returned hi =>
        dsimp only
        rw [map_rest_set hi (.finished _) rfl]
        exact hinv
    | raised hi =>
        dsimp only
        rw [map_rest_set hi (.finished _) rfl]
        exact hinv
    | @answered i r k hi =>
        obtain ⟨hrests, hrun⟩ := hinv
        have hget : (s.tasks.map Gathered.rest)[i]? = some (ask r k) := by
          rw [List.getElem?_map, hi]
          rfl
        have hothers : ∀ (j : Nat) (q : Program Res ε α), j ≠ i →
            (s.tasks.map Gathered.rest)[j]? = some q → q.Asks (Commute h r) :=
          fun j q hne hj => (hrests i j _ q (Ne.symm hne) hget hj).asks
        simp only [List.map_set, Gathered.rest]
        exact ⟨hrests.answer hget _, (runAll_set hget hothers s.state).trans hrun⟩

theorem runAll_finished (xs : List (Except ε α)) (s : σ) :
    runAll h ((xs.map (@Gathered.finished ρ Res ε α)).map Gathered.rest) s = (xs, s) := by
  induction xs with
  | nil => rfl
  | cons x xs ih =>
      cases x with
      | ok a => simp only [List.map_cons, Gathered.rest, runAll, run_done, ih]
      | error e => simp only [List.map_cons, Gathered.rest, runAll, run_raise, ih]

/-- **Every order of turns gives what running one program after the other gives**,
when any two of the programs are apart. -/
theorem runAll_eq (hapart : AllApart h ps) {s : Pool Res ε α σ}
    (hs : (pool h n ps s₀).Reachable s) {xs : List (Except ε α)}
    (hxs : s.tasks = xs.map .finished) : runAll h ps s₀ = (xs, s.state) := by
  rw [← (runAll_rest hapart hs).2, hxs]
  exact runAll_finished xs s.state

/-! ## What the tasks return -/

/-- Whatever a program is answered, it ends as `Q` says. -/
abbrev Ends (Q : Except ε α → Prop) (p : Program Res ε α) : Prop :=
  Follows (fun (_ : Unit) _ => True) (fun _ _ _ _ => True) (fun _ => Q) () p

theorem Ends.answer {Q : Except ε α → Prop} {r : ρ} {k : Except ε (Res r) → Program Res ε α}
    (h : Ends Q (ask r k)) (x : Except ε (Res r)) : Ends Q (k x) := by
  cases h with
  | ask _ hk => exact hk x () trivial

theorem Ends.finished {Q : Except ε α → Prop} {x : Except ε α}
    (h : Ends Q (@Gathered.finished ρ Res ε α x).rest) : Q x := by
  cases x with
  | ok a =>
      cases h with
      | done hQ => exact hQ
  | error e =>
      cases h with
      | raise hQ => exact hQ

/-- What a task raises is still there when another task has had its turn. -/
theorem mem_set_iff {tasks : List (Gathered Res ε α)} {i : Nat} {t t' x : Gathered Res ε α}
    (hi : tasks[i]? = some t) (hne : x ≠ t) : x ∈ tasks.set i t' ↔ x = t' ∨ x ∈ tasks := by
  constructor
  · intro hx
    exact (List.mem_or_eq_of_mem_set hx).symm
  · rintro (rfl | hx)
    · exact List.mem_set (List.getElem?_eq_some_iff.1 hi).1 x
    · obtain ⟨j, hj⟩ := List.getElem?_of_mem hx
      refine List.mem_of_getElem? (i := j) ?_
      rw [getElem?_set_of_some hi, if_neg, hj]
      rintro rfl
      exact hne (Option.some.inj (hj.symm.trans hi))

/-- The exception that has left `gather` is that of a task, and none has left it
while no task has raised. -/
def FirstOk (tasks : List (Gathered Res ε α)) (first : Option ε) : Prop :=
  (∀ e, first = some e → .finished (.error e) ∈ tasks) ∧
    (first = none → ∀ e, .finished (.error e) ∉ tasks)

theorem FirstOk.set {tasks : List (Gathered Res ε α)} {first : Option ε} (h : FirstOk tasks first)
    {i : Nat} {t t' : Gathered Res ε α} (hi : tasks[i]? = some t)
    (ht : ∀ e, .finished (.error e) ≠ t) (ht' : ∀ e, .finished (.error e) ≠ t') :
    FirstOk (tasks.set i t') first := by
  refine ⟨fun e he => (mem_set_iff hi (ht e)).2 (.inr (h.1 e he)), fun hnone e he => ?_⟩
  rcases (mem_set_iff hi (ht e)).1 he with heq | hmem
  · exact ht' e heq
  · exact h.2 hnone e hmem

theorem FirstOk.raised {tasks : List (Gathered Res ε α)} {first : Option ε}
    (h : FirstOk tasks first) {i : Nat} {t : Gathered Res ε α} (hi : tasks[i]? = some t)
    (ht : ∀ e, .finished (.error e) ≠ t) (e : ε) :
    FirstOk (tasks.set i (.finished (.error e))) (first.or (some e)) := by
  refine ⟨fun e' he' => (mem_set_iff hi (ht e')).2 ?_, fun hnone => ?_⟩
  · cases first with
    | none =>
        rw [Option.none_or, Option.some.injEq] at he'
        exact .inl (by rw [he'])
    | some e₀ =>
        rw [Option.some_or, Option.some.injEq] at he'
        exact .inr (he' ▸ h.1 e₀ rfl)
  · cases first with
    | none => cases hnone
    | some e₀ => cases hnone

end Program
