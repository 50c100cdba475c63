import NodeNexus.Lib.Answered
import NodeNexus.Lib.Transition

/-!
# Critical sections of interleaved programs

Programs that are run as concurrent tasks, where some requests are critical: answering one
takes several awaits, and no two of them may be under way at once.

* `Critical.Section` — which requests are critical, and the stages of one.
* `Critical.system` — the tasks, one await at a time.
* `Critical.Reaches` — a program may come to a critical request.
* `Critical.exclusive_iff` — without a lock, the tasks exclude each other in all runs exactly
  where one task at most may come to a critical request.
-/

namespace Critical

variable {ρ : Type} {Res : ρ → Type} {ε α κ : Type}

/-- The critical requests and their stages. -/
structure Section (Res : ρ → Type) (ε κ : Type) where
  /-- A critical request, with what its answer is made of. -/
  enters : (r : ρ) → Option (Unit → Res r)
  /-- The stage it starts with. -/
  first : κ
  /-- What follows a stage: another one, or the end of the section. -/
  next : κ → Except ε Unit → κ ⊕ Except ε Unit

/-- A task: at an await of its own, or in a stage of a critical request. -/
inductive Task {ρ : Type} (Res : ρ → Type) (ε α κ : Type) : Type where
  | running (p : Program Res ε α)
  | inside (stage : κ) (k : Except ε Unit → Program Res ε α)

/-- A task is in a critical section. -/
def Task.isInside : Task Res ε α κ → Bool
  | .running _ => false
  | .inside _ _ => true

/-- The await of a task is answered. -/
structure Event {ρ : Type} (Res : ρ → Type) (ε : Type) where
  task : Nat
  /-- How the environment answers a request that is not critical. -/
  answers : (r : ρ) → Except ε (Res r)
  /-- How a stage ends. -/
  outcome : Except ε Unit

/-- One await of a task. -/
def Section.taskStep (S : Section Res ε κ) (e : Event Res ε) :
    Task Res ε α κ → Option (Task Res ε α κ)
  | .running (.done _) => none
  | .running (.raise _) => none
  | .running (.ask r k) =>
      match S.enters r with
      | some answer => some (.inside S.first fun x => k (x.map answer))
      | none => some (.running (k (e.answers r)))
  | .inside stage k =>
      match S.next stage e.outcome with
      | .inl stage => some (.inside stage k)
      | .inr x => some (.running (k x))

/-- One await of one of the tasks. -/
def Section.step (S : Section Res ε κ) (ts : List (Task Res ε α κ)) (e : Event Res ε) :
    Option (List (Task Res ε α κ)) := do
  let t ← ts[e.task]?
  let t' ← S.taskStep e t
  some (ts.set e.task t')

/-- The tasks of some programs. -/
def system (S : Section Res ε κ) (ps : List (Program Res ε α)) :
    System (List (Task Res ε α κ)) (Event Res ε) where
  init ts := ts = ps.map .running
  step := S.step

/-- One task at most is in a critical section. -/
def Exclusive (ts : List (Task Res ε α κ)) : Prop :=
  ∀ (i j : Nat) (t u : Task Res ε α κ), ts[i]? = some t → ts[j]? = some u →
    t.isInside = true → u.isInside = true → i = j

/-- A program may come to a critical request. -/
inductive Reaches (S : Section Res ε κ) : Program Res ε α → Prop
  | here {r : ρ} {k : Except ε (Res r) → Program Res ε α} : (S.enters r).isSome = true →
      Reaches S (.ask r k)
  | later {r : ρ} {k : Except ε (Res r) → Program Res ε α} (x : Except ε (Res r)) :
      Reaches S (k x) → Reaches S (.ask r k)

variable {S : Section Res ε κ} {ps : List (Program Res ε α)} {p : Program Res ε α}

/-! ## Programs that come to a critical request -/

/-- What is noted of critical requests. -/
def Section.note (S : Section Res ε κ) : (r : ρ) → Except ε (Res r) → List Unit :=
  fun r _ => if (S.enters r).isSome = true then [()] else []

/-- A run that makes a critical request. -/
theorem reaches_of_noted (answers : (r : ρ) → Except ε (Res r))
    (h : Program.noted S.note answers p ≠ []) : Reaches S p := by
  induction p with
  | done a => exact absurd rfl h
  | raise e => exact absurd rfl h
  | ask r k ih =>
      by_cases hr : (S.enters r).isSome = true
      · exact .here hr
      · refine .later (answers r) (ih _ fun hnone => h ?_)
        rw [Program.noted, Section.note, if_neg hr, hnone]
        rfl

/-- Where no request is critical. -/
theorem not_reaches_of_asks (h : p.Asks fun r => (S.enters r).isSome = false) : ¬ Reaches S p := by
  intro hreaches
  induction hreaches with
  | here hr =>
      cases h with
      | ask hnone _ =>
          rw [hr] at hnone
          cases hnone
  | later x _ ih =>
      cases h with
      | ask _ hk => exact ih (hk x)

/-! ## Mutual exclusion -/

/-- A task that may be in a critical section, now or later. -/
def Task.Risks (S : Section Res ε κ) : Task Res ε α κ → Prop
  | .running p => Reaches S p
  | .inside _ _ => True

theorem step_eq_some {ts ts' : List (Task Res ε α κ)} {e : Event Res ε} :
    S.step ts e = some ts' ↔ ∃ t t', ts[e.task]? = some t ∧ S.taskStep e t = some t' ∧
      ts' = ts.set e.task t' := by
  unfold Section.step
  simp only [Option.bind_eq_bind, Option.bind_eq_some_iff, Option.some.injEq]
  constructor
  · rintro ⟨t, ht, t', ht', hset⟩
    exact ⟨t, t', ht, ht', hset.symm⟩
  · rintro ⟨t, t', ht, ht', hset⟩
    exact ⟨t, ht, t', ht', hset.symm⟩

/-- A step takes the program of a task no further than it could come. -/
theorem risks_or_inside {t t' : Task Res ε α κ} {e : Event Res ε} (h : S.taskStep e t = some t')
    (hrisks : t'.Risks S) : t.Risks S := by
  cases t with
  | inside stage k => exact trivial
  | running p =>
      cases p with
      | done a => cases h
      | raise e => cases h
      | ask r k =>
          simp only [Section.taskStep] at h
          cases hr : S.enters r with
          | some answer => exact .here (by rw [hr]; rfl)
          | none =>
              rw [hr] at h
              cases h
              exact .later _ hrisks

/-- The tasks that are in a section, or may come into one, are those whose programs could. -/
def RiskInv (S : Section Res ε κ) (ps : List (Program Res ε α)) (ts : List (Task Res ε α κ)) : Prop :=
  ∀ (i : Nat) (t : Task Res ε α κ), ts[i]? = some t → t.Risks S →
    ∃ p, ps[i]? = some p ∧ Reaches S p

theorem riskInv_init : RiskInv S ps (ps.map .running) := by
  intro i t ht hrisks
  rw [List.getElem?_map] at ht
  cases hp : ps[i]? with
  | none =>
      rw [hp] at ht
      cases ht
  | some p =>
      rw [hp] at ht
      cases ht
      exact ⟨p, rfl, hrisks⟩

theorem RiskInv.step {ts ts' : List (Task Res ε α κ)} {e : Event Res ε} (hinv : RiskInv S ps ts)
    (h : S.step ts e = some ts') : RiskInv S ps ts' := by
  obtain ⟨t, t', ht, hstep, rfl⟩ := step_eq_some.1 h
  intro i u hu hrisks
  by_cases hi : e.task = i
  · subst hi
    rw [List.getElem?_set_self (List.getElem?_eq_some_iff.1 ht).1] at hu
    cases hu
    exact hinv _ t ht (risks_or_inside hstep hrisks)
  · rw [List.getElem?_set_ne hi] at hu
    exact hinv i u hu hrisks

theorem riskInv_of_reachable {ts : List (Task Res ε α κ)} (h : (system S ps).Reachable ts) :
    RiskInv S ps ts := by
  apply h.invariant (I := RiskInv S ps)
  · rintro _ rfl
    exact riskInv_init
  · intro ts e ts' hinv _ hstep
    exact hinv.step hstep

/-- The answers that answer one request in a given way. -/
noncomputable def answering (e : ε) (r : ρ) (x : Except ε (Res r)) : (r : ρ) → Except ε (Res r) :=
  open Classical in Function.update (fun _ => .error e) r x

/-- A task at a critical request enters the section, while the others wait. -/
theorem exists_entered [Inhabited ε] {ts : List (Task Res ε α κ)} {i : Nat} {r : ρ}
    {k : Except ε (Res r) → Program Res ε α} {answer : Unit → Res r}
    (h : (system S ps).Reachable ts) (hi : ts[i]? = some (.running (.ask r k)))
    (hr : S.enters r = some answer) :
    ∃ ts' t, (system S ps).Reachable ts' ∧ ts'[i]? = some t ∧ t.isInside = true ∧
      ∀ j, j ≠ i → ts'[j]? = ts[j]? := by
  have hstep : S.step ts ⟨i, fun _ => .error default, .ok ()⟩ =
      some (ts.set i (.inside S.first fun x => k (x.map answer))) := by
    refine step_eq_some.2 ⟨_, _, hi, ?_, rfl⟩
    simp only [Section.taskStep, hr]
  exact ⟨_, _, h.next trivial hstep, List.getElem?_set_self (List.getElem?_eq_some_iff.1 hi).1, rfl,
    fun j hj => List.getElem?_set_ne (Ne.symm hj)⟩

/-- **A task that may come to a critical request can be driven into it**, while the others
wait. -/
theorem exists_inside [Inhabited ε] (hp : Reaches S p) {ts : List (Task Res ε α κ)} {i : Nat}
    (h : (system S ps).Reachable ts) (hi : ts[i]? = some (.running p)) :
    ∃ ts' t, (system S ps).Reachable ts' ∧ ts'[i]? = some t ∧ t.isInside = true ∧
      ∀ j, j ≠ i → ts'[j]? = ts[j]? := by
  induction hp generalizing ts with
  | here hr =>
      obtain ⟨answer, hanswer⟩ := Option.isSome_iff_exists.1 hr
      exact exists_entered h hi hanswer
  | @later r k x hk ih =>
      cases hr : S.enters r with
      | some answer => exact exists_entered h hi hr
      | none =>
          have hstep : S.step ts ⟨i, answering default r x, .ok ()⟩ =
              some (ts.set i (.running (k x))) := by
            refine step_eq_some.2 ⟨_, _, hi, ?_, rfl⟩
            simp only [Section.taskStep, hr, answering, Function.update_self]
          have hset := List.getElem?_set_self (a := (.running (k x) : Task Res ε α κ))
            (List.getElem?_eq_some_iff.1 hi).1
          obtain ⟨ts', t, hreach, ht, hinside, hothers⟩ := ih (h.next trivial hstep) hset
          refine ⟨ts', t, hreach, ht, hinside, fun j hj => ?_⟩
          rw [hothers j hj, List.getElem?_set_ne (Ne.symm hj)]

/-- **When tasks exclude each other**: in all runs, exactly where one task at most may come to
a critical request. -/
theorem exclusive_iff [Inhabited ε] : (∀ ts, (system S ps).Reachable ts → Exclusive ts) ↔
    ∀ (i j : Nat) (p q : Program Res ε α), ps[i]? = some p → ps[j]? = some q → Reaches S p →
      Reaches S q → i = j := by
  constructor
  · intro h i j p q hi hj hp hq
    by_contra hne
    have hstart : (system S ps).Reachable (ps.map .running) := .start rfl
    have hrunning : ∀ (i : Nat) (p : Program Res ε α), ps[i]? = some p →
        (ps.map .running : List (Task Res ε α κ))[i]? = some (.running p) := by
      intro i p hi
      rw [List.getElem?_map, hi]
      rfl
    obtain ⟨ts, t, hreach, ht, hinside, hothers⟩ := exists_inside hp hstart (hrunning i p hi)
    have hother := hothers j (Ne.symm hne)
    rw [hrunning j q hj] at hother
    obtain ⟨ts', u, hreach', hu, hinside', hothers'⟩ := exists_inside hq hreach hother
    have hkept := hothers' i hne
    rw [ht] at hkept
    exact hne (h ts' hreach' i j t u hkept hu hinside hinside')
  · intro h ts hreach i j t u ht hu hinside hinside'
    have hrisks : ∀ t : Task Res ε α κ, t.isInside = true → t.Risks S := by
      intro t ht
      cases t with
      | running p => cases ht
      | inside stage k => exact trivial
    obtain ⟨p, hp, hreaches⟩ := riskInv_of_reachable hreach i t ht (hrisks t hinside)
    obtain ⟨q, hq, hreaches'⟩ := riskInv_of_reachable hreach j u hu (hrisks u hinside')
    exact h i j p q hp hq hreaches hreaches'

end Critical
