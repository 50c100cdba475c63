import NodeNexus.Lib.Transition
import Mathlib.Data.List.Forall2

/-!
# Programs that ask their environment

A `Program` computes between requests: it is finished, has raised an exception,
or waits for the answer to a request, which may be an exception as well.  A
service whose awaits are its requests is such a program, and one definition of
it serves every way of running it.

* `Program.bind`, `Program.attempt` — sequencing, and `try … except`.
* `Program.run` — running it alone against a `Handler`; the `run_…` lemmas follow
  the program.
* `Program.Meets` — a run ends in a postcondition; the `Meets.…` rules follow the
  program.
* `Program.Asks` — all requests of a program are of some kind; `Asks.meets` is the
  frame rule.
* `Program.Follows` — a program keeps to a protocol of phases; `Follows.advance` is
  one step of it.
* `Program.advance` — one request of a program that others interrupt.
* `Program.Related` — two programs that ask related requests whatever related
  answers they get, up to silent ones; `Related.run` runs both.
-/

/-- A computation with requests `r` that are answered in `Res r` or by an
exception. -/
inductive Program {ρ : Type} (Res : ρ → Type) (ε α : Type) : Type
  /-- The program has returned. -/
  | done (a : α)
  /-- An exception has left the program. -/
  | raise (e : ε)
  /-- The program waits for an answer. -/
  | ask (r : ρ) (k : Except ε (Res r) → Program Res ε α)

namespace Program

variable {ρ : Type} {Res : ρ → Type} {ε α β γ σ : Type}

/-! ## Building programs -/

/-- Go on with what a program returns; an exception passes through. -/
def bind : Program Res ε α → (α → Program Res ε β) → Program Res ε β
  | done a, f => f a
  | raise e, _ => raise e
  | ask r k, f => ask r fun x => (k x).bind f

instance : Monad (Program Res ε) where
  pure := done
  bind := bind

/-- One request. -/
def call (r : ρ) : Program Res ε (Res r) :=
  ask r fun
    | .ok a => done a
    | .error e => raise e

/-- `try … except Exception`: an exception is a result. -/
def attempt : Program Res ε α → Program Res ε (Except ε α)
  | done a => done (.ok a)
  | raise e => done (.error e)
  | ask r k => ask r fun x => (k x).attempt

@[simp] theorem done_bind (a : α) (f : α → Program Res ε β) : (done a >>= f) = f a := rfl

@[simp] theorem pure_bind' (a : α) (f : α → Program Res ε β) :
    ((pure a : Program Res ε α) >>= f) = f a := rfl

@[simp] theorem raise_bind (e : ε) (f : α → Program Res ε β) : (raise e >>= f) = raise e := rfl

@[simp] theorem ask_bind (r : ρ) (k : Except ε (Res r) → Program Res ε α)
    (f : α → Program Res ε β) : (ask r k >>= f) = ask r fun x => k x >>= f := rfl

@[simp] theorem attempt_done (a : α) : (done a : Program Res ε α).attempt = done (.ok a) := rfl

@[simp] theorem attempt_raise (e : ε) : (raise e : Program Res ε α).attempt = done (.error e) := rfl

@[simp] theorem attempt_ask (r : ρ) (k : Except ε (Res r) → Program Res ε α) :
    (ask r k).attempt = ask r fun x => (k x).attempt := rfl

/-- Run programs one after the other, also past exceptions. -/
def each : List (Program Res ε α) → Program Res ε (List (Except ε α))
  | [] => done []
  | p :: ps => do
      let x ← p.attempt
      let xs ← each ps
      done (x :: xs)

/-- `asyncio.gather` of programs that do not disturb each other: all of them run to
their ends, and an exception of one is the exception of the whole. -/
def gather (ps : List (Program Res ε α)) : Program Res ε (List α) := do
  let xs ← each ps
  match xs.mapM id with
  | .ok as => done as
  | .error e => raise e

/-! ## Running a program alone -/

/-- What the environment answers, and what becomes of its state. -/
abbrev Handler {ρ : Type} (Res : ρ → Type) (ε σ : Type) : Type :=
  (r : ρ) → σ → Except ε (Res r) × σ

/-- Run a program to its end. -/
def run (h : Handler Res ε σ) : Program Res ε α → σ → Except ε α × σ
  | done a, s => (.ok a, s)
  | raise e, s => (.error e, s)
  | ask r k, s => run h (k (h r s).1) (h r s).2

variable {h : Handler Res ε σ}

@[simp] theorem run_done (a : α) (s : σ) : run h (done a) s = (.ok a, s) := rfl

@[simp] theorem run_pure (a : α) (s : σ) : run h (pure a) s = (.ok a, s) := rfl

@[simp] theorem run_raise (e : ε) (s : σ) : run h (raise e : Program Res ε α) s = (.error e, s) :=
  rfl

@[simp] theorem run_ask (r : ρ) (k : Except ε (Res r) → Program Res ε α) (s : σ) :
    run h (ask r k) s = run h (k (h r s).1) (h r s).2 := rfl

/-- A sequence runs its second part where the first one has returned. -/
theorem run_bind (p : Program Res ε α) (f : α → Program Res ε β) (s : σ) :
    run h (p >>= f) s =
      match run h p s with
      | (.ok a, s') => run h (f a) s'
      | (.error e, s') => (.error e, s') := by
  induction p generalizing s with
  | done a => rfl
  | raise e => rfl
  | ask r k ih => exact ih _ _

theorem run_attempt (p : Program Res ε α) (s : σ) :
    run h p.attempt s = (.ok (run h p s).1, (run h p s).2) := by
  induction p generalizing s with
  | done a => rfl
  | raise e => rfl
  | ask r k ih => exact ih _ _

theorem run_call (r : ρ) (s : σ) : run h (call r) s = h r s := by
  unfold call
  rw [run_ask]
  cases hx : h r s with
  | mk x s' =>
      cases x <;> rfl

/-! ## Postconditions -/

/-- The run of a program ends with a result and a state that meet `Q`. -/
def Meets (h : Handler Res ε σ) (p : Program Res ε α) (s : σ) (Q : Except ε α → σ → Prop) : Prop :=
  Q (run h p s).1 (run h p s).2

variable {p : Program Res ε α} {f : α → Program Res ε β} {s : σ} {Q : Except ε α → σ → Prop}
  {Q' : Except ε β → σ → Prop}

theorem Meets.mono {P : Except ε α → σ → Prop} (hp : Meets h p s P) (hPQ : ∀ x t, P x t → Q x t) :
    Meets h p s Q :=
  hPQ _ _ hp

/-- Sequencing: the second part runs where the first one has returned. -/
theorem Meets.bind (hp : Meets h p s Q) (hok : ∀ a t, Q (.ok a) t → Meets h (f a) t Q')
    (herror : ∀ e t, Q (.error e) t → Q' (.error e) t) : Meets h (p >>= f) s Q' := by
  unfold Meets at hp ⊢
  rw [run_bind]
  cases hrun : run h p s with
  | mk x t =>
      rw [hrun] at hp
      cases x with
      | ok a => exact hok a t hp
      | error e => exact herror e t hp

/-- `try … except`: both ways the attempt returns. -/
theorem meets_attempt {P : Except ε (Except ε α) → σ → Prop} :
    Meets h p.attempt s P ↔ Meets h p s fun x t => P (.ok x) t := by
  unfold Meets
  rw [run_attempt]

theorem meets_call {r : ρ} {P : Except ε (Res r) → σ → Prop} :
    Meets h (call r) s P ↔ P (h r s).1 (h r s).2 := by
  unfold Meets
  rw [run_call]

/-- All requests of a program are of some kind, whatever it is answered. -/
inductive Asks (P : ρ → Prop) : Program Res ε α → Prop
  | done (a : α) : Asks P (done a)
  | raise (e : ε) : Asks P (raise e)
  | ask {r : ρ} {k : Except ε (Res r) → Program Res ε α} : P r → (∀ x, Asks P (k x)) →
      Asks P (ask r k)

variable {P : ρ → Prop}

theorem Asks.bind (hp : Asks P p) (hf : ∀ a, Asks P (f a)) : Asks P (p >>= f) := by
  induction hp with
  | done a => exact hf a
  | raise e => exact .raise e
  | ask hr _ ih => exact .ask hr ih

theorem Asks.attempt (hp : Asks P p) : Asks P p.attempt := by
  induction hp with
  | done a => exact .done _
  | raise e => exact .done _
  | ask hr _ ih => exact .ask hr ih

theorem Asks.call {r : ρ} (hr : P r) : Asks P (call r : Program Res ε (Res r)) := by
  refine .ask hr fun x => ?_
  cases x with
  | ok a => exact .done a
  | error e => exact .raise e

/-- The frame rule: what the requests of a program keep, the program keeps. -/
theorem Asks.meets {I : σ → Prop} (hp : Asks P p) (hI : ∀ r t, P r → I t → I (h r t).2)
    (hs : I s) : Meets h p s fun _ t => I t := by
  induction hp generalizing s with
  | done a => exact hs
  | raise e => exact hs
  | ask hr _ ih => exact ih _ (hI _ _ hr hs)

/-! ## Gathered programs -/

theorem Asks.each {ps : List (Program Res ε α)} (h : ∀ p ∈ ps, Asks P p) :
    Asks P (Program.each ps) := by
  induction ps with
  | nil => exact .done _
  | cons p ps ih =>
      have hp := h p (List.mem_cons_self ..)
      refine hp.attempt.bind fun x => ?_
      exact (ih fun p hp => h p (List.mem_cons_of_mem _ hp)).bind fun xs => .done _

theorem Asks.gather {ps : List (Program Res ε α)} (h : ∀ p ∈ ps, Asks P p) :
    Asks P (Program.gather ps) := by
  refine (Asks.each h).bind fun xs => ?_
  cases xs.mapM id with
  | ok as => exact .done as
  | error e => exact .raise e

/-- Programs that each end with a known result and keep a property of the state. -/
theorem each_meets {I : σ → Prop} {g : γ → Program Res ε α} {result : γ → Except ε α} {cs : List γ}
    (hg : ∀ c ∈ cs, ∀ t, I t → Meets h (g c) t fun x t => x = result c ∧ I t) (hs : I s) :
    Meets h (each (cs.map g)) s fun x t => x = .ok (cs.map result) ∧ I t := by
  induction cs generalizing s with
  | nil => exact ⟨rfl, hs⟩
  | cons c cs ih =>
      have hfirst : Meets h (g c).attempt s fun x t => x = .ok (result c) ∧ I t :=
        meets_attempt.2 ((hg c (List.mem_cons_self ..) s hs).mono fun x t hx => by
          rw [hx.1]
          exact ⟨rfl, hx.2⟩)
      refine hfirst.bind (fun a t ht => ?_) fun e t ht => nomatch ht.1
      obtain ⟨ha, ht⟩ := ht
      cases ha
      have hrest := ih (fun c' hc' => hg c' (List.mem_cons_of_mem _ hc')) ht
      refine hrest.bind (fun as t ht => ?_) fun e t ht => nomatch ht.1
      obtain ⟨has, ht⟩ := ht
      cases has
      exact ⟨rfl, ht⟩

/-- A gathering returns the results in their order, or raises. -/
theorem gather_meets {I : σ → Prop} {g : γ → Program Res ε α} {result : γ → Except ε α}
    {cs : List γ} (hg : ∀ c ∈ cs, ∀ t, I t → Meets h (g c) t fun x t => x = result c ∧ I t)
    (hs : I s) :
    Meets h (gather (cs.map g)) s fun x t => x = cs.mapM result ∧ I t := by
  refine (each_meets hg hs).bind (fun as t ht => ?_) fun e t ht => nomatch ht.1
  obtain ⟨has, ht⟩ := ht
  cases has
  have hmap : (cs.map result).mapM id = cs.mapM result := by
    rw [List.mapM_map]
    rfl
  rw [← hmap]
  cases hall : (cs.map result).mapM id with
  | ok as => exact ⟨rfl, ht⟩
  | error e => exact ⟨rfl, ht⟩

/-! ## Phases -/

/-- A program keeps to a protocol: in each phase `κ` it asks only what `ok` allows,
`After` says in which phases an answer leaves it, and it ends as `Q` says. -/
inductive Follows {κ : Type} (ok : κ → ρ → Prop)
    (After : κ → (r : ρ) → Except ε (Res r) → κ → Prop) (Q : κ → Except ε α → Prop) :
    κ → Program Res ε α → Prop
  | done {k : κ} {a : α} : Q k (.ok a) → Follows ok After Q k (done a)
  | raise {k : κ} {e : ε} : Q k (.error e) → Follows ok After Q k (raise e)
  | ask {k : κ} {r : ρ} {f : Except ε (Res r) → Program Res ε α} : ok k r →
      (∀ x k', After k r x k' → Follows ok After Q k' (f x)) → Follows ok After Q k (ask r f)

section Follows

variable {κ : Type} {ok : κ → ρ → Prop} {After : κ → (r : ρ) → Except ε (Res r) → κ → Prop}
  {k : κ}

theorem Follows.mono {Q Q' : κ → Except ε α → Prop} (hp : Follows ok After Q k p)
    (hQ : ∀ k x, Q k x → Q' k x) : Follows ok After Q' k p := by
  induction hp with
  | done h => exact .done (hQ _ _ h)
  | raise h => exact .raise (hQ _ _ h)
  | ask hr _ ih => exact .ask hr ih

/-- Sequencing: the second part starts in the phase the first one ends in. -/
theorem Follows.bind {Q : κ → Except ε α → Prop} {Q' : κ → Except ε β → Prop}
    (hp : Follows ok After Q k p) (hok : ∀ k a, Q k (.ok a) → Follows ok After Q' k (f a))
    (herror : ∀ k e, Q k (.error e) → Q' k (.error e)) : Follows ok After Q' k (p >>= f) := by
  induction hp with
  | done h => exact hok _ _ h
  | raise h => exact .raise (herror _ _ h)
  | ask hr _ ih => exact .ask hr ih

theorem Follows.attempt {Q : κ → Except ε (Except ε α) → Prop}
    (hp : Follows ok After (fun k x => Q k (.ok x)) k p) : Follows ok After Q k p.attempt := by
  induction hp with
  | done h => exact .done h
  | raise h => exact .done h
  | ask hr _ ih => exact .ask hr ih

theorem Follows.call {r : ρ} {Q : κ → Except ε (Res r) → Prop} (hr : ok k r)
    (hQ : ∀ x k', After k r x k' → Q k' x) : Follows ok After Q k (call r) := by
  refine .ask hr fun x k' hx => ?_
  cases x with
  | ok a => exact .done (hQ _ _ hx)
  | error e => exact .raise (hQ _ _ hx)

end Follows

/-! ## One request at a time -/

/-- The next request of a program is answered; `none` when it has ended. -/
def advance (h : Handler Res ε σ) : Program Res ε α → σ → Option (Program Res ε α × σ)
  | done _, _ => none
  | raise _, _ => none
  | ask r k, s => some (k (h r s).1, (h r s).2)

/-- A program has ended. -/
def ended : Program Res ε α → Bool
  | done _ => true
  | raise _ => true
  | ask _ _ => false

theorem advance_eq_some {p p' : Program Res ε α} {s s' : σ} :
    advance h p s = some (p', s') ↔
      ∃ r k, p = ask r k ∧ p' = k (h r s).1 ∧ s' = (h r s).2 := by
  cases p with
  | done a => simp [advance]
  | raise e => simp [advance]
  | ask r k =>
      simp only [advance, Option.some.injEq, Prod.mk.injEq]
      constructor
      · rintro ⟨rfl, rfl⟩
        exact ⟨r, k, rfl, rfl, rfl⟩
      · rintro ⟨r', k', hp, rfl, rfl⟩
        cases hp
        exact ⟨rfl, rfl⟩

/-- A step of a program that keeps to a protocol: it asks something allowed, and goes
on from the phase of the answer. -/
theorem Follows.advance {κ : Type} {ok : κ → ρ → Prop}
    {After : κ → (r : ρ) → Except ε (Res r) → κ → Prop} {Q : κ → Except ε α → Prop} {k : κ}
    {p p' : Program Res ε α} {s s' : σ} (hp : Follows ok After Q k p)
    (hstep : Program.advance h p s = some (p', s')) : ∃ r, ok k r ∧ s' = (h r s).2 ∧
      ∀ k', After k r (h r s).1 k' → Follows ok After Q k' p' := by
  obtain ⟨r, f, rfl, rfl, rfl⟩ := advance_eq_some.1 hstep
  cases hp with
  | ask hr hf => exact ⟨r, hr, rfl, hf _⟩

/-! ## Related programs -/

/-- Two programs that ask related requests and go on alike whatever related answers
they get.  A silent request is asked by one of them alone; its answer is no exception
and makes no difference. -/
inductive Related (Silent : ρ → Prop) (R : ρ → ρ → Prop)
    (A : (r r' : ρ) → Except ε (Res r) → Except ε (Res r') → Prop) (V : α → α → Prop) :
    Program Res ε α → Program Res ε α → Prop
  | done {a a' : α} : V a a' → Related Silent R A V (done a) (done a')
  | raise {e : ε} : Related Silent R A V (raise e) (raise e)
  | ask {r r' : ρ} {k : Except ε (Res r) → Program Res ε α}
      {k' : Except ε (Res r') → Program Res ε α} : R r r' →
      (∀ x x', A r r' x x' → Related Silent R A V (k x) (k' x')) →
      Related Silent R A V (ask r k) (ask r' k')
  | left {r : ρ} {k : Except ε (Res r) → Program Res ε α} {p' : Program Res ε α} : Silent r →
      (∀ x, Related Silent R A V (k (.ok x)) p') → Related Silent R A V (ask r k) p'
  | right {p : Program Res ε α} {r : ρ} {k : Except ε (Res r) → Program Res ε α} : Silent r →
      (∀ x, Related Silent R A V p (k (.ok x))) → Related Silent R A V p (ask r k)

/-- Two results that are the same exception or related values. -/
inductive RelatedResult (V : α → β → Prop) : Except ε α → Except ε β → Prop
  | ok {a : α} {b : β} : V a b → RelatedResult V (.ok a) (.ok b)
  | error (e : ε) : RelatedResult V (.error e) (.error e)

section Related

variable {Silent : ρ → Prop} {R : ρ → ρ → Prop}
  {A : (r r' : ρ) → Except ε (Res r) → Except ε (Res r') → Prop}
  {V : α → α → Prop} {W : β → β → Prop}

theorem Related.bind {p p' : Program Res ε α} {f f' : α → Program Res ε β}
    (hp : Related Silent R A V p p') (hf : ∀ a a', V a a' → Related Silent R A W (f a) (f' a')) :
    Related Silent R A W (p >>= f) (p' >>= f') := by
  induction hp with
  | done hv => exact hf _ _ hv
  | raise => exact .raise
  | ask hr _ ih => exact .ask hr ih
  | left hr _ ih => exact .left hr ih
  | right hr _ ih => exact .right hr ih

theorem Related.attempt {p p' : Program Res ε α} (hp : Related Silent R A V p p') :
    Related Silent R A (RelatedResult V) p.attempt p'.attempt := by
  induction hp with
  | done hv => exact .done (.ok hv)
  | raise => exact .done (.error _)
  | ask hr _ ih => exact .ask hr ih
  | left hr _ ih => exact .left hr ih
  | right hr _ ih => exact .right hr ih

/-- One request, when related answers are the same exception or related values. -/
theorem Related.call {r r' : ρ} {U : Res r → Res r' → Prop} (hr : R r r')
    (h : ∀ x x', A r r' x x' → RelatedResult U x x')
    {k : Res r → Program Res ε β} {k' : Res r' → Program Res ε β}
    (hk : ∀ a a', U a a' → Related Silent R A W (k a) (k' a')) :
    Related Silent R A W (call r >>= k) (call r' >>= k') := by
  refine .ask hr fun x x' hx => ?_
  cases h x x' hx with
  | ok hv => exact hk _ _ hv
  | error e => exact .raise

/-- Programs that are run past exceptions. -/
theorem Related.each {ps ps' : List (Program Res ε α)}
    (h : List.Forall₂ (Related Silent R A V) ps ps') :
    Related Silent R A (List.Forall₂ (RelatedResult V)) (each ps) (each ps') := by
  induction h with
  | nil => exact .done .nil
  | cons hp _ ih =>
      exact hp.attempt.bind fun x x' hx => ih.bind fun xs xs' hxs => .done (.cons hx hxs)

/-- The results of a gathering: all of them, or the first exception. -/
theorem relatedResult_mapM {xs xs' : List (Except ε α)}
    (h : List.Forall₂ (RelatedResult V) xs xs') :
    RelatedResult (List.Forall₂ V) (xs.mapM id) (xs'.mapM id) := by
  induction h with
  | nil => exact .ok .nil
  | @cons x x' xs xs' hx _ ih =>
      rw [List.mapM_cons, List.mapM_cons]
      generalize xs.mapM id = ys at ih ⊢
      generalize xs'.mapM id = ys' at ih ⊢
      cases hx with
      | error e => exact .error e
      | ok hv =>
          cases ih with
          | error e => exact .error e
          | ok hvs => exact .ok (.cons hv hvs)

theorem Related.gather {ps ps' : List (Program Res ε α)}
    (h : List.Forall₂ (Related Silent R A V) ps ps') :
    Related Silent R A (List.Forall₂ V) (gather ps) (gather ps') := by
  refine (Related.each h).bind fun xs xs' hxs => ?_
  have hall := relatedResult_mapM hxs
  generalize xs.mapM id = ys at hall ⊢
  generalize xs'.mapM id = ys' at hall ⊢
  cases hall with
  | ok hvs => exact .done hvs
  | error e => exact .raise

/-- **Related programs run alike** under handlers that answer related requests in
related states by related answers, and silent ones by values. -/
theorem Related.run {h h' : Handler Res ε σ} {S : σ → σ → Prop}
    (hanswer : ∀ r r' s s', R r r' → S s s' →
      A r r' (h r s).1 (h' r' s').1 ∧ S (h r s).2 (h' r' s').2)
    (hleft : ∀ r s s', Silent r → S s s' → (∃ a, (h r s).1 = .ok a) ∧ S (h r s).2 s')
    (hright : ∀ r s s', Silent r → S s s' → (∃ a, (h' r s').1 = .ok a) ∧ S s (h' r s').2)
    {p p' : Program Res ε α} (hp : Related Silent R A V p p') {s s' : σ} (hs : S s s') :
    RelatedResult V (Program.run h p s).1 (Program.run h' p' s').1 ∧
      S (Program.run h p s).2 (Program.run h' p' s').2 := by
  induction hp generalizing s s' with
  | done hv => exact ⟨.ok hv, hs⟩
  | raise => exact ⟨.error _, hs⟩
  | ask hr _ ih =>
      obtain ⟨ha, hs'⟩ := hanswer _ _ _ _ hr hs
      exact ih _ _ ha hs'
  | @left r k p' hr _ ih =>
      obtain ⟨⟨a, ha⟩, hs'⟩ := hleft r s s' hr hs
      rw [run_ask, ha]
      exact ih a hs'
  | @right p r k hr _ ih =>
      obtain ⟨⟨a, ha⟩, hs'⟩ := hright r s s' hr hs
      rw [run_ask, ha]
      exact ih a hs'

end Related

end Program
