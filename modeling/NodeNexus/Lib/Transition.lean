import Mathlib.Data.List.Induction
import Mathlib.Logic.Relation

/-!
# Systems of labelled steps

Everything in this project that runs in an interleaving is written as a
`System`: a set of initial states and a partial function `step` that says what
one event does to a state, or that the event cannot happen there.  This file
collects what every such system shares.

* `System.Reach C` — the states a run can reach when every step of the run
  meets the condition `C` (a relation between the state before the step and
  the event).  `System.Reachable` is the unconditional case.
* `System.Reach.invariant` — the induction every safety proof goes through.
* `System.exec` — running a fixed list of events, so that a concrete run can be
  computed, with `System.reachable_of_exec` turning the result into a reachable
  state, and `System.Reach.exec_of_checks` into one that is reached under a
  condition that can be checked.
* `forall_prefix_iff` — where every event can happen in every state, a property
  holds all along a run exactly when every step of it is one that keeps the
  property.
-/

/-- A system of labelled steps over states `σ` and events `ε`. -/
structure System (σ ε : Type) where
  /-- The states a run may start in. -/
  init : σ → Prop
  /-- What an event does to a state; `none` when the event cannot happen. -/
  step : σ → ε → Option σ

namespace System

variable {σ ε : Type} {M : System σ ε}

/-- The states reached by the runs all of whose steps meet the condition `C`. -/
inductive Reach (M : System σ ε) (C : σ → ε → Prop) : σ → Prop
  /-- A run may stop where it starts. -/
  | start {s : σ} : M.init s → Reach M C s
  /-- A run may be prolonged by a step that meets the condition. -/
  | next {s s' : σ} {e : ε} : Reach M C s → C s e → M.step s e = some s' → Reach M C s'

/-- The condition every step meets. -/
def anyStep : σ → ε → Prop := fun _ _ => True

/-- The states reached by some run. -/
abbrev Reachable (M : System σ ε) : σ → Prop := M.Reach anyStep

/-- A property that holds initially and is kept by every step meeting the
condition holds in every state such a run reaches. -/
theorem Reach.invariant {C : σ → ε → Prop} {I : σ → Prop} {s : σ} (h : M.Reach C s)
    (h₀ : ∀ s, M.init s → I s)
    (hstep : ∀ s e s', I s → C s e → M.step s e = some s' → I s') : I s := by
  induction h with
  | start hi => exact h₀ _ hi
  | next _ hc hs ih => exact hstep _ _ _ ih hc hs

/-- A weaker condition allows more runs. -/
theorem Reach.mono {C D : σ → ε → Prop} (hCD : ∀ s e, C s e → D s e) {s : σ}
    (h : M.Reach C s) : M.Reach D s := by
  induction h with
  | start hi => exact .start hi
  | next _ hc hs ih => exact .next ih (hCD _ _ hc) hs

/-- Every state of a conditioned run is reachable. -/
theorem Reach.reachable {C : σ → ε → Prop} {s : σ} (h : M.Reach C s) : M.Reachable s :=
  h.mono fun _ _ _ => trivial

/-- Run a list of events; `none` as soon as one of them cannot happen. -/
def exec (M : System σ ε) : σ → List ε → Option σ
  | s, [] => some s
  | s, e :: es => (M.step s e).bind fun s' => M.exec s' es

/-- A run is prolonged by one more event. -/
theorem exec_concat {s s' t : σ} {es : List ε} {e : ε} (h : M.exec s es = some s')
    (hstep : M.step s' e = some t) : M.exec s (es ++ [e]) = some t := by
  induction es generalizing s with
  | nil =>
      cases h
      rw [List.nil_append, System.exec, hstep]
      rfl
  | cons e' es ih =>
      obtain ⟨s'', hs, hrest⟩ := Option.bind_eq_some_iff.1 h
      rw [List.cons_append, System.exec, hs]
      exact ih hrest

/-- Executing events that meet the condition in whatever state they happen
prolongs a run. -/
theorem Reach.exec_of {C : σ → ε → Prop} {s s' : σ} {es : List ε} (h : M.Reach C s)
    (hC : ∀ e ∈ es, ∀ t, C t e) (he : M.exec s es = some s') : M.Reach C s' := by
  induction es generalizing s with
  | nil => cases he; exact h
  | cons e es ih =>
      rw [System.exec, Option.bind_eq_some_iff] at he
      obtain ⟨t, ht, hts⟩ := he
      exact ih (.next h (hC e (List.mem_cons_self ..) s) ht)
        (fun e' he' => hC e' (List.mem_cons_of_mem _ he')) hts

/-- Executing events from a reachable state reaches a reachable state. -/
theorem Reach.exec {s s' : σ} {es : List ε} (h : M.Reachable s) (he : M.exec s es = some s') :
    M.Reachable s' :=
  h.exec_of (fun _ _ _ => trivial) he

/-- Does every event of a run pass a check in the state where it happens? -/
def checks (M : System σ ε) (ok : σ → ε → Bool) : σ → List ε → Bool
  | _, [] => true
  | s, e :: es => ok s e && (M.step s e).all fun s' => M.checks ok s' es

/-- Executing events that pass a check for the condition prolongs a run. -/
theorem Reach.exec_of_checks {C : σ → ε → Prop} {ok : σ → ε → Bool}
    (hok : ∀ s e, ok s e = true → C s e) {s t : σ} {es : List ε} (h : M.Reach C s)
    (he : M.exec s es = some t) (hchecks : M.checks ok s es = true) : M.Reach C t := by
  induction es generalizing s with
  | nil => cases he; exact h
  | cons e es ih =>
      obtain ⟨s', hs, hrest⟩ := Option.bind_eq_some_iff.1 he
      rw [checks, hs, Option.all_some, Bool.and_eq_true] at hchecks
      exact ih (.next h (hok s e hchecks.1) hs) hrest hchecks.2

/-- What a list of events computes from an initial state is reachable. -/
theorem reachable_of_exec {s s' : σ} {es : List ε} (h : M.init s) (he : M.exec s es = some s') :
    M.Reachable s' :=
  Reach.exec (.start h) he

end System

/-! ## Steps that can always happen -/

section Total

variable {σ ε : Type} {step : σ → ε → σ} {I P : σ → Prop} {Safe : σ → ε → Prop} {s : σ}

/-- **A property holds all along a run** exactly when all steps of the run are
safe, where a safe step is one that keeps the property. -/
theorem forall_prefix_iff (hI : I s) (hP : P s) (hstep : ∀ s e, I s → I (step s e))
    (hsafe : ∀ s e, I s → P s → (P (step s e) ↔ Safe s e)) (es : List ε) :
    (∀ front, front <+: es → P (front.foldl step s)) ↔
      ∀ front e, front ++ [e] <+: es → Safe (front.foldl step s) e := by
  have hinv : ∀ front : List ε, I (front.foldl step s) := fun front =>
    List.foldlRecOn front step hI fun s hs e _ => hstep s e hs
  constructor
  · intro h front e hfront
    have hbefore : P (front.foldl step s) := h front ((List.prefix_append front [e]).trans hfront)
    have hafter := h _ hfront
    rw [List.foldl_append] at hafter
    exact (hsafe _ e (hinv front) hbefore).1 hafter
  · intro h front
    induction front using List.reverseRecOn with
    | nil => exact fun _ => hP
    | append_singleton front e ih =>
        intro hfront
        have hbefore := ih ((List.prefix_append front [e]).trans hfront)
        rw [List.foldl_append]
        exact (hsafe _ e (hinv front) hbefore).2 (h front e hfront)

end Total
