import Mathlib.Algebra.Ring.Nat
import NodeNexus.Lib.Transition

/-!
# What a run can spend

A run of a system is watched: an observer of type `ω` looks at each event, in the
state where it happens, and some events cost something.

* `System.spent` — what the events of a run cost together.
* `System.earned` — what some events of the run bring in.
* `spent_add_le` — when a potential pays for every step that costs, out of what
  the steps bring in, a run costs no more than the potential it starts with and
  what it earns, less the potential it ends with.
* `System.watched` — what the observer knows at the end of the run.
-/

namespace System

variable {σ ε ω : Type} {M : System σ ε} {look : σ → ε → ω → ω} {cost : σ → ω → ε → Nat}

/-- The cost of a run that starts in `s`, as far as the run goes. -/
def spent (M : System σ ε) (look : σ → ε → ω → ω) (cost : σ → ω → ε → Nat) :
    σ → ω → List ε → Nat
  | _, _, [] => 0
  | s, o, e :: es =>
      match M.step s e with
      | none => 0
      | some s' => cost s o e + spent M look cost s' (look s e o) es

/-- What the events of a run bring in. -/
def earned (income : ε → Nat) (es : List ε) : Nat := (es.map income).sum

/-- What the observer knows after a run. -/
def watched (M : System σ ε) (look : σ → ε → ω → ω) : σ → ω → List ε → ω
  | _, o, [] => o
  | s, o, e :: es =>
      match M.step s e with
      | none => o
      | some s' => watched M look s' (look s e o) es

theorem exec_cons_eq_some {s t : σ} {e : ε} {es : List ε} :
    M.exec s (e :: es) = some t ↔ ∃ s', M.step s e = some s' ∧ M.exec s' es = some t := by
  rw [exec, Option.bind_eq_some_iff]

theorem spent_cons {s s' : σ} {o : ω} {e : ε} {es : List ε} (h : M.step s e = some s') :
    M.spent look cost s o (e :: es) = cost s o e + M.spent look cost s' (look s e o) es := by
  simp only [spent, h]

theorem watched_cons {s s' : σ} {o : ω} {e : ε} {es : List ε} (h : M.step s e = some s') :
    M.watched look s o (e :: es) = M.watched look s' (look s e o) es := by
  simp only [watched, h]

theorem earned_cons (income : ε → Nat) (e : ε) (es : List ε) :
    earned income (e :: es) = income e + earned income es := by
  simp [earned]

/-- What holds of a state, and is kept by every event, holds at the end of a run. -/
theorem exec_invariant {I : σ → Prop} (hstep : ∀ s e s', I s → M.step s e = some s' → I s')
    {s t : σ} {es : List ε} (hI : I s) (h : M.exec s es = some t) : I t := by
  induction es generalizing s with
  | nil =>
      cases h
      exact hI
  | cons e es ih =>
      obtain ⟨s', hs, h⟩ := exec_cons_eq_some.1 h
      exact ih (hstep s e s' hI hs) h

/-- What is known of a state and of the observer, and kept by every event, is
known at the end of a run. -/
theorem watched_invariant {I : σ → ω → Prop}
    (hstep : ∀ s o e s', I s o → M.step s e = some s' → I s' (look s e o))
    {s t : σ} {o : ω} {es : List ε} (hI : I s o)
    (h : M.exec s es = some t) : I t (M.watched look s o es) := by
  induction es generalizing s o with
  | nil =>
      cases h
      exact hI
  | cons e es ih =>
      obtain ⟨s', hs, h⟩ := exec_cons_eq_some.1 h
      rw [watched_cons hs]
      exact ih (hstep s o e s' hI hs) h

/-- **A potential that pays for every step pays for the run.** -/
theorem spent_add_le {I : σ → ω → Prop} (potential : σ → ω → Nat) (income : ε → Nat)
    (hstep : ∀ s o e s', I s o → M.step s e = some s' → I s' (look s e o))
    (hpays : ∀ s o e s', I s o → M.step s e = some s' →
      cost s o e + potential s' (look s e o) ≤ potential s o + income e)
    {s t : σ} {o : ω} {es : List ε} (hI : I s o) (h : M.exec s es = some t) :
    M.spent look cost s o es + potential t (M.watched look s o es) ≤
      potential s o + earned income es := by
  induction es generalizing s o with
  | nil =>
      cases h
      simp [spent, watched, earned]
  | cons e es ih =>
      obtain ⟨s', hs, h⟩ := exec_cons_eq_some.1 h
      have hpaid := hpays s o e s' hI hs
      have hrest := ih (hstep s o e s' hI hs) h
      rw [spent_cons hs, watched_cons hs, earned_cons]
      omega

end System
