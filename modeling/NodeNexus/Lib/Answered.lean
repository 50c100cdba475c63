import NodeNexus.Lib.Program

/-!
# Programs with fixed answers

An environment that answers each request in one way, exceptions included.  What a program
comes to in it is a map of monads, so it can be read off the program.

* `Program.answered` — the result of a program; the `answered_…` lemmas follow the program.
* `Program.noted` — what is noted of the answers that it got; the `noted_…` lemmas do so too.
* `Program.run_noting` — a run against a handler that notes its answers has this result, and
  adds these notes.
-/

namespace Program

variable {ρ : Type} {Res : ρ → Type} {ε α β γ τ : Type}

/-- The result of a program whose requests have fixed answers. -/
def answered (answers : (r : ρ) → Except ε (Res r)) : Program Res ε α → Except ε α
  | done a => .ok a
  | raise e => .error e
  | ask r k => answered answers (k (answers r))

/-- What is noted of the answers, in the order of the requests. -/
def noted (note : (r : ρ) → Except ε (Res r) → List τ) (answers : (r : ρ) → Except ε (Res r)) :
    Program Res ε α → List τ
  | done _ => []
  | raise _ => []
  | ask r k => note r (answers r) ++ noted note answers (k (answers r))

/-- The handler that answers so, and notes it. -/
def noting (note : (r : ρ) → Except ε (Res r) → List τ) (answers : (r : ρ) → Except ε (Res r)) :
    Handler Res ε (List τ) :=
  fun r log => (answers r, log ++ note r (answers r))

variable {note : (r : ρ) → Except ε (Res r) → List τ} {answers : (r : ρ) → Except ε (Res r)}
  {p : Program Res ε α} {f : α → Program Res ε β}

/-- **A run has the result of the program, and adds its notes.** -/
theorem run_noting (log : List τ) :
    run (noting note answers) p log = (answered answers p, log ++ noted note answers p) := by
  induction p generalizing log with
  | done a => rw [run_done, answered, noted, List.append_nil]
  | raise e => rw [run_raise, answered, noted, List.append_nil]
  | ask r k ih => rw [run_ask, answered, noted, ← List.append_assoc]; exact ih _ _

/-! ## Results -/

@[simp] theorem answered_done (a : α) : answered answers (done a : Program Res ε α) = .ok a := rfl

@[simp] theorem answered_pure (a : α) : answered answers (pure a : Program Res ε α) = .ok a := rfl

@[simp] theorem answered_raise (e : ε) :
    answered answers (raise e : Program Res ε α) = .error e := rfl

@[simp] theorem answered_bind :
    answered answers (p >>= f) = answered answers p >>= fun a => answered answers (f a) := by
  induction p with
  | done a => rfl
  | raise e => rfl
  | ask r k ih => exact ih _

@[simp] theorem answered_attempt : answered answers p.attempt = .ok (answered answers p) := by
  induction p with
  | done a => rfl
  | raise e => rfl
  | ask r k ih => exact ih _

@[simp] theorem answered_call (r : ρ) : answered answers (call r) = answers r := by
  unfold call answered
  cases answers r <;> rfl

@[simp] theorem answered_each (ps : List (Program Res ε α)) :
    answered answers (each ps) = .ok (ps.map (answered answers)) := by
  induction ps with
  | nil => rfl
  | cons p ps ih =>
      unfold each
      rw [answered_bind, answered_attempt]
      show answered answers (each ps >>= _) = _
      rw [answered_bind, ih]
      rfl

@[simp] theorem answered_gather (g : γ → Program Res ε α) (cs : List γ) :
    answered answers (gather (cs.map g)) = cs.mapM fun c => answered answers (g c) := by
  have hmap : (cs.map (answered answers ∘ g)).mapM id =
      cs.mapM fun c => answered answers (g c) := by
    rw [List.mapM_map]
    rfl
  unfold gather
  rw [answered_bind, answered_each, List.map_map, ← hmap]
  dsimp only [Bind.bind, Except.bind]
  cases (cs.map (answered answers ∘ g)).mapM id <;> rfl

/-! ## Notes -/

@[simp] theorem noted_done (a : α) : noted note answers (done a : Program Res ε α) = [] := rfl

@[simp] theorem noted_pure (a : α) : noted note answers (pure a : Program Res ε α) = [] := rfl

@[simp] theorem noted_raise (e : ε) : noted note answers (raise e : Program Res ε α) = [] := rfl

/-- The second part of a sequence is noted where the first one returns. -/
theorem noted_bind : noted note answers (p >>= f) = noted note answers p ++
    match answered answers p with
    | .ok a => noted note answers (f a)
    | .error _ => [] := by
  induction p with
  | done a => rfl
  | raise e => rfl
  | ask r k ih =>
      rw [ask_bind, noted, noted, answered, ih, List.append_assoc]

@[simp] theorem noted_attempt : noted note answers p.attempt = noted note answers p := by
  induction p with
  | done a => rfl
  | raise e => rfl
  | ask r k ih => rw [attempt_ask, noted, noted, ih]

@[simp] theorem noted_call (r : ρ) : noted note answers (call r) = note r (answers r) := by
  unfold call noted
  cases answers r <;> exact List.append_nil _

theorem noted_each (g : γ → Program Res ε α) (cs : List γ) :
    noted note answers (each (cs.map g)) = cs.flatMap fun c => noted note answers (g c) := by
  induction cs with
  | nil => rfl
  | cons c cs ih =>
      rw [List.map_cons, each, noted_bind, noted_attempt, answered_attempt, List.flatMap_cons]
      show _ ++ noted note answers (each (cs.map g) >>= _) = _
      rw [noted_bind, ih, answered_each]
      exact congrArg _ (List.append_nil _)

/-- Gathered programs are noted one after the other. -/
theorem noted_gather (g : γ → Program Res ε α) (cs : List γ) :
    noted note answers (gather (cs.map g)) = cs.flatMap fun c => noted note answers (g c) := by
  unfold gather
  rw [noted_bind, noted_each, answered_each]
  dsimp only
  cases ((cs.map g).map (answered answers)).mapM id <;> exact List.append_nil _

/-- What holds of all notes of the kinds of requests that a program asks. -/
theorem Asks.forall_noted {P : ρ → Prop} {Q : τ → Prop} (hp : Asks P p)
    (hP : ∀ r x, P r → ∀ n ∈ note r x, Q n) : ∀ n ∈ noted note answers p, Q n := by
  induction hp with
  | done a => exact fun n hn => absurd hn List.not_mem_nil
  | raise e => exact fun n hn => absurd hn List.not_mem_nil
  | ask hr _ ih =>
      intro n hn
      rw [noted] at hn
      cases List.mem_append.1 hn with
      | inl hfirst => exact hP _ _ hr n hfirst
      | inr hrest => exact ih _ n hrest

/-- What holds of all notes of a sequence. -/
theorem forall_noted_bind {Q : τ → Prop} (hp : ∀ n ∈ noted note answers p, Q n)
    (hf : ∀ a, answered answers p = .ok a → ∀ n ∈ noted note answers (f a), Q n) :
    ∀ n ∈ noted note answers (p >>= f), Q n := by
  intro n hn
  rw [noted_bind, List.mem_append] at hn
  rcases hn with hn | hn
  · exact hp n hn
  · split at hn
    · rename_i a ha
      exact hf a ha n hn
    · cases hn

/-- Where nothing that a program asks is noted. -/
theorem Asks.noted_eq_nil {P : ρ → Prop} (hp : Asks P p) (hP : ∀ r x, P r → note r x = []) :
    noted note answers p = [] := by
  refine List.eq_nil_iff_forall_not_mem.2 (hp.forall_noted fun r x hr n hn => ?_)
  rw [hP r x hr] at hn
  exact List.not_mem_nil hn

theorem noted_bind_ne_nil_left (hp : noted note answers p ≠ []) :
    noted note answers (p >>= f) ≠ [] := by
  rw [noted_bind]
  exact List.append_ne_nil_of_left_ne_nil hp _

/-- What is noted of a second part that is come to. -/
theorem noted_bind_ne_nil_right {a : α} (hp : answered answers p = .ok a)
    (hf : noted note answers (f a) ≠ []) : noted note answers (p >>= f) ≠ [] := by
  rw [noted_bind, hp]
  exact List.append_ne_nil_of_right_ne_nil _ hf

/-- A first part of which nothing is noted. -/
theorem noted_bind_of_nil (hp : noted note answers p = []) : noted note answers (p >>= f) =
    match answered answers p with
    | .ok a => noted note answers (f a)
    | .error _ => [] := by
  rw [noted_bind, hp, List.nil_append]

/-- A second part of which nothing is noted. -/
theorem noted_bind_left (hf : ∀ a, noted note answers (f a) = []) :
    noted note answers (p >>= f) = noted note answers p := by
  rw [noted_bind]
  cases answered answers p with
  | ok a =>
      show _ ++ noted note answers (f a) = _
      rw [hf, List.append_nil]
  | error e => exact List.append_nil _

end Program
