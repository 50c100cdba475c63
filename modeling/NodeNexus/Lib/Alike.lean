import NodeNexus.Lib.Traverse

/-!
# Two runs that raise alike

Two runs of a fallible computation may raise exceptions that an observer must not tell apart.

* `Alike R V` — both return values that `V` relates, or raise exceptions that `R` relates.
* `Alike.bind` and `Alike.mapM` — computations that are made of alike steps are alike.
* `Alike.eq_of_fixed` — they are even equal where the relations leave no choice.
* `mapError_bind`, `mapError_mapM` — a computation whose steps all raise something else.
-/

section Alike

variable {ε α β γ δ : Type} {R : ε → ε → Prop} {V : α → β → Prop} {W : γ → δ → Prop}

/-- Related values, or related exceptions. -/
inductive Alike (R : ε → ε → Prop) (V : α → β → Prop) : Except ε α → Except ε β → Prop
  | ok {a : α} {b : β} (h : V a b) : Alike R V (.ok a) (.ok b)
  | error {e e' : ε} (h : R e e') : Alike R V (.error e) (.error e')

/-- The second steps are alike for the values that the first ones return. -/
theorem Alike.bind_of_ok {x : Except ε α} {y : Except ε β} {f : α → Except ε γ}
    {g : β → Except ε δ} (hx : Alike R V x y)
    (hf : ∀ a b, x = .ok a → y = .ok b → V a b → Alike R W (f a) (g b)) :
    Alike R W (x >>= f) (y >>= g) := by
  cases hx with
  | ok h => exact hf _ _ rfl rfl h
  | error h => exact .error h

theorem Alike.bind {x : Except ε α} {y : Except ε β} {f : α → Except ε γ} {g : β → Except ε δ}
    (hx : Alike R V x y) (hf : ∀ a b, V a b → Alike R W (f a) (g b)) :
    Alike R W (x >>= f) (y >>= g) :=
  hx.bind_of_ok fun a b _ _ hab => hf a b hab

theorem Alike.mapM {f : γ → Except ε α} {g : γ → Except ε β} (hf : ∀ c, Alike R V (f c) (g c))
    (cs : List γ) : Alike R (List.Forall₂ V) (cs.mapM f) (cs.mapM g) := by
  induction cs with
  | nil => exact .ok .nil
  | cons c cs ih =>
      rw [List.mapM_cons, List.mapM_cons]
      apply (hf c).bind
      intro a b hab
      apply ih.bind
      intro as bs has
      exact .ok (.cons hab has)

/-- Alike computations are equal where the relation fixes what the first one raises. -/
theorem Alike.eq_of_fixed {x x' : Except ε α} (hx : Alike R Eq x x')
    (hfixed : ∀ e e', x = .error e → R e e' → e = e') : x = x' := by
  cases hx with
  | ok h => rw [h]
  | error h => rw [hfixed _ _ rfl h]

/-- The same value on both sides. -/
theorem Alike.eq_ok {x x' : Except ε α} (hx : Alike R Eq x x') {a : α} (h : x = .ok a) :
    x' = .ok a := by
  cases hx with
  | ok hab =>
      rw [← hab]
      exact h
  | error he => cases h

theorem alike_mapError {g : ε → ε} (hg : ∀ e, R e (g e)) (x : Except ε α) :
    Alike R Eq x (x.mapError g) := by
  cases x with
  | ok a => exact .ok rfl
  | error e => exact .error (hg e)

theorem mapError_bind (g : ε → ε) (x : Except ε α) (f : α → Except ε γ) :
    (x >>= f).mapError g = x.mapError g >>= fun a => (f a).mapError g := by
  cases x <;> rfl

theorem mapError_mapM (g : ε → ε) (f : γ → Except ε α) (cs : List γ) :
    (cs.mapM f).mapError g = cs.mapM fun c => (f c).mapError g := by
  induction cs with
  | nil => rfl
  | cons c cs ih =>
      simp only [List.mapM_cons, mapError_bind, ih]
      rfl

/-- A loop whose rounds keep nothing of what they return. -/
theorem mapM_map_const (f : γ → Except ε α) (g : γ → δ) (cs : List γ) :
    (cs.mapM fun c => (f c).map fun _ => g c) = (cs.mapM f).map fun _ => cs.map g := by
  induction cs with
  | nil => rfl
  | cons c cs ih =>
      rw [List.mapM_cons, List.mapM_cons, ih]
      cases f c with
      | error e => rfl
      | ok a => cases cs.mapM f <;> rfl

end Alike
