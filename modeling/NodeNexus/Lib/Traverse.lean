import Mathlib.Data.List.Forall2

/-!
# Computations that return or raise

Fallible code is written in `Except`.  `Returns x` says that `x` does not
raise; the lemmas below take a computation apart into its steps, so that no
proof about a fallible function has to unfold the monad.

* `returns_bind` and `returns_mapM` — a sequence of steps returns when each
  step does.
* `bind_eq_ok`, `map_eq_ok` and `mapM_eq_ok_iff` — what the result is made of.
-/

section Traverse

variable {ε α β : Type}

/-- The computation does not raise. -/
def Returns (x : Except ε α) : Prop := ∃ a, x = .ok a

@[simp] theorem returns_ok (a : α) : Returns (.ok a : Except ε α) := ⟨a, rfl⟩

@[simp] theorem returns_pure (a : α) : Returns (pure a : Except ε α) := ⟨a, rfl⟩

@[simp] theorem not_returns_error (e : ε) : ¬ Returns (.error e : Except ε α) := by
  rintro ⟨a, h⟩
  cases h

theorem bind_eq_ok {x : Except ε α} {f : α → Except ε β} {b : β} :
    (x >>= f) = .ok b ↔ ∃ a, x = .ok a ∧ f a = .ok b := by
  cases x with
  | error e => simp [bind, Except.bind]
  | ok a => simp [bind, Except.bind]

theorem bind_eq_error {x : Except ε α} {f : α → Except ε β} {e : ε} :
    (x >>= f) = .error e ↔ x = .error e ∨ ∃ a, x = .ok a ∧ f a = .error e := by
  cases x with
  | error e => simp [bind, Except.bind]
  | ok a => simp [bind, Except.bind]

theorem bind_of_eq_ok {x : Except ε α} {f : α → Except ε β} {a : α} (h : x = .ok a) :
    (x >>= f) = f a := by
  rw [h]
  rfl

theorem map_eq_ok {x : Except ε α} {f : α → β} {b : β} :
    x.map f = .ok b ↔ ∃ a, x = .ok a ∧ f a = b := by
  cases x with
  | error e => simp [Except.map]
  | ok a => simp [Except.map]

theorem returns_map {x : Except ε α} {f : α → β} : Returns (x.map f) ↔ Returns x := by
  constructor
  · rintro ⟨b, h⟩
    obtain ⟨a, ha, -⟩ := map_eq_ok.1 h
    exact ⟨a, ha⟩
  · rintro ⟨a, rfl⟩
    exact ⟨f a, rfl⟩

theorem returns_bind {x : Except ε α} {f : α → Except ε β} :
    Returns (x >>= f) ↔ ∃ a, x = .ok a ∧ Returns (f a) := by
  unfold Returns
  constructor
  · rintro ⟨b, h⟩
    obtain ⟨a, hx, hf⟩ := bind_eq_ok.1 h
    exact ⟨a, hx, b, hf⟩
  · rintro ⟨a, hx, b, hf⟩
    exact ⟨b, bind_eq_ok.2 ⟨a, hx, hf⟩⟩

/-- A loop over a list returns the results of its rounds. -/
theorem mapM_eq_ok_iff {f : α → Except ε β} {xs : List α} {ys : List β} :
    xs.mapM f = .ok ys ↔ List.Forall₂ (fun x y => f x = .ok y) xs ys := by
  induction xs generalizing ys with
  | nil => cases ys <;> simp [pure, Except.pure]
  | cons x xs ih =>
      rw [List.mapM_cons, bind_eq_ok]
      constructor
      · rintro ⟨y, hy, h⟩
        obtain ⟨zs, hzs, hys⟩ := bind_eq_ok.1 h
        cases hys
        exact .cons hy (ih.1 hzs)
      · intro h
        cases h with
        | cons hy hys => exact ⟨_, hy, bind_eq_ok.2 ⟨_, ih.2 hys, rfl⟩⟩

/-- A loop over a list returns when every round does. -/
theorem returns_mapM {f : α → Except ε β} {xs : List α} :
    Returns (xs.mapM f) ↔ ∀ x ∈ xs, Returns (f x) := by
  induction xs with
  | nil => simp
  | cons x xs ih =>
      rw [List.mapM_cons, returns_bind, List.forall_mem_cons, ← ih]
      constructor
      · rintro ⟨y, hy, h⟩
        obtain ⟨ys, hys, -⟩ := returns_bind.1 h
        exact ⟨⟨y, hy⟩, ys, hys⟩
      · rintro ⟨⟨y, hy⟩, ys, hys⟩
        exact ⟨y, hy, returns_bind.2 ⟨ys, hys, returns_pure _⟩⟩

/-- What a loop raises is raised by a round. -/
theorem error_of_mapM {f : α → Except ε β} {p : ε → Prop} (hf : ∀ x e, f x = .error e → p e)
    {xs : List α} {e : ε} (h : xs.mapM f = .error e) : p e := by
  induction xs with
  | nil => cases h
  | cons x xs ih =>
      rw [List.mapM_cons] at h
      cases hx : f x with
      | error e' =>
          rw [hx] at h
          cases h
          exact hf x _ hx
      | ok y =>
          rw [hx] at h
          cases hxs : xs.mapM f with
          | error e' =>
              apply ih
              rw [hxs] at h ⊢
              exact h
          | ok ys =>
              rw [hxs] at h
              cases h

/-- Related lists: what is in the first has a partner in the second. -/
theorem exists_of_forall₂_left {R : α → β → Prop} {xs : List α} {ys : List β}
    (h : List.Forall₂ R xs ys) {x : α} (hx : x ∈ xs) : ∃ y ∈ ys, R x y := by
  induction h with
  | nil => cases hx
  | cons hxy _ ih =>
      rcases List.mem_cons.1 hx with rfl | hx
      · exact ⟨_, List.mem_cons_self .., hxy⟩
      · obtain ⟨y, hy, hR⟩ := ih hx
        exact ⟨y, List.mem_cons_of_mem _ hy, hR⟩

/-- Related lists: what is in the second has a partner in the first. -/
theorem exists_of_forall₂_right {R : α → β → Prop} {xs : List α} {ys : List β}
    (h : List.Forall₂ R xs ys) {y : β} (hy : y ∈ ys) : ∃ x ∈ xs, R x y :=
  exists_of_forall₂_left h.flip hy

/-- Related lists: what is at a position of the first has a partner there. -/
theorem getElem?_of_forall₂ {R : α → β → Prop} {xs : List α} {ys : List β}
    (h : List.Forall₂ R xs ys) {i : Nat} {x : α} (hx : xs[i]? = some x) :
    ∃ y, ys[i]? = some y ∧ R x y := by
  induction h generalizing i with
  | nil => cases hx
  | @cons a b as bs hab _ ih =>
      cases i with
      | zero =>
          cases hx
          exact ⟨b, rfl, hab⟩
      | succ i => exact ih hx

/-- Related lists, searched for tests that agree on related elements. -/
theorem rel_find?_of_forall₂ {R : α → β → Prop} {p : α → Bool} {q : β → Bool} {xs : List α}
    {ys : List β} (h : List.Forall₂ R xs ys) (hpq : ∀ x y, R x y → p x = q y) :
    Option.Rel R (xs.find? p) (ys.find? q) := by
  induction h with
  | nil => exact .none
  | @cons x y xs ys hxy _ ih =>
      rw [List.find?_cons, List.find?_cons, hpq x y hxy]
      cases q y with
      | true => exact .some hxy
      | false => exact ih

/-- A list after the element at a position of it has changed. -/
theorem getElem?_set_of_some {xs : List α} {i : Nat} {x y : α} (h : xs[i]? = some x) (j : Nat) :
    (xs.set i y)[j]? = if i = j then some y else xs[j]? := by
  have hlt : i < xs.length := (List.getElem?_eq_some_iff.1 h).1
  rw [List.getElem?_set, if_pos hlt]

/-- Every result of a loop is the result of a round. -/
theorem mem_of_mapM {f : α → Except ε β} {xs : List α} {ys : List β}
    (h : xs.mapM f = .ok ys) {y : β} (hy : y ∈ ys) : ∃ x ∈ xs, f x = .ok y :=
  exists_of_forall₂_right (mapM_eq_ok_iff.1 h) hy

/-- Loops whose rounds are the same. -/
theorem mapM_congr {μ : Type → Type} [Monad μ] [LawfulMonad μ] {f g : α → μ β} {xs : List α}
    (h : ∀ x ∈ xs, f x = g x) : xs.mapM f = xs.mapM g := by
  induction xs with
  | nil => rfl
  | cons x xs ih =>
      rw [List.mapM_cons, List.mapM_cons, h x (List.mem_cons_self ..),
        ih fun z hz => h z (List.mem_cons_of_mem _ hz)]

/-- The loop whose rounds all return, with its results. -/
theorem mapM_eq_ok_map {f : α → Except ε β} {g : α → β} {xs : List α}
    (h : ∀ x ∈ xs, f x = .ok (g x)) : xs.mapM f = .ok (xs.map g) := by
  rw [mapM_eq_ok_iff]
  induction xs with
  | nil => exact .nil
  | cons x xs ih =>
      exact .cons (h x (List.mem_cons_self ..))
        (ih fun z hz => h z (List.mem_cons_of_mem _ hz))

end Traverse
