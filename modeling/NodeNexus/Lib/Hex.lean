import Mathlib.Algebra.Ring.Nat
import Mathlib.Data.List.Basic

/-!
# Hexadecimal digits

Numbers as lower case hexadecimal digits, padded with zeros to a width.

* `hexPad` writes, `hexDigit?` and `ofHex` read.
* `ofHex_hexPad` — what is written reads back.
-/

/-- The lower case hexadecimal digits of `n`, at least `width` of them. -/
def hexPad (width n : Nat) : List Char :=
  let digits := Nat.toDigits 16 n
  List.replicate (width - digits.length) '0' ++ digits

/-- The value of a lower case hexadecimal digit. -/
def hexDigit? (c : Char) : Option Nat :=
  if '0' ≤ c ∧ c ≤ '9' then some (c.toNat - '0'.toNat)
  else if 'a' ≤ c ∧ c ≤ 'f' then some (c.toNat - 'a'.toNat + 10)
  else none

/-- The number with given digits. -/
def ofHex (digits : List Nat) : Nat :=
  digits.foldl (fun n d => 16 * n + d) 0

theorem hexDigit?_digitChar {d : Nat} (h : d < 16) : hexDigit? (Nat.digitChar d) = some d := by
  revert d
  decide

theorem digitChar_ne_dash {d : Nat} (h : d < 16) : Nat.digitChar d ≠ '-' := by
  revert d
  decide

theorem ofHex_append (ds es : List Nat) :
    ofHex (ds ++ es) = es.foldl (fun n d => 16 * n + d) (ofHex ds) := by
  unfold ofHex
  exact List.foldl_append

/-- The digits of a number read back; no other sign is among them. -/
theorem ofHex_toDigits (u : Nat) :
    ∃ ds, (Nat.toDigits 16 u).mapM hexDigit? = some ds ∧ ds.length = (Nat.toDigits 16 u).length ∧
      ofHex ds = u ∧ '-' ∉ Nat.toDigits 16 u := by
  induction u using Nat.strongRecOn with
  | _ u ih =>
      rw [Nat.toDigits_eq_if (by decide)]
      split
      · rename_i h
        refine ⟨[u], ?_, rfl, ?_, ?_⟩
        · simp [hexDigit?_digitChar h]
        · show 16 * 0 + u = u
          omega
        · rw [List.mem_singleton]
          exact (digitChar_ne_dash h).symm
      · rename_i h
        obtain ⟨ds, hds, hlen, hvalue, hdash⟩ := ih (u / 16) (by omega)
        have hlt : u % 16 < 16 := Nat.mod_lt u (by decide)
        refine ⟨ds ++ [u % 16], ?_, ?_, ?_, ?_⟩
        · rw [List.mapM_append, hds]
          simp [hexDigit?_digitChar hlt]
        · rw [List.length_append, List.length_append, hlen]
          rfl
        · rw [ofHex_append, hvalue]
          show 16 * (u / 16) + u % 16 = u
          omega
        · rw [List.mem_append, List.mem_singleton, not_or]
          exact ⟨hdash, (digitChar_ne_dash hlt).symm⟩

theorem mapM_replicate_zero (k : Nat) :
    (List.replicate k '0').mapM hexDigit? = some (List.replicate k 0) := by
  induction k with
  | zero => rfl
  | succ k ih =>
      rw [List.replicate_succ, List.mapM_cons, ih]
      rfl

theorem ofHex_replicate_zero (k : Nat) : ofHex (List.replicate k 0) = 0 := by
  induction k with
  | zero => rfl
  | succ k ih =>
      rw [List.replicate_succ]
      exact ih

/-- **Padded digits read back.** -/
theorem ofHex_hexPad (width u : Nat) :
    ∃ ds, (hexPad width u).mapM hexDigit? = some ds ∧ width ≤ ds.length ∧
      ofHex ds = u ∧ '-' ∉ hexPad width u := by
  obtain ⟨ds, hds, hlen, hvalue, hdash⟩ := ofHex_toDigits u
  unfold hexPad
  refine ⟨List.replicate (width - (Nat.toDigits 16 u).length) 0 ++ ds, ?_, ?_, ?_, ?_⟩
  · rw [List.mapM_append, mapM_replicate_zero, hds]
    rfl
  · rw [List.length_append, List.length_replicate, hlen]
    omega
  · rw [ofHex_append, ofHex_replicate_zero]
    exact hvalue
  · rw [List.mem_append, not_or]
    refine ⟨fun hmem => ?_, hdash⟩
    exact absurd (List.eq_of_mem_replicate hmem) (by decide)

/-! ## Which characters are written -/

theorem mem_toDigits {u : Nat} {c : Char} (h : c ∈ Nat.toDigits 16 u) :
    ∃ d < 16, c = Nat.digitChar d := by
  induction u using Nat.strongRecOn with
  | _ u ih =>
      rw [Nat.toDigits_eq_if (by decide)] at h
      split at h
      · rename_i hlt
        exact ⟨u, hlt, List.mem_singleton.1 h⟩
      · rcases List.mem_append.1 h with h | h
        · exact ih (u / 16) (by omega) h
        · exact ⟨u % 16, Nat.mod_lt u (by decide), List.mem_singleton.1 h⟩

theorem mem_hexPad {width u : Nat} {c : Char} (h : c ∈ hexPad width u) :
    ∃ d < 16, c = Nat.digitChar d := by
  unfold hexPad at h
  rcases List.mem_append.1 h with h | h
  · exact ⟨0, by decide, List.eq_of_mem_replicate h⟩
  · exact mem_toDigits h

/-- A number that fits has exactly as many digits as asked for. -/
theorem length_hexPad {width u : Nat} (hw : 0 < width) (h : u < 16 ^ width) :
    (hexPad width u).length = width := by
  have hle := (Nat.length_toDigits_le_iff (by decide) hw).2 h
  unfold hexPad
  rw [List.length_append, List.length_replicate]
  omega
