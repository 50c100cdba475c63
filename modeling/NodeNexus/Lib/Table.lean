import Mathlib.Data.List.Basic
import Mathlib.Data.List.Nodup
import Mathlib.Tactic.Tauto

/-!
# Tables with a unique key

A `Table key` is a list of rows no two of which have the same key.  The
uniqueness is a field, so a table that breaks its unique index cannot be built,
and every operation comes with the proof that it keeps the index.

* `Table.find?` looks a row up by its key; `find?_eq_some` says that the row
  found is the one row with that key.
* `Table.put` inserts or replaces a row (`Table.putAll` a list of rows),
  `Table.erase` deletes by key,
  `Table.modify` rewrites one row and `Table.mapRows` all of them, `Table.keep`
  deletes by a condition, `Table.collect` rewrites or deletes.
* `Table.image` is the table of a part of each row, and commutes with them.
* Each operation has a `find?_…` lemma that says what a lookup gives
  afterwards, so that no proof about a store has to open the list.
-/

/-- Rows with pairwise different keys. -/
structure Table {κ ρ : Type} (key : ρ → κ) where
  /-- The rows, in the order a scan returns them. -/
  rows : List ρ
  /-- The unique index. -/
  nodup : (rows.map key).Nodup

namespace Table

variable {κ ρ : Type} {key : ρ → κ}

/-- The table without rows. -/
def empty : Table key := ⟨[], List.nodup_nil⟩

/-- Delete the rows that do not meet `p`. -/
def keep (t : Table key) (p : ρ → Bool) : Table key where
  rows := t.rows.filter p
  nodup := (List.Sublist.map key List.filter_sublist).nodup t.nodup

theorem mem_keep {t : Table key} {p : ρ → Bool} {r : ρ} :
    r ∈ (t.keep p).rows ↔ r ∈ t.rows ∧ p r = true :=
  List.mem_filter

theorem rows_nodup (t : Table key) : t.rows.Nodup :=
  List.Nodup.of_map key t.nodup

/-- Two rows with one key are one row. -/
theorem eq_of_key_eq (t : Table key) {r r' : ρ} (h : r ∈ t.rows) (h' : r' ∈ t.rows)
    (hk : key r = key r') : r = r' :=
  List.inj_on_of_nodup_map t.nodup h h' hk

/-- Rewrite every row; the new rows keep their keys. -/
def mapRows (t : Table key) (f : ρ → ρ) (hf : ∀ r, key (f r) = key r) : Table key where
  rows := t.rows.map f
  nodup := by
    have hkeys : (t.rows.map f).map key = t.rows.map key := by
      rw [List.map_map]
      exact List.map_congr_left fun r _ => hf r
    rw [hkeys]
    exact t.nodup

/-- Rewrite or delete every row; the rows that stay keep their keys. -/
def collect (t : Table key) (f : ρ → Option ρ) (hf : ∀ r r', f r = some r' → key r' = key r) :
    Table key where
  rows := t.rows.filterMap f
  nodup := by
    have hkeys : ((t.rows.filterMap f).map key).Sublist (t.rows.map key) := by
      induction t.rows with
      | nil => exact List.Sublist.slnil
      | cons r rows ih =>
          cases hr : f r with
          | none =>
              rw [List.filterMap_cons_none hr]
              exact ih.cons _
          | some r' =>
              rw [List.filterMap_cons_some hr, List.map_cons, List.map_cons, hf r r' hr]
              exact ih.cons_cons _
    exact hkeys.nodup t.nodup

/-- Deleting by a condition that all rows meet deletes nothing. -/
theorem keep_eq_self {t : Table key} {p : ρ → Bool} (h : ∀ r ∈ t.rows, p r = true) :
    t.keep p = t := by
  obtain ⟨rows, hnd⟩ := t
  have hrows : rows.filter p = rows := List.filter_eq_self.2 h
  simp only [keep, hrows]

/-- Rewriting rows into themselves changes nothing. -/
theorem mapRows_eq_self {t : Table key} {f : ρ → ρ} {hf : ∀ r, key (f r) = key r}
    (h : ∀ r ∈ t.rows, f r = r) : t.mapRows f hf = t := by
  obtain ⟨rows, hnd⟩ := t
  have hrows : rows.map f = rows := (List.map_congr_left h).trans (List.map_id rows)
  simp only [mapRows, hrows]

variable [DecidableEq κ]

/-- The row with a given key. -/
def find? (t : Table key) (k : κ) : Option ρ :=
  t.rows.find? fun r => decide (key r = k)

/-- Delete the row with a given key. -/
def erase (t : Table key) (k : κ) : Table key :=
  t.keep fun r => !decide (key r = k)

/-- Insert a row, in the place of the row with the same key if there is one. -/
def put (t : Table key) (r : ρ) : Table key where
  rows := (t.erase (key r)).rows ++ [r]
  nodup := by
    rw [List.map_append, List.nodup_append]
    refine ⟨(t.erase (key r)).nodup, List.nodup_singleton _, ?_⟩
    intro a ha b hb hab
    obtain ⟨x, hx, rfl⟩ := List.mem_map.1 ha
    have hne := (mem_keep.1 hx).2
    rw [List.map_singleton, List.mem_singleton] at hb
    simp [hab, hb] at hne

/-- Insert rows one after the other. -/
def putAll (t : Table key) (rs : List ρ) : Table key :=
  rs.foldl put t

/-- Rewrite the row with a given key; the new row keeps the key. -/
def modify (t : Table key) (k : κ) (f : ρ → ρ) (hf : ∀ r, key (f r) = key r) : Table key where
  rows := t.rows.map fun r => if key r = k then f r else r
  nodup := by
    have hkeys : (t.rows.map fun r => if key r = k then f r else r).map key = t.rows.map key := by
      rw [List.map_map]
      refine List.map_congr_left fun r _ => ?_
      by_cases h : key r = k
      · simp [h, hf]
      · simp [h]
    rw [hkeys]
    exact t.nodup

/-! ## Lookups -/

theorem find?_eq_some {t : Table key} {k : κ} {r : ρ} :
    t.find? k = some r ↔ r ∈ t.rows ∧ key r = k := by
  constructor
  · intro h
    exact ⟨List.mem_of_find?_eq_some h, by simpa using List.find?_some h⟩
  · rintro ⟨hr, rfl⟩
    cases h : t.find? (key r) with
    | none =>
        have hne := List.find?_eq_none.1 h r hr
        simp at hne
    | some r' =>
        have hr' : r' ∈ t.rows := List.mem_of_find?_eq_some h
        have hk : key r' = key r := by simpa using List.find?_some h
        rw [t.eq_of_key_eq hr' hr hk]

theorem find?_eq_none {t : Table key} {k : κ} :
    t.find? k = none ↔ ∀ r ∈ t.rows, key r ≠ k := by
  simp [find?, List.find?_eq_none]

theorem find?_of_mem {t : Table key} {r : ρ} (h : r ∈ t.rows) : t.find? (key r) = some r :=
  find?_eq_some.2 ⟨h, rfl⟩

theorem key_of_find? {t : Table key} {k : κ} {r : ρ} (h : t.find? k = some r) : key r = k :=
  (find?_eq_some.1 h).2

theorem mem_of_find? {t : Table key} {k : κ} {r : ρ} (h : t.find? k = some r) : r ∈ t.rows :=
  (find?_eq_some.1 h).1

/-- Two lookups agree when the two tables hold the same rows under that key. -/
theorem find?_congr {t t' : Table key} {k : κ}
    (h : ∀ r, key r = k → (r ∈ t.rows ↔ r ∈ t'.rows)) : t.find? k = t'.find? k := by
  refine Option.ext fun r => ?_
  rw [find?_eq_some, find?_eq_some]
  constructor
  · rintro ⟨hr, hk⟩; exact ⟨(h r hk).1 hr, hk⟩
  · rintro ⟨hr, hk⟩; exact ⟨(h r hk).2 hr, hk⟩

/-- With a unique index, the rows with a given key are those the lookup finds. -/
theorem filter_key (t : Table key) (k : κ) :
    (t.rows.filter fun r => decide (key r = k)) = (t.find? k).toList := by
  obtain ⟨rows, hnd⟩ := t
  simp only [find?]
  induction rows with
  | nil => rfl
  | cons r rs ih =>
      rw [List.map_cons, List.nodup_cons] at hnd
      by_cases h : key r = k
      · have hrs : (rs.filter fun x => decide (key x = k)) = [] := by
          rw [List.filter_eq_nil_iff]
          intro x hx hxk
          exact hnd.1 (List.mem_map.2 ⟨x, hx, by rw [h]; simpa using hxk⟩)
        simp [h, hrs]
      · simpa [h] using ih hnd.2

/-! ## Lookups after a write -/

@[simp] theorem find?_empty (k : κ) : (empty : Table key).find? k = none := rfl

theorem mem_erase {t : Table key} {k : κ} {r : ρ} :
    r ∈ (t.erase k).rows ↔ r ∈ t.rows ∧ key r ≠ k := by
  simp [erase, mem_keep]

theorem mem_put {t : Table key} {r x : ρ} :
    x ∈ (t.put r).rows ↔ x = r ∨ x ∈ t.rows ∧ key x ≠ key r := by
  simp [put, mem_erase, or_comm]

/-- A row under a new key comes after the others. -/
theorem rows_put_of_fresh {t : Table key} {r : ρ} (hfresh : ∀ x ∈ t.rows, key x ≠ key r) :
    (t.put r).rows = t.rows ++ [r] := by
  have herase : (t.erase (key r)).rows = t.rows := by
    refine List.filter_eq_self.2 fun x hx => ?_
    simpa using hfresh x hx
  show (t.erase (key r)).rows ++ [r] = _
  rw [herase]

/-- Rows under new and pairwise different keys come after the others. -/
theorem rows_putAll_of_fresh {t : Table key} {rs : List ρ} (hnew : (rs.map key).Nodup)
    (hfresh : ∀ r ∈ rs, ∀ x ∈ t.rows, key x ≠ key r) : (t.putAll rs).rows = t.rows ++ rs := by
  induction rs generalizing t with
  | nil => exact (List.append_nil _).symm
  | cons r rs ih =>
      rw [List.map_cons, List.nodup_cons] at hnew
      have hput := rows_put_of_fresh (hfresh r (List.mem_cons_self ..))
      have hfresh' : ∀ r' ∈ rs, ∀ y ∈ (t.put r).rows, key y ≠ key r' := by
        intro r' hr' y hy hk
        rw [hput] at hy
        rcases List.mem_append.1 hy with hy | hy
        · exact hfresh r' (List.mem_cons_of_mem _ hr') y hy hk
        · rw [List.mem_singleton.1 hy] at hk
          exact hnew.1 (hk ▸ List.mem_map_of_mem hr')
      show ((t.put r).putAll rs).rows = _
      rw [ih hnew.2 hfresh', hput, List.append_assoc]
      rfl

/-- Rows under new and pairwise different keys are added to what is there. -/
theorem mem_putAll {t : Table key} {rs : List ρ} (hnew : (rs.map key).Nodup)
    (hfresh : ∀ r ∈ rs, ∀ x ∈ t.rows, key x ≠ key r) {x : ρ} :
    x ∈ (t.putAll rs).rows ↔ x ∈ t.rows ∨ x ∈ rs := by
  rw [rows_putAll_of_fresh hnew hfresh, List.mem_append]

theorem mem_modify {t : Table key} {k : κ} {f : ρ → ρ} {hf : ∀ r, key (f r) = key r} {x : ρ} :
    x ∈ (t.modify k f hf).rows ↔ ∃ r ∈ t.rows, (if key r = k then f r else r) = x :=
  List.mem_map

theorem find?_erase (t : Table key) (k k' : κ) :
    (t.erase k).find? k' = if k' = k then none else t.find? k' := by
  by_cases h : k' = k
  · rw [if_pos h, find?_eq_none]
    intro r hr hk
    exact (mem_erase.1 hr).2 (hk.trans h)
  · rw [if_neg h]
    refine find?_congr fun r hk => ?_
    rw [mem_erase]
    exact ⟨fun hr => hr.1, fun hr => ⟨hr, fun hrk => h (hk.symm.trans hrk)⟩⟩

theorem find?_put (t : Table key) (r : ρ) (k : κ) :
    (t.put r).find? k = if k = key r then some r else t.find? k := by
  by_cases h : k = key r
  · rw [if_pos h, find?_eq_some]
    exact ⟨mem_put.2 (.inl rfl), h.symm⟩
  · rw [if_neg h]
    refine find?_congr fun x hk => ?_
    rw [mem_put]
    constructor
    · rintro (rfl | hx)
      · exact absurd hk.symm h
      · exact hx.1
    · exact fun hx => .inr ⟨hx, fun hxr => h (hk.symm.trans hxr)⟩

theorem find?_modify (t : Table key) (k : κ) (f : ρ → ρ) (hf : ∀ r, key (f r) = key r) (k' : κ) :
    (t.modify k f hf).find? k' = if k' = k then (t.find? k').map f else t.find? k' := by
  cases hfind : t.find? k' with
  | none =>
      have hnone : (t.modify k f hf).find? k' = none := by
        rw [find?_eq_none]
        intro x hx hk
        obtain ⟨r, hr, rfl⟩ := mem_modify.1 hx
        refine find?_eq_none.1 hfind r hr ?_
        split at hk
        · rw [← hf r]; exact hk
        · exact hk
      simp [hnone]
  | some r =>
      have hk := key_of_find? hfind
      have hr := mem_of_find? hfind
      have hsome : (t.modify k f hf).find? k' = some (if key r = k then f r else r) := by
        rw [find?_eq_some]
        refine ⟨mem_modify.2 ⟨r, hr, rfl⟩, ?_⟩
        split
        · rw [hf r]; exact hk
        · exact hk
      rw [hsome, hk]
      by_cases h : k' = k
      · simp [h]
      · simp [h]

/-! ## Tables of parts of the rows -/

section Image

variable {σ : Type} {key' : σ → κ}

/-- The table of what `f` shows of the rows; `f` shows their keys. -/
def image (t : Table key) (f : ρ → σ) (hf : ∀ r, key' (f r) = key r) : Table key' where
  rows := t.rows.map f
  nodup := by
    have hkeys : (t.rows.map f).map key' = t.rows.map key := by
      rw [List.map_map]
      exact List.map_congr_left fun r _ => hf r
    rw [hkeys]
    exact t.nodup

variable {f : ρ → σ} {hf : ∀ r, key' (f r) = key r}

theorem image_erase (t : Table key) (k : κ) : (t.erase k).image f hf = (t.image f hf).erase k := by
  obtain ⟨rows, hnd⟩ := t
  have hrows : (rows.filter fun r => !decide (key r = k)).map f =
      (rows.map f).filter fun r => !decide (key' r = k) := by
    rw [List.filter_map]
    simp [Function.comp_def, hf]
  simp only [image, erase, keep, hrows]

theorem image_put (t : Table key) (r : ρ) : (t.put r).image f hf = (t.image f hf).put (f r) := by
  have hrows : (t.erase (key r)).rows.map f = ((t.image f hf).erase (key' (f r))).rows := by
    rw [hf r, ← image_erase]
    rfl
  simp only [put, image, List.map_append, hrows]
  rfl

end Image

end Table
