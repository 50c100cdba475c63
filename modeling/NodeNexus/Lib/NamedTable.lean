import Mathlib.Data.List.Nodup

/-!
# Tables with ids and unique names

A `NamedTable id name` is a list of rows in the order in which they were
inserted.  Ids are drawn from a counter, and no two rows have the same name; both
are fields, so a table that breaks one of its indexes cannot be built.

* `NamedTable.insert?` inserts a row with a drawn id, unless its name is taken;
  `insert?_eq_some` says what comes out.
* `NamedTable.find?` looks a row up by its id, `NamedTable.replace?` puts another
  row in its place, `NamedTable.erase` deletes it.
-/

/-- Rows with drawn ids and pairwise different names. -/
structure NamedTable {ν ρ : Type} (id : ρ → Nat) (name : ρ → ν) where
  /-- The rows, in the order of their insertion. -/
  rows : List ρ
  /-- The next id. -/
  nextId : Nat
  /-- The primary key. -/
  ids_nodup : (rows.map id).Nodup
  /-- The unique index on the name. -/
  names_nodup : (rows.map name).Nodup
  /-- Every id was drawn. -/
  drawn : ∀ r ∈ rows, id r < nextId

namespace NamedTable

variable {ν ρ : Type} {id : ρ → Nat} {name : ρ → ν}

/-- The table without rows. -/
def empty (nextId : Nat) : NamedTable id name :=
  ⟨[], nextId, List.nodup_nil, List.nodup_nil, fun _ h => absurd h List.not_mem_nil⟩

/-- The names in a table. -/
def names (t : NamedTable id name) : List ν := t.rows.map name

theorem mem_names {t : NamedTable id name} {n : ν} : n ∈ t.names ↔ ∃ r ∈ t.rows, name r = n :=
  List.mem_map

theorem rows_nodup (t : NamedTable id name) : t.rows.Nodup :=
  List.Nodup.of_map id t.ids_nodup

/-- Two rows with one name are one row. -/
theorem eq_of_name_eq (t : NamedTable id name) {r r' : ρ} (h : r ∈ t.rows) (h' : r' ∈ t.rows)
    (hname : name r = name r') : r = r' :=
  List.inj_on_of_nodup_map t.names_nodup h h' hname

/-- A new row behind the others. -/
def append (t : NamedTable id name) (r : ρ) (hid : id r = t.nextId) (hname : name r ∉ t.names) :
    NamedTable id name where
  rows := t.rows ++ [r]
  nextId := t.nextId + 1
  ids_nodup := by
    rw [List.map_append, List.map_singleton]
    refine List.nodup_append'.2 ⟨t.ids_nodup, List.nodup_singleton _, ?_⟩
    rw [List.disjoint_singleton]
    intro hmem
    obtain ⟨x, hx, hxid⟩ := List.mem_map.1 hmem
    exact absurd (hxid.trans hid) (Nat.ne_of_lt (t.drawn x hx))
  names_nodup := by
    rw [List.map_append, List.map_singleton]
    refine List.nodup_append'.2 ⟨t.names_nodup, List.nodup_singleton _, ?_⟩
    rw [List.disjoint_singleton]
    exact hname
  drawn := by
    intro x hx
    rcases List.mem_append.1 hx with hx | hx
    · exact Nat.lt_succ_of_lt (t.drawn x hx)
    · rw [List.mem_singleton.1 hx, hid]
      exact Nat.lt_succ_self _

variable [DecidableEq ν]

/-- Insert a row with the next id; `none` when its name is taken. -/
def insert? (t : NamedTable id name) (r : ρ) (hid : id r = t.nextId) :
    Option (NamedTable id name) :=
  if hname : name r ∈ t.names then none else some (t.append r hid hname)

theorem insert?_eq_some {t t' : NamedTable id name} {r : ρ} {hid : id r = t.nextId} :
    t.insert? r hid = some t' ↔
      name r ∉ t.names ∧ t'.rows = t.rows ++ [r] ∧ t'.nextId = t.nextId + 1 := by
  unfold insert?
  split
  · rename_i hname
    constructor
    · intro h
      cases h
    · exact fun h => absurd hname h.1
  · rename_i hname
    rw [Option.some.injEq]
    constructor
    · rintro rfl
      exact ⟨hname, rfl, rfl⟩
    · rintro ⟨-, hrows, hnext⟩
      obtain ⟨rows, nextId, hids, hnames, hdrawn⟩ := t'
      simp only at hrows hnext
      subst hrows hnext
      rfl

/-! ## Single rows -/

omit [DecidableEq ν] in
/-- The row with an id. -/
def find? (t : NamedTable id name) (i : Nat) : Option ρ :=
  t.rows.find? fun r => decide (id r = i)

omit [DecidableEq ν] in
theorem eq_of_id_eq (t : NamedTable id name) {r r' : ρ} (h : r ∈ t.rows) (h' : r' ∈ t.rows)
    (hid : id r = id r') : r = r' :=
  List.inj_on_of_nodup_map t.ids_nodup h h' hid

omit [DecidableEq ν] in
theorem find?_eq_some {t : NamedTable id name} {i : Nat} {r : ρ} :
    t.find? i = some r ↔ r ∈ t.rows ∧ id r = i := by
  unfold find?
  constructor
  · intro h
    exact ⟨List.mem_of_find?_eq_some h, by simpa using List.find?_some h⟩
  · rintro ⟨hr, hid⟩
    cases hfind : t.rows.find? fun r => decide (id r = i) with
    | none => exact absurd (decide_eq_true hid) (List.find?_eq_none.1 hfind r hr)
    | some r' =>
        have hid' : id r' = i := by simpa using List.find?_some hfind
        rw [t.eq_of_id_eq (List.mem_of_find?_eq_some hfind) hr (hid'.trans hid.symm)]

/-- The rows with another one in the place of the one with its id. -/
def replaced (t : NamedTable id name) (new : ρ) : List ρ :=
  t.rows.map fun r => if id r = id new then new else r

omit [DecidableEq ν] in
theorem ids_replaced (t : NamedTable id name) (new : ρ) :
    (t.replaced new).map id = t.rows.map id := by
  unfold replaced
  rw [List.map_map]
  refine List.map_congr_left fun r _ => ?_
  show id (if id r = id new then new else r) = id r
  split
  · rename_i h
    exact h.symm
  · rfl

/-- Put a row in the place of the one with its id; `none` when another row has its
name. -/
def replace? (t : NamedTable id name) (new : ρ) : Option (NamedTable id name) :=
  if h : ((t.replaced new).map name).Nodup then
    some
      { rows := t.replaced new
        nextId := t.nextId
        ids_nodup := by
          rw [ids_replaced]
          exact t.ids_nodup
        names_nodup := h
        drawn := by
          intro r hr
          have hmem : id r ∈ t.rows.map id := by
            rw [← ids_replaced t new]
            exact List.mem_map_of_mem hr
          obtain ⟨r₀, hr₀, hid⟩ := List.mem_map.1 hmem
          rw [← hid]
          exact t.drawn r₀ hr₀ }
  else none

theorem rows_of_replace? {t t' : NamedTable id name} {new : ρ} (h : t.replace? new = some t') :
    t'.rows = t.replaced new := by
  unfold replace? at h
  split at h
  · cases h
    rfl
  · cases h

/-- A row can take the place of another one under the same name. -/
theorem replace?_of_name_eq {t : NamedTable id name} {old new : ρ} (h : t.find? (id new) = some old)
    (hname : name new = name old) : ∃ t', t.replace? new = some t' := by
  obtain ⟨hold, hid⟩ := find?_eq_some.1 h
  have hnames : (t.replaced new).map name = t.rows.map name := by
    unfold replaced
    rw [List.map_map]
    refine List.map_congr_left fun r hr => ?_
    show name (if id r = id new then new else r) = name r
    split
    · rename_i heq
      rw [hname, t.eq_of_id_eq hr hold (heq.trans hid.symm)]
    · rfl
  have hnodup : ((t.replaced new).map name).Nodup := by
    rw [hnames]
    exact t.names_nodup
  exact ⟨_, dif_pos hnodup⟩

/-- **When a row can take the place of another one**: no other row has its name. -/
theorem exists_replace?_iff {t : NamedTable id name} {old new : ρ} (h : t.find? (id new) = some old) :
    (∃ t', t.replace? new = some t') ↔ ∀ r ∈ t.rows, name r = name new → id r = id new := by
  obtain ⟨hold, hid⟩ := find?_eq_some.1 h
  have hnew : new ∈ t.replaced new := List.mem_map.2 ⟨old, hold, if_pos hid⟩
  constructor
  · rintro ⟨t', ht'⟩ r hr hname
    by_contra hne
    -- the row stays beside the new one, under one name
    have hnames := t'.names_nodup
    rw [rows_of_replace? ht'] at hnames
    have hkept : r ∈ t.replaced new := List.mem_map.2 ⟨r, hr, if_neg hne⟩
    exact hne (congrArg id (List.inj_on_of_nodup_map hnames hkept hnew hname))
  · intro hfree
    have hids : ((t.replaced new).map id).Nodup := by
      rw [ids_replaced]
      exact t.ids_nodup
    have hother : ∀ r ∈ t.replaced new, name r = name new → r = new := by
      intro r hr hname
      obtain ⟨r₀, hr₀, rfl⟩ := List.mem_map.1 hr
      split
      · rfl
      · rename_i hne
        rw [if_neg hne] at hname
        exact absurd (hfree r₀ hr₀ hname) hne
    have hsame : ∀ r ∈ t.replaced new, r = new ∨ r ∈ t.rows := by
      intro r hr
      obtain ⟨r₀, hr₀, rfl⟩ := List.mem_map.1 hr
      split
      · exact .inl rfl
      · exact .inr hr₀
    have hnodup : ((t.replaced new).map name).Nodup := by
      refine List.Nodup.map_on (fun r hr r' hr' hname => ?_) (List.Nodup.of_map id hids)
      rcases hsame r hr with rfl | hrow
      · exact (hother r' hr' hname.symm).symm
      · rcases hsame r' hr' with rfl | hrow'
        · exact hother r hr hname
        · exact t.eq_of_name_eq hrow hrow' hname
    exact ⟨_, dif_pos hnodup⟩

/-- **What a lookup gives after a replacement.** -/
theorem find?_replace? {t t' : NamedTable id name} {new : ρ} (h : t.replace? new = some t')
    {i : Nat} (hi : (t.find? (id new)).isSome = true) :
    t'.find? i = if i = id new then some new else t.find? i := by
  obtain ⟨old, hold⟩ := Option.isSome_iff_exists.1 hi
  obtain ⟨holdRow, holdId⟩ := find?_eq_some.1 hold
  have hrows := rows_of_replace? h
  split
  · rename_i heq
    rw [find?_eq_some, hrows, heq]
    refine ⟨List.mem_map.2 ⟨old, holdRow, if_pos holdId⟩, rfl⟩
  · rename_i hne
    have hiff : ∀ r, t'.find? i = some r ↔ t.find? i = some r := by
      intro r
      rw [find?_eq_some, find?_eq_some, hrows]
      constructor
      · rintro ⟨hr, hid⟩
        obtain ⟨r₀, hr₀, heq⟩ := List.mem_map.1 hr
        split at heq
        · exact absurd (heq ▸ hid : id new = i).symm hne
        · exact ⟨heq ▸ hr₀, hid⟩
      · rintro ⟨hr, hid⟩
        exact ⟨List.mem_map.2 ⟨r, hr, if_neg (hid ▸ hne)⟩, hid⟩
    exact Option.ext hiff

omit [DecidableEq ν] in
/-- Delete the row with an id. -/
def erase (t : NamedTable id name) (i : Nat) : NamedTable id name where
  rows := t.rows.filter fun r => decide (id r ≠ i)
  nextId := t.nextId
  ids_nodup := t.ids_nodup.sublist (List.filter_sublist.map id)
  names_nodup := t.names_nodup.sublist (List.filter_sublist.map name)
  drawn r hr := t.drawn r (List.mem_of_mem_filter hr)

end NamedTable
