import NodeNexus.Node.Store

/-!
# Reading a table in batches

`_load_all` reads a table with one SELECT after the other, each with an OFFSET
and a LIMIT and none with an ORDER BY.  The database may therefore choose another
order for each of them: the model takes the order of each SELECT as an argument.

* `loadAll_of_length_le` — a table that fits into one batch is read completely.
* `loadAll_stable` — so is every table if all orders are the same.
* `exists_orders_not_mem` — of a larger table every row can be missed.
* `complete_iff` puts these together for one reader, `load_all_complete_iff` for
  the three repositories.
-/

namespace NodeNexus
namespace Config

open Content Node

variable {ρ : Type}

/-! ## The readers -/

/-- A `get_all`: the rows in the order of this SELECT, `skip` and `limit`. -/
abbrev Reader (ρ : Type) : Type := List ρ → Nat → Nat → List ρ

/-- `OFFSET` and `LIMIT` cut the order that the database chose. -/
def cut : Reader ρ := fun order skip limit => (order.drop skip).take limit

/-- `NodeRepository.get_all`. -/
def nodeGetAll : Reader NodeRow := fun order skip limit => cut order skip limit

/-- `get_all` of `CommandRepository` and of `ScriptRepository`. -/
def getAllFiltered {Body : Type} (ilike : Ilike) (tags : Option (List String))
    (search : Option String) : Reader (Row Body) :=
  fun order skip limit => cut (order.filter (rowMatches ilike tags search)) skip limit

/-- `CommandRepository.get_all`, called with `skip` and `limit` only. -/
def commandGetAll (ilike : Ilike) : Reader CommandRow := getAllFiltered ilike none none

/-- `ScriptRepository.get_all`, called with `skip` and `limit` only. -/
def scriptGetAll (ilike : Ilike) : Reader ScriptRow := getAllFiltered ilike none none

theorem getAllFiltered_none {Body : Type} (ilike : Ilike) :
    getAllFiltered ilike none none = (cut : Reader (Row Body)) := by
  funext order skip limit
  unfold getAllFiltered
  congr 1
  exact List.filter_eq_self.2 fun row _ => applyFilters_none ilike row.tags row.name row.description

/-- The loop of `_load_all`, from its `k`-th SELECT on; `none` when the fuel runs
out. -/
def loadFrom (getAll : Reader ρ) (batchSize : Nat) (orders : Nat → List ρ) :
    Nat → Nat → List ρ → Option (List ρ)
  | 0, _, _ => none
  | fuel + 1, k, items =>
      let batch := getAll (orders k) items.length batchSize
      let items := items ++ batch
      if batch.length < batchSize then some items
      else loadFrom getAll batchSize orders fuel (k + 1) items

/-- `_load_all`. -/
def loadAll (getAll : Reader ρ) (batchSize : Nat) (orders : Nat → List ρ) (fuel : Nat) :
    Option (List ρ) :=
  loadFrom getAll batchSize orders fuel 0 []

/-- The orders in which a database may return the rows of a table. -/
def OrdersOf (rows : List ρ) (orders : Nat → List ρ) : Prop :=
  ∀ k, (orders k).Perm rows

/-! ## What is read -/

section Cut

variable {batchSize : Nat} {rows : List ρ} {orders : Nat → List ρ}

theorem length_cut (order : List ρ) (skip limit : Nat) :
    (cut order skip limit).length = min limit (order.length - skip) := by
  unfold cut
  rw [List.length_take, List.length_drop]

/-- The last page ends the loop. -/
theorem loadFrom_last {fuel k : Nat} {items : List ρ}
    (h : (cut (orders k) items.length batchSize).length < batchSize) :
    loadFrom cut batchSize orders (fuel + 1) k items =
      some (items ++ cut (orders k) items.length batchSize) := by
  rw [loadFrom, if_pos h]

/-- A full page is followed by another one. -/
theorem loadFrom_more {fuel k : Nat} {items : List ρ}
    (h : ¬(cut (orders k) items.length batchSize).length < batchSize) :
    loadFrom cut batchSize orders (fuel + 1) k items =
      loadFrom cut batchSize orders fuel (k + 1)
        (items ++ cut (orders k) items.length batchSize) := by
  rw [loadFrom, if_neg h]

/-- **The loop returns**, and reads as many rows as there are. -/
theorem loadFrom_returns (hb : 1 ≤ batchSize) (horders : OrdersOf rows orders) {fuel k : Nat}
    {items : List ρ} (hitems : items.length ≤ rows.length)
    (hfuel : rows.length - items.length < fuel) :
    ∃ result, loadFrom cut batchSize orders fuel k items = some result ∧
      result.length = rows.length := by
  induction fuel generalizing k items with
  | zero => omega
  | succ fuel ih =>
      have hlength := length_cut (orders k) items.length batchSize
      rw [(horders k).length_eq] at hlength
      by_cases hlast : (cut (orders k) items.length batchSize).length < batchSize
      · refine ⟨_, loadFrom_last hlast, ?_⟩
        rw [List.length_append, hlength]
        omega
      · rw [loadFrom_more hlast]
        apply ih
        · rw [List.length_append, hlength]
          omega
        · rw [List.length_append, hlength]
          omega

theorem loadAll_returns (hb : 1 ≤ batchSize) (horders : OrdersOf rows orders) {fuel : Nat}
    (hfuel : rows.length < fuel) : ∃ items, loadAll cut batchSize orders fuel = some items ∧
      items.length = rows.length :=
  loadFrom_returns hb horders (Nat.zero_le _) hfuel

/-- Nothing but rows of the table is read. -/
theorem loadFrom_subset (horders : OrdersOf rows orders) {fuel k : Nat} {items result : List ρ}
    (hitems : items ⊆ rows) (h : loadFrom cut batchSize orders fuel k items = some result) :
    result ⊆ rows := by
  induction fuel generalizing k items with
  | zero => cases h
  | succ fuel ih =>
      have hnext : items ++ cut (orders k) items.length batchSize ⊆ rows := by
        intro r hr
        rcases List.mem_append.1 hr with hr | hr
        · exact hitems hr
        · exact (horders k).mem_iff.1 (List.mem_of_mem_drop (List.mem_of_mem_take hr))
      by_cases hlast : (cut (orders k) items.length batchSize).length < batchSize
      · rw [loadFrom_last hlast] at h
        rw [← Option.some.inj h]
        exact hnext
      · rw [loadFrom_more hlast] at h
        exact ih hnext h

/-- When all SELECTs use one order, the loop reads that order from its start. -/
theorem loadFrom_stable (hb : 1 ≤ batchSize) {order : List ρ} {fuel k : Nat} {items rest : List ρ}
    (horder : order = items ++ rest) (hfuel : rest.length < fuel) :
    loadFrom cut batchSize (fun _ => order) fuel k items = some order := by
  induction fuel generalizing k items rest with
  | zero => omega
  | succ fuel ih =>
      have hcut : cut order items.length batchSize = rest.take batchSize := by
        unfold cut
        rw [horder, List.drop_left]
      by_cases hlast : (cut order items.length batchSize).length < batchSize
      · rw [loadFrom_last hlast, hcut, horder]
        rw [hcut, List.length_take] at hlast
        rw [List.take_of_length_le (by omega)]
      · rw [loadFrom_more hlast, hcut]
        rw [hcut, List.length_take] at hlast
        have hsplit : order = items ++ rest.take batchSize ++ rest.drop batchSize := by
          rw [List.append_assoc, List.take_append_drop, horder]
        apply ih hsplit
        rw [List.length_drop]
        omega

/-- **With one order for all SELECTs the read is complete.** -/
theorem loadAll_stable (hb : 1 ≤ batchSize) (order : List ρ) {fuel : Nat}
    (hfuel : order.length < fuel) :
    loadAll cut batchSize (fun _ => order) fuel = some order :=
  loadFrom_stable hb rfl hfuel

/-- **A table that fits into one batch is read completely.** -/
theorem loadAll_of_length_le (hb : 1 ≤ batchSize) (horders : OrdersOf rows orders)
    (hle : rows.length ≤ batchSize) {fuel : Nat} (hfuel : rows.length < fuel) :
    loadAll cut batchSize orders fuel = some (orders 0) := by
  have hlen := (horders 0).length_eq
  have hfirst : cut (orders 0) ([] : List ρ).length batchSize = orders 0 :=
    List.take_of_length_le (by rw [List.length_nil, List.drop_zero, hlen]; exact hle)
  obtain ⟨fuel, rfl⟩ : ∃ f, fuel = f + 1 := ⟨fuel - 1, by omega⟩
  unfold loadAll
  by_cases hlast : (orders 0).length < batchSize
  · rw [loadFrom_last (by rw [hfirst]; exact hlast), hfirst]
    rfl
  · -- A full batch: the next SELECT finds nothing behind it.
    rw [loadFrom_more (by rw [hfirst]; exact hlast), hfirst, List.nil_append]
    obtain ⟨fuel, rfl⟩ : ∃ f, fuel = f + 1 := ⟨fuel - 1, by omega⟩
    have hnone : cut (orders 1) (orders 0).length batchSize = [] := by
      unfold cut
      rw [List.drop_eq_nil_of_le (Nat.le_of_eq (by rw [(horders 1).length_eq, hlen])), List.take_nil]
    rw [loadFrom_last (by rw [hnone]; exact hb), hnone, List.append_nil]

/-- A row that comes first in every later SELECT is never read any more. -/
theorem not_mem_of_first {r : ρ} {others : List ρ} (hr : r ∉ others)
    (hlater : ∀ k, 1 ≤ k → orders k = r :: others) {fuel k : Nat} {items result : List ρ}
    (hk : 1 ≤ k) (hne : items ≠ []) (hitems : r ∉ items)
    (h : loadFrom cut batchSize orders fuel k items = some result) : r ∉ result := by
  induction fuel generalizing k items with
  | zero => cases h
  | succ fuel ih =>
      obtain ⟨x, xs, rfl⟩ := List.exists_cons_of_ne_nil hne
      have hpage : r ∉ cut (orders k) (x :: xs).length batchSize := by
        unfold cut
        rw [hlater k hk]
        intro hmem
        exact hr (List.mem_of_mem_drop (List.mem_of_mem_take hmem))
      have hnext : r ∉ x :: xs ++ cut (orders k) (x :: xs).length batchSize := by
        rw [List.mem_append, not_or]
        exact ⟨hitems, hpage⟩
      by_cases hlast : (cut (orders k) (x :: xs).length batchSize).length < batchSize
      · rw [loadFrom_last hlast] at h
        rw [← Option.some.inj h]
        exact hnext
      · rw [loadFrom_more hlast] at h
        exact ih (by omega) (List.append_ne_nil_of_left_ne_nil (List.cons_ne_nil x xs) _) hnext h

/-- **Of a table larger than a batch every row can be missed.** -/
theorem exists_orders_not_mem (hb : 1 ≤ batchSize) (hnodup : rows.Nodup) {r : ρ} (hr : r ∈ rows)
    (hlt : batchSize < rows.length) : ∃ orders, OrdersOf rows orders ∧
      ∀ fuel items, loadAll cut batchSize orders fuel = some items → r ∉ items := by
  obtain ⟨as, bs, rfl⟩ := List.append_of_mem hr
  have hmiss : r ∉ as ++ bs := (List.nodup_middle.1 hnodup).notMem
  rw [List.length_append, List.length_cons] at hlt
  -- The row comes last in the first SELECT and first in the later ones.
  refine ⟨fun k => if k = 0 then as ++ bs ++ [r] else r :: (as ++ bs), fun k => ?_, ?_⟩
  · show List.Perm (if k = 0 then as ++ bs ++ [r] else r :: (as ++ bs)) _
    split
    · exact (List.perm_append_singleton r (as ++ bs)).trans List.perm_middle.symm
    · exact List.perm_middle.symm
  · intro fuel items h
    have hfirst : cut (as ++ bs ++ [r]) ([] : List ρ).length batchSize =
        (as ++ bs).take batchSize := by
      unfold cut
      rw [List.length_nil, List.drop_zero,
        List.take_append_of_le_length (by rw [List.length_append]; omega)]
    have hlen : ((as ++ bs).take batchSize).length = batchSize := by
      rw [List.length_take, List.length_append]
      omega
    cases fuel with
    | zero => cases h
    | succ fuel =>
        unfold loadAll at h
        rw [loadFrom_more (by simp only [if_pos]; rw [hfirst]; omega)] at h
        simp only [if_pos] at h
        rw [hfirst, List.nil_append] at h
        refine not_mem_of_first hmiss (fun k hk => if_neg (by omega)) (Nat.le_refl 1) ?_ ?_ h
        · exact List.ne_nil_of_length_pos (by omega)
        · exact fun hmem => hmiss (List.mem_of_mem_take hmem)

end Cut

/-! ## Complete reads -/

/-- Whatever orders the database chooses, every row is read exactly once. -/
def Complete (getAll : Reader ρ) (batchSize : Nat) (rows : List ρ) : Prop :=
  ∀ orders, OrdersOf rows orders → ∀ fuel, rows.length < fuel →
    ∃ items, loadAll getAll batchSize orders fuel = some items ∧ items.Perm rows

theorem complete_iff {batchSize : Nat} (hb : 1 ≤ batchSize) {rows : List ρ} (hnodup : rows.Nodup) :
    Complete cut batchSize rows ↔ rows.length ≤ batchSize := by
  constructor
  · intro h
    by_contra hlt
    obtain ⟨r, hr⟩ := List.exists_mem_of_length_pos (l := rows) (by omega)
    obtain ⟨orders, horders, hmiss⟩ := exists_orders_not_mem hb hnodup hr (by omega)
    obtain ⟨items, hitems, hperm⟩ := h orders horders (rows.length + 1) (Nat.lt_succ_self _)
    exact hmiss _ items hitems (hperm.mem_iff.2 hr)
  · intro hle orders horders fuel hfuel
    exact ⟨orders 0, loadAll_of_length_le hb horders hle hfuel, horders 0⟩

/-- **When `_load_all` is complete**: exactly when the table has no more rows than
a batch. -/
theorem load_all_complete_iff (ilike : Ilike) {batchSize : Nat} (hb : 1 ≤ batchSize) :
    (∀ nodes : NodeRows,
      Complete nodeGetAll batchSize nodes.rows ↔ nodes.rows.length ≤ batchSize) ∧
    (∀ commands : Rows CommandBody,
      Complete (commandGetAll ilike) batchSize commands.rows ↔
        commands.rows.length ≤ batchSize) ∧
    ∀ scripts : Rows ScriptBody,
      Complete (scriptGetAll ilike) batchSize scripts.rows ↔ scripts.rows.length ≤ batchSize := by
  unfold commandGetAll scriptGetAll
  rw [getAllFiltered_none, getAllFiltered_none]
  exact ⟨fun nodes => complete_iff hb nodes.rows_nodup,
    fun commands => complete_iff hb commands.rows_nodup,
    fun scripts => complete_iff hb scripts.rows_nodup⟩

/-- A command of its name only. -/
def plainCommand (id : Uuid) : CommandRow where
  id := id
  name := "command " ++ Nat.repr id
  description := none
  body := ⟨"true", .list []⟩
  tags := some []
  timeout := defaultTimeout
  templatePackId := none

/-- A table of three commands. -/
def threeCommands : Rows CommandBody where
  rows := [plainCommand 1, plainCommand 2, plainCommand 3]
  nodup := by decide

/-- Every read of commands is complete. -/
def LoadsComplete (ilike : Ilike) : Prop :=
  ∀ (commands : Rows CommandBody) (batchSize : Nat), 1 ≤ batchSize →
    Complete (commandGetAll ilike) batchSize commands.rows

/-- Three commands read in batches of two are not. -/
theorem not_loadsComplete : ¬ LoadsComplete fun _ _ => true := by
  intro h
  have hcomplete := h threeCommands 2 (by decide)
  unfold commandGetAll at hcomplete
  rw [getAllFiltered_none, complete_iff (by decide) threeCommands.rows_nodup] at hcomplete
  revert hcomplete
  decide

/-- In batches of three they are. -/
theorem load_all_complete_three :
    Complete (commandGetAll fun _ _ => true) 3 threeCommands.rows :=
  ((load_all_complete_iff (fun _ _ => true) (by decide)).2.1 threeCommands).2 (by decide)

end Config
end NodeNexus
