import Mathlib.Algebra.Ring.Nat
import Mathlib.Data.List.Sort

/-!
# Keyset pagination

Rows have a key in a linear order.  A page is cut off the rows whose keys lie
below a cursor, in descending order; one row more than the limit is fetched to
see whether there are more, and the key of the last row kept is the next cursor.

* `sortDesc`, `rest` — the rows in order, and those behind a cursor.
* `page_cases` says what a page can be, and `rest_next` what lies behind it.
* `walk` reads a page after the other, each from a table of its own.
* `walk_enumerates` — over one table the pages are the rows in order.
* `countP_walk` — a row that is in every table comes exactly once.
-/

namespace Keyset

variable {ρ κ : Type} [LinearOrder κ] (key : ρ → κ)

/-- The rows in descending order of their keys. -/
def sortDesc (rows : List ρ) : List ρ :=
  rows.insertionSort fun a b => key b ≤ key a

/-- Does a row lie behind the cursor? -/
def before (cursor : Option κ) (r : ρ) : Bool :=
  cursor.all fun c => decide (key r < c)

/-- What lies behind the cursor, in order. -/
def rest (rows : List ρ) (cursor : Option κ) : List ρ :=
  sortDesc key (rows.filter (before key cursor))

/-- Rows, the cursor to the next ones, and whether there are more. -/
structure Page (ρ κ : Type) where
  items : List ρ
  next : Option κ
  more : Bool

/-- The page behind a cursor. -/
def page (rows : List ρ) (cursor : Option κ) (limit : Nat) : Page ρ κ :=
  let found := (rest key rows cursor).take (limit + 1)
  let more := decide (limit < found.length)
  let items := found.take limit
  ⟨items, if more then items.getLast?.map key else none, more⟩

/-- The pages read by following the cursors; each visit has its table and its
limit. -/
def walk : Option κ → List (List ρ × Nat) → List (Page ρ κ)
  | _, [] => []
  | cursor, (rows, limit) :: visits =>
      let p := page key rows cursor limit
      p :: match p.next with
        | none => []
        | some c => walk (some c) visits

/-! ## Rows in order -/

/-- The keys fall from row to row. -/
def Descending (rows : List ρ) : Prop :=
  rows.Pairwise fun a b => key b < key a

variable {key}

theorem perm_sortDesc (rows : List ρ) : (sortDesc key rows).Perm rows :=
  List.perm_insertionSort _ rows

theorem mem_sortDesc {rows : List ρ} {r : ρ} : r ∈ sortDesc key rows ↔ r ∈ rows :=
  (perm_sortDesc rows).mem_iff

/-- Sorting by any form of the order. -/
theorem insertionSort_eq_sortDesc {r : ρ → ρ → Prop} [DecidableRel r]
    (hr : ∀ a b, r a b ↔ key b ≤ key a) (rows : List ρ) :
    rows.insertionSort r = sortDesc key rows := by
  have hmap := List.map_insertionSort r (fun a b => key b ≤ key a) id rows fun a _ b _ => hr a b
  rwa [List.map_id, List.map_id] at hmap

@[simp] theorem before_none (r : ρ) : before key none r = true := rfl

theorem before_some {c : κ} {r : ρ} : before key (some c) r = true ↔ key r < c :=
  decide_eq_true_iff

theorem descending_sortDesc {rows : List ρ} (hnodup : (rows.map key).Nodup) :
    Descending key (sortDesc key rows) := by
  have htotal : Std.Total fun a b : ρ => key b ≤ key a := ⟨fun a b => le_total (key b) (key a)⟩
  have htrans : IsTrans ρ fun a b : ρ => key b ≤ key a := ⟨fun _ _ _ hab hbc => le_trans hbc hab⟩
  have hsorted := List.pairwise_insertionSort (fun a b : ρ => key b ≤ key a) rows
  have hne : ((sortDesc key rows).map key).Nodup :=
    ((perm_sortDesc rows).map key).nodup_iff.2 hnodup
  have hboth := hsorted.and (List.pairwise_map.1 hne)
  exact hboth.imp fun h => lt_of_le_of_ne h.1 (Ne.symm h.2)

/-- Rows have one descending order only. -/
theorem Descending.eq_of_perm {as bs : List ρ} (ha : Descending key as) (hb : Descending key bs)
    (hperm : as.Perm bs) : as = bs :=
  hperm.eq_of_pairwise (fun _ _ _ _ hab hba => absurd hab (lt_asymm hba)) ha hb

omit [LinearOrder κ] in
theorem nodup_map_filter {rows : List ρ} (hnodup : (rows.map key).Nodup) (p : ρ → Bool) :
    ((rows.filter p).map key).Nodup :=
  (List.Sublist.map key List.filter_sublist).nodup hnodup

/-- Sorting and filtering commute. -/
theorem filter_sortDesc {rows : List ρ} (hnodup : (rows.map key).Nodup) (p : ρ → Bool) :
    (sortDesc key rows).filter p = sortDesc key (rows.filter p) := by
  have hleft : Descending key ((sortDesc key rows).filter p) :=
    (descending_sortDesc hnodup).filter p
  apply hleft.eq_of_perm (descending_sortDesc (nodup_map_filter hnodup p))
  exact ((perm_sortDesc rows).filter p).trans (perm_sortDesc _).symm

/-- The rows below the key of a row are those that follow it. -/
theorem Descending.filter_lt {as bs : List ρ} {x : ρ} (h : Descending key (as ++ x :: bs)) :
    (as ++ x :: bs).filter (fun r => decide (key r < key x)) = bs := by
  obtain ⟨-, htail, hcross⟩ := List.pairwise_append.1 h
  obtain ⟨hbelow, -⟩ := List.pairwise_cons.1 htail
  have has : as.filter (fun r => decide (key r < key x)) = [] := by
    rw [List.filter_eq_nil_iff]
    intro r hr hlt
    exact lt_asymm (hcross r hr x (List.mem_cons_self ..)) (of_decide_eq_true hlt)
  have hbs : bs.filter (fun r => decide (key r < key x)) = bs := by
    rw [List.filter_eq_self]
    exact fun r hr => decide_eq_true (hbelow r hr)
  rw [List.filter_append, has, List.nil_append, List.filter_cons, if_neg (by simp)]
  exact hbs

/-! ## One page -/

theorem mem_rest {rows : List ρ} {cursor : Option κ} {r : ρ} :
    r ∈ rest key rows cursor ↔ r ∈ rows ∧ before key cursor r = true := by
  unfold rest
  rw [mem_sortDesc, List.mem_filter]

theorem descending_rest {rows : List ρ} (hnodup : (rows.map key).Nodup) (cursor : Option κ) :
    Descending key (rest key rows cursor) :=
  descending_sortDesc (nodup_map_filter hnodup _)

/-- **What a page can be**: all that is left, or the rows up to some row that is
not the last one. -/
theorem page_cases (rows : List ρ) (cursor : Option κ) {limit : Nat} (hl : 1 ≤ limit) :
    ((rest key rows cursor).length ≤ limit ∧
      page key rows cursor limit = ⟨rest key rows cursor, none, false⟩) ∨
    ∃ as x bs, rest key rows cursor = as ++ x :: bs ∧ as.length + 1 = limit ∧ bs ≠ [] ∧
      page key rows cursor limit = ⟨as ++ [x], some (key x), true⟩ := by
  unfold page
  generalize rest key rows cursor = found
  simp only [List.take_take, List.length_take]
  have hmin : min limit (limit + 1) = limit := by omega
  rw [hmin]
  by_cases hmore : limit < found.length
  · right
    have hlast : limit - 1 < found.length := by omega
    refine ⟨found.take (limit - 1), found[limit - 1], found.drop limit, ?_, ?_, ?_, ?_⟩
    · conv_lhs => rw [← List.take_append_drop (limit - 1) found]
      rw [List.drop_eq_getElem_cons hlast, Nat.sub_add_cancel hl]
    · rw [List.length_take]
      omega
    · exact List.ne_nil_of_length_pos (by rw [List.length_drop]; omega)
    · have hitems : found.take limit = found.take (limit - 1) ++ [found[limit - 1]] := by
        rw [List.take_append_getElem hlast, Nat.sub_add_cancel hl]
      have hlt : limit < min (limit + 1) found.length := by omega
      rw [decide_eq_true hlt, if_pos rfl, hitems, List.getLast?_concat]
      rfl
  · left
    have hnot : ¬limit < min (limit + 1) found.length := by omega
    refine ⟨by omega, ?_⟩
    rw [decide_eq_false hnot, List.take_of_length_le (by omega)]
    rfl

/-- What lies behind the next cursor. -/
theorem rest_next {rows : List ρ} (hnodup : (rows.map key).Nodup) {cursor : Option κ}
    {as bs : List ρ} {x : ρ} (h : rest key rows cursor = as ++ x :: bs) :
    rest key rows (some (key x)) = bs := by
  have hx : x ∈ rest key rows cursor := by
    rw [h]
    exact List.mem_append_right _ (List.mem_cons_self ..)
  have hfilter : rows.filter (before key (some (key x))) =
      (rows.filter (before key cursor)).filter (before key (some (key x))) := by
    rw [List.filter_filter]
    refine List.filter_congr fun r _ => ?_
    -- What lies behind the row lies behind the old cursor too.
    by_cases hr : before key (some (key x)) r = true
    · have hold : before key cursor r = true := by
        have hxc := (mem_rest.1 hx).2
        cases cursor with
        | none => rfl
        | some c => exact decide_eq_true (lt_trans (of_decide_eq_true hr) (of_decide_eq_true hxc))
      rw [hr, hold]
      rfl
    · rw [Bool.not_eq_true] at hr
      rw [hr]
      rfl
  have hdesc := descending_rest hnodup cursor
  rw [h] at hdesc
  have hrest : rest key rows (some (key x)) =
      (rest key rows cursor).filter (before key (some (key x))) := by
    unfold rest
    rw [filter_sortDesc (nodup_map_filter hnodup _), ← hfilter]
  rw [hrest, h]
  exact hdesc.filter_lt

/-! ## Pages over one table -/

/-- The pages are some rows in order, as many as the limits allow; the last one,
and no other, says that there are no more once all rows have come. -/
structure Enumerates (pages : List (Page ρ κ)) (rows : List ρ) (limits : List Nat) : Prop where
  items : pages.flatMap (·.items) = rows.take limits.sum
  more : ∀ front p back, pages = front ++ p :: back →
    (p.more = false ↔ back = [] ∧ rows.length ≤ limits.sum)
  visited : pages = [] ↔ limits = []

/-- **Following the cursors over one table enumerates its rows.** -/
theorem walk_enumerates {rows : List ρ} (hnodup : (rows.map key).Nodup) (cursor : Option κ)
    {limits : List Nat} (hl : ∀ l ∈ limits, 1 ≤ l) :
    Enumerates (walk key cursor (limits.map (rows, ·))) (rest key rows cursor) limits := by
  induction limits generalizing cursor with
  | nil =>
      refine ⟨rfl, fun front p back h => ?_, by simp [walk]⟩
      exact absurd h.symm (by simp [walk])
  | cons limit limits ih =>
      rcases page_cases rows cursor (hl limit (List.mem_cons_self ..)) with
        ⟨hle, hpage⟩ | ⟨as, x, bs, hrest, hlimit, hne, hpage⟩
      · have hwalk : walk key cursor ((limit :: limits).map (rows, ·)) =
            [⟨rest key rows cursor, none, false⟩] := by
          rw [List.map_cons, walk, hpage]
        have hsum : (rest key rows cursor).length ≤ (limit :: limits).sum := by
          rw [List.sum_cons]
          omega
        rw [hwalk]
        refine ⟨?_, fun front p back h => ?_, by simp⟩
        · rw [List.take_of_length_le hsum]
          exact List.append_nil _
        · obtain ⟨rfl, rfl, rfl⟩ : front = [] ∧ p = ⟨rest key rows cursor, none, false⟩ ∧
              back = [] := by
            cases front with
            | nil => simpa using h.symm
            | cons q front => simp at h
          exact ⟨fun _ => ⟨rfl, hsum⟩, fun _ => rfl⟩
      · have hwalk : walk key cursor ((limit :: limits).map (rows, ·)) =
            ⟨as ++ [x], some (key x), true⟩ :: walk key (some (key x)) (limits.map (rows, ·)) := by
          rw [List.map_cons, walk, hpage]
        have hih := ih (some (key x)) fun l hl' => hl l (List.mem_cons_of_mem _ hl')
        rw [rest_next hnodup hrest] at hih
        have hsplit : rest key rows cursor = (as ++ [x]) ++ bs := by
          rw [hrest, List.append_assoc, List.singleton_append]
        have hlen : (as ++ [x]).length = limit := by
          rw [List.length_append, List.length_singleton, hlimit]
        have hbs : 0 < bs.length := List.length_pos_of_ne_nil hne
        have hkept : (as ++ [x]).take (limit + limits.sum) = as ++ [x] :=
          List.take_of_length_le (by omega)
        rw [hwalk, hsplit]
        refine ⟨?_, fun front p back h => ?_, by simp⟩
        · rw [List.flatMap_cons, hih.items, List.sum_cons, List.take_append, hkept, hlen,
            Nat.add_sub_cancel_left]
        · rw [List.length_append, hlen, List.sum_cons]
          cases front with
          | nil =>
              obtain ⟨rfl, rfl⟩ : p = ⟨as ++ [x], some (key x), true⟩ ∧
                  back = walk key (some (key x)) (limits.map (rows, ·)) := by
                simpa [eq_comm] using h
              simp only [Bool.true_eq_false, false_iff, not_and]
              intro hnone
              rw [hih.visited.1 hnone, List.sum_nil]
              omega
          | cons q front =>
              rw [List.cons_append, List.cons.injEq] at h
              rw [hih.more front p back h.2]
              exact and_congr_right fun _ => by omega

/-! ## Pages over changing tables -/

/-- All that comes is in one of the tables and lies behind the cursor. -/
theorem mem_walk {visits : List (List ρ × Nat)} (hl : ∀ v ∈ visits, 1 ≤ v.2) {cursor : Option κ}
    {r : ρ} (h : r ∈ (walk key cursor visits).flatMap (·.items)) :
    (∃ v ∈ visits, r ∈ v.1) ∧ before key cursor r = true := by
  induction visits generalizing cursor with
  | nil => cases h
  | cons v visits ih =>
      obtain ⟨rows, limit⟩ := v
      have hfirst : ∀ y ∈ rest key rows cursor,
          (∃ v ∈ (rows, limit) :: visits, y ∈ v.1) ∧ before key cursor y = true := fun y hy =>
        ⟨⟨_, List.mem_cons_self .., (mem_rest.1 hy).1⟩, (mem_rest.1 hy).2⟩
      rcases page_cases rows cursor (hl _ (List.mem_cons_self ..)) with
        ⟨-, hpage⟩ | ⟨as, x, bs, hrest, -, -, hpage⟩
      · rw [walk, hpage, List.flatMap_cons, List.mem_append] at h
        rcases h with h | h
        · exact hfirst r h
        · cases h
      · rw [walk, hpage, List.flatMap_cons, List.mem_append] at h
        have hkept : ∀ y ∈ as ++ [x], y ∈ rest key rows cursor := by
          intro y hy
          rw [hrest, ← List.singleton_append, ← List.append_assoc]
          exact List.mem_append_left _ hy
        rcases h with h | h
        · exact hfirst r (hkept r h)
        · obtain ⟨⟨v, hv, hr⟩, hlater⟩ := ih (fun v hv => hl v (List.mem_cons_of_mem _ hv)) h
          refine ⟨⟨v, List.mem_cons_of_mem _ hv, hr⟩, ?_⟩
          have hx := (hfirst x (hkept x (List.mem_append_right _ (List.mem_singleton_self x)))).2
          cases cursor with
          | none => rfl
          | some c =>
              exact decide_eq_true (lt_trans (of_decide_eq_true hlater) (of_decide_eq_true hx))

/-- A key comes once among rows with different keys. -/
theorem countP_key_eq_one {rows : List ρ} (hnodup : (rows.map key).Nodup) {r : ρ} (hr : r ∈ rows) :
    rows.countP (fun y => decide (key y = key r)) = 1 := by
  have hcount : (rows.map key).count (key r) = 1 :=
    List.count_eq_one_of_mem hnodup (List.mem_map_of_mem hr)
  rw [List.count, List.countP_map] at hcount
  rw [← hcount]
  exact List.countP_congr fun y _ => by simp

/-- **A row that is in every table comes exactly once**, whatever else is inserted
or deleted between the pages. -/
theorem countP_walk {visits : List (List ρ × Nat)} (hl : ∀ v ∈ visits, 1 ≤ v.2)
    (hnodup : ∀ v ∈ visits, (v.1.map key).Nodup) {k : κ}
    (hk : ∀ v ∈ visits, ∃ r ∈ v.1, key r = k) {cursor : Option κ}
    (hbefore : ∀ c ∈ cursor, k < c) {last : Page ρ κ}
    (hlast : (walk key cursor visits).getLast? = some last) (hend : last.more = false) :
    ((walk key cursor visits).flatMap (·.items)).countP (fun y => decide (key y = k)) = 1 := by
  induction visits generalizing cursor with
  | nil => cases hlast
  | cons v visits ih =>
      obtain ⟨rows, limit⟩ := v
      obtain ⟨r, hr, rfl⟩ := hk (rows, limit) (List.mem_cons_self ..)
      have hdesc := descending_rest (hnodup _ (List.mem_cons_self ..)) cursor
      have hrrest : r ∈ rest key rows cursor := by
        refine mem_rest.2 ⟨hr, ?_⟩
        cases cursor with
        | none => rfl
        | some c => exact decide_eq_true (hbefore c rfl)
      have hkeys : ((rest key rows cursor).map key).Nodup :=
        List.pairwise_map.2 (hdesc.imp fun h => (ne_of_lt h).symm)
      have htail : ∀ v ∈ visits, 1 ≤ v.2 := fun v hv => hl v (List.mem_cons_of_mem _ hv)
      rcases page_cases rows cursor (hl _ (List.mem_cons_self ..)) with
        ⟨-, hpage⟩ | ⟨as, x, bs, hrest, -, -, hpage⟩
      · rw [walk, hpage, List.flatMap_cons]
        show (rest key rows cursor ++ []).countP _ = 1
        rw [List.append_nil]
        exact countP_key_eq_one hkeys hrrest
      · rw [walk, hpage] at hlast
        rw [walk, hpage, List.flatMap_cons, List.countP_append]
        show (as ++ [x]).countP _ +
          ((walk key (some (key x)) visits).flatMap (·.items)).countP _ = 1
        rw [hrest] at hrrest hkeys hdesc
        have hsplit : as ++ x :: bs = (as ++ [x]) ++ bs := by
          rw [List.append_assoc, List.singleton_append]
        rw [hsplit] at hrrest hkeys hdesc
        obtain ⟨-, -, hcross⟩ := List.pairwise_append.1 hdesc
        have hxkept : x ∈ as ++ [x] := List.mem_append_right _ (List.mem_singleton_self x)
        rcases List.mem_append.1 hrrest with hkept | hleft
        · -- The row is on this page: nothing behind the page has its key.
          rw [List.map_append] at hkeys
          have hlater : ((walk key (some (key x)) visits).flatMap (·.items)).countP
              (fun y => decide (key y = key r)) = 0 := by
            rw [List.countP_eq_zero]
            intro y hy hyr
            have hlt : key y < key x := of_decide_eq_true (mem_walk htail hy).2
            rw [of_decide_eq_true hyr] at hlt
            rw [hsplit.symm] at hdesc
            have hbs : r ∈ bs := by
              have hfilter := hdesc.filter_lt
              rw [← hfilter, List.mem_filter]
              exact ⟨hsplit ▸ hrrest, decide_eq_true hlt⟩
            exact lt_irrefl _ (hcross r hkept r hbs)
          rw [countP_key_eq_one (List.nodup_append.1 hkeys).1 hkept, hlater]
        · -- The row lies behind this page: it comes on a later one.
          have hnow : (as ++ [x]).countP (fun y => decide (key y = key r)) = 0 := by
            rw [List.countP_eq_zero]
            intro y hy hyr
            exact absurd (of_decide_eq_true hyr) (ne_of_gt (hcross y hy r hleft))
          rw [hnow, Nat.zero_add]
          apply ih htail (fun v hv => hnodup v (List.mem_cons_of_mem _ hv))
            (fun v hv => hk v (List.mem_cons_of_mem _ hv))
          · intro c hc
            rw [← Option.some.inj hc]
            exact hcross x hxkept r hleft
          · rw [List.getLast?_cons] at hlast
            cases hwalk : (walk key (some (key x)) visits).getLast? with
            | none =>
                -- The walk cannot stop here, for this page says that there is more.
                simp only [hwalk] at hlast
                rw [← Option.some.inj hlast] at hend
                cases hend
            | some p =>
                simp only [hwalk] at hlast
                exact hlast

end Keyset
