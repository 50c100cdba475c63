import Mathlib.Data.List.Basic
import Mathlib.Data.List.Nodup
import Mathlib.Tactic.Tauto

/-!
# Dictionaries in order of use

A dictionary that remembers in which order its keys were last used: the key at
the front is the one to drop when room is needed.

* `Recency.assign`, `Recency.moveToEnd` and `Recency.popFirst` are the three
  operations; `Recency.touch` is an assignment followed by a move to the end
  (`moveToEnd_assign`).
* Each comes with what it does to the keys and to a lookup.
* `UsedSince` orders keys by their last use in a log of uses, and
  `pairwise_touch` says that touching keys keeps the dictionary in that order.
-/

/-- A dictionary with its keys in order. -/
@[ext]
structure Recency (κ α : Type) where
  /-- The entries, the one to drop first in front. -/
  entries : List (κ × α)
  /-- A key has one entry. -/
  nodup : (entries.map Prod.fst).Nodup
  deriving DecidableEq

namespace Recency

variable {κ α : Type}

/-- The dictionary without entries. -/
def empty : Recency κ α := ⟨[], List.nodup_nil⟩

/-- The keys, in order. -/
def keys (d : Recency κ α) : List κ := d.entries.map Prod.fst

/-- The number of entries. -/
def size (d : Recency κ α) : Nat := d.entries.length

@[simp] theorem length_keys (d : Recency κ α) : d.keys.length = d.size := by
  simp [keys, size]

/-- The dictionary without its first entry. -/
def popFirst (d : Recency κ α) : Recency κ α where
  entries := d.entries.tail
  nodup := by
    have h : (d.entries.tail.map Prod.fst).Sublist (d.entries.map Prod.fst) :=
      (List.tail_sublist d.entries).map Prod.fst
    exact h.nodup d.nodup

@[simp] theorem keys_popFirst (d : Recency κ α) : d.popFirst.keys = d.keys.tail := by
  simp [keys, popFirst, List.map_tail]

variable [DecidableEq κ]

/-- The value of a key. -/
def get? (d : Recency κ α) (k : κ) : Option α :=
  (d.entries.find? fun e => e.1 = k).map Prod.snd

theorem get?_eq_none {d : Recency κ α} {k : κ} : d.get? k = none ↔ k ∉ d.keys := by
  simp only [get?, Option.map_eq_none_iff, List.find?_eq_none, keys, List.mem_map, not_exists,
    not_and, decide_eq_true_eq]

/-- A lookup finds the entry of the key. -/
theorem get?_eq_some {d : Recency κ α} {k : κ} {v : α} :
    d.get? k = some v ↔ (k, v) ∈ d.entries := by
  constructor
  · intro h
    rcases Option.map_eq_some_iff.mp h with ⟨e, he, rfl⟩
    have hk : e.1 = k := by simpa using List.find?_some he
    rw [← hk]
    exact List.mem_of_find?_eq_some he
  · intro h
    cases hfind : d.entries.find? fun e => e.1 = k with
    | none =>
        have := List.find?_eq_none.mp hfind (k, v) h
        simp at this
    | some e =>
        have hk : e.1 = k := by simpa using List.find?_some hfind
        have he : e = (k, v) :=
          List.inj_on_of_nodup_map d.nodup (List.mem_of_find?_eq_some hfind) h hk
        rw [get?, hfind, he]
        rfl

/-- Two dictionaries with the same entry for a key give the same value. -/
theorem get?_congr {d d' : Recency κ α} {k : κ}
    (h : ∀ v, (k, v) ∈ d.entries ↔ (k, v) ∈ d'.entries) : d.get? k = d'.get? k := by
  refine Option.ext ?_
  intro v
  rw [get?_eq_some, get?_eq_some, h v]

/-- Set the value of a key: in its place when the key is there, else at the end. -/
def assign (d : Recency κ α) (k : κ) (v : α) : Recency κ α where
  entries :=
    if k ∈ d.keys then d.entries.map fun e => if e.1 = k then (k, v) else e
    else d.entries ++ [(k, v)]
  nodup := by
    by_cases hk : k ∈ d.keys
    · have hkeys : (d.entries.map fun e => if e.1 = k then (k, v) else e).map Prod.fst =
          d.entries.map Prod.fst := by
        rw [List.map_map]
        refine List.map_congr_left ?_
        intro e _
        by_cases he : e.1 = k
        · simp [he]
        · simp [he]
      rw [if_pos hk, hkeys]
      exact d.nodup
    · rw [if_neg hk, List.map_append, List.map_singleton, List.nodup_append]
      refine ⟨d.nodup, List.nodup_singleton k, ?_⟩
      intro x hx y hy
      rw [List.mem_singleton.mp hy]
      rintro rfl
      exact hk hx

/-- The dictionary with the key's entry at the end and this value in it. -/
def touch (d : Recency κ α) (k : κ) (v : α) : Recency κ α where
  entries := (d.entries.filter fun e => e.1 ≠ k) ++ [(k, v)]
  nodup := by
    rw [List.map_append, List.map_singleton, List.nodup_append]
    refine ⟨(List.filter_sublist.map Prod.fst).nodup d.nodup, List.nodup_singleton k, ?_⟩
    intro x hx y hy
    rcases List.mem_map.mp hx with ⟨e, he, rfl⟩
    rw [List.mem_singleton.mp hy]
    simpa using (List.mem_filter.mp he).2

/-- Move the entry of a key to the end. -/
def moveToEnd (d : Recency κ α) (k : κ) : Recency κ α :=
  match d.get? k with
  | some v => d.touch k v
  | none => d

@[simp] theorem keys_touch (d : Recency κ α) (k : κ) (v : α) :
    (d.touch k v).keys = d.keys.filter (fun x => x ≠ k) ++ [k] := by
  simp only [keys, touch, List.map_append, List.map_cons, List.map_nil, List.filter_map]
  rfl

theorem mem_keys_touch {d : Recency κ α} {k x : κ} {v : α} :
    x ∈ (d.touch k v).keys ↔ x ∈ d.keys ∨ x = k := by
  rw [keys_touch, List.mem_append, List.mem_filter, List.mem_singleton]
  by_cases hx : x = k
  · simp [hx]
  · simp [hx]

theorem get?_touch_self (d : Recency κ α) (k : κ) (v : α) : (d.touch k v).get? k = some v := by
  rw [get?_eq_some]
  simp [touch]

theorem get?_touch_of_ne {d : Recency κ α} {k x : κ} (v : α) (h : x ≠ k) :
    (d.touch k v).get? x = d.get? x := by
  refine get?_congr ?_
  intro w
  simp [touch, h]

theorem mem_keys_assign {d : Recency κ α} {k : κ} {v : α} : (k, v) ∈ (d.assign k v).entries := by
  by_cases hk : k ∈ d.keys
  · rcases List.mem_map.mp hk with ⟨e, he, hek⟩
    simp only [assign, if_pos hk, List.mem_map]
    exact ⟨e, he, by simp [hek]⟩
  · simp [assign, hk]

/-- **An assignment followed by a move to the end is a touch.** -/
theorem moveToEnd_assign (d : Recency κ α) (k : κ) (v : α) :
    (d.assign k v).moveToEnd k = d.touch k v := by
  have hget : (d.assign k v).get? k = some v := get?_eq_some.mpr mem_keys_assign
  have hrest : ((d.assign k v).entries.filter fun e => e.1 ≠ k) =
      d.entries.filter fun e => e.1 ≠ k := by
    by_cases hk : k ∈ d.keys
    · simp only [assign, if_pos hk]
      induction d.entries with
      | nil => rfl
      | cons e es ih =>
          by_cases he : e.1 = k
          · simpa [he] using ih
          · simpa [he] using ih
    · simp [assign, hk]
  unfold moveToEnd
  rw [hget]
  simp only [touch, hrest]

/-- An assignment to the key touched last changes its value only. -/
theorem assign_touch (d : Recency κ α) (k : κ) (v w : α) :
    (d.touch k v).assign k w = d.touch k w := by
  have hmem : k ∈ (d.touch k v).keys := mem_keys_touch.mpr (Or.inr rfl)
  have hrest : ((d.entries.filter fun e => e.1 ≠ k).map fun e => if e.1 = k then (k, w) else e) =
      d.entries.filter fun e => e.1 ≠ k := by
    conv_rhs => rw [← List.map_id (d.entries.filter fun e => e.1 ≠ k)]
    refine List.map_congr_left ?_
    intro e he
    have hek : e.1 ≠ k := by simpa using (List.mem_filter.mp he).2
    rw [if_neg hek, id]
  ext1
  simp only [assign, if_pos hmem]
  simp only [touch, List.map_append, List.map_cons, List.map_nil, hrest, if_true]

/-- A touch of a key already there keeps the size; a new key adds one. -/
theorem size_touch (d : Recency κ α) (k : κ) (v : α) :
    (d.touch k v).size = if k ∈ d.keys then d.size else d.size + 1 := by
  rw [← length_keys, ← length_keys, keys_touch, List.length_append, List.length_singleton]
  have hnodup : d.keys.Nodup := d.nodup
  by_cases hk : k ∈ d.keys
  · have herase : d.keys.filter (fun x => x ≠ k) = d.keys.erase k := by
      rw [hnodup.erase_eq_filter]
      refine List.filter_congr ?_
      intro x _
      by_cases hx : x = k
      · simp [hx]
      · simp [hx]
    have hpos : 0 < d.keys.length := List.length_pos_of_mem hk
    rw [if_pos hk, herase, List.length_erase_of_mem hk]
    omega
  · have hall : d.keys.filter (fun x => x ≠ k) = d.keys := by
      refine List.filter_eq_self.mpr ?_
      intro x hx
      have hne : x ≠ k := fun h => hk (h ▸ hx)
      simpa using hne
    rw [if_neg hk, hall]

/-- A key that is not at the front keeps its value when the front is dropped. -/
theorem get?_popFirst {d : Recency κ α} {k : κ} (h : d.keys.head? ≠ some k) :
    d.popFirst.get? k = d.get? k := by
  refine get?_congr ?_
  intro v
  cases hentries : d.entries with
  | nil => simp [popFirst, hentries]
  | cons e es =>
      have hne : e.1 ≠ k := by simpa [keys, hentries] using h
      have hcons : (k, v) ≠ e := fun he => hne (by rw [← he])
      simp [popFirst, hentries, hcons]

omit [DecidableEq κ] in
/-- The key at the front is not there any more when the front is dropped. -/
theorem head_not_mem_popFirst {d : Recency κ α} {k : κ} (h : d.keys.head? = some k) :
    k ∉ d.popFirst.keys := by
  rw [keys_popFirst]
  have hnodup : d.keys.Nodup := d.nodup
  cases hkeys : d.keys with
  | nil => simp
  | cons x xs =>
      rw [hkeys] at h hnodup
      have hx : x = k := by simpa using h
      rw [← hx]
      exact (List.nodup_cons.mp hnodup).1

/-! ## The order of last use -/

section Order

variable {κ : Type}

/-- After some point of the log `later` was used and `earlier` was not. -/
def UsedSince (log : List κ) (earlier later : κ) : Prop :=
  ∃ past recent, log = past ++ recent ∧ earlier ∉ recent ∧ later ∈ recent

theorem UsedSince.concat {log : List κ} {a b k : κ} (h : UsedSince log a b) (hk : a ≠ k) :
    UsedSince (log ++ [k]) a b := by
  rcases h with ⟨past, recent, rfl, ha, hb⟩
  refine ⟨past, recent ++ [k], by rw [List.append_assoc], ?_, List.mem_append_left _ hb⟩
  rw [List.mem_append, List.mem_singleton]
  rintro (h | h)
  · exact ha h
  · exact hk h

theorem UsedSince.last (log : List κ) {a k : κ} (hk : a ≠ k) : UsedSince (log ++ [k]) a k :=
  ⟨log, [k], rfl, by simpa using hk, by simp⟩

end Order

/-- **A touch keeps the keys in the order of their last use.** -/
theorem pairwise_touch {d : Recency κ α} {log : List κ} (k : κ) (v : α)
    (h : d.keys.Pairwise (UsedSince log)) :
    (d.touch k v).keys.Pairwise (UsedSince (log ++ [k])) := by
  rw [keys_touch, List.pairwise_append]
  refine ⟨?_, List.pairwise_singleton _ k, ?_⟩
  · refine (h.filter _).imp_of_mem ?_
    intro a b ha _ hab
    have hak : a ≠ k := by simpa using (List.mem_filter.mp ha).2
    exact hab.concat hak
  · intro a ha b hb
    rw [List.mem_singleton.mp hb]
    have hak : a ≠ k := by simpa using (List.mem_filter.mp ha).2
    exact UsedSince.last log hak

end Recency
