import NodeNexus.Content.ReadableWrites
import NodeNexus.Config.Import

/-!
# What the dry run tells

`preview_import` decides about each entry by the names that are taken at its
start; `import_config` adds the name of each row it makes.

* `Kind.preview_eq` and `Kind.importRows_eq_ok` — what the two loops do, in terms
  of the entries they take and skip.
* `Kind.returns_importRows` — when the import of a kind does not raise.
* `preview_agrees_iff` — the dry run tells what the import does exactly when the
  entries of each kind that are new have different names and fit their columns,
  and the names that are taken are read completely.
-/

namespace NodeNexus
namespace Config

open Content Node

variable {α ρ : Type} {id : ρ → Uuid} {name : ρ → String} {k : Kind α id name}

/-! ## The loops -/

/-- The entries of an import that are skipped. -/
def skipped (entryName : α → String) (existing : List String) : List α → List α
  | [] => []
  | a :: as =>
      if entryName a ∈ existing then a :: skipped entryName existing as
      else skipped entryName (entryName a :: existing) as

/-- The entries of a dry run that would be created. -/
def fresh (entryName : α → String) (existing : List String) (as : List α) : List α :=
  as.filter fun a => decide (entryName a ∉ existing)

/-- The entries of a dry run that are duplicates. -/
def taken (entryName : α → String) (existing : List String) (as : List α) : List α :=
  as.filter fun a => decide (entryName a ∈ existing)

/-- What the loop of the dry run does. -/
theorem Kind.preview_eq (existing : List String) (as : List α) :
    k.preview existing as =
      (fresh k.entryName existing as, (taken k.entryName existing as).map k.duplicate) := by
  induction as with
  | nil => rfl
  | cons a as ih =>
      rw [Kind.preview, ih]
      unfold fresh taken
      by_cases h : k.entryName a ∈ existing
      · simp [h]
      · simp [h]

/-- What the import does not skip is new to the dry run. -/
theorem notSkipped_sublist (entryName : α → String) {existing seen : List String}
    (hseen : existing ⊆ seen) (as : List α) :
    (notSkipped entryName seen as).Sublist (fresh entryName existing as) := by
  induction as generalizing seen with
  | nil => exact List.Sublist.refl _
  | cons a as ih =>
      unfold notSkipped fresh
      by_cases h : entryName a ∈ seen
      · rw [if_pos h, List.filter_cons]
        split
        · exact (ih hseen).cons a
        · exact ih hseen
      · have hnew : entryName a ∉ existing := fun hin => h (hseen hin)
        rw [if_neg h, List.filter_cons, if_pos (decide_eq_true hnew)]
        exact (ih fun n hn => List.mem_cons_of_mem _ (hseen hn)).cons_cons a

/-- The names of what is not skipped are new and different. -/
theorem nodup_notSkipped (entryName : α → String) (existing : List String) (as : List α) :
    ((notSkipped entryName existing as).map entryName).Nodup ∧
      ∀ n ∈ (notSkipped entryName existing as).map entryName, n ∉ existing := by
  induction as generalizing existing with
  | nil => exact ⟨List.nodup_nil, fun _ h => absurd h List.not_mem_nil⟩
  | cons a as ih =>
      unfold notSkipped
      split
      · exact ih existing
      · rename_i h
        obtain ⟨hnodup, hnew⟩ := ih (entryName a :: existing)
        rw [List.map_cons, List.nodup_cons]
        refine ⟨⟨fun hmem => hnew _ hmem (List.mem_cons_self ..), hnodup⟩, fun n hn => ?_⟩
        rcases List.mem_cons.1 hn with rfl | hn
        · exact h
        · exact fun hin => hnew n hn (List.mem_cons_of_mem _ hin)

/-- When the new entries have different names, the import skips no more than the
dry run tells. -/
theorem notSkipped_eq_fresh (entryName : α → String) {existing : List String} {as : List α}
    (h : ((fresh entryName existing as).map entryName).Nodup) :
    notSkipped entryName existing as = fresh entryName existing as ∧
      skipped entryName existing as = taken entryName existing as := by
  -- The names that the import adds are not among those of the entries to come.
  suffices hgen : ∀ seen : List String, existing ⊆ seen →
      (∀ n ∈ seen, n ∈ existing ∨ n ∉ (fresh entryName existing as).map entryName) →
      notSkipped entryName seen as = fresh entryName existing as ∧
        skipped entryName seen as = taken entryName existing as by
    exact hgen existing (List.Subset.refl _) fun n hn => .inl hn
  induction as with
  | nil => exact fun _ _ _ => ⟨rfl, rfl⟩
  | cons a as ih =>
      intro seen hsub hseen
      unfold notSkipped skipped
      by_cases hin : entryName a ∈ existing
      · have hfresh : fresh entryName existing (a :: as) = fresh entryName existing as := by
          simp [fresh, hin]
        have htaken : taken entryName existing (a :: as) = a :: taken entryName existing as := by
          simp [taken, hin]
        rw [hfresh] at h hseen
        obtain ⟨hnot, hskip⟩ := ih h seen hsub hseen
        rw [if_pos (hsub hin), if_pos (hsub hin), hskip, hnot, hfresh, htaken]
        exact ⟨rfl, rfl⟩
      · have hfresh : fresh entryName existing (a :: as) = a :: fresh entryName existing as := by
          simp [fresh, hin]
        have htaken : taken entryName existing (a :: as) = taken entryName existing as := by
          simp [taken, hin]
        rw [hfresh, List.map_cons] at h hseen
        obtain ⟨hhead, htail⟩ := List.nodup_cons.1 h
        have hnew : entryName a ∉ seen := by
          intro hmem
          rcases hseen _ hmem with hold | hnew
          · exact hin hold
          · exact hnew (List.mem_cons_self ..)
        obtain ⟨hnot, hskip⟩ := ih htail (entryName a :: seen)
          (fun n hn => List.mem_cons_of_mem _ (hsub hn)) fun n hn => by
            rcases List.mem_cons.1 hn with rfl | hn
            · exact .inr hhead
            · exact (hseen n hn).imp_right fun hnot hmem => hnot (List.mem_cons_of_mem _ hmem)
        rw [if_neg hnew, if_neg hnew, hnot, hskip, hfresh, htaken]
        exact ⟨rfl, rfl⟩

/-- Only the names of the entries matter. -/
theorem fresh_congr (entryName : α → String) {existing existing' : List String} {as : List α}
    (h : ∀ a ∈ as, entryName a ∈ existing ↔ entryName a ∈ existing') :
    fresh entryName existing as = fresh entryName existing' as ∧
      taken entryName existing as = taken entryName existing' as :=
  ⟨List.filter_congr fun a ha => by simp only [h a ha],
    List.filter_congr fun a ha => by simp only [h a ha]⟩

/-! ## The rows -/

/-- What `create` does when it does not raise. -/
theorem Kind.create_eq_ok {t t' : NamedTable id name} {a : α} :
    k.create t a = .ok t' ↔ ∃ row, k.make t.nextId a = .ok row ∧ name row ∉ t.names ∧
      t'.rows = t.rows ++ [row] ∧ t'.nextId = t.nextId + 1 := by
  unfold Kind.create
  split
  · rename_i e hmake
    constructor
    · intro h
      cases h
    · rintro ⟨row, hrow, -⟩
      rw [hmake] at hrow
      cases hrow
  · rename_i row hmake
    have hinsert : (∃ row', k.make t.nextId a = .ok row' ∧ name row' ∉ t.names ∧
        t'.rows = t.rows ++ [row'] ∧ t'.nextId = t.nextId + 1) ↔
        t.insert? row (k.make_id hmake) = some t' := by
      rw [NamedTable.insert?_eq_some, hmake]
      constructor
      · rintro ⟨row', hrow, h⟩
        cases hrow
        exact h
      · exact fun h => ⟨row, rfl, h⟩
    rw [hinsert]
    split
    · rename_i hnone
      rw [hnone]
      constructor <;> intro h <;> cases h
    · rename_i t'' hsome
      rw [hsome, Except.ok.injEq, Option.some.injEq]

/-- A row was made of an entry, under an id from `next` on. -/
def MadeOf (k : Kind α id name) (next : Uuid) (a : α) (row : ρ) : Prop :=
  ∃ i, next ≤ i ∧ k.make i a = .ok row

/-- Rows were added, one for each of some entries. -/
def Creates (k : Kind α id name) (entries : List α) (old new : NamedTable id name) : Prop :=
  ∃ rows, List.Forall₂ (MadeOf k old.nextId) entries rows ∧ new.rows = old.rows ++ rows

/-- **What the loop of the import does** when it does not raise. -/
theorem Kind.importRows_eq_ok {t t' : NamedTable id name} {existing : List String} {as : List α}
    {created : Nat} {errors : List String}
    (h : k.importRows t existing as = .ok (t', created, errors)) :
    Creates k (notSkipped k.entryName existing as) t t' ∧
      created = (notSkipped k.entryName existing as).length ∧
      errors = (skipped k.entryName existing as).map fun a => k.duplicate a ++ ", skipped" := by
  induction as generalizing t existing created errors with
  | nil =>
      cases h
      exact ⟨⟨[], .nil, (List.append_nil _).symm⟩, rfl, rfl⟩
  | cons a as ih =>
      unfold Kind.importRows at h
      unfold notSkipped skipped
      split at h
      · rename_i hin
        simp only [bind_eq_ok] at h
        obtain ⟨⟨t₁, created₁, errors₁⟩, hrest, h⟩ := h
        cases h
        obtain ⟨hcreates, hcreated, herrors⟩ := ih hrest
        rw [if_pos hin, if_pos hin, List.map_cons, ← herrors]
        exact ⟨hcreates, hcreated, rfl⟩
      · rename_i hin
        simp only [bind_eq_ok] at h
        obtain ⟨t₁, hcreate, ⟨t₂, created₁, errors₁⟩, hrest, h⟩ := h
        cases h
        obtain ⟨row, hmake, -, hrows, hnext⟩ := Kind.create_eq_ok.1 hcreate
        obtain ⟨⟨rows, hmade, happend⟩, hcreated, herrors⟩ := ih hrest
        rw [if_neg hin, if_neg hin, List.length_cons, ← hcreated]
        refine ⟨⟨row :: rows, .cons ⟨t.nextId, Nat.le_refl _, hmake⟩ ?_, ?_⟩, rfl, herrors⟩
        · refine hmade.imp fun b r hb => ?_
          obtain ⟨i, hi, hbr⟩ := hb
          rw [hnext] at hi
          exact ⟨i, Nat.le_of_succ_le hi, hbr⟩
        · rw [happend, hrows, List.append_assoc, List.singleton_append]

/-- **When the loop of the import does not raise**: the entries that it does not
skip fit their columns, and no name of theirs is taken. -/
theorem Kind.returns_importRows (hk : k.Lawful) {t : NamedTable id name} {existing : List String}
    {as : List α} (hnames : ∀ a ∈ as, k.entryName a ∈ t.names → k.entryName a ∈ existing)
    (hfit : ∀ a ∈ notSkipped k.entryName existing as, Returns (k.make 0 a)) :
    Returns (k.importRows t existing as) := by
  induction as generalizing t existing with
  | nil => exact ⟨_, rfl⟩
  | cons a as ih =>
      unfold notSkipped at hfit
      unfold Kind.importRows
      by_cases hin : k.entryName a ∈ existing
      · rw [if_pos hin] at hfit ⊢
        obtain ⟨⟨t₁, created, errors⟩, hrest⟩ :=
          ih (t := t) (fun b hb => hnames b (List.mem_cons_of_mem _ hb)) hfit
        rw [hrest]
        exact ⟨_, rfl⟩
      · rw [if_neg hin] at hfit ⊢
        obtain ⟨row₀, hrow₀⟩ := hfit a (List.mem_cons_self ..)
        obtain ⟨row, hrow⟩ := hk.make_any t.nextId hrow₀
        have hname : name row ∉ t.names := by
          rw [hk.make_name hrow]
          exact fun hmem => hin (hnames a (List.mem_cons_self ..) hmem)
        have hcreate := Kind.create_eq_ok.2
          ⟨row, hrow, hname, rfl, (rfl : (t.append row (k.make_id hrow) hname).nextId = _)⟩
        rw [hcreate]
        have hnames' : ∀ b ∈ as, k.entryName b ∈ (t.append row (k.make_id hrow) hname).names →
            k.entryName b ∈ k.entryName a :: existing := by
          intro b hb hmem
          obtain ⟨r, hr, hrb⟩ := NamedTable.mem_names.1 hmem
          rcases List.mem_append.1 hr with hr | hr
          · exact List.mem_cons_of_mem _
              (hnames b (List.mem_cons_of_mem _ hb) (NamedTable.mem_names.2 ⟨r, hr, hrb⟩))
          · rw [← hrb, List.mem_singleton.1 hr, hk.make_name hrow]
            exact List.mem_cons_self ..
        obtain ⟨⟨t₁, created, errors⟩, hrest⟩ :=
          ih hnames' fun b hb => hfit b (List.mem_cons_of_mem _ hb)
        show Returns ((k.importRows (t.append row (k.make_id hrow) hname)
          (k.entryName a :: existing) as).bind _)
        rw [hrest]
        exact ⟨_, rfl⟩

/-! ## The names that are read -/

/-- The names that a read of a table finds. -/
def readNames (as : List α) (name : ρ → String) (batchSize : Nat) (orders : Nat → List ρ) :
    List String :=
  existingNames as name (load cut batchSize orders)

section Reads

variable {batchSize : Nat} {t : NamedTable id name} {as : List α} {orders : Nat → List ρ}

theorem mem_readNames {n : String} (ha : as ≠ []) : n ∈ readNames as name batchSize orders ↔
    ∃ r ∈ load cut batchSize orders, name r = n := by
  unfold readNames existingNames
  rw [if_neg (by simpa using ha), List.mem_map]

/-- A read returns. -/
theorem loadAll_eq_load (hb : 1 ≤ batchSize) (horders : OrdersOf t.rows orders) :
    loadAll cut batchSize orders (t.rows.length + 1) = some (load cut batchSize orders) := by
  obtain ⟨items, hitems, -⟩ := loadAll_returns hb horders (Nat.lt_succ_self t.rows.length)
  unfold load
  rw [(horders 0).length_eq, hitems]
  rfl

/-- Only names of the table are read. -/
theorem readNames_subset (hb : 1 ≤ batchSize) (horders : OrdersOf t.rows orders) (ha : as ≠ []) :
    readNames as name batchSize orders ⊆ t.names := by
  intro n hn
  obtain ⟨r, hr, hrn⟩ := (mem_readNames ha).1 hn
  have hsub := loadFrom_subset horders (List.nil_subset _) (loadAll_eq_load hb horders)
  exact NamedTable.mem_names.2 ⟨r, hsub hr, hrn⟩

/-- A table that fits into a batch has its names read, and so has any table when
all SELECTs use one order. -/
theorem mem_readNames_iff (hb : 1 ≤ batchSize) (horders : OrdersOf t.rows orders)
    (hread : t.rows.length ≤ batchSize ∨ ∀ i, orders i = t.rows) (ha : as ≠ []) {n : String} :
    n ∈ readNames as name batchSize orders ↔ n ∈ t.names := by
  refine ⟨fun hn => readNames_subset hb horders ha hn, fun hn => ?_⟩
  obtain ⟨r, hr, hrn⟩ := NamedTable.mem_names.1 hn
  refine (mem_readNames ha).2 ⟨r, ?_, hrn⟩
  have hload := loadAll_eq_load hb horders
  rcases hread with hle | hstable
  · rw [loadAll_of_length_le hb horders hle (Nat.lt_succ_self _)] at hload
    rw [← Option.some.inj hload]
    exact (horders 0).mem_iff.2 hr
  · obtain rfl : orders = fun _ => t.rows := funext hstable
    rw [loadAll_stable hb t.rows (Nat.lt_succ_self _)] at hload
    rwa [← Option.some.inj hload]

/-- Of a larger table any name can be missed. -/
theorem exists_orders_not_mem_readNames (hb : 1 ≤ batchSize) (hlt : batchSize < t.rows.length)
    (ha : as ≠ []) {n : String} (hn : n ∈ t.names) :
    ∃ orders, OrdersOf t.rows orders ∧ n ∉ readNames as name batchSize orders := by
  obtain ⟨r, hr, hrn⟩ := NamedTable.mem_names.1 hn
  obtain ⟨orders, horders, hmiss⟩ := exists_orders_not_mem hb t.rows_nodup hr hlt
  refine ⟨orders, horders, fun hmem => ?_⟩
  obtain ⟨r', hr', hrn'⟩ := (mem_readNames ha).1 hmem
  have hload := loadAll_eq_load hb horders
  have hsub := loadFrom_subset horders (List.nil_subset _) hload
  have heq : r' = r := t.eq_of_name_eq (hsub hr') hr (hrn'.trans hrn.symm)
  rw [heq] at hr'
  exact hmiss _ _ hload hr'

end Reads

/-! ## One kind -/

/-- When the dry run tells what the import does with the entries of a kind. -/
structure Kind.Previewable (k : Kind α id name) (batchSize : Nat) (t : NamedTable id name)
    (as : List α) : Prop where
  /-- The entries whose names are not taken have different names. -/
  nodup : ((fresh k.entryName t.names as).map k.entryName).Nodup
  /-- They fit their columns. -/
  fits : ∀ a ∈ fresh k.entryName t.names as, Returns (k.make 0 a)
  /-- The table fits into a batch, or no entry has a name that is taken. -/
  complete : t.rows.length ≤ batchSize ∨ ∀ a ∈ as, k.entryName a ∉ t.names

section OneKind

variable {batchSize : Nat} {t : NamedTable id name} {as : List α}

/-- Whatever orders the reads use, they find the names that matter. -/
theorem Kind.Previewable.reads (h : k.Previewable batchSize t as) (hb : 1 ≤ batchSize)
    {orders : Nat → List ρ} (horders : OrdersOf t.rows orders) :
    ∀ a ∈ as, k.entryName a ∈ readNames as name batchSize orders ↔ k.entryName a ∈ t.names := by
  intro a ha
  have hne : as ≠ [] := List.ne_nil_of_mem ha
  rcases h.complete with hle | hnone
  · exact mem_readNames_iff hb horders (.inl hle) hne
  · exact ⟨fun hmem => readNames_subset hb horders hne hmem, fun hmem => absurd hmem (hnone a ha)⟩

/-- Under the condition the import of a kind does what the dry run tells. -/
theorem Kind.Previewable.agrees (hk : k.Lawful) (h : k.Previewable batchSize t as)
    (hb : 1 ≤ batchSize) {ordersP ordersI : Nat → List ρ} (hP : OrdersOf t.rows ordersP)
    (hI : OrdersOf t.rows ordersI) :
    ∃ t' created errors,
      k.importRows t (readNames as name batchSize ordersI) as = .ok (t', created, errors) ∧
      Creates k (k.preview (readNames as name batchSize ordersP) as).1 t t' ∧
      created = (k.preview (readNames as name batchSize ordersP) as).1.length ∧
      errors = (k.preview (readNames as name batchSize ordersP) as).2.map (· ++ ", skipped") := by
  obtain ⟨hfreshP, htakenP⟩ := fresh_congr k.entryName (h.reads hb hP)
  obtain ⟨hfreshI, htakenI⟩ := fresh_congr k.entryName (h.reads hb hI)
  have hnodup := h.nodup
  rw [← hfreshI] at hnodup
  obtain ⟨hnot, hskip⟩ := notSkipped_eq_fresh k.entryName hnodup
  obtain ⟨⟨t', created, errors⟩, himport⟩ : Returns
      (k.importRows t (readNames as name batchSize ordersI) as) := by
    apply Kind.returns_importRows hk fun a ha => (h.reads hb hI a ha).2
    rw [hnot, hfreshI]
    exact h.fits
  obtain ⟨hcreates, hcreated, herrors⟩ := Kind.importRows_eq_ok himport
  rw [hnot, hfreshI] at hcreates hcreated
  rw [hskip, htakenI] at herrors
  refine ⟨t', created, errors, himport, ?_⟩
  rw [Kind.preview_eq, hfreshP, htakenP, List.map_map]
  exact ⟨hcreates, hcreated, herrors⟩

/-- If the import does as told when all SELECTs use one order, the new entries have
different names and fit. -/
theorem Kind.fresh_of_agrees (hk : k.Lawful) (hb : 1 ≤ batchSize) {t' : NamedTable id name}
    {created : Nat} {errors : List String}
    (himport : k.importRows t (readNames as name batchSize fun _ => t.rows) as =
      .ok (t', created, errors))
    (hcreated : created = (k.preview (readNames as name batchSize fun _ => t.rows) as).1.length) :
    ((fresh k.entryName t.names as).map k.entryName).Nodup ∧
      ∀ a ∈ fresh k.entryName t.names as, Returns (k.make 0 a) := by
  have hreads : ∀ a ∈ as, k.entryName a ∈ (readNames as name batchSize fun _ => t.rows) ↔
      k.entryName a ∈ t.names := fun a ha =>
    mem_readNames_iff hb (fun _ => List.Perm.refl _) (.inr fun _ => rfl) (List.ne_nil_of_mem ha)
  obtain ⟨hfresh, -⟩ := fresh_congr k.entryName hreads
  obtain ⟨⟨rows, hmade, -⟩, hlength, -⟩ := Kind.importRows_eq_ok himport
  rw [hlength, Kind.preview_eq] at hcreated
  have heq := (notSkipped_sublist k.entryName (List.Subset.refl _) as).eq_of_length hcreated
  have hnodup := (nodup_notSkipped k.entryName (readNames as name batchSize fun _ => t.rows) as).1
  rw [heq, hfresh] at hnodup hmade
  refine ⟨hnodup, fun a ha => ?_⟩
  obtain ⟨row, -, i, -, hrow⟩ := exists_of_forall₂_left hmade ha
  exact hk.make_any 0 hrow

/-- With a name that is missed the dry run tells of more entries. -/
theorem Kind.length_preview_lt {existing : List String} (hsub : existing ⊆ t.names) {a : α}
    (ha : a ∈ as) (hin : k.entryName a ∈ t.names) (hmiss : k.entryName a ∉ existing) :
    (k.preview t.names as).1.length < (k.preview existing as).1.length := by
  rw [Kind.preview_eq, Kind.preview_eq]
  show (fresh k.entryName t.names as).length < (fresh k.entryName existing as).length
  have hsublist : (fresh k.entryName t.names as).Sublist (fresh k.entryName existing as) := by
    refine List.monotone_filter_right as fun b hb => ?_
    exact decide_eq_true fun hmem => of_decide_eq_true hb (hsub hmem)
  refine Nat.lt_of_le_of_ne hsublist.length_le fun hlen => ?_
  have heq := hsublist.eq_of_length hlen
  have hmem : a ∈ fresh k.entryName existing as := List.mem_filter.2 ⟨ha, decide_eq_true hmiss⟩
  rw [← heq] at hmem
  exact of_decide_eq_true (List.mem_filter.1 hmem).2 hin

/-- If the dry run tells of as many entries for all orders, its reads find the names
that matter. -/
theorem Kind.complete_of_agrees (hb : 1 ≤ batchSize)
    (h : ∀ orders, OrdersOf t.rows orders →
      (k.preview (readNames as name batchSize orders) as).1.length =
        (k.preview (readNames as name batchSize fun _ => t.rows) as).1.length) :
    t.rows.length ≤ batchSize ∨ ∀ a ∈ as, k.entryName a ∉ t.names := by
  by_contra hnot
  rw [not_or] at hnot
  obtain ⟨hlarge, htaken⟩ := hnot
  rw [not_forall] at htaken
  obtain ⟨a, htaken⟩ := htaken
  rw [Classical.not_imp, not_not] at htaken
  obtain ⟨ha, hin⟩ := htaken
  have hne : as ≠ [] := List.ne_nil_of_mem ha
  obtain ⟨orders, horders, hmiss⟩ :=
    exists_orders_not_mem_readNames hb (Nat.lt_of_not_le hlarge) hne hin
  have hlt := Kind.length_preview_lt (readNames_subset hb horders hne) ha hin hmiss
  have hstable : k.preview (readNames as name batchSize fun _ => t.rows) as =
      k.preview t.names as := by
    rw [Kind.preview_eq, Kind.preview_eq]
    obtain ⟨hfresh, htaken⟩ := fresh_congr k.entryName fun b (hb' : b ∈ as) =>
      mem_readNames_iff (t := t) (n := k.entryName b) hb (fun _ => List.Perm.refl _)
        (.inr fun _ => rfl) hne
    rw [hfresh, htaken]
  rw [h orders horders, hstable] at hlt
  exact Nat.lt_irrefl _ hlt

end OneKind

/-! ## The dry run and the import -/

/-- The import does what the dry run tells: it makes rows of the entries that would
be created, in their order, and reports the duplicates, one for each. -/
structure DoesAsTold (env : ConfigEnv) (p : DryRunPreview) (s s' : ConfigStore)
    (result : ConfigImportResult) : Prop where
  nodes : Creates (nodeKind env.db env.now) p.wouldCreateNodes s.nodes s'.nodes
  commands : Creates (commandKind env.db) p.wouldCreateCommands s.commands s'.commands
  scripts : Creates (scriptKind env.db) p.wouldCreateScripts s.scripts s'.scripts
  nodesCreated : result.nodesCreated = p.wouldCreateNodes.length
  commandsCreated : result.commandsCreated = p.wouldCreateCommands.length
  scriptsCreated : result.scriptsCreated = p.wouldCreateScripts.length
  errors : result.errors = p.duplicates.map (· ++ ", skipped")

/-- Whatever orders the database chooses, the import does what the dry run tells. -/
def PreviewTells (env : ConfigEnv) (s : ConfigStore) (data : ConfigTransferDTO) : Prop :=
  ∀ ordersP ordersI : Orders, ordersP.Of s → ordersI.Of s → ∃ s' result,
    importConfig env ordersI s data = .ok (s', result) ∧
      DoesAsTold env (previewImport env ordersP data) s s' result

/-- The condition, for the three kinds. -/
structure Previewable (env : ConfigEnv) (s : ConfigStore) (data : ConfigTransferDTO) : Prop where
  nodes : (nodeKind env.db env.now).Previewable env.batchSize s.nodes data.nodes
  commands : (commandKind env.db).Previewable env.batchSize s.commands data.commands
  scripts : (scriptKind env.db).Previewable env.batchSize s.scripts data.scripts

/-- The reads of the commands have no filter. -/
theorem existingCommandNames_eq (env : ConfigEnv) (orders : Orders) (data : ConfigTransferDTO) :
    existingCommandNames env orders data =
      readNames data.commands Row.name env.batchSize orders.commands := by
  unfold existingCommandNames commandGetAll
  rw [getAllFiltered_none]
  rfl

/-- The reads of the scripts have no filter. -/
theorem existingScriptNames_eq (env : ConfigEnv) (orders : Orders) (data : ConfigTransferDTO) :
    existingScriptNames env orders data =
      readNames data.scripts Row.name env.batchSize orders.scripts := by
  unfold existingScriptNames scriptGetAll
  rw [getAllFiltered_none]
  rfl

section Gateway

variable {env : ConfigEnv} {s : ConfigStore} {data : ConfigTransferDTO}

/-- Under the condition the import does what the dry run tells. -/
theorem previewTells_of_previewable (hdb : env.db.Lawful) (hb : 1 ≤ env.batchSize)
    (h : Previewable env s data) : PreviewTells env s data := by
  intro ordersP ordersI hP hI
  obtain ⟨nodes, nodesCreated, nodeErrors, hnodes, hnodesTold, hnodesCount, hnodesErrors⟩ :=
    h.nodes.agrees (nodeKind_lawful hdb env.now) hb hP.nodes hI.nodes
  obtain ⟨commands, commandsCreated, commandErrors, hcommands, hcommandsTold, hcommandsCount,
    hcommandsErrors⟩ := h.commands.agrees (commandKind_lawful hdb) hb hP.commands hI.commands
  obtain ⟨scripts, scriptsCreated, scriptErrors, hscripts, hscriptsTold, hscriptsCount,
    hscriptsErrors⟩ := h.scripts.agrees (scriptKind_lawful hdb) hb hP.scripts hI.scripts
  refine ⟨⟨nodes, commands, scripts⟩, ⟨nodesCreated, commandsCreated, scriptsCreated,
    nodeErrors ++ commandErrors ++ scriptErrors⟩, ?_, ?_⟩
  · unfold importConfig
    rw [existingCommandNames_eq, existingScriptNames_eq,
      show existingNodeNames env ordersI data =
        readNames data.nodes NodeRow.name env.batchSize ordersI.nodes from rfl, hnodes]
    show ((commandKind env.db).importRows _ _ _).bind _ = _
    rw [hcommands]
    show ((scriptKind env.db).importRows _ _ _).bind _ = _
    rw [hscripts]
    rfl
  · unfold previewImport
    rw [existingCommandNames_eq, existingScriptNames_eq]
    refine ⟨hnodesTold, hcommandsTold, hscriptsTold, hnodesCount, hcommandsCount, hscriptsCount, ?_⟩
    show nodeErrors ++ commandErrors ++ scriptErrors = List.map _ (_ ++ _ ++ _)
    rw [List.map_append, List.map_append, hnodesErrors, hcommandsErrors, hscriptsErrors]
    rfl

/-- What an import does that does not raise, kind by kind. -/
theorem importConfig_eq_ok {orders : Orders} {s' : ConfigStore} {result : ConfigImportResult}
    (h : importConfig env orders s data = .ok (s', result)) :
    (∃ errors, (nodeKind env.db env.now).importRows s.nodes
        (readNames data.nodes NodeRow.name env.batchSize orders.nodes) data.nodes =
      .ok (s'.nodes, result.nodesCreated, errors)) ∧
    (∃ errors, (commandKind env.db).importRows s.commands
        (readNames data.commands Row.name env.batchSize orders.commands) data.commands =
      .ok (s'.commands, result.commandsCreated, errors)) ∧
    ∃ errors, (scriptKind env.db).importRows s.scripts
        (readNames data.scripts Row.name env.batchSize orders.scripts) data.scripts =
      .ok (s'.scripts, result.scriptsCreated, errors) := by
  unfold importConfig at h
  rw [existingCommandNames_eq, existingScriptNames_eq] at h
  simp only [bind_eq_ok] at h
  obtain ⟨⟨nodes, nodesCreated, nodeErrors⟩, hnodes, ⟨commands, commandsCreated, commandErrors⟩,
    hcommands, ⟨scripts, scriptsCreated, scriptErrors⟩, hscripts, h⟩ := h
  cases h
  exact ⟨⟨_, hnodes⟩, ⟨_, hcommands⟩, ⟨_, hscripts⟩⟩

/-- The orders in which the rows were inserted. -/
def inserted (s : ConfigStore) : Orders :=
  ⟨fun _ => s.nodes.rows, fun _ => s.commands.rows, fun _ => s.scripts.rows⟩

theorem inserted_of (s : ConfigStore) : (inserted s).Of s :=
  ⟨fun _ => List.Perm.refl _, fun _ => List.Perm.refl _, fun _ => List.Perm.refl _⟩

/-- If the import does what the dry run tells, the condition holds. -/
theorem previewable_of_previewTells (hdb : env.db.Lawful) (hb : 1 ≤ env.batchSize)
    (h : PreviewTells env s data) : Previewable env s data := by
  obtain ⟨s', result, himport, htold⟩ := h (inserted s) (inserted s) (inserted_of s) (inserted_of s)
  obtain ⟨⟨_, hnodes⟩, ⟨_, hcommands⟩, ⟨_, hscripts⟩⟩ := importConfig_eq_ok himport
  -- The import does not depend on the orders of the dry run.
  have hcounts : ∀ ordersP : Orders, ordersP.Of s →
      DoesAsTold env (previewImport env ordersP data) s s' result := by
    intro ordersP hP
    obtain ⟨s'', result', himport', htold'⟩ := h ordersP (inserted s) hP (inserted_of s)
    rw [himport] at himport'
    cases himport'
    exact htold'
  have hcommandsCount := htold.commandsCreated
  have hscriptsCount := htold.scriptsCreated
  unfold previewImport at hcommandsCount hscriptsCount
  rw [existingCommandNames_eq] at hcommandsCount
  rw [existingScriptNames_eq] at hscriptsCount
  obtain ⟨hnodesNodup, hnodesFit⟩ :=
    Kind.fresh_of_agrees (nodeKind_lawful hdb env.now) hb hnodes htold.nodesCreated
  obtain ⟨hcommandsNodup, hcommandsFit⟩ :=
    Kind.fresh_of_agrees (commandKind_lawful hdb) hb hcommands hcommandsCount
  obtain ⟨hscriptsNodup, hscriptsFit⟩ :=
    Kind.fresh_of_agrees (scriptKind_lawful hdb) hb hscripts hscriptsCount
  refine ⟨⟨hnodesNodup, hnodesFit, ?_⟩, ⟨hcommandsNodup, hcommandsFit, ?_⟩,
    ⟨hscriptsNodup, hscriptsFit, ?_⟩⟩
  · apply Kind.complete_of_agrees (k := nodeKind env.db env.now) hb
    intro orders horders
    have hother := (hcounts { inserted s with nodes := orders }
      ⟨horders, (inserted_of s).commands, (inserted_of s).scripts⟩).nodesCreated
    exact hother.symm.trans htold.nodesCreated
  · apply Kind.complete_of_agrees (k := commandKind env.db) hb
    intro orders horders
    have hother := (hcounts { inserted s with commands := orders }
      ⟨(inserted_of s).nodes, horders, (inserted_of s).scripts⟩).commandsCreated
    unfold previewImport at hother
    rw [existingCommandNames_eq] at hother
    exact hother.symm.trans hcommandsCount
  · apply Kind.complete_of_agrees (k := scriptKind env.db) hb
    intro orders horders
    have hother := (hcounts { inserted s with scripts := orders }
      ⟨(inserted_of s).nodes, (inserted_of s).commands, horders⟩).scriptsCreated
    unfold previewImport at hother
    rw [existingScriptNames_eq] at hother
    exact hother.symm.trans hscriptsCount

/-- **When the dry run tells what the import does**: for each kind, the entries
whose names are not taken have different names and fit their columns, and the
table fits into a batch or no entry has a name that is taken. -/
theorem preview_tells_iff (hdb : env.db.Lawful) (hb : 1 ≤ env.batchSize) (s : ConfigStore)
    (data : ConfigTransferDTO) : PreviewTells env s data ↔ Previewable env s data :=
  ⟨previewable_of_previewTells hdb hb, previewTells_of_previewable hdb hb⟩

end Gateway

/-- The gateway as it is built, over columns that take the values of their type. -/
def plainEnv : ConfigEnv where
  db := plainColumns
  ilike _ _ := false
  now := fleetMoment
  batchSize := 1000

/-- A store without rows. -/
def emptyStore (nextId : Uuid) : ConfigStore := ⟨.empty nextId, .empty nextId, .empty nextId⟩

/-- A store with one command. -/
def backupStore (timeout : Int) : ConfigStore :=
  { emptyStore 1 with
    commands :=
      { rows := [⟨1, "backup", none, ⟨"true", .list []⟩, some [], timeout, none⟩]
        nextId := 2
        ids_nodup := List.nodup_singleton _
        names_nodup := List.nodup_singleton _
        drawn := by
          intro r hr
          obtain rfl := List.mem_singleton.1 hr
          exact Nat.lt_succ_self 1 } }

/-- A command of a payload. -/
def plainEntry (name : String) : CommandConfigDTO := ⟨name, "true", none, [], []⟩

/-- Every dry run tells what the import does. -/
def PreviewsTell (env : ConfigEnv) : Prop :=
  ∀ (s : ConfigStore) (data : ConfigTransferDTO), PreviewTells env s data

/-- Of two commands with one name the dry run tells twice. -/
theorem not_previewsTell : ¬ PreviewsTell plainEnv := by
  intro h
  have htells := h (emptyStore 1) ⟨[], [plainEntry "backup", plainEntry "backup"], []⟩
  have hnodup := (previewable_of_previewTells plainColumns_lawful (by decide) htells).commands.nodup
  revert hnodup
  decide

/-- For two commands with different names, of which one is taken, it tells what the import does. -/
theorem preview_tells_two : PreviewTells plainEnv (backupStore 30)
    ⟨[], [plainEntry "backup", plainEntry "restore"], []⟩ := by
  refine (preview_tells_iff plainColumns_lawful (by decide) _ _).2 ⟨?_, ?_, ?_⟩
  · exact ⟨List.nodup_nil, by simp [fresh], .inl (by decide)⟩
  · refine ⟨by decide, fun a ha => ?_, .inl (by decide)⟩
    have hmem : a ∈ [plainEntry "restore"] := ha
    rw [List.mem_singleton.1 hmem]
    exact ⟨_, rfl⟩
  · exact ⟨List.nodup_nil, by simp [fresh], .inl (by decide)⟩

end Config
end NodeNexus
