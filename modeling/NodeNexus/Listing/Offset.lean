import Mathlib.Data.List.Nodup
import NodeNexus.Lib.Traverse
import NodeNexus.Listing.Cursor

/-!
# Listing by offset

The listing of scripts and the history of a script's executions take a cursor
that encodes an offset.  The services below them work with pages of a fixed
size, so an offset that is no multiple of the limit is translated: a larger page
is fetched, and the rows in front are cut off.

* `paginationParams`, `cursorNext` and `getPage` are the helpers;
  `listScripts` and `getExecutions` are the two handlers, over the list of rows
  that their query selects.
* `listScripts_items` — the rows a handler really returns.
* `pageRight_iff` — a page is the one that was asked for exactly when the driver
  takes the numbers of its query, and its limit divides the offset, the offset
  lies before the limit, or no row is left.
* `walk` follows the cursors; `offset_listing_iff` says that it visits every row
  once and in order exactly when all its pages are right.
-/

namespace NodeNexus
namespace Listing

/-- What a listing raises. -/
inductive ListingFailure where
  /-- `HTTPException(status_code=422, detail="Invalid cursor")`. -/
  | invalidCursor
  /-- A negative OFFSET, or a number that the driver does not take. -/
  | dataError
  deriving DecidableEq

/-- `CursorPage`. -/
structure CursorPage (ρ : Type) where
  items : List ρ
  nextCursor : Option String
  hasMore : Bool
  limit : Nat

/-! ## The handlers -/

/-- `pagination_params`: the page, counted from 1, its size, and the rows to cut
off. -/
def paginationParams (offset : Int) (limit : Nat) : Int × Nat × Nat :=
  let remainder := if limit ≠ 0 then (offset % limit).toNat else 0
  let page := if limit ≠ 0 then offset / limit + 1 else 1
  let fetchSize := if remainder ≠ 0 then limit + remainder else limit
  (page, fetchSize, remainder)

/-- `cursor_next`. -/
def cursorNext (offset : Int) (limit total returned : Nat) : Option String × Bool :=
  let hasMore := offset + returned < total
  (if hasMore then some (encodeOffset (offset + limit).toNat) else none, hasMore)

section Handlers

variable {ρ : Type}

-- The greatest OFFSET and LIMIT that the driver of the database takes, as
-- `bigint` has one.
variable (greatest : Nat)

/-- `OFFSET` and `LIMIT`. -/
def selectPage (rows : List ρ) (offset : Int) (limit : Nat) : Except ListingFailure (List ρ) :=
  if offset < 0 ∨ (greatest : Int) < offset ∨ greatest < limit then .error .dataError
  else .ok ((rows.drop offset.toNat).take limit)

/-- `get_all_scripts` and `get_executions` of the services: a page, and the
number of all rows. -/
def getPage (rows : List ρ) (page : Int) (size : Nat) : Except ListingFailure (List ρ × Nat) := do
  let items ← selectPage greatest rows ((page - 1) * size) size
  .ok (items, rows.length)

/-- `list_scripts`. -/
def listScripts (py : Interpreter) (rows : List ρ) (cursor : Option String) (limit : Nat) :
    Except ListingFailure (CursorPage ρ) :=
  match parseCursorOffset py cursor with
  | none => .error .invalidCursor
  | some offset => do
      let (page, fetchSize, remainder) := paginationParams offset limit
      let (scripts, total) ← getPage greatest rows page fetchSize
      let items := if remainder ≠ 0 then (scripts.drop remainder).take limit else scripts
      let (nextCursor, hasMore) := cursorNext offset limit total items.length
      .ok ⟨items, nextCursor, hasMore, limit⟩

/-- `_get_executions`, which has the arithmetic written out; so has
`get_scheduled_execution_history`. -/
def getExecutions (py : Interpreter) (rows : List ρ) (cursor : Option String) (limit : Nat) :
    Except ListingFailure (CursorPage ρ) :=
  let offset? := match cursor with
    | none => some 0
    | some cursor => if cursor = "" then some 0 else decodeOffset py cursor
  match offset? with
  | none => .error .invalidCursor
  | some offset => do
      let remainder := if limit ≠ 0 then (offset % limit).toNat else 0
      let page := if limit ≠ 0 then offset / limit + 1 else 1
      let fetchSize := if remainder ≠ 0 then limit + remainder else limit
      let (executions, total) ← getPage greatest rows page fetchSize
      let items := if remainder ≠ 0 then (executions.drop remainder).take limit else executions
      let hasMore := offset + items.length < (total : Int)
      let nextCursor := if hasMore then some (encodeOffset (offset + limit).toNat) else none
      .ok ⟨items, nextCursor, hasMore, limit⟩

/-- The two handlers do the same. -/
theorem getExecutions_eq (py : Interpreter) (rows : List ρ) (cursor : Option String) (limit : Nat) :
    getExecutions greatest py rows cursor limit = listScripts greatest py rows cursor limit := by
  unfold getExecutions listScripts parseCursorOffset
  cases cursor <;> rfl

end Handlers

/-! ## One page -/

/-- The driver takes the OFFSET and the LIMIT of the query for a page. -/
def Fits (greatest offset limit : Nat) : Prop :=
  offset / limit * (limit + offset % limit) ≤ greatest ∧ limit + offset % limit ≤ greatest

instance (greatest offset limit : Nat) : Decidable (Fits greatest offset limit) :=
  inferInstanceAs (Decidable (_ ∧ _))

section Page

variable {ρ : Type} {greatest : Nat}

/-- Where the items of a page really start. -/
def start (offset limit : Nat) : Nat := offset + offset / limit * (offset % limit)

/-- Cutting the front off a larger page. -/
theorem slice_eq (rows : List ρ) (a r limit : Nat) :
    (((rows.drop a).take (limit + r)).drop r).take limit = (rows.drop (a + r)).take limit := by
  rw [List.drop_take, List.take_take, List.drop_drop]
  congr 1
  omega

theorem paginationParams_natCast (offset : Nat) {limit : Nat} (hl : 1 ≤ limit) :
    paginationParams offset limit =
      (((offset / limit : Nat) : Int) + 1, limit + offset % limit, offset % limit) := by
  have hne : limit ≠ 0 := by omega
  have hmod : ((offset : Int) % limit).toNat = offset % limit := by
    rw [← Int.natCast_emod, Int.toNat_natCast]
  have hsize : (if offset % limit ≠ 0 then limit + offset % limit else limit) =
      limit + offset % limit := by
    split <;> omega
  unfold paginationParams
  simp only [if_pos hne, hmod, hsize, Int.natCast_ediv]

/-- The page of the services: that of the query, if the driver takes its numbers. -/
theorem getPage_natCast (rows : List ρ) (q size : Nat) :
    getPage greatest rows ((q : Int) + 1) size =
      if q * size ≤ greatest ∧ size ≤ greatest
      then .ok ((rows.drop (q * size)).take size, rows.length) else .error .dataError := by
  have hoffset : ((q : Int) + 1 - 1) * size = ((q * size : Nat) : Int) := by
    rw [Int.natCast_mul]
    congr 1
    omega
  have hrefused : (((q * size : Nat) : Int) < 0 ∨ (greatest : Int) < (q * size : Nat) ∨
      greatest < size) ↔ ¬(q * size ≤ greatest ∧ size ≤ greatest) := by
    omega
  unfold getPage selectPage
  rw [hoffset, Int.toNat_natCast]
  by_cases h : q * size ≤ greatest ∧ size ≤ greatest
  · rw [if_neg fun hr => hrefused.1 hr h, if_pos h]
    rfl
  · rw [if_pos (hrefused.2 h), if_neg h]
    rfl

theorem cursorNext_natCast (offset limit total returned : Nat) :
    cursorNext offset limit total returned =
      (if offset + returned < total then some (encodeOffset (offset + limit)) else none,
        decide (offset + returned < total)) := by
  have hmore : ((offset : Int) + returned < total) ↔ offset + returned < total := by omega
  have hnext : ((offset : Int) + limit).toNat = offset + limit := by omega
  unfold cursorNext
  simp only [hmore, hnext]

/-- The rows that a handler cuts out, and its cursor. -/
def servedPage (rows : List ρ) (offset limit : Nat) : CursorPage ρ where
  items := (rows.drop (start offset limit)).take limit
  nextCursor :=
    if offset + ((rows.drop (start offset limit)).take limit).length < rows.length
    then some (encodeOffset (offset + limit)) else none
  hasMore := offset + ((rows.drop (start offset limit)).take limit).length < rows.length
  limit := limit

/-- **The page a handler returns.** -/
theorem listScripts_eq (py : Interpreter) (rows : List ρ) {limit : Nat} (hl : 1 ≤ limit)
    (offset : Nat) {cursor : Option String}
    (hc : parseCursorOffset py cursor = some (offset : Int)) :
    listScripts greatest py rows cursor limit =
      if Fits greatest offset limit then .ok (servedPage rows offset limit)
      else .error .dataError := by
  obtain ⟨q, hq⟩ : ∃ q, offset / limit = q := ⟨_, rfl⟩
  obtain ⟨r, hr⟩ : ∃ r, offset % limit = r := ⟨_, rfl⟩
  have hmod := Nat.div_add_mod offset limit
  rw [hq, hr] at hmod
  have hfits : Fits greatest offset limit ↔
      q * (limit + r) ≤ greatest ∧ limit + r ≤ greatest := by
    unfold Fits
    rw [hq, hr]
  have hstart : q * (limit + r) + r = start offset limit := by
    unfold start
    rw [hq, hr, Nat.mul_add, Nat.mul_comm q limit]
    omega
  have hitems : (if r ≠ 0 then (((rows.drop (q * (limit + r))).take (limit + r)).drop r).take limit
      else (rows.drop (q * (limit + r))).take (limit + r)) =
      (rows.drop (start offset limit)).take limit := by
    rw [← hstart]
    split
    · exact slice_eq rows _ r limit
    · rename_i hzero
      rw [not_not.1 hzero]
      rfl
  unfold listScripts
  rw [hc]
  simp only [paginationParams_natCast offset hl, hq, hr]
  rw [getPage_natCast]
  by_cases h : q * (limit + r) ≤ greatest ∧ limit + r ≤ greatest
  · rw [if_pos h, if_pos (hfits.2 h)]
    show Except.ok _ = _
    simp only [hitems, cursorNext_natCast]
    rfl
  · rw [if_neg h, if_neg (mt hfits.1 h)]
    rfl

theorem listScripts_of_fits (py : Interpreter) (rows : List ρ) {limit : Nat} (hl : 1 ≤ limit)
    {offset : Nat} {cursor : Option String}
    (hc : parseCursorOffset py cursor = some (offset : Int)) (h : Fits greatest offset limit) :
    listScripts greatest py rows cursor limit = .ok (servedPage rows offset limit) := by
  rw [listScripts_eq py rows hl offset hc, if_pos h]

/-- The page that was asked for: the rows from the offset on, and a cursor to the
next row if rows remain. -/
def rightPage (rows : List ρ) (offset limit : Nat) : CursorPage ρ where
  items := (rows.drop offset).take limit
  nextCursor := if offset + limit < rows.length then some (encodeOffset (offset + limit)) else none
  hasMore := offset + limit < rows.length
  limit := limit

/-- The limit divides the offset, the offset lies before the limit, or no row is
left. -/
def Aligned (total offset limit : Nat) : Prop :=
  limit ∣ offset ∨ offset < limit ∨ total ≤ offset

instance (total offset limit : Nat) : Decidable (Aligned total offset limit) :=
  inferInstanceAs (Decidable (limit ∣ offset ∨ offset < limit ∨ total ≤ offset))

theorem start_eq_of_aligned {total offset limit : Nat} (h : Aligned total offset limit) :
    start offset limit = offset ∨ total ≤ offset := by
  unfold start
  rcases h with hdvd | hlt | hle
  · rw [Nat.mod_eq_zero_of_dvd hdvd]
    exact .inl rfl
  · rw [Nat.div_eq_of_lt hlt, Nat.zero_mul]
    exact .inl rfl
  · exact .inr hle

theorem lt_start_of_not_aligned {total offset limit : Nat} (hl : 1 ≤ limit)
    (h : ¬Aligned total offset limit) : offset < start offset limit ∧ offset < total := by
  unfold Aligned at h
  rw [not_or, not_or] at h
  obtain ⟨hdvd, hlt, hle⟩ := h
  have hmod : 0 < offset % limit :=
    Nat.pos_of_ne_zero fun hzero => hdvd (Nat.dvd_of_mod_eq_zero hzero)
  have hdiv : 0 < offset / limit := Nat.div_pos (Nat.le_of_not_lt hlt) hl
  have hpos : 0 < offset / limit * (offset % limit) := Nat.mul_pos hdiv hmod
  unfold start
  omega

theorem le_start (offset limit : Nat) : offset ≤ start offset limit :=
  Nat.le_add_right _ _

/-- An aligned page is the right one. -/
theorem items_of_aligned {rows : List ρ} {offset limit : Nat}
    (h : Aligned rows.length offset limit) :
    (rows.drop (start offset limit)).take limit = (rows.drop offset).take limit := by
  rcases start_eq_of_aligned h with heq | hle
  · rw [heq]
  · have hle' := Nat.le_trans hle (le_start offset limit)
    rw [List.drop_eq_nil_of_le hle, List.drop_eq_nil_of_le hle']

/-- Rows further back are not the row at the offset. -/
theorem not_mem_drop {rows : List ρ} (hnodup : rows.Nodup) {offset k : Nat} (h : offset < k)
    (hlt : offset < rows.length) : rows[offset] ∉ rows.drop k := by
  intro hmem
  obtain ⟨i, hi, heq⟩ := List.mem_iff_getElem.1 hmem
  rw [List.getElem_drop] at heq
  rw [List.length_drop] at hi
  have hindex := (List.Nodup.getElem_inj_iff hnodup).1 heq
  omega

theorem mem_take_drop {rows : List ρ} {offset limit : Nat} (hl : 1 ≤ limit)
    (hlt : offset < rows.length) : rows[offset] ∈ (rows.drop offset).take limit := by
  rw [List.drop_eq_getElem_cons hlt]
  obtain ⟨k, rfl⟩ : ∃ k, limit = k + 1 := ⟨limit - 1, by omega⟩
  exact List.mem_cons_self ..

/-- A page that is not aligned misses the row at its offset. -/
theorem not_mem_items {rows : List ρ} (hnodup : rows.Nodup) {offset limit : Nat} (hl : 1 ≤ limit)
    (h : ¬Aligned rows.length offset limit) :
    ∃ hlt : offset < rows.length,
      rows[offset] ∉ (rows.drop (start offset limit)).take limit := by
  obtain ⟨hstart, hlt⟩ := lt_start_of_not_aligned hl h
  exact ⟨hlt, fun hmem => not_mem_drop hnodup hstart hlt (List.mem_of_mem_take hmem)⟩

/-- From an aligned page on rows remain exactly when the cursor says so. -/
theorem more_iff (rows : List ρ) (offset limit : Nat) :
    offset + ((rows.drop offset).take limit).length < rows.length ↔
      offset + limit < rows.length := by
  rw [List.length_take, List.length_drop]
  omega

/-- What a handler returns for an aligned page. -/
theorem listScripts_of_aligned (py : Interpreter) {rows : List ρ} {limit : Nat} (hl : 1 ≤ limit)
    {offset : Nat} {cursor : Option String}
    (hc : parseCursorOffset py cursor = some (offset : Int)) (hfits : Fits greatest offset limit)
    (h : Aligned rows.length offset limit) :
    listScripts greatest py rows cursor limit = .ok (rightPage rows offset limit) := by
  rw [listScripts_of_fits py rows hl hc hfits]
  unfold servedPage
  simp only [items_of_aligned h, more_iff]
  rfl

theorem fits_of_listScripts (py : Interpreter) {rows : List ρ} {limit : Nat} (hl : 1 ≤ limit)
    {offset : Nat} {cursor : Option String}
    (hc : parseCursorOffset py cursor = some (offset : Int)) {page : CursorPage ρ}
    (h : listScripts greatest py rows cursor limit = .ok page) : Fits greatest offset limit := by
  by_contra hnot
  rw [listScripts_eq py rows hl offset hc, if_neg hnot] at h
  cases h

/-- **When a page is the one that was asked for.** -/
theorem pageRight_iff (py : Interpreter) {rows : List ρ} (hnodup : rows.Nodup) {limit : Nat}
    (hl : 1 ≤ limit) (offset : Nat) :
    listScripts greatest py rows (some (encodeOffset offset)) limit =
        .ok (rightPage rows offset limit) ↔
      Fits greatest offset limit ∧ Aligned rows.length offset limit := by
  have hc := parseCursorOffset_encodeOffset py offset
  constructor
  · intro heq
    have hfits := fits_of_listScripts py hl hc heq
    rw [listScripts_of_fits py rows hl hc hfits] at heq
    refine ⟨hfits, ?_⟩
    by_contra hnot
    obtain ⟨hlt, hmiss⟩ := not_mem_items hnodup hl hnot
    have hitems : (rows.drop (start offset limit)).take limit = (rows.drop offset).take limit :=
      congrArg CursorPage.items (Except.ok.inj heq)
    rw [hitems] at hmiss
    exact hmiss (mem_take_drop hl hlt)
  · rintro ⟨hfits, haligned⟩
    exact listScripts_of_aligned py hl hc hfits haligned

end Page

/-! ## Following the cursors -/

variable {ρ : Type}

/-- What a client gets that follows the cursors with some limits: the items, and
whether the last page had no cursor. -/
def walk (handler : Option String → Nat → Except ListingFailure (CursorPage ρ)) :
    Option String → List Nat → Except ListingFailure (List ρ × Bool)
  | _, [] => .ok ([], false)
  | cursor, limit :: limits => do
      let page ← handler cursor limit
      match page.nextCursor with
      | none => .ok (page.items, true)
      | some cursor => do
          let (items, finished) ← walk handler (some cursor) limits
          .ok (page.items ++ items, finished)

/-- The driver takes the numbers of every page that the walk asks for, and the
page is aligned. -/
def AlignedWalk (greatest total : Nat) : Nat → List Nat → Prop
  | _, [] => True
  | offset, limit :: limits =>
      (Fits greatest offset limit ∧ Aligned total offset limit) ∧
        (offset + limit < total → AlignedWalk greatest total (offset + limit) limits)

instance (greatest total : Nat) : (offset : Nat) → (limits : List Nat) →
    Decidable (AlignedWalk greatest total offset limits)
  | _, [] => .isTrue trivial
  | offset, limit :: limits =>
      have := instDecidableAlignedWalk greatest total (offset + limit) limits
      inferInstanceAs (Decidable (_ ∧ (_ → _)))

/-- What a walk is to give: the rows from the offset on, as many as the limits
allow, and the end once there are no more. -/
def rightWalk (rows : List ρ) (offset : Nat) (limits : List Nat) : List ρ × Bool :=
  ((rows.drop offset).take limits.sum,
    !limits.isEmpty && decide (rows.length ≤ offset + limits.sum))

/-- The end of a walk, seen from its first page. -/
theorem finished_cons {rows : List ρ} {offset limit : Nat} (limits : List Nat)
    (hlt : offset + limit < rows.length) :
    (!limits.isEmpty && decide (rows.length ≤ offset + limit + limits.sum)) =
      (!(limit :: limits).isEmpty && decide (rows.length ≤ offset + (limit :: limits).sum)) := by
  rw [List.sum_cons, ← Nat.add_assoc]
  cases limits with
  | nil =>
      have hnot : ¬rows.length ≤ offset + limit + 0 := by omega
      exact (decide_eq_false hnot).symm
  | cons l ls => rfl

section Walk

variable {greatest : Nat} (py : Interpreter) {rows : List ρ}

/-- A walk goes on behind a page from which rows remain. -/
theorem walk_cons_some {cursor : Option String} {limit : Nat} {limits : List Nat}
    {page : CursorPage ρ} {next : String}
    (hpage : listScripts greatest py rows cursor limit = .ok page)
    (hnext : page.nextCursor = some next) :
    walk (listScripts greatest py rows) cursor (limit :: limits) =
      (walk (listScripts greatest py rows) (some next) limits).map
        fun p => (page.items ++ p.1, p.2) := by
  rw [walk, hpage]
  show (match page.nextCursor with
    | none => _
    | some cursor => _ : Except ListingFailure (List ρ × Bool)) = _
  rw [hnext]
  show (do
    let p ← walk (listScripts greatest py rows) (some next) limits
    .ok (page.items ++ p.1, p.2)) = _
  cases walk (listScripts greatest py rows) (some next) limits <;> rfl

/-- A walk ends with a page that has no cursor. -/
theorem walk_cons_none {cursor : Option String} {limit : Nat} {limits : List Nat}
    {page : CursorPage ρ} (hpage : listScripts greatest py rows cursor limit = .ok page)
    (hnext : page.nextCursor = none) :
    walk (listScripts greatest py rows) cursor (limit :: limits) = .ok (page.items, true) := by
  rw [walk, hpage]
  show (match page.nextCursor with
    | none => _
    | some cursor => _ : Except ListingFailure (List ρ × Bool)) = _
  rw [hnext]

/-- A walk ends with the exception of a page. -/
theorem walk_cons_error {cursor : Option String} {limit : Nat} {limits : List Nat}
    {failure : ListingFailure} (hpage : listScripts greatest py rows cursor limit = .error failure) :
    walk (listScripts greatest py rows) cursor (limit :: limits) = .error failure := by
  rw [walk, hpage]
  rfl

/-- Every page of a walk that ends well fits. -/
theorem fits_of_walk {limit : Nat} {limits : List Nat} (hl : 1 ≤ limit) {offset : Nat}
    {cursor : Option String} (hc : parseCursorOffset py cursor = some (offset : Int))
    {result : List ρ × Bool}
    (h : walk (listScripts greatest py rows) cursor (limit :: limits) = .ok result) :
    Fits greatest offset limit := by
  by_contra hnot
  have hpage : listScripts greatest py rows cursor limit = .error .dataError := by
    rw [listScripts_eq py rows hl offset hc, if_neg hnot]
  rw [walk_cons_error py hpage] at h
  cases h

/-- A walk over aligned pages visits every row once and in order. -/
theorem walk_of_aligned {limits : List Nat} (hl : ∀ l ∈ limits, 1 ≤ l) {offset : Nat}
    {cursor : Option String} (hc : parseCursorOffset py cursor = some (offset : Int))
    (h : AlignedWalk greatest rows.length offset limits) :
    walk (listScripts greatest py rows) cursor limits = .ok (rightWalk rows offset limits) := by
  induction limits generalizing offset cursor with
  | nil =>
      simp [walk, rightWalk]
  | cons limit limits ih =>
      obtain ⟨⟨hfits, hhead⟩, htail⟩ := h
      have hlimit := hl limit (List.mem_cons_self ..)
      have hpage := listScripts_of_aligned py hlimit hc hfits hhead
      by_cases hlt : offset + limit < rows.length
      · rw [walk_cons_some py hpage (if_pos hlt),
          ih (fun l hl' => hl l (List.mem_cons_of_mem _ hl'))
            (parseCursorOffset_encodeOffset py (offset + limit)) (htail hlt)]
        have hrows : (rows.drop offset).take limit ++ (rows.drop (offset + limit)).take limits.sum =
            (rows.drop offset).take (limit + limits.sum) := by
          rw [List.take_add, List.drop_drop]
        simp only [Except.map, rightPage, rightWalk, hrows, finished_cons limits hlt, List.sum_cons]
      · have hle : rows.length ≤ offset + limit := by omega
        rw [walk_cons_none py hpage (if_neg hlt)]
        have hrows : (rows.drop offset).take limit =
            (rows.drop offset).take (limit + limits.sum) := by
          have hlen : (rows.drop offset).length ≤ limit := by
            rw [List.length_drop]
            omega
          rw [List.take_of_length_le hlen, List.take_of_length_le (by omega)]
        have hend : rows.length ≤ offset + (limit :: limits).sum := by
          rw [List.sum_cons]
          omega
        unfold rightWalk
        rw [decide_eq_true hend, List.sum_cons, ← hrows]
        rfl

/-- A walk never goes back. -/
theorem mem_drop_of_mem_walk {limits : List Nat} (hl : ∀ l ∈ limits, 1 ≤ l) {offset : Nat}
    {cursor : Option String} (hc : parseCursorOffset py cursor = some (offset : Int))
    {items : List ρ} {finished : Bool}
    (h : walk (listScripts greatest py rows) cursor limits = .ok (items, finished)) :
    ∀ x ∈ items, x ∈ rows.drop offset := by
  induction limits generalizing offset cursor items finished with
  | nil =>
      cases h
      intro x hx
      cases hx
  | cons limit limits ih =>
      have hlimit := hl limit (List.mem_cons_self ..)
      have hpage := listScripts_of_fits py rows hlimit hc (fits_of_walk py hlimit hc h)
      have hfirst : ∀ x ∈ (rows.drop (start offset limit)).take limit, x ∈ rows.drop offset :=
        fun x hx => List.drop_subset_drop_left rows (le_start offset limit) (List.mem_of_mem_take hx)
      by_cases hmore : offset + ((rows.drop (start offset limit)).take limit).length < rows.length
      · rw [walk_cons_some py hpage (if_pos hmore)] at h
        obtain ⟨⟨later, f⟩, hlater, hres⟩ := map_eq_ok.1 h
        cases hres
        intro x hx
        rcases List.mem_append.1 hx with hx | hx
        · exact hfirst x hx
        · exact List.drop_subset_drop_left rows (Nat.le_add_right offset limit)
            (ih (fun l hl' => hl l (List.mem_cons_of_mem _ hl'))
              (parseCursorOffset_encodeOffset py (offset + limit)) hlater x hx)
      · rw [walk_cons_none py hpage (if_neg hmore)] at h
        cases h
        exact hfirst

/-- The first page of a walk that visits every row once and in order is aligned. -/
theorem aligned_of_walk_cons (hnodup : rows.Nodup) {limit : Nat} {limits : List Nat}
    (hl : ∀ l ∈ limit :: limits, 1 ≤ l) {offset : Nat} {cursor : Option String}
    (hc : parseCursorOffset py cursor = some (offset : Int))
    (h : walk (listScripts greatest py rows) cursor (limit :: limits) =
      .ok (rightWalk rows offset (limit :: limits))) : Aligned rows.length offset limit := by
  have hlimit := hl limit (List.mem_cons_self ..)
  have hpage := listScripts_of_fits py rows hlimit hc (fits_of_walk py hlimit hc h)
  by_contra hnot
  obtain ⟨hlt, hmiss⟩ := not_mem_items hnodup hlimit hnot
  have hwanted : rows[offset] ∈ (rightWalk rows offset (limit :: limits)).1 := by
    refine mem_take_drop ?_ hlt
    rw [List.sum_cons]
    omega
  by_cases hmore : offset + ((rows.drop (start offset limit)).take limit).length < rows.length
  · rw [walk_cons_some py hpage (if_pos hmore)] at h
    obtain ⟨⟨later, f⟩, hlater, hres⟩ := map_eq_ok.1 h
    rw [← hres] at hwanted
    rcases List.mem_append.1 hwanted with hx | hx
    · exact hmiss hx
    · exact not_mem_drop hnodup (Nat.lt_add_of_pos_right hlimit) hlt
        (mem_drop_of_mem_walk py (fun l hl' => hl l (List.mem_cons_of_mem _ hl'))
          (parseCursorOffset_encodeOffset py (offset + limit)) hlater _ hx)
  · rw [walk_cons_none py hpage (if_neg hmore)] at h
    rw [← Except.ok.inj h] at hwanted
    exact hmiss hwanted

/-- A walk that visits every row once and in order has aligned pages only. -/
theorem aligned_of_walk (hnodup : rows.Nodup) {limits : List Nat} (hl : ∀ l ∈ limits, 1 ≤ l)
    {offset : Nat} {cursor : Option String}
    (hc : parseCursorOffset py cursor = some (offset : Int))
    (h : walk (listScripts greatest py rows) cursor limits = .ok (rightWalk rows offset limits)) :
    AlignedWalk greatest rows.length offset limits := by
  induction limits generalizing offset cursor with
  | nil => trivial
  | cons limit limits ih =>
      have hlimit := hl limit (List.mem_cons_self ..)
      have hfits := fits_of_walk py hlimit hc h
      have haligned := aligned_of_walk_cons py hnodup hl hc h
      refine ⟨⟨hfits, haligned⟩, fun hlt => ?_⟩
      have hpage := listScripts_of_aligned py hlimit hc hfits haligned
      rw [walk_cons_some py hpage (if_pos hlt)] at h
      obtain ⟨⟨later, f⟩, hlater, hres⟩ := map_eq_ok.1 h
      apply ih (fun l hl' => hl l (List.mem_cons_of_mem _ hl'))
        (parseCursorOffset_encodeOffset py (offset + limit))
      rw [hlater]
      obtain ⟨hitems, hend⟩ := Prod.mk.inj hres
      rw [List.sum_cons, List.take_add, List.drop_drop] at hitems
      rw [← finished_cons limits hlt] at hend
      have hlateritems : later = _ := List.append_cancel_left hitems
      have hlaterend : f = _ := hend
      rw [hlateritems, hlaterend]
      rfl

end Walk

/-! ## Both handlers -/

/-- The page at an offset is the one that was asked for. -/
def PageRight (handler : Option String → Nat → Except ListingFailure (CursorPage ρ))
    (rows : List ρ) (offset limit : Nat) : Prop :=
  handler (some (encodeOffset offset)) limit = .ok (rightPage rows offset limit)

/-- Following the cursors from the start visits every row once and in order. -/
def WalkRight (handler : Option String → Nat → Except ListingFailure (CursorPage ρ))
    (rows : List ρ) (limits : List Nat) : Prop :=
  walk handler none limits = .ok (rightWalk rows 0 limits)

/-- **When the pages of the two listings are right.**  A page is the one that was
asked for exactly when it fits and is aligned, and a walk visits every row once
and in order exactly when all pages that it asks for do. -/
theorem offset_listing_iff (greatest : Nat) (py : Interpreter) {rows : List ρ}
    (hnodup : rows.Nodup) :
    (∀ offset limit, 1 ≤ limit →
      (PageRight (listScripts greatest py rows) rows offset limit ↔
        Fits greatest offset limit ∧ Aligned rows.length offset limit) ∧
      (PageRight (getExecutions greatest py rows) rows offset limit ↔
        Fits greatest offset limit ∧ Aligned rows.length offset limit)) ∧
    ∀ limits, (∀ l ∈ limits, 1 ≤ l) →
      (WalkRight (listScripts greatest py rows) rows limits ↔
        AlignedWalk greatest rows.length 0 limits) ∧
      (WalkRight (getExecutions greatest py rows) rows limits ↔
        AlignedWalk greatest rows.length 0 limits) := by
  have hsame : getExecutions greatest py rows = listScripts greatest py rows :=
    funext fun cursor => funext fun limit => getExecutions_eq greatest py rows cursor limit
  rw [hsame]
  refine ⟨fun offset limit hl => ?_, fun limits hl => ?_⟩
  · have hpage : PageRight (listScripts greatest py rows) rows offset limit ↔
        Fits greatest offset limit ∧ Aligned rows.length offset limit :=
      pageRight_iff py hnodup hl offset
    exact ⟨hpage, hpage⟩
  · have hwalk : WalkRight (listScripts greatest py rows) rows limits ↔
        AlignedWalk greatest rows.length 0 limits :=
      ⟨aligned_of_walk py hnodup hl rfl, walk_of_aligned py hl rfl⟩
    exact ⟨hwalk, hwalk⟩

/-- An interpreter that knows no more than the cursors need. -/
def plainInterpreter : Interpreter where
  float text := text
  decodeWide _ := none
  intOf _ := none

/-- The greatest `bigint`. -/
def greatestBigint : Nat := 2 ^ 63 - 1

/-- Every page of every listing is the one that was asked for. -/
def OffsetPagesRight (py : Interpreter) : Prop :=
  ∀ (rows : List Nat) (offset limit : Nat), rows.Nodup → 1 ≤ limit →
    PageRight (listScripts greatestBigint py rows) rows offset limit

/-- The page of three rows from offset five on, out of ten, is another one. -/
theorem not_offsetPagesRight : ¬ OffsetPagesRight plainInterpreter := by
  intro h
  have hright := h (List.range 10) 5 3 List.nodup_range (by decide)
  have haligned := (pageRight_iff plainInterpreter List.nodup_range (by decide) 5).1 hright
  revert haligned
  decide

/-- Two pages of five rows each, and one of ten, go over twenty rows. -/
theorem offset_listing_twenty :
    WalkRight (listScripts greatestBigint plainInterpreter (List.range 20)) (List.range 20)
      [5, 5, 10] :=
  ((offset_listing_iff greatestBigint plainInterpreter List.nodup_range).2 [5, 5, 10]
    (by decide)).1.2 (by decide)

end Listing
end NodeNexus
