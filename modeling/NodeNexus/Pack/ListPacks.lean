import Mathlib.Data.List.Sort
import NodeNexus.Lib.Infix
import NodeNexus.Lib.JsonText
import NodeNexus.Pack.Store
import NodeNexus.Search.EscapedSearch

/-!
# Listing packs

`list_packs` answers one query in three ways: with the operators of PostgreSQL,
with those of another database, and in Python where the session is a mock.

* `whereClause` are the conditions of the SQL statement, `pythonKeeps` those of
  the loops in Python; `listPacks` is `list_packs`.
* `PageOf` says what a page of the wanted packs is.
* `pack_search_exact_iff` — a database answers every query for a search text, a
  tag and a place as Python does exactly when its driver takes the texts and the
  numbers, the text has none of its signs in it, and no tag is asked for on a
  database other than PostgreSQL.
-/

namespace NodeNexus
namespace Pack

open Content Node Search

/-! ## The query -/

/-- `PackListQueryDTO`. -/
structure PackListQuery where
  offset : Nat := 0
  limit : Nat := 20
  registryId : Option Uuid := none
  tag : Option String := none
  installed : Option Bool := none
  search : Option String := none

/-- `PackViewDTO`. -/
structure PackView where
  id : Uuid
  registryId : Option Uuid
  packId : String
  name : String
  description : Option String
  version : String
  author : Option String
  tags : List (Option String)
  manifestSha : Option String
  readme : Option String
  installedVersion : Option String
  installedAt : Option Time
  createdAt : Time
  updatedAt : Time

/-- `_view_of`. -/
def viewOf (p : PackRow) : PackView where
  id := p.id
  registryId := p.registryId
  packId := p.packId
  name := p.name
  description := p.description
  version := p.version
  author := p.author
  tags := p.tags.getD []
  manifestSha := p.manifestSha
  readme := p.readme
  installedVersion := p.installedVersion
  installedAt := p.installedAt
  createdAt := p.createdAt
  updatedAt := p.updatedAt

/-- `PackPageDTO`. -/
structure PackPage where
  items : List PackView
  total : Nat

/-- The dialect of a database. -/
inductive Dialect where
  | postgresql
  | sqlite
  deriving DecidableEq

/-- The signs of `ILIKE` without `ESCAPE`: only PostgreSQL has an escape
character then. -/
def Dialect.signs : Dialect → Like.Signs Char
  | .postgresql => ilikeSigns
  | .sqlite =>
      { many := '%', one := '_', escape := none, many_ne_one := ilikeSigns.many_ne_one
        many_not_escape := by decide, one_not_escape := by decide }

/-- What the driver of a database takes as bound values. -/
structure Driver where
  /-- The greatest OFFSET and LIMIT. -/
  greatest : Nat
  /-- Is a text taken?  PostgreSQL refuses those with NUL. -/
  takesText : String → Bool

/-- The session of `list_packs`: one with a database, or a mock that answers
every statement with the same rows. -/
inductive Session where
  | database (dialect : Dialect) (driver : Driver) (packs : Table PackRow.id)
  | mocked (rows : List PackRow)

/-! ## The conditions -/

/-- The filters by columns. -/
def columnFilters (query : PackListQuery) (p : PackRow) : Bool :=
  query.registryId.all (fun id => decide (p.registryId = some id)) &&
    query.installed.all fun b => p.installedVersion.isSome == b

/-- `f"%{search}%"`. -/
def searchTerm (search : String) : String := "%" ++ search ++ "%"

/-- `name.ilike(term)` or `description.ilike(term)`; the text is not escaped. -/
def searchClause (f : CaseFold) (dialect : Dialect) (search : String) (p : PackRow) : Bool :=
  let term := searchTerm search
  (f.ilike dialect.signs p.name term).getD false ||
    p.description.any fun d => (f.ilike dialect.signs d term).getD false

/-- The text of a JSON column of tags. -/
def tagsText (tags : Option (List (Option String))) : List Char :=
  match tags with
  | none => Json.dump .null
  | some ts => Json.dump (.list (ts.map fun
      | some t => .str t
      | none => .null))

/-- `f'"{tag}"'`. -/
def quotedTag (tag : String) : List Char := '"' :: (tag.toList ++ ['"'])

/-- The condition on the tags: `@>` on PostgreSQL, a search in the text of the
column on another database. -/
def tagClause : Dialect → String → PackRow → Bool
  | .postgresql, tag, p => hasTag p.tags tag
  | .sqlite, tag, p => decide (quotedTag tag <:+: tagsText p.tags)

/-- The WHERE clause of `base_q` and of `count_q`. -/
def whereClause (f : CaseFold) (dialect : Dialect) (query : PackListQuery) (p : PackRow) : Bool :=
  columnFilters query p &&
    (if query.search.getD "" = "" then true
      else searchClause f dialect (query.search.getD "") p) &&
    query.tag.all fun tag => tagClause dialect tag p

/-- The conditions of the two loops in Python. -/
def pythonKeeps (f : CaseFold) (query : PackListQuery) (p : PackRow) : Bool :=
  query.tag.all (fun tag => hasTag p.tags tag) &&
    if query.search.getD "" = "" then true
    else decide (f.Contains (query.search.getD "") p.name) ||
      p.description.any fun d => decide (d ≠ "" ∧ f.Contains (query.search.getD "") d)

/-- `created_at`, descending. -/
def newestFirst (a b : PackRow) : Prop := b.createdAt ≤ a.createdAt

instance : DecidableRel newestFirst := fun a b =>
  inferInstanceAs (Decidable (b.createdAt ≤ a.createdAt))

/-- The packs that are kept, in order and cut to the page. -/
def pageOfKept (query : PackListQuery) (kept : List PackRow) : PackPage where
  items := (((kept.insertionSort newestFirst).drop query.offset).take query.limit).map viewOf
  total := kept.length

/-- The text that is bound for a tag. -/
def boundTag : Dialect → String → String
  | .postgresql, tag => tag
  | .sqlite, tag => String.ofList (quotedTag tag)

/-- Does the driver take what the two statements bind? -/
def Driver.takes (driver : Driver) (dialect : Dialect) (query : PackListQuery) : Bool :=
  (query.search.getD "" = "" || driver.takesText (searchTerm (query.search.getD ""))) &&
    query.tag.all (fun tag => driver.takesText (boundTag dialect tag)) &&
    decide (query.offset ≤ driver.greatest ∧ query.limit ≤ driver.greatest)

/-- What a statement raises. -/
inductive ListFailure where
  /-- A bound value that the driver refuses. -/
  | dataError
  deriving DecidableEq

/-- `list_packs`. -/
def listPacks (f : CaseFold) (session : Session) (query : PackListQuery) :
    Except ListFailure PackPage :=
  match session with
  | .database dialect driver packs =>
      if driver.takes dialect query
      then .ok (pageOfKept query (packs.rows.filter (whereClause f dialect query)))
      else .error .dataError
  | .mocked rows => .ok (pageOfKept query (rows.filter (pythonKeeps f query)))

/-! ## What is wanted -/

/-- Has the pack the text in its name or its description, and the tag?  And does
it meet the filters by columns? -/
def PackWanted (f : CaseFold) (query : PackListQuery) (p : PackRow) : Prop :=
  columnFilters query p = true ∧
    (f.Contains (query.search.getD "") p.name ∨
      ∃ d ∈ p.description, f.Contains (query.search.getD "") d) ∧
    ∀ tag ∈ query.tag, some tag ∈ p.tags.getD []

/-- The page holds the wanted packs from the offset on, the newest first, and
counts all of them. -/
def PageOf (wanted : PackRow → Prop) (query : PackListQuery) (packs : List PackRow)
    (page : PackPage) : Prop :=
  ∃ all : List PackRow, (∀ p, p ∈ all ↔ p ∈ packs ∧ wanted p) ∧
    all.Pairwise (fun a b => b.createdAt < a.createdAt) ∧
    page.items = ((all.drop query.offset).take query.limit).map viewOf ∧ page.total = all.length

/-- A query for the packs of one search text, tag and place. -/
structure Asks (search tag : Option String) (offset limit : Nat) (query : PackListQuery) :
    Prop where
  search : query.search = search
  tag : query.tag = tag
  offset : query.offset = offset
  limit : query.limit = limit

/-- **The query for a text, a tag and a place is answered exactly**: for every
store of packs with different times of creation, and every filter by columns, the
database returns the page of the wanted packs, which Python returns for the packs
that meet the filters by columns. -/
def SearchExact (f : CaseFold) (dialect : Dialect) (driver : Driver) (search tag : Option String)
    (offset limit : Nat) : Prop :=
  ∀ (packs : Table PackRow.id) (query : PackListQuery),
    (packs.rows.map PackRow.createdAt).Nodup → Asks search tag offset limit query →
    listPacks f (.database dialect driver packs) query =
        listPacks f (.mocked (packs.rows.filter (columnFilters query))) query ∧
      ∃ page, listPacks f (.database dialect driver packs) query = .ok page ∧
        PageOf (PackWanted f query) query packs.rows page

/-! ## Pages -/

/-- A page of kept rows is a page of the wanted ones. -/
theorem pageOf_pageOfKept {wanted : PackRow → Prop} (query : PackListQuery)
    {packs : List PackRow} {keep : PackRow → Bool}
    (hdistinct : (packs.map PackRow.createdAt).Nodup)
    (hkeep : ∀ p ∈ packs, keep p = true ↔ wanted p) :
    PageOf wanted query packs (pageOfKept query (packs.filter keep)) := by
  set kept := packs.filter keep with hkept
  have hperm : (kept.insertionSort newestFirst).Perm kept := List.perm_insertionSort _ _
  have htotal : Std.Total newestFirst := ⟨fun a b => Nat.le_total _ _⟩
  have htrans : IsTrans PackRow newestFirst :=
    ⟨fun _ _ _ hab hbc => Nat.le_trans hbc hab⟩
  have hsorted : (kept.insertionSort newestFirst).Pairwise newestFirst :=
    List.pairwise_insertionSort newestFirst kept
  have hnodup : ((kept.insertionSort newestFirst).map PackRow.createdAt).Nodup := by
    rw [(hperm.map PackRow.createdAt).nodup_iff]
    exact (List.filter_sublist.map PackRow.createdAt).nodup hdistinct
  refine ⟨kept.insertionSort newestFirst, ?_, ?_, rfl, ?_⟩
  · intro p
    rw [hperm.mem_iff, hkept, List.mem_filter]
    exact and_congr_right fun hp => hkeep p hp
  · rw [List.nodup_iff_pairwise_ne, List.pairwise_map] at hnodup
    refine (hsorted.and hnodup).imp ?_
    rintro a b ⟨hle, hne⟩
    exact Nat.lt_of_le_of_ne hle (Ne.symm hne)
  · exact hperm.length_eq.symm

/-- A store with one pack. -/
def onePack (p : PackRow) : Table PackRow.id := Table.empty.put p

theorem rows_onePack (p : PackRow) : (onePack p).rows = [p] := rfl

theorem total_pageOfKept_one (query : PackListQuery) (keep : PackRow → Bool) (p : PackRow) :
    (pageOfKept query ([p].filter keep)).total = if keep p then 1 else 0 := by
  unfold pageOfKept
  by_cases h : keep p = true <;> simp [h]

/-! ## The conditions compared -/

section Conditions

variable {f : CaseFold} {dialect : Dialect}

/-- The pattern around a text that is not escaped. -/
theorem fold_term (w : Like.Signs Char) (hmany : w.many = '%') (search : String) :
    f.fold (searchTerm search) = Like.around w (f.fold search) := by
  have hsign : f.lower '%' = ['%'] := f.folds.keeps '%' (Or.inl rfl)
  unfold CaseFold.fold Like.around searchTerm
  rw [String.toList_append, String.toList_append, List.flatMap_append, List.flatMap_append, hmany]
  simp [hsign]

theorem signs_many (dialect : Dialect) : dialect.signs.many = '%' := by
  cases dialect <;> rfl

/-- Every sign of a dialect is one of PostgreSQL. -/
theorem isSign_signs {c : Char} (h : dialect.signs.IsSign c) : ilikeSigns.IsSign c := by
  cases dialect with
  | postgresql => exact h
  | sqlite =>
      rcases h with h | h | h
      · exact Or.inl h
      · exact Or.inr (Or.inl h)
      · cases h

/-- The folding leaves the signs of every dialect alone. -/
theorem folds_signs (f : CaseFold) (dialect : Dialect) : Like.Folds dialect.signs f.lower where
  ne_nil := f.folds.ne_nil
  keeps c h := f.folds.keeps c (isSign_signs h)
  meets c d hd h := f.folds.meets c d hd (isSign_signs h)

/-- `text.ilike(f"%{search}%")`. -/
theorem ilike_term (search text : String) :
    f.ilike dialect.signs text (searchTerm search) =
      Like.like dialect.signs (Like.around dialect.signs (f.fold search)) (f.fold text) := by
  unfold CaseFold.ilike
  rw [fold_term dialect.signs (signs_many dialect)]

/-- A text without signs is searched for. -/
theorem ilike_plain {search : String} (h : ∀ c ∈ search.toList, ¬dialect.signs.IsSign c)
    (text : String) :
    (f.ilike dialect.signs text (searchTerm search)).getD false =
      decide (f.Contains search text) := by
  have hfold : ∀ c ∈ f.fold search, ¬dialect.signs.IsSign c := by
    intro c hc hsign
    exact h c ((Like.isSign_mem_fold (folds_signs f dialect) hsign).1 hc) hsign
  rw [ilike_term, Like.like_plain hfold]
  rfl

/-- The folding of a text that is not empty is not empty. -/
theorem fold_ne_nil {text : String} (h : text ≠ "") : f.fold text ≠ [] := by
  intro hnil
  unfold CaseFold.fold at hnil
  rw [List.flatMap_eq_nil_iff] at hnil
  cases htext : text.toList with
  | nil => exact h (String.toList_eq_nil_iff.1 htext)
  | cons c cs =>
      rw [htext] at hnil
      exact f.folds.ne_nil c (hnil c (List.mem_cons_self ..))

theorem not_contains_empty {search : String} (h : search ≠ "") : ¬f.Contains search "" := by
  intro hin
  exact fold_ne_nil h (List.eq_nil_of_infix_nil hin)

/-- A text that the pattern of a text with signs finds instead of it. -/
def misreadText (w : Like.Signs Char) (search : String) : String :=
  String.ofList (Like.misread w search.toList)

theorem ilike_misreadText (search : String) :
    f.ilike dialect.signs (misreadText dialect.signs search) (searchTerm search) =
      some true := by
  rw [ilike_term]
  unfold misreadText CaseFold.fold
  rw [String.toList_ofList, ← Like.misread_fold (folds_signs f dialect)]
  exact Like.like_misread _

theorem not_contains_misreadText {search : String} {c : Char} (hc : c ∈ search.toList)
    (hsign : dialect.signs.IsSign c) :
    ¬f.Contains search (misreadText dialect.signs search) := by
  unfold CaseFold.Contains misreadText CaseFold.fold
  rw [String.toList_ofList, ← Like.misread_fold (folds_signs f dialect)]
  exact Like.not_contains_misread
    ((Like.isSign_mem_fold (folds_signs f dialect) hsign).2 hc) hsign

/-- Where the text has no signs and the tag is looked up by `@>`, the database
keeps what Python keeps. -/
theorem whereClause_eq {query : PackListQuery}
    (hsearch : ∀ c ∈ (query.search.getD "").toList, ¬dialect.signs.IsSign c)
    (htag : dialect = .postgresql ∨ query.tag = none) (p : PackRow) :
    whereClause f dialect query p = (columnFilters query p && pythonKeeps f query p) := by
  have htags : (query.tag.all fun tag => tagClause dialect tag p) =
      query.tag.all fun tag => hasTag p.tags tag := by
    rcases htag with rfl | htag
    · rfl
    · rw [htag]
      rfl
  have htext : (if query.search.getD "" = "" then true
      else searchClause f dialect (query.search.getD "") p) =
      if query.search.getD "" = "" then true
      else decide (f.Contains (query.search.getD "") p.name) ||
        p.description.any fun d => decide (d ≠ "" ∧ f.Contains (query.search.getD "") d) := by
    by_cases hempty : query.search.getD "" = ""
    · rw [if_pos hempty, if_pos hempty]
    · rw [if_neg hempty, if_neg hempty]
      unfold searchClause
      simp only [ilike_plain hsearch]
      congr 2
      funext d
      by_cases hd : d = ""
      · subst hd
        simp [not_contains_empty hempty]
      · simp [hd]
  unfold whereClause pythonKeeps
  rw [htags, htext, Bool.and_assoc]
  congr 1
  exact Bool.and_comm _ _

/-- What Python keeps of the packs that meet the filters by columns is what is
wanted. -/
theorem pythonKeeps_iff {query : PackListQuery} {p : PackRow} :
    (columnFilters query p && pythonKeeps f query p) = true ↔ PackWanted f query p := by
  unfold PackWanted pythonKeeps hasTag
  rw [Bool.and_eq_true, Bool.and_eq_true]
  refine and_congr_right fun _ => ?_
  rw [and_comm]
  refine and_congr ?_ ?_
  · by_cases hempty : query.search.getD "" = ""
    · rw [if_pos hempty, hempty]
      exact iff_of_true rfl (Or.inl (f.contains_empty p.name))
    · rw [if_neg hempty, Bool.or_eq_true, decide_eq_true_eq, Option.any_eq_true]
      refine or_congr_right (exists_congr fun d => ?_)
      rw [Option.mem_def, decide_eq_true_eq]
      constructor
      · rintro ⟨hd, -, hin⟩
        exact ⟨hd, hin⟩
      · rintro ⟨hd, hin⟩
        refine ⟨hd, ?_, hin⟩
        rintro rfl
        exact not_contains_empty hempty hin
  · rw [Option.all_eq_true]
    simp [Option.mem_def]

end Conditions

/-! ## The tags of another database -/

/-- No hexadecimal digit is a quote. -/
theorem quote_notMem_hexPad (width n : Nat) : '"' ∉ hexPad width n := by
  intro hmem
  obtain ⟨d, hd, hquote⟩ := mem_hexPad hmem
  revert d
  decide

theorem count_escapeUnit (n : Nat) : (Json.escapeUnit n).count '"' = 0 := by
  rw [List.count_eq_zero]
  unfold Json.escapeUnit
  simp [quote_notMem_hexPad]

/-- Writing a character keeps the number of its quotes. -/
theorem count_dumpChar (c : Char) : (Json.dumpChar c).count '"' = [c].count '"' := by
  by_cases hquote : c = '"'
  · subst hquote
    decide
  · have hzero : [c].count '"' = 0 := by simpa [List.count_eq_zero] using Ne.symm hquote
    rw [hzero, List.count_eq_zero]
    have hunit : ∀ n, '"' ∉ Json.escapeUnit n := fun n =>
      List.count_eq_zero.1 (count_escapeUnit n)
    unfold Json.dumpChar
    repeat' split
    all_goals simp [hunit, Ne.symm hquote]

theorem count_flatMap_dumpChar (s : List Char) :
    (s.flatMap Json.dumpChar).count '"' = s.count '"' := by
  induction s with
  | nil => rfl
  | cons c s ih =>
      rw [List.flatMap_cons, List.count_append, count_dumpChar, ih, ← List.count_append]
      rfl

/-- The text of a column with one tag. -/
theorem tagsText_one (tag : String) :
    tagsText (some [some tag]) =
      '[' :: '"' :: (tag.toList.flatMap Json.dumpChar ++ ['"', ']']) := by
  simp [tagsText, Json.dump, Json.dumpItems, Json.dumpStr]

/-- A tag is found in the text of its own column only if it is written as
itself: the quotes around it have to be the outer ones. -/
theorem flatMap_eq_of_quotedTag_mem {tag : String}
    (h : quotedTag tag <:+: tagsText (some [some tag])) :
    tag.toList.flatMap Json.dumpChar = tag.toList := by
  obtain ⟨front, back, htext⟩ := h
  rw [tagsText_one] at htext
  have hcount := congrArg (List.count '"') htext
  simp only [quotedTag, List.count_append, List.count_cons, List.count_nil,
    count_flatMap_dumpChar] at hcount
  have hfront : '"' ∉ front := List.count_eq_zero.1 (by simp at hcount; omega)
  have hback : '"' ∉ back := List.count_eq_zero.1 (by simp at hcount; omega)
  -- cut at the first quote of both sides, then at the last one
  have hcut : front ++ '"' :: (tag.toList ++ '"' :: back) =
      ['['] ++ '"' :: (tag.toList.flatMap Json.dumpChar ++ ['"', ']']) := by
    have htext' := htext
    unfold quotedTag at htext'
    simpa using htext'
  obtain ⟨-, hbehind⟩ := Infix.cut_eq hfront (by decide) hcut
  have hlast : back.reverse ++ '"' :: tag.toList.reverse =
      [']'] ++ '"' :: (tag.toList.flatMap Json.dumpChar).reverse := by
    simpa using congrArg List.reverse hbehind
  obtain ⟨-, hrev⟩ := Infix.cut_eq (by simpa using hback) (by decide) hlast
  exact (List.reverse_injective hrev).symm

/-- **For every tag there are tags of a pack that the text search misjudges.** -/
theorem exists_misjudged_tags (tag : String) :
    ∃ tags : List (Option String),
      ¬(quotedTag tag <:+: tagsText (some tags) ↔ hasTag (some tags) tag = true) := by
  by_cases hplain : tag.toList.flatMap Json.dumpChar = tag.toList
  · -- a tag that ends with a quote and the tag that is asked for
    refine ⟨[some (String.ofList ('"' :: tag.toList))], ?_⟩
    have hfound : quotedTag tag <:+: tagsText (some [some (String.ofList ('"' :: tag.toList))]) := by
      rw [tagsText_one, String.toList_ofList, List.flatMap_cons, hplain]
      exact ⟨['[', '"', '\\'], [']'], by simp [quotedTag, Json.dumpChar]⟩
    have hother : ¬hasTag (some [some (String.ofList ('"' :: tag.toList))]) tag = true := by
      unfold hasTag
      rw [Option.getD_some, List.contains_iff_mem, List.mem_singleton, Option.some.injEq]
      intro heq
      have hlen := congrArg (fun s => s.toList.length) heq
      simp only [String.toList_ofList, List.length_cons] at hlen
      omega
    exact fun h => hother (h.1 hfound)
  · refine ⟨[some tag], ?_⟩
    have hmissed : ¬quotedTag tag <:+: tagsText (some [some tag]) :=
      fun h => hplain (flatMap_eq_of_quotedTag_mem h)
    simp [hmissed, hasTag]

/-! ## The result -/

/-- A pack with a text in its description. -/
def samplePack (description : String) (tags : Option (List (Option String))) : PackRow where
  id := 0
  registryId := none
  packId := "tools"
  name := ""
  description := some description
  version := "1.0.0"
  author := none
  tags := tags
  manifestSha := none
  readme := none
  commands := []
  scripts := []
  installedVersion := none
  installedAt := none
  createdAt := 0
  updatedAt := 0

section Result

variable {f : CaseFold} {dialect : Dialect} {driver : Driver} {search tag : Option String}
  {offset limit : Nat}

/-- The driver takes the values of an exact query. -/
theorem SearchExact.takes (h : SearchExact f dialect driver search tag offset limit) :
    driver.takes dialect { search, tag, offset, limit } = true := by
  obtain ⟨page, hpage, -⟩ := (h .empty { search, tag, offset, limit } List.nodup_nil
    ⟨rfl, rfl, rfl, rfl⟩).2
  by_contra hrefused
  rw [listPacks, if_neg hrefused] at hpage
  cases hpage

/-- An exact search keeps of every pack what Python keeps. -/
theorem SearchExact.conditions (h : SearchExact f dialect driver search tag offset limit)
    (p : PackRow) :
    whereClause f dialect { search, tag, offset, limit } p =
      pythonKeeps f { search, tag, offset, limit } p := by
  have hpage := (h (onePack p) { search, tag, offset, limit } (by simp [rows_onePack])
    ⟨rfl, rfl, rfl, rfl⟩).1
  have hcolumns : [p].filter (columnFilters { search, tag, offset, limit }) = [p] := rfl
  rw [listPacks, if_pos h.takes, rows_onePack, listPacks, hcolumns] at hpage
  have htotal := congrArg PackPage.total (Except.ok.inj hpage)
  rw [total_pageOfKept_one, total_pageOfKept_one] at htotal
  by_cases hsql : whereClause f dialect { search, tag, offset, limit } p = true <;>
    by_cases hpython : pythonKeeps f { search, tag, offset, limit } p = true <;>
    simp_all

/-- A search text that is in use. -/
theorem search_ne_empty {c : Char} (hc : c ∈ (search.getD "").toList) : search.getD "" ≠ "" := by
  intro hempty
  rw [hempty] at hc
  cases hc

/-- Python keeps a sample exactly if it has the text and the tag. -/
theorem pythonKeeps_samplePack (hempty : search.getD "" ≠ "") (description : String)
    (tags : Option (List (Option String))) :
    pythonKeeps f { search, tag, offset, limit } (samplePack description tags) =
      (tag.all (hasTag tags) && decide (f.Contains (search.getD "") description)) := by
  have hname : ¬f.Contains (search.getD "") "" := not_contains_empty hempty
  unfold pythonKeeps samplePack
  simp only [if_neg hempty, hname, decide_false, Bool.false_or, Option.any_some]
  by_cases hd : description = ""
  · subst hd
    simp [hname]
  · simp [hd]

/-- A text that matches its own pattern by misreading shows that the search is not
exact. -/
theorem not_searchExact_of_sign {c : Char} (hc : c ∈ (search.getD "").toList)
    (hsign : dialect.signs.IsSign c) (htag : dialect = .postgresql ∨ tag = none) :
    ¬SearchExact f dialect driver search tag offset limit := by
  intro h
  have hempty := search_ne_empty hc
  set description := misreadText dialect.signs (search.getD "") with hdescription
  have hsame := h.conditions (samplePack description (some [tag]))
  have hmissed : ¬f.Contains (search.getD "") description := not_contains_misreadText hc hsign
  rw [pythonKeeps_samplePack hempty, decide_eq_false hmissed, Bool.and_false] at hsame
  have hfound : searchClause f dialect (search.getD "") (samplePack description (some [tag])) =
      true := by
    unfold searchClause samplePack
    simp [hdescription, ilike_misreadText]
  have htags : tag.all (fun t => tagClause dialect t (samplePack description (some [tag]))) =
      true := by
    rcases htag with rfl | rfl
    · rw [Option.all_eq_true]
      intro t ht
      simp [tagClause, samplePack, hasTag, ht]
    · rfl
  unfold whereClause at hsame
  simp [columnFilters, hempty, hfound, htags] at hsame

/-- A search by tag on another database is not exact, whatever the tag. -/
theorem not_searchExact_of_tag (t : String) :
    ¬SearchExact f .sqlite driver search (some t) offset limit := by
  intro h
  obtain ⟨tags, hmisjudged⟩ := exists_misjudged_tags t
  apply hmisjudged
  have hsame := h.conditions (samplePack (search.getD "") (some tags))
  have hself : f.Contains (search.getD "") (search.getD "") := List.infix_rfl
  have hpython : pythonKeeps f { search, tag := some t, offset, limit }
      (samplePack (search.getD "") (some tags)) = hasTag (some tags) t := by
    by_cases hempty : search.getD "" = ""
    · unfold pythonKeeps samplePack
      simp [hempty]
    · rw [pythonKeeps_samplePack hempty]
      simp [hself]
  have hsql : whereClause f .sqlite { search, tag := some t, offset, limit }
      (samplePack (search.getD "") (some tags)) =
      decide (quotedTag t <:+: tagsText (some tags)) := by
    have hfound : f.ilike Dialect.sqlite.signs (search.getD "") (searchTerm (search.getD "")) =
        some true := by
      rw [ilike_term]
      exact Like.like_of_contains rfl hself
    have hclause : searchClause f .sqlite (search.getD "")
        (samplePack (search.getD "") (some tags)) = true := by
      unfold searchClause samplePack
      simp [hfound]
    have htag : tagClause .sqlite t (samplePack (search.getD "") (some tags)) =
        decide (quotedTag t <:+: tagsText (some tags)) := rfl
    unfold whereClause
    simp [columnFilters, hclause, htag]
  rw [hsql, hpython] at hsame
  rw [← hsame, decide_eq_true_eq]

/-- **When the search for packs is exact.**  A database answers every query for a
search text, a tag and a place as Python does, with the wanted packs, exactly when
its driver takes the bound values, the text has none of the signs of its patterns
in it, and no tag is asked for on a database other than PostgreSQL. -/
theorem pack_search_exact_iff (f : CaseFold) (dialect : Dialect) (driver : Driver)
    (search tag : Option String) (offset limit : Nat) :
    SearchExact f dialect driver search tag offset limit ↔
      driver.takes dialect { search, tag, offset, limit } = true ∧
        (∀ c ∈ (search.getD "").toList, ¬dialect.signs.IsSign c) ∧
        (dialect = .postgresql ∨ tag = none) := by
  constructor
  · intro h
    have htag : dialect = .postgresql ∨ tag = none := by
      cases dialect with
      | postgresql => exact Or.inl rfl
      | sqlite =>
          cases tag with
          | none => exact Or.inr rfl
          | some t => exact absurd h (not_searchExact_of_tag t)
    exact ⟨h.takes, fun c hc hsign => not_searchExact_of_sign hc hsign htag h, htag⟩
  · rintro ⟨htakes, hplain, htag⟩ packs query hdistinct ⟨rfl, rfl, rfl, rfl⟩
    have hkeep := whereClause_eq (f := f) hplain htag
    have htakes' : driver.takes dialect query = true := htakes
    have hpage : listPacks f (.database dialect driver packs) query =
        .ok (pageOfKept query (packs.rows.filter (whereClause f dialect query))) := if_pos htakes'
    rw [hpage]
    refine ⟨?_, _, rfl, ?_⟩
    · show Except.ok _ = Except.ok (pageOfKept query ((packs.rows.filter _).filter _))
      rw [List.filter_filter]
      congr 2
      refine List.filter_congr fun p _ => ?_
      rw [hkeep p, Bool.and_comm]
    · refine pageOf_pageOfKept query hdistinct fun p _ => ?_
      rw [hkeep p]
      exact pythonKeeps_iff

end Result

/-- A driver with 64-bit numbers that refuses NUL, as that of PostgreSQL does. -/
def plainDriver : Driver where
  greatest := 2 ^ 63 - 1
  takesText text := !text.toList.contains (Char.ofNat 0)

/-- Every search is exact. -/
def SearchesExact : Prop :=
  ∀ dialect search tag offset limit,
    1 ≤ limit → SearchExact asciiFold dialect plainDriver search tag offset limit

/-- The search for `100%` on PostgreSQL finds a pack without a percent sign. -/
theorem not_searchesExact : ¬SearchesExact := by
  intro h
  have hpercent : '%' ∈ ((some "100%" : Option String).getD "").toList := by decide
  exact not_searchExact_of_sign hpercent (by decide) (Or.inl rfl)
    (h .postgresql (some "100%") none 0 20 (by decide))

end Pack
end NodeNexus
