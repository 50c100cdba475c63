import Mathlib.Data.List.Dedup
import NodeNexus.Lib.Like
import NodeNexus.Node.Store

/-!
# Searching for a text that was typed

The node filter and the global search put the text that a user typed into an
`ILIKE` pattern, with the signs of the pattern language escaped.

* `escapeIlike` is `escape_ilike`, replacement after replacement;
  `escapeIlike_toList` says that they amount to escaping every sign once.
* `CaseFold` is what `ILIKE` and Python make of a text to leave its case aside;
  `CaseFold.ilike` is the operator.
* `getFiltered` and `countFiltered` are the queries of `NodeRepository`, `search`
  is `SqlAlchemyGlobalSearchGateway.search`.
* `SearchFinds` says what a search is to return: of every kind the rows with the
  text, and no others, up to the limit.
* `escaped_search_literal` — all of them find exactly the rows with the text.

The driver of PostgreSQL refuses a text with NUL before a statement runs; such a
text is in no row.  The queries here are those that run.
-/

namespace NodeNexus
namespace Search

open Content Node

/-! ## Escaping -/

/-- `value.replace(old, new)` of a single character. -/
def replaceChar (old : Char) (new : String) (value : String) : String :=
  String.ofList (value.toList.flatMap fun c => if c = old then new.toList else [c])

/-- `escape_ilike`. -/
def escapeIlike (value : String) : String :=
  replaceChar '_' "\\_" (replaceChar '%' "\\%" (replaceChar '\\' "\\\\" value))

/-- The signs of `ILIKE … ESCAPE '\'`. -/
def ilikeSigns : Like.Signs Char where
  many := '%'
  one := '_'
  escape := some '\\'
  many_ne_one := by decide
  many_not_escape := by decide
  one_not_escape := by decide

/-- The three replacements of one character: what the first one writes is left
alone by the others. -/
theorem replacements_char (c : Char) :
    ((if c = '\\' then ['\\', '\\'] else [c]).flatMap fun c =>
      if c = '%' then ['\\', '%'] else [c]).flatMap
        (fun c => if c = '_' then ['\\', '_'] else [c]) =
      if ilikeSigns.IsSign c then ['\\', c] else [c] := by
  by_cases hslash : c = '\\'
  · subst hslash
    decide
  · by_cases hmany : c = '%'
    · subst hmany
      decide
    · by_cases hone : c = '_'
      · subst hone
        decide
      · have hsign : ¬ilikeSigns.IsSign c := by
          rintro (h | h | h)
          · exact hmany h
          · exact hone h
          · exact hslash (Option.some.inj h).symm
        simp [hslash, hmany, hone, hsign]

/-- **The replacements escape every sign once.** -/
theorem escapeIlike_toList (value : String) :
    (escapeIlike value).toList = Like.escaped ilikeSigns '\\' value.toList := by
  unfold escapeIlike replaceChar Like.escaped
  simp only [String.toList_ofList, List.flatMap_assoc]
  exact List.flatMap_congr fun c _ => by
    rw [← List.flatMap_assoc]
    exact replacements_char c

/-- The filters of the repositories escape in one pass. -/
theorem escapeIlike_eq (value : String) : Node.escapeIlike value = escapeIlike value := by
  apply String.toList_injective
  rw [escapeIlike_toList]
  unfold Node.escapeIlike Like.escaped
  rw [String.toList_ofList]
  refine List.flatMap_congr fun c _ => ?_
  by_cases h : ilikeSigns.IsSign c
  · rw [if_pos h, if_pos]
    rcases h with h | h | h
    · exact Or.inr (Or.inl h)
    · exact Or.inr (Or.inr h)
    · exact Or.inl (Option.some.inj h).symm
  · rw [if_neg h, if_neg]
    rintro (h' | h' | h')
    · exact h (Or.inr (Or.inr (by rw [h']; rfl)))
    · exact h (Or.inl h')
    · exact h (Or.inr (Or.inl h'))

/-- `f"%{escape_ilike(text)}%"`. -/
def searchPattern (text : String) : String := "%" ++ escapeIlike text ++ "%"

theorem searchPattern_toList (text : String) :
    (searchPattern text).toList =
      Like.around ilikeSigns (Like.escaped ilikeSigns '\\' text.toList) := by
  unfold searchPattern Like.around
  rw [String.toList_append, String.toList_append, escapeIlike_toList]
  rfl

/-! ## Leaving the case aside -/

/-- The lower case of characters.  It leaves the signs of patterns alone. -/
structure CaseFold where
  lower : Char → List Char
  folds : Like.Folds ilikeSigns lower

namespace CaseFold

variable (f : CaseFold)

/-- `text.lower()`. -/
def fold (text : String) : List Char := text.toList.flatMap f.lower

/-- `part in text`, the case aside. -/
def Contains (part text : String) : Prop := f.fold part <:+: f.fold text

instance (part text : String) : Decidable (f.Contains part text) :=
  inferInstanceAs (Decidable (f.fold part <:+: f.fold text))

/-- `text ILIKE pattern`, with the signs of the database. -/
def ilike (w : Like.Signs Char) (text pattern : String) : Option Bool :=
  Like.like w (f.fold pattern) (f.fold text)

/-- The operator in a WHERE clause, with `ESCAPE '\'`. -/
def operator : Ilike := fun text pattern => (f.ilike ilikeSigns text pattern).getD false

/-- **A text matches the pattern of an escaped text exactly when it contains
it.** -/
theorem ilike_searchPattern (part text : String) :
    f.ilike ilikeSigns text (searchPattern part) = some (decide (f.Contains part text)) := by
  have hfold : f.fold (searchPattern part) =
      Like.around ilikeSigns (Like.escaped ilikeSigns '\\' (f.fold part)) := by
    unfold fold
    rw [searchPattern_toList, ← Like.flatMap_escaped f.folds rfl]
    unfold Like.around
    rw [List.flatMap_cons, List.flatMap_append, f.folds.keeps ilikeSigns.many (Or.inl rfl),
      List.flatMap_singleton, f.folds.keeps ilikeSigns.many (Or.inl rfl)]
    rfl
  unfold ilike
  rw [hfold]
  exact Like.like_escaped rfl (f.fold part) (f.fold text)

theorem operator_searchPattern (part text : String) :
    f.operator text (searchPattern part) = decide (f.Contains part text) := by
  unfold operator
  rw [f.ilike_searchPattern]
  rfl

/-- Every text contains the empty one. -/
theorem contains_empty (text : String) : f.Contains "" text := List.nil_infix

end CaseFold

/-- A character below the small letters is the lower case of itself only. -/
theorem eq_of_toLower_eq {c d : Char} (hd : d.toNat < 'a'.toNat) (h : c.toLower = d) : c = d := by
  unfold Char.toLower at h
  split at h
  · rename_i hupper
    have hvalue := congrArg (fun c : Char => c.val.toNat) h
    simp only [ge_iff_le, UInt32.le_iff_toNat_le] at hupper
    simp at hvalue hupper hd
    omega
  · exact h

/-- The lower case of ASCII letters. -/
def asciiFold : CaseFold where
  lower c := [c.toLower]
  folds :=
    { ne_nil := fun c => List.cons_ne_nil _ _
      keeps := by
        rintro c (rfl | rfl | h)
        · decide
        · decide
        · cases h
          decide
      meets := by
        intro c d hd hsign
        rw [List.mem_singleton] at hd
        refine (eq_of_toLower_eq ?_ hd.symm).symm
        rcases hsign with rfl | rfl | h
        · decide
        · decide
        · cases h
          decide }

/-! ## The node filter -/

/-- `NodeRepository.get_filtered`. -/
def getFiltered (ilike : Ilike) (nodes : List NodeRow) (tags : Option (List String))
    (search : Option String) (skip limit : Nat) : List NodeRow :=
  ((nodes.filter (NodeRow.matches ilike tags search)).drop skip).take limit

/-- `NodeRepository.count_filtered`. -/
def countFiltered (ilike : Ilike) (nodes : List NodeRow) (tags : Option (List String))
    (search : Option String) : Nat :=
  (nodes.filter (NodeRow.matches ilike tags search)).length

/-- Has a node all the tags, and the text in its name or its host? -/
def NodeFound (f : CaseFold) (tags : Option (List String)) (search : Option String)
    (node : NodeRow) : Prop :=
  (∀ tag ∈ tags.getD [], hasTag node.tags tag = true) ∧
    (f.Contains (search.getD "") node.name ∨ f.Contains (search.getD "") node.host)

instance (f : CaseFold) (tags : Option (List String)) (search : Option String) (node : NodeRow) :
    Decidable (NodeFound f tags search node) :=
  inferInstanceAs (Decidable (_ ∧ (_ ∨ _)))

theorem matches_operator (f : CaseFold) (tags : Option (List String)) (search : Option String)
    (node : NodeRow) :
    node.matches f.operator tags search = decide (NodeFound f tags search node) := by
  rw [Bool.eq_iff_iff, decide_eq_true_eq]
  unfold NodeRow.matches applyFilters NodeFound
  rw [Bool.and_eq_true, List.all_eq_true]
  refine and_congr_right fun _ => ?_
  by_cases hempty : search.getD "" = ""
  · rw [if_pos hempty, hempty]
    exact iff_of_true rfl (Or.inl (f.contains_empty node.name))
  · have hpattern : "%" ++ Node.escapeIlike (search.getD "") ++ "%" =
        searchPattern (search.getD "") := by
      rw [escapeIlike_eq]
      rfl
    simp only [if_neg hempty, hpattern, f.operator_searchPattern, Option.any_some,
      Bool.or_eq_true, decide_eq_true_eq]

/-! ## The global search -/

/-- `SearchResultItemDTO.entity_type`. -/
inductive EntityKind where
  | node
  | command
  | script
  deriving DecidableEq

/-- `SearchResultItemDTO`. -/
structure SearchResultItem where
  id : Uuid
  name : String
  entityType : EntityKind
  deriving DecidableEq

/-- `GlobalSearchQueryDTO`. -/
structure GlobalSearchQuery where
  q : String
  limit : Nat := 20

/-- `GlobalSearchResultDTO`. -/
structure GlobalSearchResult where
  nodes : List SearchResultItem
  commands : List SearchResultItem
  scripts : List SearchResultItem
  tags : List String

/-- The tables that are searched. -/
structure SearchTables where
  nodes : List NodeRow
  commands : List CommandRow
  scripts : List ScriptRow

/-- `SELECT id, name … WHERE … LIMIT`, for one kind of rows. -/
def selectItems {ρ : Type} (kind : EntityKind) (id : ρ → Uuid) (name : ρ → String)
    (found : ρ → Bool) (limit : Nat) (rows : List ρ) : List SearchResultItem :=
  ((rows.filter found).take limit).map fun r => ⟨id r, name r, kind⟩

/-- `unnest(tags)` over all nodes. -/
def unnestTags (nodes : List NodeRow) : List (Option String) :=
  nodes.flatMap fun node => node.tags.getD []

/-- `SELECT DISTINCT t … WHERE t ILIKE … LIMIT`; a tag that is NULL matches
nothing. -/
def selectTags (found : String → Bool) (limit : Nat) (nodes : List NodeRow) : List String :=
  (((unnestTags nodes).filterMap id).filter found).dedup.take limit

/-- `SqlAlchemyGlobalSearchGateway.search`, for an operator `ILIKE`. -/
def search (ilike : Ilike) (tables : SearchTables) (query : GlobalSearchQuery) :
    GlobalSearchResult :=
  let pattern := "%" ++ escapeIlike query.q ++ "%"
  { nodes := selectItems .node NodeRow.id NodeRow.name
      (fun n => ilike n.name pattern || ilike n.host pattern) query.limit tables.nodes
    commands := selectItems .command Row.id Row.name
      (fun c => ilike c.name pattern || c.description.any (ilike · pattern)) query.limit
      tables.commands
    scripts := selectItems .script Row.id Row.name
      (fun s => ilike s.name pattern || s.description.any (ilike · pattern)) query.limit
      tables.scripts
    tags := (selectTags (ilike · pattern) query.limit tables.nodes).filter (· ≠ "") }

/-- Is the text in the name or in the description? -/
def RowFound {Body : Type} (f : CaseFold) (q : String) (row : Row Body) : Prop :=
  f.Contains q row.name ∨ ∃ d ∈ row.description, f.Contains q d

instance {Body : Type} (f : CaseFold) (q : String) (row : Row Body) :
    Decidable (RowFound f q row) :=
  inferInstanceAs (Decidable (_ ∨ ∃ d ∈ row.description, f.Contains q d))

/-- The name and the description of a row, under the pattern of a text. -/
theorem row_operator {Body : Type} (f : CaseFold) (q : String) (row : Row Body) :
    (f.operator row.name (searchPattern q) ||
      row.description.any (f.operator · (searchPattern q))) = decide (RowFound f q row) := by
  rw [Bool.eq_iff_iff, decide_eq_true_eq]
  unfold RowFound
  simp only [f.operator_searchPattern, Bool.or_eq_true, decide_eq_true_eq, Option.any_eq_true,
    Option.mem_def]

/-- **What a search is to show of the rows of one kind**: of rows with the text
their id, name and kind, each row once, and of all of them unless the limit is
reached. -/
structure ShowsFound {ρ : Type} (kind : EntityKind) (id : ρ → Uuid) (name : ρ → String)
    (found : ρ → Prop) (limit : Nat) (rows : List ρ) (items : List SearchResultItem) : Prop where
  sound : ∀ item ∈ items, item.entityType = kind ∧
    ∃ r ∈ rows, found r ∧ item.id = id r ∧ item.name = name r
  once : (rows.map id).Nodup → (items.map SearchResultItem.id).Nodup
  atMost : items.length ≤ limit
  complete : items.length < limit → ∀ r ∈ rows, found r → ⟨id r, name r, kind⟩ ∈ items

/-- A tag of a node that has the text. -/
def TagFound (f : CaseFold) (q : String) (nodes : List NodeRow) (tag : String) : Prop :=
  f.Contains q tag ∧ ∃ n ∈ nodes, some tag ∈ n.tags.getD []

/-- **What a search is to show of the tags**: some with the text, each once, and
all of them unless the limit is reached; of these those that are not empty. -/
def ShowsTags (f : CaseFold) (q : String) (limit : Nat) (nodes : List NodeRow)
    (tags : List String) : Prop :=
  ∃ chosen : List String, tags = chosen.filter (· ≠ "") ∧ chosen.Nodup ∧
    (∀ tag ∈ chosen, TagFound f q nodes tag) ∧ chosen.length ≤ limit ∧
    (chosen.length < limit → ∀ tag, TagFound f q nodes tag → tag ∈ chosen)

/-- **A global search finds what was typed**: the nodes with the text in their
name or host, the commands and scripts with it in their name or description, and
the tags with it. -/
structure SearchFinds (f : CaseFold) (tables : SearchTables) (query : GlobalSearchQuery)
    (result : GlobalSearchResult) : Prop where
  nodes : ShowsFound .node NodeRow.id NodeRow.name
    (fun n => f.Contains query.q n.name ∨ f.Contains query.q n.host) query.limit tables.nodes
    result.nodes
  commands : ShowsFound .command Row.id Row.name (RowFound f query.q) query.limit tables.commands
    result.commands
  scripts : ShowsFound .script Row.id Row.name (RowFound f query.q) query.limit tables.scripts
    result.scripts
  tags : ShowsTags f query.q query.limit tables.nodes result.tags

/-- What is cut to a limit that it does not reach is complete. -/
theorem take_eq_of_length_lt {α : Type} {xs : List α} {limit : Nat}
    (h : (xs.take limit).length < limit) : xs.take limit = xs := by
  rw [List.length_take] at h
  exact List.take_of_length_le (by omega)

theorem showsFound_selectItems {ρ : Type} (kind : EntityKind) (id : ρ → Uuid) (name : ρ → String)
    {found : ρ → Prop} {keep : ρ → Bool} (hkeep : ∀ r, keep r = true ↔ found r) (limit : Nat)
    (rows : List ρ) :
    ShowsFound kind id name found limit rows (selectItems kind id name keep limit rows) where
  sound item hitem := by
    obtain ⟨r, hr, rfl⟩ := List.mem_map.1 hitem
    obtain ⟨hmem, hfound⟩ := List.mem_filter.1 (List.mem_of_mem_take hr)
    exact ⟨rfl, r, hmem, (hkeep r).1 hfound, rfl, rfl⟩
  once hnodup := by
    unfold selectItems
    rw [List.map_map]
    have hsub : ((rows.filter keep).take limit).Sublist rows :=
      (List.take_sublist ..).trans List.filter_sublist
    exact (hsub.map id).nodup hnodup
  atMost := by
    unfold selectItems
    rw [List.length_map]
    exact List.length_take_le ..
  complete hlt r hr hfound := by
    unfold selectItems at hlt ⊢
    rw [List.length_map] at hlt
    rw [take_eq_of_length_lt hlt]
    exact List.mem_map.2 ⟨r, List.mem_filter.2 ⟨hr, (hkeep r).2 hfound⟩, rfl⟩

theorem mem_unnestTags {tag : String} {nodes : List NodeRow} :
    some tag ∈ unnestTags nodes ↔ ∃ n ∈ nodes, some tag ∈ n.tags.getD [] :=
  List.mem_flatMap

theorem showsTags_selectTags (f : CaseFold) (q : String) (limit : Nat) (nodes : List NodeRow) :
    ShowsTags f q limit nodes
      ((selectTags (fun t => decide (f.Contains q t)) limit nodes).filter (· ≠ "")) := by
  have hmem : ∀ tag, tag ∈ (((unnestTags nodes).filterMap id).filter
      fun t => decide (f.Contains q t)).dedup ↔ TagFound f q nodes tag := by
    intro tag
    rw [List.mem_dedup, List.mem_filter, List.mem_filterMap, decide_eq_true_eq, and_comm]
    refine and_congr_right fun _ => ?_
    rw [← mem_unnestTags]
    constructor
    · rintro ⟨_, ht, rfl⟩
      exact ht
    · intro ht
      exact ⟨_, ht, rfl⟩
  refine ⟨selectTags (fun t => decide (f.Contains q t)) limit nodes, rfl, ?_, ?_, ?_, ?_⟩
  · exact (List.take_sublist ..).nodup (List.nodup_dedup _)
  · exact fun tag ht => (hmem tag).1 (List.mem_of_mem_take ht)
  · exact List.length_take_le ..
  · intro hlt tag ht
    unfold selectTags at hlt ⊢
    rw [take_eq_of_length_lt hlt]
    exact (hmem tag).2 ht

theorem search_finds (f : CaseFold) (tables : SearchTables) (query : GlobalSearchQuery) :
    SearchFinds f tables query (search f.operator tables query) := by
  have hpattern : "%" ++ escapeIlike query.q ++ "%" = searchPattern query.q := rfl
  have hrow : ∀ {Body : Type} (r : Row Body), (f.operator r.name (searchPattern query.q) ||
      r.description.any (f.operator · (searchPattern query.q))) = true ↔ RowFound f query.q r := by
    intro Body r
    rw [row_operator, decide_eq_true_eq]
  have htag : (f.operator · (searchPattern query.q)) = fun t => decide (f.Contains query.q t) :=
    funext (f.operator_searchPattern query.q)
  unfold search
  rw [hpattern]
  refine ⟨?_, ?_, ?_, ?_⟩
  · refine showsFound_selectItems .node NodeRow.id NodeRow.name (fun n => ?_) _ _
    rw [f.operator_searchPattern, f.operator_searchPattern, Bool.or_eq_true, decide_eq_true_eq,
      decide_eq_true_eq]
  · exact showsFound_selectItems .command Row.id Row.name hrow _ _
  · exact showsFound_selectItems .script Row.id Row.name hrow _ _
  · show ShowsTags f query.q query.limit tables.nodes
      ((selectTags (f.operator · (searchPattern query.q)) _ _).filter _)
    rw [htag]
    exact showsTags_selectTags f query.q query.limit tables.nodes

/-! ## The results -/

/-- **An escaped search is a literal one.**  The pattern of a text is well formed,
and a text matches it exactly when it contains the text that was typed, with or
without its case; so the node filter and the global search find exactly the rows
with the text. -/
theorem escaped_search_literal (f : CaseFold) :
    (∀ part text : String,
      (Like.parse ilikeSigns (searchPattern part).toList).isSome = true ∧
      Like.like ilikeSigns (searchPattern part).toList text.toList =
        some (decide (part.toList <:+: text.toList)) ∧
      f.ilike ilikeSigns text (searchPattern part) = some (decide (f.Contains part text))) ∧
    (∀ nodes tags text skip limit,
      getFiltered f.operator nodes tags text skip limit =
        ((nodes.filter fun n => decide (NodeFound f tags text n)).drop skip).take limit ∧
      countFiltered f.operator nodes tags text =
        (nodes.filter fun n => decide (NodeFound f tags text n)).length) ∧
    ∀ tables query, SearchFinds f tables query (search f.operator tables query) := by
  refine ⟨fun part text => ⟨?_, ?_, f.ilike_searchPattern part text⟩, ?_, search_finds f⟩
  · rw [searchPattern_toList]
    unfold Like.around
    rw [Like.parse_many, Like.parse_escaped rfl, Like.parse_ending_many]
    rfl
  · rw [searchPattern_toList]
    exact Like.like_escaped rfl part.toList text.toList
  · intro nodes tags text skip limit
    have hmatches : NodeRow.matches f.operator tags text =
        fun n => decide (NodeFound f tags text n) :=
      funext (matches_operator f tags text)
    unfold getFiltered countFiltered
    rw [hmatches]
    exact ⟨rfl, rfl⟩

/-- A node with a name and tags. -/
def sampleNode (id : Uuid) (name : String) (tags : List (Option String)) : NodeRow where
  id := id
  name := name
  host := "10.0.0.1"
  port := 22
  connectionType := .ssh
  status := .active
  username := none
  password := none
  sshKey := none
  passphrase := none
  dockerHost := none
  hasDocker := false
  tags := some tags
  description := none
  createdAt := fleetMoment
  updatedAt := fleetMoment

/-- A node, a command and a script with `50%` in them, and two rows without. -/
def sampleTables : SearchTables where
  nodes := [sampleNode 1 "web 50%" [some "over 50%", none, some "web"],
    sampleNode 2 "web 500" [some "web"]]
  commands :=
    [⟨3, "usage", some "Disk over 50% full", ⟨"df", .null⟩, none, 30, none⟩,
     ⟨4, "load", none, ⟨"uptime", .null⟩, none, 30, none⟩]
  scripts := [⟨5, "drop 50%", none, ⟨.list []⟩, none, 30, none⟩]

/-- The search for `50%` finds what has it, and not the node `web 500`. -/
theorem escaped_search_literal_percent :
    SearchFinds asciiFold sampleTables { q := "50%" }
      (search asciiFold.operator sampleTables { q := "50%" }) ∧
    (search asciiFold.operator sampleTables { q := "50%" }).nodes = [⟨1, "web 50%", .node⟩] ∧
    (search asciiFold.operator sampleTables { q := "50%" }).commands =
      [⟨3, "usage", .command⟩] ∧
    (search asciiFold.operator sampleTables { q := "50%" }).scripts =
      [⟨5, "drop 50%", .script⟩] ∧
    (search asciiFold.operator sampleTables { q := "50%" }).tags = ["over 50%"] :=
  ⟨(escaped_search_literal asciiFold).2.2 sampleTables { q := "50%" },
    by decide, by decide, by decide, by decide⟩

/-- A text with all the signs is found in a name that has it, and only there. -/
example :
    asciiFold.operator "Disk at 50%_C:\\" (searchPattern "50%_c:\\") = true ∧
      asciiFold.operator "disk at 50 of C:\\" (searchPattern "50%_c:\\") = false := by
  decide

end Search
end NodeNexus
