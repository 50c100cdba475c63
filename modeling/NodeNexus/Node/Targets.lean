import NodeNexus.Node.Store

/-!
# The targets of a bulk operation

`resolve_targets` over the queries of `NodeRepository`.

* The queries have no ORDER BY: each takes the order that the database chose for
  it as an argument.
* `Exact` — whatever the orders, the answer is the matching nodes, each once.
* `targets_exact_iff` — that is so unless the tags match more nodes than the
  default limit of `get_by_tags`.
-/

namespace NodeNexus
namespace Node

open Content

/-! ## The queries -/

/-- `NodeEndpoint`. -/
structure NodeEndpoint where
  host : String
  port : Int
  connectionType : ConnectionType
  dockerHost : Option String
  hasDocker : Bool
  deriving DecidableEq

/-- `NodeCredentials`. -/
structure NodeCredentials where
  username : Option String
  password : Option String
  sshKey : Option String
  passphrase : Option String
  deriving DecidableEq

/-- `NodeConnectionDTO`. -/
structure NodeConnectionDTO where
  id : Uuid
  name : String
  endpoint : NodeEndpoint
  credentials : NodeCredentials
  deriving DecidableEq

/-- `NodeRepository._to_connection_dto`. -/
def NodeRow.toConnectionDto (node : NodeRow) : NodeConnectionDTO where
  id := node.id
  name := node.name
  endpoint := ⟨node.host, node.port, node.connectionType, node.dockerHost, node.hasDocker⟩
  credentials := ⟨node.username, node.password, node.sshKey, node.passphrase⟩

/-- A node carries all of some tags. -/
def NodeRow.carries (node : NodeRow) (tags : List String) : Bool :=
  tags.all (hasTag node.tags)

/-- `NodeRepository.get_by_ids`. -/
def getByIds (order : List NodeRow) (ids : List Uuid) : List NodeRow :=
  if ids = [] then [] else order.filter fun node => decide (node.id ∈ ids)

/-- `NodeRepository.get_by_tags`. -/
def getByTags (order : List NodeRow) (tags : List String) (skip limit : Nat) : List NodeRow :=
  ((order.filter (·.carries tags)).drop skip).take limit

/-- The default of the parameter `limit`. -/
def defaultLimit : Nat := 100

/-- `NodeRepository.get_connections_by_ids`. -/
def getConnectionsByIds (order : List NodeRow) (ids : List Uuid) : List NodeConnectionDTO :=
  (getByIds order ids).map (·.toConnectionDto)

/-- `NodeRepository.get_connections_by_tags`. -/
def getConnectionsByTags (order : List NodeRow) (tags : List String) : List NodeConnectionDTO :=
  (getByTags order tags 0 defaultLimit).map (·.toConnectionDto)

/-- The orders that the database chooses for the two queries. -/
structure Selects where
  byIds : List NodeRow
  byTags : List NodeRow

/-- Both queries read the rows of one table. -/
structure Selects.Of (sel : Selects) (s : NodeRows) : Prop where
  byIds : sel.byIds.Perm s.rows
  byTags : sel.byTags.Perm s.rows

/-- `resolve_targets`; an empty collection is no criterion. -/
def resolveTargets (sel : Selects) (nodeIds : List Uuid) (tags : List String) :
    List NodeConnectionDTO :=
  let nodesByIds := if nodeIds = [] then none else some (getConnectionsByIds sel.byIds nodeIds)
  let nodesByTags := if tags = [] then none else some (getConnectionsByTags sel.byTags tags)
  match nodesByIds, nodesByTags with
  | some byIds, some byTags => byIds.filter fun node => decide (node.id ∈ byTags.map (·.id))
  | some byIds, none => byIds
  | none, some byTags => byTags
  | none, none => []

/-! ## What is asked for -/

/-- The nodes that the criteria describe. -/
structure Targeted (nodeIds : List Uuid) (tags : List String) (node : NodeRow) : Prop where
  given : nodeIds ≠ [] ∨ tags ≠ []
  listed : nodeIds ≠ [] → node.id ∈ nodeIds
  carries : tags ≠ [] → node.carries tags = true

/-- Whatever orders the database chooses, the answer has the described nodes and no
others, each of them once. -/
def Exact (s : NodeRows) (nodeIds : List Uuid) (tags : List String) : Prop :=
  ∀ sel : Selects, sel.Of s →
    ((resolveTargets sel nodeIds tags).map (·.id)).Nodup ∧
      ∀ dto, dto ∈ resolveTargets sel nodeIds tags ↔
        ∃ node ∈ s.rows, Targeted nodeIds tags node ∧ node.toConnectionDto = dto

/-- The nodes that carry all the tags. -/
def carriers (s : NodeRows) (tags : List String) : List NodeRow :=
  s.rows.filter (·.carries tags)

/-- No node that is asked for can fall behind the limit. -/
def WithinLimit (s : NodeRows) (nodeIds : List Uuid) (tags : List String) : Prop :=
  tags = [] ∨ (carriers s tags).length ≤ defaultLimit ∨
    nodeIds ≠ [] ∧ ∀ node ∈ carriers s tags, node.id ∉ nodeIds

/-! ## What the queries answer -/

section Queries

variable {s : NodeRows} {sel : Selects} {order : List NodeRow} {nodeIds : List Uuid}
  {tags : List String}

theorem map_id_toConnectionDto (nodes : List NodeRow) :
    (nodes.map (·.toConnectionDto)).map (·.id) = nodes.map (·.id) := by
  rw [List.map_map]
  rfl

/-- Nodes of a sublist of the table have different ids. -/
theorem ids_nodup_of_sublist (horder : order.Perm s.rows) {nodes : List NodeRow}
    (h : nodes.Sublist order) : ((nodes.map (·.toConnectionDto)).map (·.id)).Nodup := by
  rw [map_id_toConnectionDto]
  have hall : (order.map (·.id)).Nodup := ((horder.map _).nodup_iff).2 s.nodup
  exact hall.sublist (h.map _)

theorem getByIds_sublist : (getByIds order nodeIds).Sublist order := by
  unfold getByIds
  split
  · exact List.nil_sublist _
  · exact List.filter_sublist

theorem getByTags_sublist {skip limit : Nat} : (getByTags order tags skip limit).Sublist order :=
  ((List.take_sublist _ _).trans (List.drop_sublist _ _)).trans List.filter_sublist

theorem mem_getByIds (horder : order.Perm s.rows) {node : NodeRow} (hids : nodeIds ≠ []) :
    node ∈ getByIds order nodeIds ↔ node ∈ s.rows ∧ node.id ∈ nodeIds := by
  unfold getByIds
  rw [if_neg hids, List.mem_filter, horder.mem_iff, decide_eq_true_eq]

/-- What `get_by_tags` answers carries the tags. -/
theorem carrier_of_mem_getByTags (horder : order.Perm s.rows) {node : NodeRow} {skip limit : Nat}
    (h : node ∈ getByTags order tags skip limit) : node ∈ s.rows ∧ node.carries tags = true := by
  have hmem := List.mem_of_mem_drop (List.mem_of_mem_take h)
  rw [List.mem_filter, horder.mem_iff] at hmem
  exact hmem

/-- Up to the limit `get_by_tags` answers all of them. -/
theorem mem_getByTags (horder : order.Perm s.rows) {node : NodeRow}
    (hle : (carriers s tags).length ≤ defaultLimit) :
    node ∈ getByTags order tags 0 defaultLimit ↔ node ∈ s.rows ∧ node.carries tags = true := by
  have hlength : (order.filter (·.carries tags)).length ≤ defaultLimit := by
    rw [(horder.filter _).length_eq]
    exact hle
  unfold getByTags
  rw [List.drop_zero, List.take_of_length_le hlength, List.mem_filter, horder.mem_iff]

/-- **Beyond the limit every carrier can be missed.** -/
theorem exists_order_not_mem {node : NodeRow} (hnode : node ∈ carriers s tags)
    (hlt : defaultLimit < (carriers s tags).length) :
    ∃ order, order.Perm s.rows ∧ node ∉ getByTags order tags 0 defaultLimit := by
  obtain ⟨hrow, hcarries⟩ := List.mem_filter.1 hnode
  obtain ⟨as, bs, hrows⟩ := List.append_of_mem hrow
  have hnodup : (as ++ node :: bs).Nodup := hrows ▸ s.rows_nodup
  have hmiss : node ∉ as ++ bs := (List.nodup_middle.1 hnodup).notMem
  -- The node comes last, behind the other carriers.
  refine ⟨as ++ bs ++ [node], ?_, fun hmem => ?_⟩
  · rw [hrows]
    exact (List.perm_append_singleton node (as ++ bs)).trans List.perm_middle.symm
  · have hlength : (carriers s tags).length = ((as ++ bs).filter (·.carries tags)).length + 1 := by
      unfold carriers
      rw [hrows, (List.perm_middle.filter _).length_eq,
        List.filter_cons_of_pos (by exact hcarries), List.length_cons]
    unfold getByTags at hmem
    rw [List.drop_zero, List.filter_append, List.take_append_of_le_length (by omega)] at hmem
    exact hmiss (List.mem_of_mem_filter (List.mem_of_mem_take hmem))

end Queries

/-! ## When the answer is exact -/

section Resolve

variable {s : NodeRows} {sel : Selects} {nodeIds : List Uuid} {tags : List String}

/-- Rows of one table that give one transfer object are one row. -/
theorem eq_of_toConnectionDto_eq {a b : NodeRow} (ha : a ∈ s.rows) (hb : b ∈ s.rows)
    (h : a.toConnectionDto.id = b.toConnectionDto.id) : a = b :=
  s.eq_of_key_eq ha hb h

/-- The answer, as rows of the table. -/
theorem mem_resolveTargets (hsel : sel.Of s) {dto : NodeConnectionDTO} :
    dto ∈ resolveTargets sel nodeIds tags ↔ ∃ node ∈ s.rows, (nodeIds ≠ [] ∨ tags ≠ []) ∧
      (nodeIds ≠ [] → node.id ∈ nodeIds) ∧
      (tags ≠ [] → node ∈ getByTags sel.byTags tags 0 defaultLimit) ∧
      node.toConnectionDto = dto := by
  unfold resolveTargets
  by_cases hids : nodeIds = []
  · by_cases htags : tags = []
    · simp [hids, htags]
    · simp only [hids, htags, if_true, if_false, getConnectionsByTags, List.mem_map, ne_eq,
        not_true_eq_false, not_false_eq_true, false_implies, true_implies, or_true, true_and]
      constructor
      · rintro ⟨node, hnode, rfl⟩
        exact ⟨node, (carrier_of_mem_getByTags hsel.byTags hnode).1, hnode, rfl⟩
      · rintro ⟨node, -, hnode, rfl⟩
        exact ⟨node, hnode, rfl⟩
  · by_cases htags : tags = []
    · simp only [hids, htags, if_true, if_false, getConnectionsByIds, List.mem_map, ne_eq,
        not_true_eq_false, not_false_eq_true, false_implies, true_implies, true_or, true_and,
        mem_getByIds hsel.byIds hids, and_assoc]
    · simp only [hids, htags, if_false, getConnectionsByIds, getConnectionsByTags, ne_eq,
        not_false_eq_true, true_implies, true_or, true_and, map_id_toConnectionDto,
        List.mem_filter, List.mem_map, mem_getByIds hsel.byIds hids, decide_eq_true_eq]
      constructor
      · rintro ⟨⟨node, ⟨hrow, hid⟩, rfl⟩, other, hother, hsame⟩
        have hrow' := (carrier_of_mem_getByTags hsel.byTags hother).1
        have heq : other = node := s.eq_of_key_eq hrow' hrow hsame
        exact ⟨node, hrow, hid, heq ▸ hother, rfl⟩
      · rintro ⟨node, hrow, hid, hnode, rfl⟩
        exact ⟨⟨node, ⟨hrow, hid⟩, rfl⟩, node, hnode, rfl⟩

/-- **Each node is answered at most once.** -/
theorem resolveTargets_nodup (hsel : sel.Of s) :
    ((resolveTargets sel nodeIds tags).map (·.id)).Nodup := by
  have hids : ((getConnectionsByIds sel.byIds nodeIds).map (·.id)).Nodup :=
    ids_nodup_of_sublist hsel.byIds getByIds_sublist
  have htags : ((getConnectionsByTags sel.byTags tags).map (·.id)).Nodup :=
    ids_nodup_of_sublist hsel.byTags getByTags_sublist
  unfold resolveTargets
  by_cases hnone : nodeIds = []
  · by_cases htagless : tags = []
    · simp [hnone, htagless]
    · simp only [hnone, htagless, if_true, if_false]
      exact htags
  · by_cases htagless : tags = []
    · simp only [hnone, htagless, if_true, if_false]
      exact hids
    · simp only [hnone, htagless, if_false]
      exact hids.sublist (List.filter_sublist.map _)

/-- With all orders allowed, an exact answer stays within the limit. -/
theorem withinLimit_of_exact (h : Exact s nodeIds tags) : WithinLimit s nodeIds tags := by
  by_contra hbeyond
  unfold WithinLimit at hbeyond
  push Not at hbeyond
  obtain ⟨htags, hlt, hlisted⟩ := hbeyond
  -- A carrier that the criteria describe, and an order in which it is missed.
  obtain ⟨node, hnode, hid⟩ : ∃ node ∈ carriers s tags, nodeIds ≠ [] → node.id ∈ nodeIds := by
    by_cases hids : nodeIds = []
    · obtain ⟨node, hnode⟩ := List.exists_mem_of_length_pos (Nat.lt_of_le_of_lt (Nat.zero_le _) hlt)
      exact ⟨node, hnode, fun hne => absurd hids hne⟩
    · obtain ⟨node, hnode, hid⟩ := hlisted hids
      exact ⟨node, hnode, fun _ => hid⟩
  obtain ⟨order, horder, hmiss⟩ := exists_order_not_mem hnode hlt
  obtain ⟨hrow, hcarries⟩ := List.mem_filter.1 hnode
  have hsel : Selects.Of ⟨s.rows, order⟩ s := ⟨List.Perm.refl _, horder⟩
  have hmem := ((h _ hsel).2 node.toConnectionDto).2
    ⟨node, hrow, ⟨.inr htags, hid, fun _ => hcarries⟩, rfl⟩
  obtain ⟨other, hother, -, -, hfound, hdto⟩ := (mem_resolveTargets hsel).1 hmem
  have heq : other = node := eq_of_toConnectionDto_eq hother hrow (by rw [hdto])
  exact hmiss (heq ▸ hfound htags)

/-- Within the limit the answer is exact. -/
theorem exact_of_withinLimit (h : WithinLimit s nodeIds tags) : Exact s nodeIds tags := by
  intro sel hsel
  refine ⟨resolveTargets_nodup hsel, fun dto => ?_⟩
  rw [mem_resolveTargets hsel]
  refine exists_congr fun node => and_congr_right fun hrow => ?_
  constructor
  · rintro ⟨hgiven, hid, hfound, hdto⟩
    exact ⟨⟨hgiven, hid, fun htags => (carrier_of_mem_getByTags hsel.byTags (hfound htags)).2⟩,
      hdto⟩
  · rintro ⟨⟨hgiven, hid, hcarries⟩, hdto⟩
    refine ⟨hgiven, hid, fun htags => ?_, hdto⟩
    obtain hnone | hle | ⟨hids, hnone⟩ := h
    · exact absurd hnone htags
    · exact (mem_getByTags hsel.byTags hle).2 ⟨hrow, hcarries htags⟩
    · exact absurd (hid hids) (hnone node (List.mem_filter.2 ⟨hrow, hcarries htags⟩))

/-- **When the targets are exactly the matching nodes.**  No tags are given, or no
more nodes than the default limit carry them, or none of the carriers is listed. -/
theorem targets_exact_iff (s : NodeRows) (nodeIds : List Uuid) (tags : List String) :
    Exact s nodeIds tags ↔ WithinLimit s nodeIds tags :=
  ⟨withinLimit_of_exact, exact_of_withinLimit⟩

end Resolve

/-- A node of a large fleet. -/
def fleetNode (i : Nat) : NodeRow where
  id := i
  name := toString i
  host := "10.0.0.1"
  port := 22
  connectionType := .ssh
  status := .active
  username := none
  password := none
  sshKey := none
  passphrase := none
  dockerHost := none
  hasDocker := false
  tags := some [some "web"]
  description := none
  createdAt := fleetMoment
  updatedAt := fleetMoment

/-- A fleet of nodes with one tag. -/
def fleet (n : Nat) : NodeRows where
  rows := (List.range n).map fleetNode
  nodup := by
    rw [List.map_map]
    exact (List.map_id (List.range n)).symm ▸ List.nodup_range

theorem carriers_fleet (n : Nat) : carriers (fleet n) ["web"] = (fleet n).rows := by
  refine List.filter_eq_self.2 fun node hnode => ?_
  obtain ⟨i, -, rfl⟩ := List.mem_map.1 hnode
  rfl

/-- Every answer is exact, whatever the fleet and the criteria. -/
def TargetsExact : Prop :=
  ∀ (s : NodeRows) (nodeIds : List Uuid) (tags : List String), Exact s nodeIds tags

/-- The tag of a hundred and one nodes does not find all of them. -/
theorem not_targetsExact : ¬ TargetsExact := by
  intro h
  obtain htags | hle | ⟨hids, -⟩ := withinLimit_of_exact (h (fleet 101) [] ["web"])
  · cases htags
  · rw [carriers_fleet] at hle
    simp [fleet, defaultLimit] at hle
  · exact hids rfl

end Node
end NodeNexus
