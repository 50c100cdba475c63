import Mathlib.Data.Prod.Lex
import NodeNexus.Lib.Keyset
import NodeNexus.Search.EscapedSearch
import NodeNexus.Node.Store
import NodeNexus.Listing.Offset

/-!
# Listing nodes by key

The listing of nodes takes a cursor that encodes the creation time and the id of
the last node that was seen.

* `getListCursor` is the query, `listNodesCursor` the gateway, `listNodes` the
  handler, `encodeCursor` and `decodeCursor` the text of the cursor.
* `listNodesCursor_eq` — the gateway's page is a page of keyset pagination over
  the matching nodes.
* `node_listing_complete` — following the cursors enumerates the matching nodes,
  and a node that matches all the time comes once even if the table changes.

PostgreSQL refuses a search text with a NUL character, so that such a request
has no page; what is said here is about the texts that it takes.
-/

namespace NodeNexus
namespace Listing

open Content Node

/-- What the listing of nodes raises. -/
inductive NodeListingFailure where
  /-- `HTTPException(status_code=422, detail="Invalid cursor")`. -/
  | invalidCursor
  /-- A `TypeError` or an `AttributeError` in `decode_cursor`. -/
  | typeError
  /-- A response that is not valid. -/
  | validationError
  deriving DecidableEq

/-! ## The query -/

/-- The cursor of the query: `(created_at, id)`. -/
abbrev NodeKey : Type := DateTime × Uuid

/-- The condition on the rows behind a cursor. -/
def behindCursor : Option NodeKey → NodeRow → Bool
  | none, _ => true
  | some (cursorDt, cursorId), node =>
      node.createdAt < cursorDt || (node.createdAt = cursorDt && node.id < cursorId)

/-- `ORDER BY created_at DESC, id DESC`. -/
def inOrder (a b : NodeRow) : Prop :=
  b.createdAt < a.createdAt ∨ b.createdAt = a.createdAt ∧ b.id ≤ a.id

instance : DecidableRel inOrder := fun a b =>
  inferInstanceAs (Decidable (b.createdAt < a.createdAt ∨ b.createdAt = a.createdAt ∧ b.id ≤ a.id))

/-- `get_list_cursor`: one row more than the limit is fetched. -/
def getListCursor (ilike : Ilike) (nodes : List NodeRow) (cursor : Option NodeKey) (limit : Nat)
    (tags : Option (List String)) (search : Option String) : List NodeRow :=
  let query := nodes.filter (NodeRow.matches ilike tags search)
  let query := query.filter (behindCursor cursor)
  (query.insertionSort inOrder).take (limit + 1)

/-! ## The gateway -/

/-- `NodeViewDTO`. -/
structure NodeView where
  id : Uuid
  name : String
  host : String
  port : Int
  connectionType : ConnectionType
  dockerHost : Option String
  hasDocker : Bool
  status : NodeStatus
  username : Option String
  tags : List (Option String)
  createdAt : DateTime
  updatedAt : DateTime

/-- `_to_view`. -/
def nodeToView (node : NodeRow) : NodeView where
  id := node.id
  name := node.name
  host := node.host
  port := node.port
  connectionType := node.connectionType
  dockerHost := node.dockerHost
  hasDocker := node.hasDocker
  status := node.status
  username := node.username
  tags := node.tags.getD []
  createdAt := node.createdAt
  updatedAt := node.updatedAt

/-- `NodeCursorQueryDTO`. -/
structure NodeCursorQuery where
  cursor : Option NodeKey
  limit : Nat
  tags : List String
  search : Option String

/-- `NodeCursorPageDTO`. -/
structure NodeCursorPage where
  items : List NodeView
  nextCursor : Option NodeKey
  hasMore : Bool

/-- `list_nodes_cursor`. -/
def listNodesCursor (ilike : Ilike) (nodes : List NodeRow) (query : NodeCursorQuery) :
    NodeCursorPage :=
  let tags := if query.tags = [] then none else some query.tags
  let found := getListCursor ilike nodes query.cursor query.limit tags query.search
  let hasMore := decide (query.limit < found.length)
  let items := found.take query.limit
  { items := items.map nodeToView
    nextCursor :=
      if hasMore then items.getLast?.map fun node => (node.createdAt, node.id) else none
    hasMore := hasMore }

/-! ## The handler -/

/-- `encode_cursor`. -/
def encodeCursor (fmt : Formats) (key : NodeKey) : String :=
  encodeObject (.dict [("ts", .str key.1.isoformat), ("id", .str (fmt.printUuid key.2))])

/-- A value that is not there is a `ValueError`. -/
def orInvalid {α : Type} : Option α → Except NodeListingFailure α
  | none => .error .invalidCursor
  | some a => .ok a

/-- The object that a cursor holds; another value cannot be subscripted. -/
def cursorObject : Json → Except NodeListingFailure Json.Fields
  | .dict data => .ok data
  | _ => .error .typeError

/-- A text in the object; `fromisoformat` and `UUID` take no other value. -/
def cursorText : Json → Except NodeListingFailure String
  | .str text => .ok text
  | _ => .error .typeError

/-- `decode_cursor`; a value of the wrong type is not among the errors that it
turns into a `ValueError`. -/
def decodeCursor (py : Interpreter) (fmt : Formats) (otherIso : String → Option DateTime)
    (cursor : String) : Except NodeListingFailure NodeKey := do
  let x ← orInvalid (decodeObject py cursor)
  let data ← cursorObject x
  let x ← orInvalid (Json.get data "ts")
  let ts ← cursorText x
  let createdAt ← orInvalid (DateTime.fromisoformat otherIso ts)
  let x ← orInvalid (Json.get data "id")
  let text ← cursorText x
  let id ← orInvalid (fmt.parseUuid text)
  .ok (createdAt, id)

/-- `NodeResponse`; its description stays `None`. -/
structure NodeResponse where
  id : Uuid
  name : String
  host : String
  port : Int
  connectionType : ConnectionType
  status : NodeStatus
  username : Option String
  dockerHost : Option String
  hasDocker : Bool
  tags : List String
  createdAt : DateTime
  updatedAt : DateTime

/-- `_node_response`; the tags have to be strings. -/
def nodeResponse (node : NodeView) : Except NodeListingFailure NodeResponse := do
  let tags ← node.tags.mapM fun
    | some tag => Except.ok tag
    | none => .error NodeListingFailure.validationError
  .ok
    { id := node.id
      name := node.name
      host := node.host
      port := node.port
      connectionType := node.connectionType
      status := node.status
      username := node.username
      dockerHost := node.dockerHost
      hasDocker := node.hasDocker
      tags := tags
      createdAt := node.createdAt
      updatedAt := node.updatedAt }

/-- `NodeCursorListResponse`. -/
structure NodeCursorListResponse where
  items : List NodeResponse
  nextCursor : Option String
  hasMore : Bool
  limit : Nat

/-- The response of `list_nodes` for a page of the service. -/
def listResponse (fmt : Formats) (limit : Nat) (page : NodeCursorPage) :
    Except NodeListingFailure NodeCursorListResponse := do
  let items ← page.items.mapM nodeResponse
  .ok ⟨items, page.nextCursor.map (encodeCursor fmt), page.hasMore, limit⟩

/-- The keys and values that the handler gives to the service. -/
def handlerQuery (cursor : Option NodeKey) (limit : Nat) (tag search : Option String) :
    NodeCursorQuery where
  cursor := cursor
  limit := limit
  tags := if tag.getD "" = "" then [] else [tag.getD ""]
  search := search

/-- `list_nodes`. -/
def listNodes (py : Interpreter) (fmt : Formats) (otherIso : String → Option DateTime)
    (ilike : Ilike) (nodes : List NodeRow) (cursor : Option String) (limit : Nat)
    (tag search : Option String) : Except NodeListingFailure NodeCursorListResponse := do
  let decoded ←
    if cursor.getD "" = "" then .ok none
    else (decodeCursor py fmt otherIso (cursor.getD "")).map some
  listResponse fmt limit (listNodesCursor ilike nodes (handlerQuery decoded limit tag search))

/-- **A cursor is read back.** -/
theorem decodeCursor_encodeCursor (py : Interpreter) {fmt : Formats} (hfmt : fmt.Lawful)
    (otherIso : String → Option DateTime) (key : NodeKey) :
    decodeCursor py fmt otherIso (encodeCursor fmt key) = .ok key := by
  have hplain : Json.Plain
      (.dict [("ts", .str key.1.isoformat), ("id", .str (fmt.printUuid key.2))]) :=
    ⟨by simp, trivial, trivial, trivial⟩
  have hts : ∀ ts id : Json, Json.get [("ts", ts), ("id", id)] "ts" = some ts := fun _ _ => rfl
  have hid : ∀ ts id : Json, Json.get [("ts", ts), ("id", id)] "id" = some id := fun _ _ => rfl
  unfold decodeCursor encodeCursor
  rw [decodeObject_encode py (List.cons_ne_nil _ _) hplain]
  simp only [orInvalid, cursorObject, cursorText, hts, hid, DateTime.fromisoformat_isoformat,
    hfmt.parse_print, bind, Except.bind]

/-! ## Keyset pagination -/

/-- The key of a row. -/
def nodeKey (node : NodeRow) : DateTime ×ₗ Uuid := toLex (node.createdAt, node.id)

theorem behindCursor_eq (cursor : Option NodeKey) (node : NodeRow) :
    behindCursor cursor node = Keyset.before nodeKey (cursor.map toLex) node := by
  cases cursor with
  | none => rfl
  | some c =>
      rw [Bool.eq_iff_iff, Option.map_some, Keyset.before_some]
      unfold nodeKey
      rw [Prod.Lex.toLex_lt_toLex]
      simp [behindCursor]

theorem inOrder_iff (a b : NodeRow) : inOrder a b ↔ nodeKey b ≤ nodeKey a := by
  unfold inOrder nodeKey
  rw [Prod.Lex.toLex_le_toLex]

/-- Is a node selected by the filters of a query? -/
def selects (ilike : Ilike) (tags : List String) (search : Option String) (node : NodeRow) : Bool :=
  node.matches ilike (if tags = [] then none else some tags) search

/-- A page of keyset pagination, as the gateway returns it. -/
def toNodePage (p : Keyset.Page NodeRow (DateTime ×ₗ Uuid)) : NodeCursorPage where
  items := p.items.map nodeToView
  nextCursor := p.next.map ofLex
  hasMore := p.more

/-- **The gateway's page is a page of keyset pagination** over the selected nodes. -/
theorem listNodesCursor_eq (ilike : Ilike) (nodes : List NodeRow) (cursor : Option NodeKey)
    (limit : Nat) (tags : List String) (search : Option String) :
    listNodesCursor ilike nodes ⟨cursor, limit, tags, search⟩ =
      toNodePage (Keyset.page nodeKey (nodes.filter (selects ilike tags search))
        (cursor.map toLex) limit) := by
  have hbehind : behindCursor cursor = Keyset.before nodeKey (cursor.map toLex) :=
    funext (behindCursor_eq cursor)
  have hfound : getListCursor ilike nodes cursor limit (if tags = [] then none else some tags)
      search = (Keyset.rest nodeKey (nodes.filter (selects ilike tags search))
        (cursor.map toLex)).take (limit + 1) := by
    show (((nodes.filter (selects ilike tags search)).filter (behindCursor cursor)).insertionSort
      inOrder).take (limit + 1) = _
    rw [Keyset.insertionSort_eq_sortDesc inOrder_iff, hbehind]
    rfl
  unfold listNodesCursor Keyset.page toNodePage
  simp only [hfound]
  generalize (Keyset.rest nodeKey _ _).take (limit + 1) = found
  congr 1
  split
  · rw [Option.map_map]
    rfl
  · rfl

/-! ## Following the cursors -/

/-- The pages a client gets that follows the cursors; each request has its limit
and finds its table. -/
def walkNodes (ilike : Ilike) (tags : List String) (search : Option String) :
    Option NodeKey → List (NodeRows × Nat) → List NodeCursorPage
  | _, [] => []
  | cursor, (nodes, limit) :: requests =>
      let page := listNodesCursor ilike nodes.rows ⟨cursor, limit, tags, search⟩
      page :: match page.nextCursor with
        | none => []
        | some cursor => walkNodes ilike tags search (some cursor) requests

/-- The selected nodes of a table. -/
def selected (ilike : Ilike) (tags : List String) (search : Option String) (nodes : NodeRows) :
    List NodeRow :=
  nodes.rows.filter (selects ilike tags search)

section Walk

variable {ilike : Ilike} {tags : List String} {search : Option String}

/-- Two nodes of a table have different keys. -/
theorem nodup_nodeKey (nodes : NodeRows) :
    ((selected ilike tags search nodes).map nodeKey).Nodup := by
  have hids : ((selected ilike tags search nodes).map NodeRow.id).Nodup :=
    (List.Sublist.map NodeRow.id List.filter_sublist).nodup nodes.nodup
  apply List.Nodup.of_map (fun key : DateTime ×ₗ Uuid => (ofLex key).2)
  rw [List.map_map]
  exact hids

/-- The walk over the nodes is a walk of keyset pagination. -/
theorem walkNodes_eq (cursor : Option NodeKey) (requests : List (NodeRows × Nat)) :
    walkNodes ilike tags search cursor requests =
      (Keyset.walk nodeKey (cursor.map toLex)
        (requests.map fun r => (selected ilike tags search r.1, r.2))).map toNodePage := by
  induction requests generalizing cursor with
  | nil => rfl
  | cons request requests ih =>
      obtain ⟨nodes, limit⟩ := request
      rw [walkNodes, List.map_cons, Keyset.walk, List.map_cons, listNodesCursor_eq]
      unfold selected
      congr 1
      generalize Keyset.page nodeKey _ _ limit = p
      obtain ⟨items, next, more⟩ := p
      cases next with
      | none => rfl
      | some key => exact ih (some (ofLex key))

/-- The pages are some nodes in order, as many as the limits allow; `has_more` is
false on the last page, once all nodes have come, and on no other. -/
structure ListsInOrder (pages : List NodeCursorPage) (nodes : List NodeRow) (limits : List Nat) :
    Prop where
  items : pages.flatMap (·.items) = (nodes.take limits.sum).map nodeToView
  hasMore : ∀ front page back, pages = front ++ page :: back →
    (page.hasMore = false ↔ back = [] ∧ nodes.length ≤ limits.sum)
  requested : pages = [] ↔ limits = []

/-- `ORDER BY created_at DESC, id DESC`, between two nodes. -/
def newer (a b : NodeRow) : Prop :=
  b.createdAt < a.createdAt ∨ b.createdAt = a.createdAt ∧ b.id < a.id

theorem newer_iff (a b : NodeRow) : newer a b ↔ nodeKey b < nodeKey a := by
  unfold newer nodeKey
  rw [Prod.Lex.toLex_lt_toLex]

theorem flatMap_toNodePage (pages : List (Keyset.Page NodeRow (DateTime ×ₗ Uuid))) :
    (pages.map toNodePage).flatMap (·.items) = (pages.flatMap (·.items)).map nodeToView := by
  rw [List.flatMap_map, List.map_flatMap]
  rfl

/-- Over one table the cursors enumerate the selected nodes. -/
theorem walkNodes_static (nodes : NodeRows) {limits : List Nat} (hl : ∀ l ∈ limits, 1 ≤ l) :
    ∃ ordered, ordered.Perm (selected ilike tags search nodes) ∧ ordered.Pairwise newer ∧
      ListsInOrder (walkNodes ilike tags search none (limits.map (nodes, ·))) ordered limits := by
  have hnodup : ((selected ilike tags search nodes).map nodeKey).Nodup := nodup_nodeKey nodes
  refine ⟨Keyset.rest nodeKey (selected ilike tags search nodes) none, ?_, ?_, ?_⟩
  · unfold Keyset.rest
    refine (Keyset.perm_sortDesc _).trans (List.Perm.of_eq ?_)
    exact List.filter_eq_self.2 fun _ _ => rfl
  · exact (Keyset.descending_rest hnodup none).imp fun {a b} h => (newer_iff a b).2 h
  · have hwalk := Keyset.walk_enumerates hnodup none hl
    rw [walkNodes_eq, List.map_map]
    refine ⟨?_, fun front page back h => ?_, ?_⟩
    · rw [flatMap_toNodePage]
      exact congrArg _ hwalk.items
    · obtain ⟨front', back', hpages, -, hrest⟩ := List.map_eq_append_iff.1 h
      obtain ⟨p, back'', hback, rfl, rfl⟩ := List.map_eq_cons_iff.1 hrest
      rw [List.map_eq_nil_iff]
      exact hwalk.more front' p back'' (hpages.trans (by rw [hback]))
    · rw [List.map_eq_nil_iff]
      exact hwalk.visited

/-- A node that is selected in every table comes once, whatever else is inserted
or deleted between the requests. -/
theorem walkNodes_dynamic {requests : List (NodeRows × Nat)} (hl : ∀ r ∈ requests, 1 ≤ r.2)
    {id : Uuid} {createdAt : DateTime}
    (hthere : ∀ r ∈ requests, ∃ node ∈ selected ilike tags search r.1,
      node.id = id ∧ node.createdAt = createdAt)
    {last : NodeCursorPage}
    (hlast : (walkNodes ilike tags search none requests).getLast? = some last)
    (hend : last.hasMore = false) :
    ((walkNodes ilike tags search none requests).flatMap (·.items)).countP
      (fun item => decide (item.id = id)) = 1 := by
  rw [walkNodes_eq] at hlast ⊢
  rw [flatMap_toNodePage, List.countP_map]
  rw [List.getLast?_map] at hlast
  obtain ⟨p, hp, rfl⟩ := Option.map_eq_some_iff.1 hlast
  generalize hvisits :
    requests.map (fun r => (selected ilike tags search r.1, r.2)) = visits at hp ⊢
  have hvisit : ∀ v ∈ visits, ∃ r ∈ requests, (selected ilike tags search r.1, r.2) = v := by
    intro v hv
    rw [← hvisits] at hv
    exact List.mem_map.1 hv
  have hlimit : ∀ v ∈ visits, 1 ≤ v.2 := by
    intro v hv
    obtain ⟨r, hr, rfl⟩ := hvisit v hv
    exact hl r hr
  have hnodup : ∀ v ∈ visits, (v.1.map nodeKey).Nodup := by
    intro v hv
    obtain ⟨r, -, rfl⟩ := hvisit v hv
    exact nodup_nodeKey r.1
  have hkey : ∀ v ∈ visits, ∃ node ∈ v.1, nodeKey node = toLex (createdAt, id) := by
    intro v hv
    obtain ⟨r, hr, rfl⟩ := hvisit v hv
    obtain ⟨node, hnode, rfl, rfl⟩ := hthere r hr
    exact ⟨node, hnode, rfl⟩
  have hnone : ∀ c ∈ (none : Option (DateTime ×ₗ Uuid)), toLex (createdAt, id) < c :=
    fun c hc => absurd hc (Option.not_mem_none c)
  refine (List.countP_congr fun x hx => ?_).trans
    (Keyset.countP_walk hlimit hnodup hkey hnone hp hend)
  -- In the table it comes from, a node with this id has this creation time.
  obtain ⟨⟨v, hv, hxv⟩, -⟩ := Keyset.mem_walk hlimit hx
  obtain ⟨r, hr, rfl⟩ := hvisit v hv
  obtain ⟨node, hnode, hid, hcreated⟩ := hthere r hr
  simp only [Function.comp, decide_eq_true_eq]
  show x.id = id ↔ _
  constructor
  · intro hxid
    have heq : x = node := r.1.eq_of_key_eq (List.mem_filter.1 hxv).1 (List.mem_filter.1 hnode).1
      (hxid.trans hid.symm)
    rw [heq, ← hcreated, ← hid]
    rfl
  · intro hxkey
    exact congrArg (fun key : DateTime ×ₗ Uuid => (ofLex key).2) hxkey

end Walk

/-- The handler hands on the pages of the gateway, and takes the cursors that it
gave out. -/
theorem listNodes_encodeCursor (py : Interpreter) {fmt : Formats} (hfmt : fmt.Lawful)
    (otherIso : String → Option DateTime) (ilike : Ilike) (nodes : List NodeRow)
    (cursor : Option NodeKey) (limit : Nat) (tag search : Option String) :
    listNodes py fmt otherIso ilike nodes (cursor.map (encodeCursor fmt)) limit tag search =
      listResponse fmt limit
        (listNodesCursor ilike nodes (handlerQuery cursor limit tag search)) := by
  unfold listNodes
  cases cursor with
  | none =>
      rw [Option.map_none, Option.getD_none, if_pos rfl]
      rfl
  | some key =>
      have hne : encodeCursor fmt key ≠ "" := encodeObject_ne_empty _
      rw [Option.map_some, Option.getD_some, if_neg hne, decodeCursor_encodeCursor py hfmt]
      rfl

/-- **The listing of nodes loses and repeats nothing.**  Over one table the cursors
enumerate the selected nodes, newest first; over changing tables each node that
is selected all the time comes once; and the cursors survive the way through
their text. -/
theorem node_listing_complete (py : Interpreter) {fmt : Formats} (hfmt : fmt.Lawful)
    (otherIso : String → Option DateTime) (ilike : Ilike) :
    (∀ (tags : List String) (search : Option String) (nodes : NodeRows) (limits : List Nat),
      (∀ l ∈ limits, 1 ≤ l) →
      ∃ ordered, ordered.Perm (selected ilike tags search nodes) ∧ ordered.Pairwise newer ∧
        ListsInOrder (walkNodes ilike tags search none (limits.map (nodes, ·))) ordered limits) ∧
    (∀ (tags : List String) (search : Option String) (requests : List (NodeRows × Nat)),
      (∀ r ∈ requests, 1 ≤ r.2) → ∀ (id : Uuid) (createdAt : DateTime),
      (∀ r ∈ requests, ∃ node ∈ selected ilike tags search r.1,
        node.id = id ∧ node.createdAt = createdAt) →
      ∀ last, (walkNodes ilike tags search none requests).getLast? = some last →
        last.hasMore = false →
        ((walkNodes ilike tags search none requests).flatMap (·.items)).countP
          (fun item => decide (item.id = id)) = 1) ∧
    ∀ (nodes : List NodeRow) (cursor : Option NodeKey) (limit : Nat) (tag search : Option String),
      listNodes py fmt otherIso ilike nodes (cursor.map (encodeCursor fmt)) limit tag search =
        listResponse fmt limit
          (listNodesCursor ilike nodes (handlerQuery cursor limit tag search)) :=
  ⟨fun _ _ nodes _ hl => walkNodes_static nodes hl,
    fun _ _ _ hl _ _ hthere _ hlast hend => walkNodes_dynamic hl hthere hlast hend,
    fun nodes cursor limit tag search =>
      listNodes_encodeCursor py hfmt otherIso ilike nodes cursor limit tag search⟩

/-- The first moment of a month of 2026. -/
def startOf (month : Nat) (h : month ∈ [1, 2, 3]) : DateTime where
  year := 2026
  month := month
  day := 1
  hour := 0
  minute := 0
  second := 0
  microsecond := 0
  year_ok := fleetMoment.year_ok
  month_ok := by revert h month; decide
  day_ok := by revert h month; decide
  hour_ok := fleetMoment.hour_ok
  minute_ok := fleetMoment.minute_ok
  second_ok := fleetMoment.second_ok
  microsecond_ok := fleetMoment.microsecond_ok

/-- A node of some moment, with some tags. -/
def plainNode (id : Uuid) (name : String) (tags : List String) (createdAt : DateTime) : NodeRow where
  id := id
  name := name
  host := "host"
  port := 22
  connectionType := .ssh
  status := .active
  username := none
  password := none
  sshKey := none
  passphrase := none
  dockerHost := none
  hasDocker := false
  tags := some (tags.map some)
  description := none
  createdAt := createdAt
  updatedAt := createdAt

/-- Three nodes of a tag and a name, two of them of one moment, and two nodes beside them. -/
def threeNodes : NodeRows where
  rows := [plainNode 1 "web-1" ["prod"] (startOf 1 (by decide)),
    plainNode 2 "web-2" ["eu", "prod"] (startOf 2 (by decide)),
    plainNode 3 "web-3" ["prod"] (startOf 1 (by decide)),
    plainNode 4 "web-4" ["test"] (startOf 3 (by decide)),
    plainNode 5 "db" ["prod"] (startOf 3 (by decide))]
  nodup := by decide

/-- `ILIKE` for texts in lower case. -/
def lowerIlike : Ilike := fun text pattern =>
  (Like.like Search.ilikeSigns pattern.toList text.toList).getD false

/-- The nodes of the tag and the name come in pages of two, in their order. -/
theorem node_listing_three : ∃ ordered,
    ordered.Perm (selected lowerIlike ["prod"] (some "web") threeNodes) ∧ ordered.Pairwise newer ∧
    (selected lowerIlike ["prod"] (some "web") threeNodes).map (·.id) = [1, 2, 3] ∧
    ListsInOrder (walkNodes lowerIlike ["prod"] (some "web") none ([2, 2].map (threeNodes, ·)))
      ordered [2, 2] := by
  obtain ⟨ordered, hperm, hnewer, hlists⟩ :=
    (node_listing_complete plainInterpreter canonicalFormats_lawful (fun _ => none)
      lowerIlike).1 ["prod"] (some "web") threeNodes [2, 2] (by decide)
  exact ⟨ordered, hperm, hnewer, rfl, hlists⟩

end Listing
end NodeNexus
