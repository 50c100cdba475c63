import NodeNexus.Lib.DateTime
import NodeNexus.Content.Store

/-!
# The table of nodes

A row of `nodes`, and the filters that the queries over nodes, commands and
scripts put before their paging.

* `NodeRow` has the columns of `NodeModel`; the CHECK constraints on the status
  and on the connection type are in the types of the two columns.
* `applyFilters` is `_apply_filters` of the three repositories, which differ in
  the second column they search.
-/

namespace NodeNexus
namespace Node

open Content

/-- `ConnectionType`. -/
inductive ConnectionType where
  | ssh
  deriving DecidableEq

/-- `NodeStatus`. -/
inductive NodeStatus where
  | active
  | unreachable
  | error
  deriving DecidableEq

/-- `NodeModel`. -/
structure NodeRow where
  id : Uuid
  name : String
  host : String
  port : Int
  connectionType : ConnectionType
  status : NodeStatus
  username : Option String
  password : Option String
  sshKey : Option String
  passphrase : Option String
  dockerHost : Option String
  hasDocker : Bool
  tags : Option (List (Option String))
  description : Option String
  createdAt : DateTime
  updatedAt : DateTime
  deriving DecidableEq

/-- The table under its primary key. -/
abbrev NodeRows : Type := Table NodeRow.id

/-! ## Inserting a node -/

/-- `NodeConfigDTO`, with the fields of its endpoint and its credentials. -/
structure NodeConfigDTO where
  name : String
  host : String
  port : Int
  connectionType : ConnectionType
  dockerHost : Option String
  hasDocker : Bool
  username : Option String
  tags : List String

/-- `String(255)`, nullable. -/
def bindOptionalName (db : Columns) : Option String → Except Failure (Option String)
  | none => .ok none
  | some s => (bindName db s).map some

/-- `Integer`, of four bytes. -/
def bindInteger (n : Int) : Except Failure Int :=
  if -2147483648 ≤ n ∧ n ≤ 2147483647 then .ok n else .error .dataError

/-- The row that `import_config` makes of a node: no secrets, and the defaults of
the other columns. -/
def bindNode (db : Columns) (now : DateTime) (id : Uuid) (node : NodeConfigDTO) :
    Except Failure NodeRow := do
  let name ← bindName db node.name
  let host ← bindName db node.host
  let port ← bindInteger node.port
  let username ← bindOptionalName db node.username
  let dockerHost ← bindOptionalName db node.dockerHost
  let tags ← bindTags db (some (node.tags.map .str))
  .ok
    { id, name, host, port, connectionType := node.connectionType, status := .active, username
      password := none, sshKey := none, passphrase := none, dockerHost
      hasDocker := node.hasDocker, tags, description := none, createdAt := now, updatedAt := now }

/-- What is known of a row made of a node. -/
structure BoundNode (db : Columns) (node : NodeConfigDTO) (row : NodeRow) : Prop where
  name : bindName db node.name = .ok row.name
  host : bindName db node.host = .ok row.host
  port : bindInteger node.port = .ok row.port
  username : bindOptionalName db node.username = .ok row.username
  dockerHost : bindOptionalName db node.dockerHost = .ok row.dockerHost
  tags : bindTags db (some (node.tags.map .str)) = .ok row.tags
  connectionType : row.connectionType = node.connectionType
  hasDocker : row.hasDocker = node.hasDocker
  description : row.description = none

theorem bindNode_eq_ok {db : Columns} {now : DateTime} {id : Uuid} {node : NodeConfigDTO}
    {row : NodeRow} (h : bindNode db now id node = .ok row) :
    row.id = id ∧ BoundNode db node row := by
  simp only [bindNode, bind_eq_ok] at h
  obtain ⟨name, hname, host, hhost, port, hport, username, husername, dockerHost, hdockerHost,
    tags, htags, hrow⟩ := h
  cases hrow
  exact ⟨rfl, hname, hhost, hport, husername, hdockerHost, htags, rfl, rfl, rfl⟩

/-- Whether a node can be inserted does not depend on its id. -/
theorem bindNode_any {db : Columns} {now : DateTime} {id : Uuid} {node : NodeConfigDTO}
    {row : NodeRow} (h : bindNode db now id node = .ok row) (id' : Uuid) :
    bindNode db now id' node = .ok { row with id := id' } := by
  simp only [bindNode, bind_eq_ok] at h
  obtain ⟨name, hname, host, hhost, port, hport, username, husername, dockerHost, hdockerHost,
    tags, htags, hrow⟩ := h
  cases hrow
  unfold bindNode
  rw [hname, hhost, hport, husername, hdockerHost, htags]
  rfl

/-- With the documented columns a name is the one that was given. -/
theorem bindName_eq {db : Columns} (hdb : db.Lawful) {s r : String} (h : bindName db s = .ok r) :
    r = s := by
  unfold bindName at h
  split at h
  · exact hdb.text_eq _ _ h
  · cases h

theorem bindOptionalName_eq {db : Columns} (hdb : db.Lawful) {o r : Option String}
    (h : bindOptionalName db o = .ok r) : r = o := by
  cases o with
  | none =>
      cases h
      rfl
  | some s =>
      obtain ⟨s', hs, rfl⟩ := map_eq_ok.1 h
      rw [bindName_eq hdb hs]

theorem bindInteger_eq {n r : Int} (h : bindInteger n = .ok r) : r = n := by
  unfold bindInteger at h
  split at h
  · cases h
    rfl
  · cases h

/-! ## Filters -/

/-- The operator `ILIKE … ESCAPE '\'` of the database: does a text match a
pattern? -/
abbrev Ilike : Type := String → String → Bool

/-- `escape_ilike`: a character with a meaning in patterns stands for itself. -/
def escapeIlike (value : String) : String :=
  String.ofList (value.toList.flatMap fun c =>
    if c = '\\' ∨ c = '%' ∨ c = '_' then ['\\', c] else [c])

/-- The condition `tags @> ARRAY[tag]`; NULL contains nothing. -/
def hasTag (tags : Option (List (Option String))) (tag : String) : Bool :=
  (tags.getD []).contains (some tag)

/-- `_apply_filters`: is a row with these tags, this name and this second column
selected?  Empty filters are none, and NULL matches no pattern. -/
def applyFilters (ilike : Ilike) (rowTags : Option (List (Option String))) (name : String)
    (other : Option String) (tags : Option (List String)) (search : Option String) : Bool :=
  (tags.getD []).all (hasTag rowTags) &&
    (if search.getD "" = "" then true
     else
       let pattern := "%" ++ escapeIlike (search.getD "") ++ "%"
       ilike name pattern || other.any (ilike · pattern))

/-- `NodeRepository._apply_filters`. -/
def NodeRow.matches (ilike : Ilike) (tags : Option (List String)) (search : Option String)
    (node : NodeRow) : Bool :=
  applyFilters ilike node.tags node.name (some node.host) tags search

/-- `CommandRepository._apply_filters` and `ScriptRepository._apply_filters`. -/
def rowMatches {Body : Type} (ilike : Ilike) (tags : Option (List String))
    (search : Option String) (row : Row Body) : Bool :=
  applyFilters ilike row.tags row.name row.description tags search

/-- Without tags and search all rows are selected. -/
theorem applyFilters_none (ilike : Ilike) (rowTags : Option (List (Option String)))
    (name : String) (other : Option String) :
    applyFilters ilike rowTags name other none none = true :=
  rfl

/-- When the nodes of a fleet were made. -/
def fleetMoment : DateTime where
  year := 2026
  month := 1
  day := 1
  hour := 0
  minute := 0
  second := 0
  microsecond := 0
  year_ok := by decide
  month_ok := by decide
  day_ok := by decide
  hour_ok := by decide
  minute_ok := by decide
  second_ok := by decide
  microsecond_ok := by decide

end Node
end NodeNexus
