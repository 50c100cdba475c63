import NodeNexus.Node.Writes

/-!
# Reading nodes back

What a GET of a node shows after any sequence of writes.

* `nodeResponse` — the response of the API; it has a description that no handler sets.
* `ReadState` — the store, and what the applied writes asked for; `wantedAfter` says it
  field by field.
* `SettledWrite` — a write is applied or refused with an error of the domain.
* `WriteFits` — the writes that settle and can be read back: values fit their columns, no
  column that is not null is nulled, a new name is not taken, and no description and no null
  for tags is sent.
* `reads_return_writes` — in every run of such writes all nodes read as they were written, and
  any other write fails or is read back differently.
-/

namespace NodeNexus
namespace Node

open Content
open NodeNexus.Core
open Config (IsDecimal)

/-! ## Reads -/

/-- `NodeResponse`. -/
structure NodeResponse where
  id : Uuid
  name : String
  host : String
  port : Int
  connectionType : ConnectionType
  status : NodeStatus
  username : Option String
  dockerHost : Option String
  hasDocker : Bool
  tags : List String
  description : Option String
  createdAt : DateTime
  updatedAt : DateTime

/-- `_node_response`; it leaves the description at its default. -/
def nodeResponse (node : NodeViewDTO) : Except Failure NodeResponse := do
  let tags ← readTags node.tags
  .ok
    { id := node.id
      name := node.name
      host := node.endpoint.host
      port := node.endpoint.port
      connectionType := node.endpoint.connectionType
      status := node.status
      username := node.username
      dockerHost := node.endpoint.dockerHost
      hasDocker := node.endpoint.hasDocker
      tags := tags
      description := none
      createdAt := node.createdAt
      updatedAt := node.updatedAt }

/-- What a response shows. -/
def NodeResponse.shown (response : NodeResponse) : ShownNode where
  name := response.name
  host := response.host
  port := response.port
  connectionType := response.connectionType
  status := response.status
  username := response.username
  dockerHost := response.dockerHost
  hasDocker := response.hasDocker
  tags := some (response.tags.map some)
  description := response.description

/-- `get_node` of the service. -/
def getNode (cfg : Setting) (id : Uuid) : Service NodeViewDTO := do
  let node : Option NodeViewDTO ← await (.getNode id)
  match node with
  | none => Program.raise (cfg.notFound id)
  | some view => pure view

/-- A GET of a node. -/
def getOf (env : StoreEnv) (cfg : Setting) (w : NodeWorld) (id : Uuid) :
    Except NodeFailure (Except Failure NodeResponse) :=
  (Program.run (perform env) (getNode cfg id) w).1.map nodeResponse

theorem getOf_eq (env : StoreEnv) (cfg : Setting) (w : NodeWorld) (id : Uuid) :
    getOf env cfg w id = match w.nodes.find? id with
      | none => .error (cfg.notFound id)
      | some row => .ok (nodeResponse row.toView) := by
  unfold getOf getNode
  rw [Program.run_bind, Program.run_call]
  cases hfind : w.nodes.find? id with
  | none => simp only [perform, hfind, Option.map_none]; rfl
  | some row => simp only [perform, hfind, Option.map_some]; rfl

/-- What can be read back: there is no description, and the tags are texts. -/
structure ShownNode.Readable (node : ShownNode) : Prop where
  tags : ∃ texts : List String, node.tags = some (texts.map some)
  description : node.description = none

/-- **A row is read back** where what it shows is readable. -/
theorem readable_iff {row : NodeRow} :
    (∃ response, nodeResponse row.toView = .ok response ∧ response.shown = row.shown) ↔
      row.shown.Readable := by
  constructor
  · rintro ⟨response, h, hshown⟩
    obtain ⟨tags, -, h⟩ := bind_eq_ok.1 h
    cases h
    rw [← hshown]
    exact ⟨⟨tags, rfl⟩, rfl⟩
  · rintro ⟨⟨texts, htags⟩, hdescription⟩
    have htags' : row.tags = some (texts.map some) := htags
    have hread : readTags row.toView.tags = .ok texts := by
      show readTags (row.tags.getD []) = .ok texts
      rw [htags', Option.getD_some, readTags, mapM_eq_ok_iff]
      exact List.forall₂_map_left_iff.2 (List.forall₂_same.2 fun _ _ => rfl)
    refine ⟨_, bind_of_eq_ok hread, ?_⟩
    simp only [NodeResponse.shown, NodeRow.shown, NodeRow.toView, ShownNode.mk.injEq, true_and]
    exact ⟨htags'.symm, (show row.description = none from hdescription).symm⟩

/-! ## Writes -/

/-- An accepted request. -/
inductive NodeWriteRequest (uni : Unicode) (isDecimal : IsDecimal) where
  /-- An item of `bulk_create_nodes`. -/
  | create (item : NodeCreate uni isDecimal)
  /-- A PATCH of a node. -/
  | update (id : Uuid) (data : NodeUpdate uni isDecimal)

/-- The store and what the applied writes asked for. -/
structure ReadState where
  world : NodeWorld
  wanted : Uuid → Option ShownNode

section Writes

variable {uni : Unicode} {isDecimal : IsDecimal}

/-- What an item asks for. -/
def NodeCreate.wanted (item : NodeCreate uni isDecimal) : ShownNode where
  name := item.name
  host := item.host
  port := item.port
  connectionType := item.connectionType
  status := .active
  username := item.username
  dockerHost := item.dockerHost
  hasDocker := item.hasDocker
  tags := some (item.tags.map some)
  description := item.description

/-- What a node shows after an update: each field has the value that was sent, and a docker
host that was not sent goes where docker is disabled. -/
def wantedAfter (changes : List NodeChange) (node : ShownNode) : ShownNode :=
  let set := changes.foldl ShownNode.apply node
  if "has_docker" ∈ changes.map (·.field) ∧ set.hasDocker = false ∧
      "docker_host" ∉ changes.map (·.field) then
    { set with dockerHost := none }
  else set

/-- What the service makes of the changes is what they ask for. -/
theorem foldl_clearDockerHost {changes : List NodeChange} (hnodup : (changes.map (·.field)).Nodup)
    (hnull : ∀ c ∈ changes, c.nullsColumn = false) (node : ShownNode) :
    (clearDockerHost changes).foldl ShownNode.apply node = wantedAfter changes node := by
  have hdisabled : NodeChange.hasDocker (some false) ∈ changes ↔
      "has_docker" ∈ changes.map (·.field) ∧
        (changes.foldl ShownNode.apply node).hasDocker = false := by
    constructor
    · exact fun h => ⟨List.mem_map.2 ⟨_, h, rfl⟩, hasDocker_of_mem hnodup h node⟩
    · rintro ⟨hfield, hfalse⟩
      obtain ⟨b, hb⟩ := exists_hasDocker hfield
      cases b with
      | none => exact Bool.noConfusion (hnull _ hb)
      | some b =>
          rw [hasDocker_of_mem hnodup hb] at hfalse
          rw [← hfalse]
          exact hb
  rcases clearDockerHost_cases changes with ⟨h, heq⟩ | ⟨h, heq⟩
  · rw [heq, List.foldl_append, wantedAfter, if_pos ⟨(hdisabled.1 h.1).1, (hdisabled.1 h.1).2, h.2⟩]
    rfl
  · rw [heq, wantedAfter, if_neg]
    exact fun hclear => h ⟨hdisabled.2 ⟨hclear.1, hclear.2.1⟩, hclear.2.2⟩

/-- What a request comes to. -/
def writeRun (env : StoreEnv) (cfg : Setting) (w : NodeWorld) :
    NodeWriteRequest uni isDecimal → Except NodeFailure NodeViewDTO × NodeWorld
  | .create item => Program.run (perform env) (createNode cfg item.dto) w
  | .update id data => Program.run (perform env) (updateNode cfg id data.toNodeUpdateDTO) w

/-- What is wanted of a node after a request for it was applied. -/
def NodeWriteRequest.asks : NodeWriteRequest uni isDecimal → Option ShownNode → Option ShownNode
  | .create item, _ => some item.wanted
  | .update _ data, node => node.map (wantedAfter data.changes)

/-- A request at a moment; one that raises asks for nothing. -/
def readStep (env : StoreEnv) (cfg : Setting) (s : ReadState) (now : DateTime)
    (write : NodeWriteRequest uni isDecimal) : ReadState where
  world := (writeRun { env with now } cfg s.world write).2
  wanted :=
    match (writeRun { env with now } cfg s.world write).1 with
    | .error _ => s.wanted
    | .ok view => fun id => if id = view.id then write.asks (s.wanted id) else s.wanted id

/-- All runs of requests, from a store without nodes. -/
def readSystem (env : StoreEnv) (cfg : Setting) (uni : Unicode) (isDecimal : IsDecimal) :
    System ReadState (DateTime × NodeWriteRequest uni isDecimal) where
  init s := s.world.nodes.rows = [] ∧ s.wanted = fun _ => none
  step s e := some (readStep env cfg s e.1 e.2)

/-- A request is applied, or refused with an error of the domain. -/
def SettledWrite (env : StoreEnv) (cfg : Setting) (s : ReadState) (now : DateTime)
    (write : NodeWriteRequest uni isDecimal) : Prop :=
  ∀ e, (writeRun { env with now } cfg s.world write).1 = .error e →
    e.kind = .nodeNotFoundError ∨ e.kind = .nodeNameConflictError

/-- Every GET shows what the writes asked for. -/
structure ReadsWrites (env : StoreEnv) (cfg : Setting) (s : ReadState) : Prop where
  missing : ∀ id, s.wanted id = none → getOf env cfg s.world id = .error (cfg.notFound id)
  shown : ∀ id node, s.wanted id = some node → ∃ response,
    getOf env cfg s.world id = .ok (.ok response) ∧ response.shown = node

/-! ## Values that fit -/

/-- A change as it is stored fits its column. -/
def NodeChange.FitsColumn (db : Columns) : NodeChange → Prop
  | .name (some text) | .host (some text) => Returns (bindName db text)
  | .port (some number) => Returns (bindInteger number)
  | .username o | .dockerHost o => Returns (bindOptionalName db o)
  | .password o | .sshKey o | .passphrase o | .description o => Returns (bindText db o)
  | .tags o => Returns (bindTags db (o.map fun ts => ts.map jsonText))
  | _ => True

/-- A change fits its column as it is stored. -/
def NodeChange.Fits (env : StoreEnv) (change : NodeChange) : Prop :=
  ∀ secured, sealChange env change = .ok secured → secured.FitsColumn env.db

/-- The values of an item fit their columns as they are stored. -/
structure NodeCreate.Fits (env : StoreEnv) (item : NodeCreate uni isDecimal) : Prop where
  name : Returns (bindName env.db item.name)
  host : Returns (bindName env.db item.host)
  username : Returns (bindOptionalName env.db item.username)
  password : ∀ o, sealValue env item.password = .ok o → Returns (bindText env.db o)
  sshKey : ∀ o, sealValue env item.sshKey = .ok o → Returns (bindText env.db o)
  passphrase : ∀ o, sealValue env item.passphrase = .ok o → Returns (bindText env.db o)
  dockerHost : Returns (bindOptionalName env.db item.dockerHost)
  tags : Returns (bindTags env.db (some (item.tags.map .str)))

/-- The changes of a stored node are applied. -/
structure Applicable (env : StoreEnv) (nodes : NodeTable) (id : Uuid) (changes : List NodeChange) :
    Prop where
  /-- No column that is not null is nulled. -/
  nulls : ∀ c ∈ changes, c.nullsColumn = false
  fits : ∀ c ∈ changes, c.Fits env
  /-- No other node has the new name. -/
  free : ∀ text, NodeChange.name (some text) ∈ changes → ∀ row ∈ nodes.rows,
    row.name = text → row.id = id

/-- They can also be read back. -/
structure UpdateFits (env : StoreEnv) (nodes : NodeTable) (id : Uuid) (changes : List NodeChange) :
    Prop extends Applicable env nodes id changes where
  tags : NodeChange.tags none ∉ changes
  description : ∀ text, NodeChange.description (some text) ∉ changes

/-- The requests that settle and are read back. -/
def WriteFits (env : StoreEnv) (s : ReadState) : NodeWriteRequest uni isDecimal → Prop
  | .create item =>
      item.Fits env ∧ (item.name ∈ s.world.nodes.names ∨ item.description = none)
  | .update id data =>
      (s.world.nodes.find? id).isSome = true → UpdateFits env s.world.nodes id data.changes

theorem returns_setField {db : Columns} {row : NodeRow} {change : NodeChange} :
    Returns (setField db row change) ↔ change.nullsColumn = false ∧ change.FitsColumn db := by
  -- a column refuses `None` where it is not null, and otherwise binds the value
  have hnone : ∀ {β γ : Type} {column : String} {bind : β → Except Failure β} {f : β → γ},
      ¬ Returns ((notNull column bind none).map f) := by
    intro β γ column bind f h
    exact not_returns_error _ (returns_map.1 h)
  cases change with
  | name o | host o | port o =>
      rw [setField]
      cases o with
      | none => exact ⟨fun h => absurd h hnone, fun h => absurd h.1 (Bool.noConfusion ·)⟩
      | some v => exact returns_map.trans ⟨fun h => ⟨rfl, h⟩, fun h => h.2⟩
  | connectionType o | status o | hasDocker o =>
      rw [setField]
      cases o with
      | none => exact ⟨fun h => absurd h hnone, fun h => absurd h.1 (Bool.noConfusion ·)⟩
      | some v => exact ⟨fun _ => ⟨rfl, trivial⟩, fun _ => returns_map.2 (returns_ok v)⟩
  | _ =>
      rw [setField]
      exact returns_map.trans ⟨fun h => ⟨rfl, h⟩, fun h => h.2⟩

theorem returns_setFields {db : Columns} {row : NodeRow} {changes : List NodeChange} :
    Returns (setFields db row changes) ↔
      ∀ c ∈ changes, c.nullsColumn = false ∧ c.FitsColumn db := by
  induction changes generalizing row with
  | nil => exact ⟨fun _ _ hc => absurd hc List.not_mem_nil, fun _ => returns_ok row⟩
  | cons change changes ih =>
      rw [List.forall_mem_cons]
      unfold setFields
      constructor
      · intro h
        obtain ⟨row', hrow', hrest⟩ := returns_bind.1 h
        exact ⟨returns_setField.1 ⟨row', hrow'⟩, ih.1 hrest⟩
      · rintro ⟨hfirst, hrest⟩
        obtain ⟨row', hrow'⟩ : Returns (setField db row change) := returns_setField.2 hfirst
        exact returns_bind.2 ⟨row', hrow', ih.2 hrest⟩

/-- With a cipher that encrypts, all changes are secured. -/
theorem returns_sealValue {env : StoreEnv} (hencrypt : ∀ s, Returns (env.encrypt s))
    (o : Option String) : Returns (sealValue env o) := by
  cases o with
  | none => exact returns_ok none
  | some s =>
      by_cases hs : s = ""
      · rw [sealValue, if_pos hs]
        exact returns_ok _
      · rw [sealValue, if_neg hs]
        exact returns_map.2 (hencrypt s)

theorem returns_sealChange {env : StoreEnv} (hencrypt : ∀ s, Returns (env.encrypt s))
    (change : NodeChange) : Returns (sealChange env change) := by
  cases change with
  | password o | sshKey o | passphrase o => exact returns_map.2 (returns_sealValue hencrypt o)
  | _ => exact returns_ok _

theorem returns_sealChanges {env : StoreEnv} (hencrypt : ∀ s, Returns (env.encrypt s))
    (changes : List NodeChange) : Returns (sealChanges env changes) := by
  induction changes with
  | nil => exact returns_ok []
  | cons change changes ih =>
      obtain ⟨secured, hsecured⟩ := returns_sealChange hencrypt change
      obtain ⟨rest, hrest⟩ := ih
      exact ⟨_, bind_eq_ok.2 ⟨secured, hsecured, bind_eq_ok.2 ⟨rest, hrest, rfl⟩⟩⟩

/-- The secured changes fit where the changes do. -/
theorem forall_sealChanges {env : StoreEnv} {changes secured : List NodeChange}
    (h : sealChanges env changes = .ok secured) :
    (∀ c ∈ secured, c.nullsColumn = false ∧ c.FitsColumn env.db) ↔
      ∀ c ∈ changes, c.nullsColumn = false ∧ c.Fits env := by
  induction changes generalizing secured with
  | nil =>
      cases h
      exact ⟨fun _ _ hc => absurd hc List.not_mem_nil, fun _ _ hc => absurd hc List.not_mem_nil⟩
  | cons change changes ih =>
      obtain ⟨c, hc, h⟩ := bind_eq_ok.1 h
      obtain ⟨rest, hrest, h⟩ := bind_eq_ok.1 h
      cases h
      have hfits : c.FitsColumn env.db ↔ change.Fits env := by
        constructor
        · intro hfit secured hsecured
          rw [hc] at hsecured
          cases hsecured
          exact hfit
        · exact fun hfit => hfit c hc
      rw [List.forall_mem_cons, List.forall_mem_cons, ih hrest, sealChange_nullsColumn hc, hfits]

/-! ## One request -/

/-- What is documented of a refused text: it is an error of the data. -/
structure RefusesData (db : Columns) : Prop where
  text : ∀ s e, db.text s = .error e → e = .dataError
  texts : ∀ ts e, db.texts ts = .error e → e = .dataError

/-- The outside of the services: the cipher encrypts, and the exception of a refused value is
none of the domain. -/
structure Outside (env : StoreEnv) : Prop where
  lawful : env.db.Lawful
  back : env.db.ReadsBack
  data : RefusesData env.db
  encrypts : ∀ s, Returns (env.encrypt s)
  refused : ∀ f, (env.refused f).kind = .other

theorem error_of_map {α β : Type} {x : Except Failure α} {f : α → β} {e : Failure}
    (h : x.map f = .error e) : x = .error e := by
  cases x with
  | error e' =>
      cases h
      rfl
  | ok a => cases h

section Binding

variable {db : Columns} (hdb : RefusesData db) {e : Failure}
include hdb

theorem bindName_error {s : String} (h : bindName db s = .error e) : e = .dataError := by
  unfold bindName at h
  split at h
  · exact hdb.text s e h
  · cases h
    rfl

theorem bindOptionalName_error {o : Option String} (h : bindOptionalName db o = .error e) :
    e = .dataError := by
  cases o with
  | none => cases h
  | some s => exact bindName_error hdb (error_of_map h)

theorem bindText_error {o : Option String} (h : bindText db o = .error e) : e = .dataError := by
  cases o with
  | none => cases h
  | some s => exact hdb.text s e (error_of_map h)

theorem bindTags_error {o : Option (List Json)} (h : bindTags db o = .error e) :
    e = .dataError := by
  cases o with
  | none => cases h
  | some ts => exact hdb.texts ts e (error_of_map h)

theorem bindCreate_error {now : DateTime} {id : Uuid} {data : NodeCreateDTO}
    (h : bindCreate db now id data = .error e) : e = .dataError := by
  have hstep : ∀ {α β : Type} {x : Except Failure α} {f : α → Except Failure β},
      (∀ e, x = .error e → e = .dataError) → (∀ a e, f a = .error e → e = .dataError) →
        ∀ e, (x >>= f) = .error e → e = .dataError := by
    intro α β x f hx hf e h
    cases x with
    | error e' =>
        cases h
        exact hx _ rfl
    | ok a => exact hf a e h
  have hinteger : ∀ n e, bindInteger n = .error e → e = .dataError := by
    intro n e h
    unfold bindInteger at h
    split at h
    · cases h
    · cases h
      rfl
  revert h
  unfold bindCreate
  refine hstep (fun _ => bindName_error hdb) (fun name => ?_) e
  refine hstep (fun _ => bindName_error hdb) (fun host => ?_)
  refine hstep (hinteger _) (fun port => ?_)
  refine hstep (fun _ => bindOptionalName_error hdb) (fun username => ?_)
  refine hstep (fun _ => bindText_error hdb) (fun password => ?_)
  refine hstep (fun _ => bindText_error hdb) (fun sshKey => ?_)
  refine hstep (fun _ => bindText_error hdb) (fun passphrase => ?_)
  refine hstep (fun _ => bindOptionalName_error hdb) (fun dockerHost => ?_)
  exact hstep (fun _ => bindTags_error hdb) fun tags e h => nomatch h

end Binding

/-- A row is made of the items that fit. -/
theorem returns_bindCreate {env : StoreEnv} {item : NodeCreate uni isDecimal}
    {secured : NodeCreateDTO} (h : sealCreate env item.dto = .ok secured) (now : DateTime)
    (id : Uuid) : Returns (bindCreate env.db now id secured) ↔ item.Fits env := by
  simp only [sealCreate, bind_eq_ok] at h
  obtain ⟨password, hpassword, sshKey, hsshKey, passphrase, hpassphrase, h⟩ := h
  cases h
  have hsealed : ∀ {o p : Option String}, sealValue env o = .ok p →
      (Returns (bindText env.db p) ↔ ∀ r, sealValue env o = .ok r → Returns (bindText env.db r)) := by
    intro o p hp
    constructor
    · intro hr r hr'
      rw [hp] at hr'
      cases hr'
      exact hr
    · exact fun hall => hall p hp
  have hport : Returns (bindInteger item.port) := by
    have hok := item.port_ok
    refine ⟨item.port, if_pos ⟨?_, ?_⟩⟩ <;> omega
  constructor
  · rintro ⟨row, hrow⟩
    simp only [bindCreate, bind_eq_ok] at hrow
    obtain ⟨name, hname, host, hhost, port, -, username, husername, _, hpassword', _, hsshKey', _,
      hpassphrase', dockerHost, hdockerHost, tags, htags, -⟩ := hrow
    exact
      { name := ⟨name, hname⟩
        host := ⟨host, hhost⟩
        username := ⟨username, husername⟩
        password := (hsealed hpassword).1 ⟨_, hpassword'⟩
        sshKey := (hsealed hsshKey).1 ⟨_, hsshKey'⟩
        passphrase := (hsealed hpassphrase).1 ⟨_, hpassphrase'⟩
        dockerHost := ⟨dockerHost, hdockerHost⟩
        tags := ⟨tags, htags⟩ }
  · intro hfits
    unfold bindCreate
    obtain ⟨name, hname⟩ := hfits.name
    obtain ⟨host, hhost⟩ := hfits.host
    obtain ⟨port, hport⟩ := hport
    obtain ⟨username, husername⟩ := hfits.username
    obtain ⟨password', hpassword'⟩ := (hsealed hpassword).2 hfits.password
    obtain ⟨sshKey', hsshKey'⟩ := (hsealed hsshKey).2 hfits.sshKey
    obtain ⟨passphrase', hpassphrase'⟩ := (hsealed hpassphrase).2 hfits.passphrase
    obtain ⟨dockerHost, hdockerHost⟩ := hfits.dockerHost
    obtain ⟨tags, htags⟩ := hfits.tags
    refine returns_bind.2 ⟨name, hname, returns_bind.2 ⟨host, hhost, returns_bind.2 ⟨port, hport,
      returns_bind.2 ⟨username, husername, returns_bind.2 ⟨password', hpassword', ?_⟩⟩⟩⟩⟩
    exact returns_bind.2 ⟨sshKey', hsshKey', returns_bind.2 ⟨passphrase', hpassphrase',
      returns_bind.2 ⟨dockerHost, hdockerHost, returns_bind.2 ⟨tags, htags, returns_ok _⟩⟩⟩⟩

section Insert

variable {env : StoreEnv} {t : NodeTable} {data : NodeCreateDTO}

/-- `NodeNameConflictError`. -/
def nameConflict (name : String) : NodeFailure :=
  ⟨.nodeNameConflictError, "Node name '" ++ name ++ "' already exists"⟩

theorem insertNode_refused (h : bindCreate env.db env.now t.nextId data = .error .dataError) :
    insertNode env t data = .error (env.refused .dataError) := by
  unfold insertNode
  split
  all_goals
    rename_i heq
    rw [h] at heq
    cases heq
  rfl

theorem insertNode_taken {row : NodeRow} (h : bindCreate env.db env.now t.nextId data = .ok row)
    (hname : row.name ∈ t.names) : insertNode env t data = .error (nameConflict data.name) := by
  unfold insertNode
  split
  · rfl
  · rename_i heq
    rw [h] at heq
    cases heq
  · rename_i heq
    rw [h] at heq
    cases heq
    split
    · rfl
    · rename_i hput
      exact absurd hname (NamedTable.insert?_eq_some.1 hput).1

theorem insertNode_free {row : NodeRow} (h : bindCreate env.db env.now t.nextId data = .ok row)
    (hname : row.name ∉ t.names) : ∃ t', insertNode env t data = .ok (t', row) := by
  unfold insertNode
  split
  · rename_i heq
    rw [h] at heq
    cases heq
  · rename_i heq
    rw [h] at heq
    cases heq
  · rename_i heq
    rw [h] at heq
    cases heq
    split
    · rename_i hnone
      unfold NamedTable.insert? at hnone
      rw [dif_neg hname] at hnone
      cases hnone
    · exact ⟨_, rfl⟩

end Insert

/-- **What a request for a new node comes to.** -/
theorem createOutcome_settles {env : StoreEnv} (henv : Outside env) (nodes : NodeTable)
    (item : NodeCreate uni isDecimal) :
    (¬ item.Fits env ∧ ∃ e, createOutcome env nodes item.dto = (.error e, nodes) ∧
      e.kind = .other) ∨
    (item.Fits env ∧ item.name ∈ nodes.names ∧ ∃ e,
      createOutcome env nodes item.dto = (.error e, nodes) ∧ e.kind = .nodeNameConflictError) ∨
    (item.Fits env ∧ item.name ∉ nodes.names ∧ ∃ row t,
      createOutcome env nodes item.dto = (.ok row.toView, t) ∧
        t.rows = nodes.rows ++ [row] ∧ row.id = nodes.nextId ∧ row.shown = item.dto.shown) := by
  obtain ⟨secured, hseal⟩ : Returns (sealCreate env item.dto) := by
    obtain ⟨password, hpassword⟩ := returns_sealValue henv.encrypts item.password
    obtain ⟨sshKey, hsshKey⟩ := returns_sealValue henv.encrypts item.sshKey
    obtain ⟨passphrase, hpassphrase⟩ := returns_sealValue henv.encrypts item.passphrase
    exact ⟨_, bind_eq_ok.2 ⟨password, hpassword, bind_eq_ok.2 ⟨sshKey, hsshKey,
      bind_eq_ok.2 ⟨passphrase, hpassphrase, rfl⟩⟩⟩⟩
  have hcases := createOutcome_cases henv.lawful henv.back nodes item.dto
  have hfits := returns_bindCreate hseal env.now nodes.nextId
  unfold createOutcome at hcases ⊢
  rw [hseal] at hcases ⊢
  simp only at hcases ⊢
  cases hbind : bindCreate env.db env.now nodes.nextId secured with
  | error e =>
      rw [hbind] at hfits
      obtain rfl := bindCreate_error henv.data hbind
      rw [insertNode_refused hbind]
      exact .inl ⟨fun h => not_returns_error _ (hfits.2 h), _, rfl, henv.refused _⟩
  | ok row =>
      rw [hbind] at hfits
      have hname : row.name = item.name :=
        (congrArg ShownNode.name (bindCreate_shown henv.lawful henv.back hbind)).trans
          (sealCreate_eq_ok hseal).1
      right
      by_cases htaken : item.name ∈ nodes.names
      · rw [insertNode_taken hbind (hname ▸ htaken)]
        exact .inl ⟨hfits.1 (returns_ok row), htaken, _, rfl, rfl⟩
      · obtain ⟨t, hinsert⟩ := insertNode_free hbind (hname ▸ htaken)
        rw [hinsert] at hcases ⊢
        refine .inr ⟨hfits.1 (returns_ok row), htaken, hcases.resolve_left ?_⟩
        rintro ⟨e, herror⟩
        cases (Prod.ext_iff.1 herror).1

section Update

variable {env : StoreEnv}

/-- What the service adds to the changes fits. -/
theorem forall_clearDockerHost {changes : List NodeChange} :
    (∀ c ∈ clearDockerHost changes, c.nullsColumn = false ∧ c.Fits env) ↔
      ∀ c ∈ changes, c.nullsColumn = false ∧ c.Fits env := by
  constructor
  · exact fun h c hc => h c (mem_clearDockerHost.2 (.inl hc))
  · intro h c hc
    rcases mem_clearDockerHost.1 hc with hc | ⟨rfl, -, -⟩
    · exact h c hc
    · refine ⟨rfl, fun secured hsecured => ?_⟩
      cases hsecured
      exact returns_ok none

theorem apply_name_other (node : ShownNode) (c : NodeChange) (h : c.field ≠ "name") :
    (node.apply c).name = node.name := by
  unfold ShownNode.apply
  split <;> first | rfl | exact absurd rfl h

/-- The name of a changed node. -/
theorem name_after {changes : List NodeChange} (hnodup : (changes.map (·.field)).Nodup)
    (hnull : ∀ c ∈ changes, c.nullsColumn = false) (node : ShownNode) :
    NodeChange.name (some (changes.foldl ShownNode.apply node).name) ∈ changes ∨
      (∀ text, NodeChange.name (some text) ∉ changes) ∧
        (changes.foldl ShownNode.apply node).name = node.name := by
  by_cases hfield : "name" ∈ changes.map (·.field)
  · obtain ⟨c, hc, hname⟩ := List.mem_map.1 hfield
    cases c with
    | name o =>
        cases o with
        | none => exact Bool.noConfusion (hnull _ hc)
        | some text =>
            left
            rw [foldl_apply_of_mem (g := ShownNode.name) apply_name_other hnodup hc rfl fun _ => rfl]
            exact hc
    | _ => exact absurd hname (by simp [NodeChange.field])
  · refine .inr ⟨fun text htext => hfield (List.mem_map.2 ⟨_, htext, rfl⟩), ?_⟩
    exact foldl_apply_of_notMem (g := ShownNode.name) apply_name_other hfield node

theorem wantedAfter_name (changes : List NodeChange) (node : ShownNode) :
    (wantedAfter changes node).name = (changes.foldl ShownNode.apply node).name := by
  simp only [wantedAfter]
  split <;> rfl

/-- No other node has the name that a node gets, where none has the name that is sent. -/
theorem free_iff {nodes : NodeTable} {id : Uuid} {row : NodeRow} {name : String}
    {changes : List NodeChange} (hnodup : (changes.map (·.field)).Nodup)
    (hnull : ∀ c ∈ changes, c.nullsColumn = false) (hfind : nodes.find? id = some row)
    (hname : name = (wantedAfter changes row.shown).name) :
    (∀ r ∈ nodes.rows, r.name = name → r.id = id) ↔
      ∀ text, NodeChange.name (some text) ∈ changes → ∀ r ∈ nodes.rows, r.name = text →
        r.id = id := by
  obtain ⟨hrow, hid⟩ := NamedTable.find?_eq_some.1 hfind
  rw [hname, wantedAfter_name]
  rcases name_after hnodup hnull row.shown with hsent | ⟨hkept, heq⟩
  · constructor
    · intro h text htext
      have hset : (changes.foldl ShownNode.apply row.shown).name = text :=
        foldl_apply_of_mem (g := ShownNode.name) apply_name_other hnodup htext rfl (fun _ => rfl) _
      rw [← hset]
      exact h
    · exact fun h => h _ hsent
  · rw [heq]
    constructor
    · exact fun _ text htext => absurd htext (hkept text)
    · intro _ r hr hrname
      rw [nodes.eq_of_name_eq hr hrow hrname]
      exact hid

/-- **What an update comes to.** -/
theorem updateOutcome_settles (henv : Outside env) (cfg : Setting) (nodes : NodeTable) (id : Uuid)
    (data : NodeUpdate uni isDecimal) :
    (nodes.find? id = none ∧
      updateOutcome env cfg nodes id data.changes = (.error (cfg.notFound id), nodes)) ∨
    ∃ row, nodes.find? id = some row ∧
      ((¬ Applicable env nodes id data.changes ∧ ∃ e,
          updateOutcome env cfg nodes id data.changes = (.error e, nodes) ∧ e.kind = .other) ∨
        Applicable env nodes id data.changes ∧ ∃ new t,
          updateOutcome env cfg nodes id data.changes = (.ok new.toView, t) ∧ new.id = id ∧
            new.shown = wantedAfter data.changes row.shown ∧
            ∀ i, t.find? i = if i = id then some new else nodes.find? i) := by
  obtain ⟨secured, hseal⟩ := returns_sealChanges henv.encrypts (clearDockerHost data.changes)
  have hbound := (forall_sealChanges hseal).trans forall_clearDockerHost
  unfold updateOutcome
  rw [hseal]
  simp only
  cases hfind : nodes.find? id with
  | none =>
      have hnone : updateRow env nodes id secured = .ok none := by
        simp only [updateRow, hfind]
      rw [hnone]
      exact .inl ⟨rfl, rfl⟩
  | some row =>
      refine .inr ⟨row, rfl, ?_⟩
      cases hset : setFields env.db row secured with
      | error e =>
          have herror : updateRow env nodes id secured = .error (env.refused e) := by
            simp only [updateRow, hfind, hset]
          rw [herror]
          refine .inl ⟨fun happly => ?_, _, rfl, henv.refused e⟩
          have hreturns : Returns (setFields env.db row secured) :=
            returns_setFields.2 (hbound.2 fun c hc => ⟨happly.nulls c hc, happly.fits c hc⟩)
          rw [hset] at hreturns
          exact not_returns_error e hreturns
      | ok row' =>
          have hfits := hbound.1 (returns_setFields.1 ⟨row', hset⟩)
          have hnull : ∀ c ∈ data.changes, c.nullsColumn = false := fun c hc => (hfits c hc).1
          have hrow : row.id = id := (NamedTable.find?_eq_some.1 hfind).2
          have hid : row'.id = id := (setFields_id hset).trans hrow
          have hshown : row'.shown = wantedAfter data.changes row.shown := by
            obtain ⟨happly, htags⟩ := sealChanges_apply hseal row.shown
            rw [setFields_shown henv.lawful henv.back
              (htags (textTags_clearDockerHost fun c hc => (data.fields_ok c hc).textTags)) hset,
              happly, foldl_clearDockerHost data.fields_nodup hnull]
          have hthere : nodes.find? { row' with updatedAt := env.now }.id = some row := by
            rw [← hfind, ← hid]
          have hplace := NamedTable.exists_replace?_iff hthere
          have hfree := free_iff data.fields_nodup hnull hfind (congrArg ShownNode.name hshown)
          cases hput : nodes.replace? { row' with updatedAt := env.now } with
          | none =>
              have herror : updateRow env nodes id secured =
                  .error (env.refused (.integrityError "ix_nodes_name")) := by
                simp only [updateRow, hfind, hset, writeRow, hput]
                rfl
              rw [herror]
              refine .inl ⟨fun happly => ?_, _, rfl, henv.refused _⟩
              obtain ⟨t, ht⟩ := hplace.2 fun r hr hname => (hfree.2 happly.free r hr hname).trans
                hid.symm
              rw [hput] at ht
              cases ht
          | some t =>
              have hok : updateRow env nodes id secured =
                  .ok (some (t, { row' with updatedAt := env.now })) := by
                simp only [updateRow, hfind, hset, writeRow, hput]
                rfl
              rw [hok]
              have happly : Applicable env nodes id data.changes :=
                { nulls := hnull
                  fits := fun c hc => (hfits c hc).2
                  free := hfree.1 fun r hr hname => (hplace.1 ⟨t, hput⟩ r hr hname).trans hid }
              obtain ⟨-, -, -, -, hnew, hleft⟩ := find?_of_updateRow hok
              exact .inr ⟨happly, _, _, rfl, hid, hshown, hleft⟩

theorem apply_description_other (node : ShownNode) (c : NodeChange) (h : c.field ≠ "description") :
    (node.apply c).description = node.description := by
  unfold ShownNode.apply
  split <;> first | rfl | exact absurd rfl h

theorem apply_tags_other (node : ShownNode) (c : NodeChange) (h : c.field ≠ "tags") :
    (node.apply c).tags = node.tags := by
  unfold ShownNode.apply
  split <;> first | rfl | exact absurd rfl h

/-- **When a changed node can be read back.** -/
theorem readable_wantedAfter (data : NodeUpdate uni isDecimal) {node : ShownNode}
    (h : node.Readable) : (wantedAfter data.changes node).Readable ↔
      NodeChange.tags none ∉ data.changes ∧
        ∀ text, NodeChange.description (some text) ∉ data.changes := by
  have htags : (wantedAfter data.changes node).tags =
      (data.changes.foldl ShownNode.apply node).tags := by
    simp only [wantedAfter]
    split <;> rfl
  have hdescription : (wantedAfter data.changes node).description =
      (data.changes.foldl ShownNode.apply node).description := by
    simp only [wantedAfter]
    split <;> rfl
  have htagsIff : (∃ texts : List String,
      (data.changes.foldl ShownNode.apply node).tags = some (texts.map some)) ↔
        NodeChange.tags none ∉ data.changes := by
    by_cases hfield : "tags" ∈ data.changes.map (·.field)
    · obtain ⟨c, hc, hname⟩ := List.mem_map.1 hfield
      cases c with
      | tags o =>
          rw [foldl_apply_of_mem (g := ShownNode.tags) apply_tags_other data.fields_nodup hc rfl
            fun _ => rfl]
          cases o with
          | none =>
              refine ⟨?_, fun hnot => absurd hc hnot⟩
              rintro ⟨texts, htexts⟩
              cases htexts
          | some texts =>
              refine ⟨fun _ hnone => ?_, fun _ => ⟨texts.map (·.getD ""), congrArg some ?_⟩⟩
              · have heq := List.inj_on_of_nodup_map data.fields_nodup hnone hc rfl
                cases heq
              · rw [List.map_map]
                refine (List.map_id texts).symm.trans (List.map_congr_left fun text htext => ?_)
                obtain ⟨s, rfl⟩ := Option.isSome_iff_exists.1 (data.fields_ok _ hc text htext)
                rfl
      | _ => exact absurd hname (by simp [NodeChange.field])
    · rw [foldl_apply_of_notMem (g := ShownNode.tags) apply_tags_other hfield]
      exact ⟨fun _ hnone => hfield (List.mem_map.2 ⟨_, hnone, rfl⟩), fun _ => h.tags⟩
  have hdescriptionIff : (data.changes.foldl ShownNode.apply node).description = none ↔
      ∀ text, NodeChange.description (some text) ∉ data.changes := by
    have hset : ∀ o, NodeChange.description o ∈ data.changes →
        (data.changes.foldl ShownNode.apply node).description = o := fun o ho =>
      foldl_apply_of_mem (g := ShownNode.description) apply_description_other data.fields_nodup ho
        rfl (fun _ => rfl) node
    constructor
    · intro hnone text htext
      rw [hset _ htext] at hnone
      cases hnone
    · intro hnot
      by_cases hfield : "description" ∈ data.changes.map (·.field)
      · obtain ⟨c, hc, hname⟩ := List.mem_map.1 hfield
        cases c with
        | description o =>
            rw [hset o hc]
            cases o with
            | none => rfl
            | some text => exact absurd hc (hnot text)
        | _ => exact absurd hname (by simp [NodeChange.field])
      · rw [foldl_apply_of_notMem (g := ShownNode.description) apply_description_other hfield]
        exact h.description
  constructor
  · rintro ⟨hread, hnone⟩
    rw [htags] at hread
    rw [hdescription] at hnone
    exact ⟨htagsIff.1 hread, hdescriptionIff.1 hnone⟩
  · rintro ⟨htagsSent, hdescriptionSent⟩
    refine ⟨?_, ?_⟩
    · rw [htags]
      exact htagsIff.2 htagsSent
    · rw [hdescription]
      exact hdescriptionIff.2 hdescriptionSent

theorem readable_wanted (item : NodeCreate uni isDecimal) :
    item.wanted.Readable ↔ item.description = none :=
  ⟨fun h => h.description, fun h => ⟨⟨item.tags, rfl⟩, h⟩⟩

end Update

/-! ## All runs -/

section Runs

variable {env : StoreEnv} {s s' : ReadState}

/-- Every node shows what the writes asked for, and can be read back. -/
structure Kept (s : ReadState) : Prop where
  wanted : ∀ id, s.wanted id = (s.world.nodes.find? id).map NodeRow.shown
  readable : ∀ id node, s.wanted id = some node → node.Readable

theorem Kept.readsWrites (h : Kept s) (env : StoreEnv) (cfg : Setting) : ReadsWrites env cfg s where
  missing id hid := by
    rw [h.wanted id, Option.map_eq_none_iff] at hid
    rw [getOf_eq, hid]
  shown id node hid := by
    have hreadable := h.readable id node hid
    rw [h.wanted id, Option.map_eq_some_iff] at hid
    obtain ⟨row, hrow, rfl⟩ := hid
    obtain ⟨response, hresponse, hshown⟩ := readable_iff.2 hreadable
    refine ⟨response, ?_, hshown⟩
    rw [getOf_eq, hrow, ← hresponse]

theorem readable_of_response {view : NodeViewDTO} {response : NodeResponse}
    (h : nodeResponse view = .ok response) : response.shown.Readable := by
  obtain ⟨tags, -, h⟩ := bind_eq_ok.1 h
  cases h
  exact ⟨⟨tags, rfl⟩, rfl⟩

/-- A request that changes nothing keeps what is read. -/
theorem Kept.of_eq (h : Kept s) (hnodes : s'.world.nodes = s.world.nodes)
    (hwanted : s'.wanted = s.wanted) : Kept s' := by
  refine ⟨fun id => ?_, fun id node hid => ?_⟩
  · rw [hwanted, hnodes]
    exact h.wanted id
  · rw [hwanted] at hid
    exact h.readable id node hid

/-- A request that puts one row. -/
theorem Kept.put (h : Kept s) (env : StoreEnv) (cfg : Setting) {id : Uuid} {node : ShownNode} {new : NodeRow}
    (hwanted : ∀ i, s'.wanted i = if i = id then some node else s.wanted i)
    (hfind : ∀ i, s'.world.nodes.find? i = if i = id then some new else s.world.nodes.find? i)
    (hnode : node.Readable → node = new.shown) :
    (node.Readable → Kept s') ∧ (ReadsWrites env cfg s' → node.Readable) := by
  refine ⟨fun hreadable => ⟨fun i => ?_, fun i node' hi => ?_⟩, fun hreads => ?_⟩
  · rw [hwanted i, hfind i]
    split
    · rw [hnode hreadable]
      rfl
    · exact h.wanted i
  · rw [hwanted i] at hi
    split at hi
    · cases hi
      exact hreadable
    · exact h.readable i node' hi
  · have hid : s'.wanted id = some node := by rw [hwanted id, if_pos rfl]
    obtain ⟨response, hget, rfl⟩ := hreads.shown id node hid
    have hnew : s'.world.nodes.find? id = some new := by rw [hfind id, if_pos rfl]
    rw [getOf_eq, hnew] at hget
    exact readable_of_response (Except.ok.inj hget)

/-- Where a new row is found. -/
theorem find?_of_rows {t t' : NodeTable} {row : NodeRow} (hrows : t'.rows = t.rows ++ [row])
    (i : Uuid) : t'.find? i = if i = row.id then some row else t.find? i := by
  have hrow : row ∈ t'.rows := by
    rw [hrows]
    exact List.mem_append_right _ (List.mem_singleton_self _)
  split
  · rename_i heq
    exact NamedTable.find?_eq_some.2 ⟨hrow, heq.symm⟩
  · rename_i hne
    refine Option.ext fun r => ?_
    rw [NamedTable.find?_eq_some, NamedTable.find?_eq_some, hrows, List.mem_append,
      List.mem_singleton]
    constructor
    · rintro ⟨hr | rfl, hid⟩
      · exact ⟨hr, hid⟩
      · exact absurd hid.symm hne
    · exact fun h => ⟨.inl h.1, h.2⟩

theorem outside_at (henv : Outside env) (now : DateTime) : Outside { env with now } :=
  ⟨henv.lawful, henv.back, henv.data, henv.encrypts, henv.refused⟩

/-- Whether values fit does not depend on the moment. -/
theorem fits_at (now : DateTime) (item : NodeCreate uni isDecimal) :
    item.Fits { env with now } ↔ item.Fits env :=
  ⟨fun h => ⟨h.name, h.host, h.username, h.password, h.sshKey, h.passphrase, h.dockerHost, h.tags⟩,
    fun h => ⟨h.name, h.host, h.username, h.password, h.sshKey, h.passphrase, h.dockerHost, h.tags⟩⟩

theorem applicable_at (now : DateTime) (nodes : NodeTable) (id : Uuid) (changes : List NodeChange) :
    Applicable { env with now } nodes id changes ↔ Applicable env nodes id changes := by
  have hfits : ∀ c : NodeChange, c.Fits { env with now } ↔ c.Fits env := by
    intro c
    have hseal : sealChange { env with now } c = sealChange env c := by cases c <;> rfl
    unfold NodeChange.Fits
    rw [hseal]
  exact ⟨fun h => ⟨h.nulls, fun c hc => (hfits c).1 (h.fits c hc), h.free⟩,
    fun h => ⟨h.nulls, fun c hc => (hfits c).2 (h.fits c hc), h.free⟩⟩

/-- **A request for a new node.** -/
theorem step_create (henv : Outside env) (cfg : Setting) (h : Kept s) (now : DateTime)
    (item : NodeCreate uni isDecimal) :
    (WriteFits env s (.create item) → Kept (readStep env cfg s now (.create item))) ∧
      (WriteFits env s (.create item) ↔ SettledWrite env cfg s now (.create item) ∧
        ReadsWrites env cfg (readStep env cfg s now (.create item))) := by
  have hcomes := comes_createNode { env with now } cfg s.world item.dto
  have hout := createOutcome_settles (outside_at henv now) s.world.nodes item
  rw [← hcomes, fits_at] at hout
  obtain ⟨hfits, e, heq, hkind⟩ | ⟨hfits, htaken, e, heq, hkind⟩ |
    ⟨hfits, hfree, row, t, heq, hrows, -, hshown⟩ := hout
  · refine ⟨fun hw => absurd hw.1 hfits, fun hw => absurd hw.1 hfits, fun hw => ?_⟩
    have hdomain := hw.1 e (Prod.ext_iff.1 heq).1
    rw [hkind] at hdomain
    rcases hdomain with hkind' | hkind' <;> cases hkind'
  · have hx : (writeRun { env with now } cfg s.world (.create item)).1 = .error e :=
      (Prod.ext_iff.1 heq).1
    have hkept : Kept (readStep env cfg s now (.create item)) := by
      refine h.of_eq (Prod.ext_iff.1 heq).2 ?_
      simp only [readStep, hx]
    refine ⟨fun _ => hkept, fun _ => ⟨fun e' he' => ?_, hkept.readsWrites env cfg⟩, fun _ =>
      ⟨hfits, .inl htaken⟩⟩
    rw [hx] at he'
    cases he'
    exact .inr hkind
  · have hx : (writeRun { env with now } cfg s.world (.create item)).1 = .ok row.toView :=
      (Prod.ext_iff.1 heq).1
    have hnodes : (readStep env cfg s now (.create item)).world.nodes = t := (Prod.ext_iff.1 heq).2
    have hwanted : ∀ i, (readStep env cfg s now (.create item)).wanted i =
        if i = row.id then some item.wanted else s.wanted i := by
      intro i
      simp only [readStep, hx]
      rfl
    have hput := h.put env cfg hwanted
      (fun i => by rw [hnodes]; exact find?_of_rows hrows i) fun hreadable => by
        rw [hshown]
        have hnone := (readable_wanted item).1 hreadable
        simp only [NodeCreate.wanted, NodeCreateDTO.shown, NodeCreate.dto, hnone]
    rw [readable_wanted] at hput
    have hdescription : WriteFits env s (.create item) → item.description = none :=
      fun hw => hw.2.resolve_left hfree
    refine ⟨fun hw => hput.1 (hdescription hw), fun hw => ⟨fun e he => ?_, ?_⟩, fun hw => ?_⟩
    · rw [hx] at he
      cases he
    · exact (hput.1 (hdescription hw)).readsWrites env cfg
    · exact ⟨hfits, .inr (hput.2 hw.2)⟩

/-- **An update.** -/
theorem step_update (henv : Outside env) (cfg : Setting) (h : Kept s) (now : DateTime)
    (id : Uuid) (data : NodeUpdate uni isDecimal) :
    (WriteFits env s (.update id data) → Kept (readStep env cfg s now (.update id data))) ∧
      (WriteFits env s (.update id data) ↔ SettledWrite env cfg s now (.update id data) ∧
        ReadsWrites env cfg (readStep env cfg s now (.update id data))) := by
  have hcomes := comes_updateNode { env with now } cfg s.world id data.toNodeUpdateDTO
  have hout := updateOutcome_settles (outside_at henv now) cfg s.world.nodes id data
  rw [← hcomes, applicable_at] at hout
  obtain ⟨hfind, heq⟩ | ⟨row, hfind, ⟨hnot, e, heq, hkind⟩ | ⟨happly, new, t, heq, hid, hshown,
    hleft⟩⟩ := hout
  · have hx : (writeRun { env with now } cfg s.world (.update id data)).1 =
        .error (cfg.notFound id) := (Prod.ext_iff.1 heq).1
    have hkept : Kept (readStep env cfg s now (.update id data)) := by
      refine h.of_eq (Prod.ext_iff.1 heq).2 ?_
      simp only [readStep, hx]
    have hfits : WriteFits env s (.update id data) := by
      intro hsome
      rw [hfind] at hsome
      cases hsome
    refine ⟨fun _ => hkept, fun _ => ⟨fun e' he' => ?_, hkept.readsWrites env cfg⟩, fun _ => hfits⟩
    rw [hx] at he'
    cases he'
    exact .inl rfl
  · have hrefuse : ¬ WriteFits env s (.update id data) := fun hw =>
      hnot (hw (by rw [hfind]; rfl)).toApplicable
    refine ⟨fun hw => absurd hw hrefuse, fun hw => absurd hw hrefuse, fun hw => ?_⟩
    have hdomain := hw.1 e (Prod.ext_iff.1 heq).1
    rw [hkind] at hdomain
    rcases hdomain with hkind' | hkind' <;> cases hkind'
  · have hx : (writeRun { env with now } cfg s.world (.update id data)).1 = .ok new.toView :=
      (Prod.ext_iff.1 heq).1
    have hnodes : (readStep env cfg s now (.update id data)).world.nodes = t :=
      (Prod.ext_iff.1 heq).2
    have hold : s.wanted id = some row.shown := by rw [h.wanted id, hfind]; rfl
    have hwanted : ∀ i, (readStep env cfg s now (.update id data)).wanted i =
        if i = id then some (wantedAfter data.changes row.shown) else s.wanted i := by
      intro i
      simp only [readStep, hx]
      show (if i = new.id then _ else _) = _
      rw [hid]
      split
      · rename_i hi
        rw [hi, hold]
        rfl
      · rfl
    have hput := h.put env cfg hwanted (fun i => by rw [hnodes]; exact hleft i)
      fun _ => hshown.symm
    rw [readable_wantedAfter data (h.readable id _ hold)] at hput
    have hsome : (s.world.nodes.find? id).isSome = true := by rw [hfind]; rfl
    refine ⟨fun hw => hput.1 ⟨(hw hsome).tags, (hw hsome).description⟩, fun hw => ⟨fun e he => ?_, ?_⟩,
      fun hw _ => ?_⟩
    · rw [hx] at he
      cases he
    · exact (hput.1 ⟨(hw hsome).tags, (hw hsome).description⟩).readsWrites env cfg
    · obtain ⟨htags, hdescription⟩ := hput.2 hw.2
      exact ⟨happly, htags, hdescription⟩

end Runs

/-- **Reads return what the writes set.**  In every run of requests that fit, all nodes read
as they were written; there, a request settles and all nodes read as they were written after
it exactly when it fits too. -/
theorem reads_return_writes (env : StoreEnv) (cfg : Setting) (henv : Outside env) :
    ∀ s, (readSystem env cfg uni isDecimal).Reach (fun s e => WriteFits env s e.2) s →
      ReadsWrites env cfg s ∧ ∀ now (write : NodeWriteRequest uni isDecimal),
        WriteFits env s write ↔
          SettledWrite env cfg s now write ∧ ReadsWrites env cfg (readStep env cfg s now write) := by
  have hstep : ∀ s, Kept s → ∀ now (write : NodeWriteRequest uni isDecimal),
      (WriteFits env s write → Kept (readStep env cfg s now write)) ∧
        (WriteFits env s write ↔ SettledWrite env cfg s now write ∧
          ReadsWrites env cfg (readStep env cfg s now write)) := by
    intro s hs now write
    cases write with
    | create item => exact step_create henv cfg hs now item
    | update id data => exact step_update henv cfg hs now id data
  intro s hreach
  have hkept : Kept s := by
    refine hreach.invariant (I := Kept) ?_ ?_
    · rintro s ⟨hrows, hwanted⟩
      refine ⟨fun id => ?_, fun id node hid => ?_⟩
      · rw [hwanted]
        simp only [NamedTable.find?, hrows]
        rfl
      · rw [hwanted] at hid
        cases hid
    · rintro s ⟨now, write⟩ s' hs hfits hnext
      cases hnext
      exact (hstep s hs now write).1 hfits
  exact ⟨hkept.readsWrites env cfg, fun now write => (hstep s hkept now write).2⟩

/-- In every run every request settles, and all nodes read as they were written. -/
def AlwaysReadsWrites (env : StoreEnv) (cfg : Setting) (uni : Unicode) (isDecimal : IsDecimal) :
    Prop :=
  ∀ s, (readSystem env cfg uni isDecimal).Reachable s →
    ReadsWrites env cfg s ∧
      ∀ now (write : NodeWriteRequest uni isDecimal), SettledWrite env cfg s now write

end Writes

/-! ## A plain store -/

theorem plainColumns_refusesData : RefusesData plainColumns := by
  have htext : ∀ s e, plainText s = .error e → e = .dataError := by
    intro s e h
    unfold plainText at h
    split at h
    · cases h
      rfl
    · cases h
  refine ⟨htext, fun ts e h => ?_⟩
  refine error_of_mapM (p := fun e => e = .dataError) (fun j e hj => ?_) h
  cases j with
  | null => cases hj
  | str s => exact htext s e (error_of_map hj)
  | _ =>
      cases hj
      rfl

theorem outside_plainStoreEnv : Outside plainStoreEnv where
  lawful := plainColumns_lawful
  back := plainColumns_readsBack
  data := plainColumns_refusesData
  encrypts _ := ⟨_, rfl⟩
  refused _ := rfl

/-- No node. -/
def nothingWritten : ReadState := ⟨emptyWorld, fun _ => none⟩

theorem kept_nothingWritten : Kept nothingWritten :=
  ⟨fun _ => rfl, fun _ _ h => nomatch h⟩

/-- An item with a description of one letter or none. -/
def plainItem (described : Bool) : NodeCreate asciiUnicode Char.isDigit where
  name := "web"
  host := "10.0.0.1"
  port := 22
  connectionType := .ssh
  username := none
  password := none
  sshKey := none
  passphrase := none
  dockerHost := none
  hasDocker := false
  tags := ["edge"]
  description := if described then some "x" else none
  name_ok := safeName_web
  host_ok := host_private
  port_ok := port_ssh
  description_ok text h := by
    cases described <;> cases h
    decide
  docker_ok := dockerFields_none _ _

/-- A description is accepted and never shown. -/
theorem not_alwaysReadsWrites :
    ¬ AlwaysReadsWrites plainStoreEnv plainSetting asciiUnicode Char.isDigit := by
  intro h
  have hstart : (readSystem plainStoreEnv plainSetting asciiUnicode Char.isDigit).Reachable
      nothingWritten := .start ⟨rfl, rfl⟩
  have hnext := System.Reach.next hstart
    (e := (fleetMoment, NodeWriteRequest.create (plainItem true))) trivial rfl
  have hstep := (step_create outside_plainStoreEnv plainSetting kept_nothingWritten fleetMoment
    (plainItem true)).2
  have hfits := hstep.2 ⟨(h _ hstart).2 _ _, (h _ hnext).1⟩
  rcases hfits.2 with htaken | hdescription
  · cases htaken
  · cases hdescription

/-- A PATCH of three fields, a secret among them. -/
def plainUpdate : NodeUpdate asciiUnicode Char.isDigit where
  changes := [.host (some "10.0.0.1"), .password (some "hunter"), .tags (some [some "prod"])]
  fields_nodup := by decide
  fields_ok change h := by
    simp only [List.mem_cons, List.not_mem_nil, or_false] at h
    rcases h with rfl | rfl | rfl
    · exact host_private
    · trivial
    · intro text htext
      cases List.mem_singleton.1 htext
      rfl
  docker_ok host h := by simp at h

theorem fits_plainItem : (plainItem false).Fits plainStoreEnv := by
  have hsecret : ∀ o, sealValue plainStoreEnv none = .ok o →
      Returns (bindText plainStoreEnv.db o) := by
    intro o ho
    cases ho
    exact returns_ok none
  exact ⟨⟨_, rfl⟩, ⟨_, rfl⟩, ⟨_, rfl⟩, hsecret, hsecret, hsecret, ⟨_, rfl⟩, ⟨_, rfl⟩⟩

theorem updateFits_plainUpdate (nodes : NodeTable) (id : Uuid) :
    UpdateFits plainStoreEnv nodes id plainUpdate.changes where
  nulls := by decide
  fits change h secured hsecured := by
    simp only [plainUpdate, List.mem_cons, List.not_mem_nil, or_false] at h
    rcases h with rfl | rfl | rfl <;> cases hsecured <;> exact ⟨_, rfl⟩
  free text h := by simp [plainUpdate] at h
  tags := by simp [plainUpdate]
  description text := by simp [plainUpdate]

/-- A node that is created without a description, as it is read after a PATCH. -/
theorem reads_return_writes_one :
    let created := readStep plainStoreEnv plainSetting nothingWritten fleetMoment
      (.create (plainItem false))
    let patched := readStep plainStoreEnv plainSetting created fleetMoment (.update 1 plainUpdate)
    ReadsWrites plainStoreEnv plainSetting patched ∧
      (patched.wanted 1).map (·.tags) = some (some [some "prod"]) := by
  have hstart : (readSystem plainStoreEnv plainSetting asciiUnicode Char.isDigit).Reach
      (fun s e => WriteFits plainStoreEnv s e.2) nothingWritten := .start ⟨rfl, rfl⟩
  have hcreated := hstart.next
    (e := (fleetMoment, NodeWriteRequest.create (plainItem false))) ⟨fits_plainItem, .inr rfl⟩ rfl
  have hread := (reads_return_writes plainStoreEnv plainSetting outside_plainStoreEnv _
    hcreated).2 fleetMoment (.update 1 plainUpdate)
  exact ⟨(hread.1 fun _ => updateFits_plainUpdate _ _).2, by decide⟩

end Node
end NodeNexus
