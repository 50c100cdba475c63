import NodeNexus.Node.World

/-!
# Required audit

A mutation of a node commits its required audit event in a transaction of its
own.  Any transaction of the store and of the required outbox may fail.

* `faulty` answers requests with the failures of a pattern.
* `FailClosed` — a changed table was announced by an event, and `AuditWriteError`
  leaves the table alone.
* `fail_closed_iff` — all mutations are of that kind but `create_node`, which
  inserts before it asks for the event.
-/

namespace NodeNexus
namespace Node

open Content

/-! ## Patterns of failures -/

/-- Where a request can be made to fail. -/
inductive Scope where
  | store
  | outbox
  | elsewhere

/-- The scope of a request. -/
def Request.scope : Request → Scope
  | .getNode .. | .createNode .. | .updateNode .. | .deleteNode .. | .updateNodeStatus ..
  | .saveStatusChange .. | .bulkAddTags .. | .bulkRemoveTags .. | .getConnection ..
  | .targets .. | .saveHistory .. => .store
  | .enqueueRequired .. => .outbox
  | .ensureHost .. | .encrypt .. | .decrypt .. | .enqueueOptional .. | .execute .. => .elsewhere

/-- Which transactions of a call fail, counted from its start. -/
structure Faults where
  store : Nat → Option NodeFailure
  outbox : Nat → Option NodeFailure

/-- A world with the numbers of transactions that were tried. -/
structure Attempted where
  world : NodeWorld
  store : Nat
  outbox : Nat

/-- The failure that a pattern has for a request. -/
def Faults.at (faults : Faults) (r : Request) (s : Attempted) : Option NodeFailure :=
  match r.scope with
  | .store => faults.store s.store
  | .outbox => faults.outbox s.outbox
  | .elsewhere => none

/-- One more transaction was tried. -/
def Attempted.tried (s : Attempted) (r : Request) (w : NodeWorld) : Attempted :=
  match r.scope with
  | .store => { s with world := w, store := s.store + 1 }
  | .outbox => { s with world := w, outbox := s.outbox + 1 }
  | .elsewhere => { s with world := w }

/-- The gateways with the failures of a pattern; a transaction that fails writes
nothing. -/
def faulty (env : StoreEnv) (faults : Faults) : Program.Handler Answer NodeFailure Attempted :=
  fun r s =>
    match faults.at r s with
    | some e => (.error e, s.tried r s.world)
    | none => ((perform env r s.world).1, s.tried r (perform env r s.world).2)

/-! ## Mutations -/

/-- The calls that change the nodes. -/
inductive Mutation where
  | create (data : NodeCreateDTO)
  | update (id : Uuid) (data : NodeUpdateDTO)
  | delete (id : Uuid)
  | addTag (id : Uuid) (tag : String)
  | removeTag (id : Uuid) (tag : String)

/-- The result of a call is not looked at. -/
def discardResult {α : Type} (p : Service α) : Service Unit := p >>= fun _ => pure ()

/-- The method of the service. -/
def Mutation.program (cfg : Setting) : Mutation → Service Unit
  | .create data => discardResult (createNode cfg data)
  | .update id data => discardResult (updateNode cfg id data)
  | .delete id => discardResult (deleteNode cfg id)
  | .addTag id tag => discardResult (Node.addTag cfg id tag)
  | .removeTag id tag => discardResult (Node.removeTag cfg id tag)

/-- The action of the event for a mutation. -/
def Mutation.action : Mutation → String
  | .create _ => "create"
  | .update .. => "update"
  | .delete _ => "delete"
  | .addTag .. => "add_tag"
  | .removeTag .. => "remove_tag"

/-- The node of the event for a mutation; a new node gets the next id. -/
def Mutation.nodeId (w : NodeWorld) : Mutation → Uuid
  | .create _ => w.nodes.nextId
  | .update id _ | .delete id | .addTag id _ | .removeTag id _ => id

/-- The first change of the nodes among the new commits comes after a required event
for the mutation. -/
def AuditedFirst (action : String) (nodeId : Uuid) (before after : NodeWorld) : Prop :=
  ∃ first rest event, after.commits = before.commits ++ (first ++ .nodes :: rest) ∧
    .nodes ∉ first ∧ .required event ∈ first ∧ event.action = action ∧ event.nodeId = some nodeId

/-- A call fails closed under a pattern of failures. -/
structure FailClosed (cfg : Setting) (env : StoreEnv) (faults : Faults) (w : NodeWorld)
    (m : Mutation) : Prop where
  audited : (Program.run (faulty env faults) (m.program cfg) ⟨w, 0, 0⟩).2.world.nodes ≠ w.nodes →
    AuditedFirst m.action (m.nodeId w) w
      (Program.run (faulty env faults) (m.program cfg) ⟨w, 0, 0⟩).2.world
  unchanged : ∀ text, (Program.run (faulty env faults) (m.program cfg) ⟨w, 0, 0⟩).1 =
    .error ⟨.auditWriteError, text⟩ →
      (Program.run (faulty env faults) (m.program cfg) ⟨w, 0, 0⟩).2.world.nodes = w.nodes

/-- A text as the cipher stores it. -/
def encrypted (env : StoreEnv) : Option String → Except NodeFailure (Option String)
  | none => .ok none
  | some s => if s = "" then .ok (some s) else (env.encrypt s).map some

/-- The data of a new node as it is stored. -/
def encryptedCreate (env : StoreEnv) (data : NodeCreateDTO) : Except NodeFailure NodeCreateDTO := do
  let password ← encrypted env data.credentials.password
  let sshKey ← encrypted env data.credentials.sshKey
  let passphrase ← encrypted env data.credentials.passphrase
  .ok { data with credentials := ⟨data.credentials.username, password, sshKey, passphrase⟩ }

/-- The first transaction of the store goes through, and the table takes the node. -/
def Inserts (env : StoreEnv) (faults : Faults) (w : NodeWorld) (data : NodeCreateDTO) : Prop :=
  faults.store 0 = none ∧
    ∃ secured t row, encryptedCreate env data = .ok secured ∧
      insertNode env w.nodes secured = .ok (t, row)

/-- The mutation is announced before the nodes change. -/
def AnnouncedFirst (env : StoreEnv) (faults : Faults) (w : NodeWorld) : Mutation → Prop
  | .create data => ¬ Inserts env faults w data
  | .update .. | .delete _ | .addTag .. | .removeTag .. => True

/-! ## Requests that change nothing -/

section Run

variable {cfg : Setting} {env : StoreEnv} {faults : Faults} {w : NodeWorld}

/-- Requests that leave the nodes and the record of commits as they are. -/
def Request.quiet : Request → Prop
  | .ensureHost .. | .encrypt .. | .getNode .. => True
  | _ => False

/-- The world is as it was. -/
def SameWorld (w : NodeWorld) (s : Attempted) : Prop := s.world = w

theorem tried_world (s : Attempted) (r : Request) (w : NodeWorld) : (s.tried r w).world = w := by
  unfold Attempted.tried
  cases r.scope <;> rfl

/-- **What a request can do**: it fails and leaves the world, or is performed. -/
theorem faulty_cases (env : StoreEnv) (faults : Faults) (r : Request) (s : Attempted) :
    (∃ e, (faulty env faults r s).1 = .error e ∧ (faulty env faults r s).2.world = s.world) ∨
      (faulty env faults r s).1 = (perform env r s.world).1 ∧
        (faulty env faults r s).2.world = (perform env r s.world).2 := by
  unfold faulty
  cases faults.at r s with
  | some e => exact .inl ⟨e, rfl, tried_world ..⟩
  | none => exact .inr ⟨rfl, tried_world ..⟩

theorem quiet_keeps (r : Request) (s : Attempted) (hr : r.quiet) (hs : SameWorld w s) :
    SameWorld w (faulty env faults r s).2 := by
  obtain ⟨e, -, hworld⟩ | ⟨-, hworld⟩ := faulty_cases env faults r s
  · exact hworld.trans hs
  · refine hworld.trans (Eq.trans ?_ hs)
    cases r <;> first | rfl | exact absurd hr not_false

theorem quiet_meets {α : Type} {p : Service α} (hp : p.Asks Request.quiet) {s : Attempted}
    (hs : SameWorld w s) :
    Program.Meets (faulty env faults) p s fun _ t => SameWorld w t :=
  hp.meets quiet_keeps hs

theorem quiet_encryptValue (o : Option String) : (encryptValue o).Asks Request.quiet := by
  cases o with
  | none => exact .done _
  | some s =>
      rw [encryptValue_some]
      split
      · exact .done _
      · have hcall : (await (.encrypt s)).Asks Request.quiet := .call trivial
        exact hcall.bind fun _ => .done _

theorem quiet_secureChange (change : NodeChange) : (secureChange change).Asks Request.quiet := by
  cases change <;>
    first
      | exact .done _
      | exact (quiet_encryptValue _).bind fun _ => .done _

theorem quiet_secureChanges (changes : List NodeChange) :
    (secureChanges changes).Asks Request.quiet := by
  induction changes with
  | nil => exact .done _
  | cons change changes ih =>
      exact (quiet_secureChange change).bind fun _ => ih.bind fun _ => .done _

theorem quiet_fetchHostKey (host : String) (port : Int) :
    (fetchHostKey cfg host port).Asks Request.quiet := by
  unfold fetchHostKey
  split
  · have hcall : (await (.ensureHost host port)).Asks Request.quiet := .call trivial
    exact hcall.attempt.bind fun _ => .done _
  · exact .done _

theorem quiet_ensureKnownHost (nodeId : Uuid) (changes : List NodeChange) :
    (ensureKnownHost cfg nodeId changes).Asks Request.quiet := by
  unfold ensureKnownHost
  split
  · exact .done _
  · have hcall : (await (.getNode nodeId)).Asks Request.quiet := .call trivial
    refine hcall.bind fun current => ?_
    split
    · exact quiet_fetchHostKey _ _
    · exact .done _

theorem quiet_readOldStatus (read : Bool) (nodeId : Uuid) :
    (readOldStatus read nodeId).Asks Request.quiet := by
  unfold readOldStatus
  split
  · exact .done _
  · have hcall : (await (.getNode nodeId)).Asks Request.quiet := .call trivial
    refine hcall.attempt.bind fun current => ?_
    split <;> exact .done _

/-! ## Announced changes -/

/-- An event for a mutation was committed since, and nothing else. -/
def Announced (action : String) (nodeId : Uuid) (w : NodeWorld) (s : Attempted) : Prop :=
  s.world.nodes = w.nodes ∧ ∃ event, s.world.commits = w.commits ++ [.required event] ∧
    event.action = action ∧ event.nodeId = some nodeId

/-- What a call leaves that fails closed: the nodes as they were, or an announced
change and a result that is no exception. -/
def Closed {α : Type} (action : String) (nodeId : Uuid) (w : NodeWorld) (x : Except NodeFailure α)
    (s : Attempted) : Prop :=
  s.world.nodes = w.nodes ∨ AuditedFirst action nodeId w s.world ∧ ∃ a, x = .ok a

/-- **The required event** is committed, or the call ends with nothing changed. -/
theorem meets_logRequired (haudit : cfg.audit = true) (action : String) (nodeId : Uuid)
    (details : Option Json.Fields) {s : Attempted} (hs : SameWorld w s) :
    Program.Meets (faulty env faults) (cfg.logRequired action (some nodeId) details) s fun x t =>
      match x with
      | .ok _ => Announced action nodeId w t
      | .error _ => SameWorld w t := by
  unfold Setting.logRequired
  rw [if_pos haudit]
  unfold Node.logRequired
  refine Program.Meets.bind (Q := fun x t => match x with
    | .ok (.ok _) => Announced action nodeId w t
    | .ok (.error _) => SameWorld w t
    | .error _ => SameWorld w t) ?_ ?_ ?_
  · rw [Program.meets_attempt, Program.meets_call]
    obtain ⟨e, hanswer, hworld⟩ | ⟨hanswer, hworld⟩ := faulty_cases env faults
      (.enqueueRequired (auditEvent action (some nodeId) none details)) s
    · rw [hanswer]
      exact hworld.trans hs
    · rw [hanswer]
      refine ⟨by rw [hworld, ← hs]; rfl, _, by rw [hworld, ← hs]; rfl, rfl, rfl⟩
  · intro stored t ht
    cases stored with
    | ok _ => exact ht
    | error _ => exact ht
  · intro e t ht
    exact ht

/-- An announced transaction of the nodes. -/
theorem auditedFirst_of_announced {action : String} {nodeId : Uuid} {s : Attempted}
    (hs : Announced action nodeId w s) {after : NodeWorld} {rest : List Commit}
    (hafter : after.commits = s.world.commits ++ .nodes :: rest) :
    AuditedFirst action nodeId w after := by
  obtain ⟨-, event, hcommits, haction, hnode⟩ := hs
  refine ⟨[.required event], rest, event, ?_, by simp, List.mem_singleton_self _, haction, hnode⟩
  rw [hafter, hcommits, List.append_assoc, List.singleton_append]

/-- What an announced update of a node leaves. -/
theorem meets_updateNode {action : String} {nodeId : Uuid} {s : Attempted}
    (hs : Announced action nodeId w s) (changes : List NodeChange) :
    Program.Meets (faulty env faults) (await (.updateNode nodeId changes)) s fun x t =>
      match x with
      | .ok (some _) => ∃ after, t.world = after ∧ after.commits = s.world.commits ++ [.nodes]
      | _ => t.world.nodes = w.nodes := by
  rw [Program.meets_call]
  obtain ⟨e, hanswer, hworld⟩ | ⟨hanswer, hworld⟩ :=
    faulty_cases env faults (.updateNode nodeId changes) s
  · rw [hanswer]
    exact (congrArg NodeWorld.nodes hworld).trans hs.1
  · have hperform : perform env (.updateNode nodeId changes) s.world =
        updated s.world (updateRow env s.world.nodes nodeId changes) := rfl
    rw [hanswer, hworld, hperform]
    obtain ⟨e, herror⟩ | ⟨-, hnone⟩ | ⟨row, row', t', -, -, -, hok⟩ :=
      updateRow_cases env s.world.nodes nodeId changes
    · rw [herror]
      exact hs.1
    · rw [hnone]
      exact hs.1
    · rw [hok]
      exact ⟨_, rfl, rfl⟩

/-- There was a change of the nodes right after some commits. -/
def ChangedAfter (before : List Commit) (s : Attempted) : Prop :=
  ∃ rest, s.world.commits = before ++ .nodes :: rest

/-- Writing the history raises nothing and adds at most a commit. -/
theorem meets_saveStatusChange (task : Nat) (write : Bool) (change : NodeStatusChangeDTO)
    {s : Attempted}
    {before : List Commit} (hs : ChangedAfter before s) :
    Program.Meets (faulty env faults) (saveStatusChange task write change) s
      fun x t => (∃ a, x = .ok a) ∧ ChangedAfter before t := by
  unfold saveStatusChange
  by_cases hwrite : write = true ∧ change.oldStatus ≠ some change.newStatus
  · rw [if_pos hwrite]
    refine Program.Meets.bind (Q := fun x t => (∃ a, x = .ok a) ∧ ChangedAfter before t) ?_ ?_ ?_
    · rw [Program.meets_attempt, Program.meets_call]
      refine ⟨⟨_, rfl⟩, ?_⟩
      obtain ⟨rest, hrest⟩ := hs
      obtain ⟨e, -, hworld⟩ | ⟨-, hworld⟩ := faulty_cases env faults
        (.saveStatusChange task change) s
      · exact ⟨rest, by rw [hworld, hrest]⟩
      · refine ⟨rest ++ [.history change], ?_⟩
        rw [hworld]
        show s.world.commits ++ _ = _
        rw [hrest, List.append_assoc, List.cons_append]
    · exact fun _ t ht => ⟨⟨_, rfl⟩, ht.2⟩
    · rintro e t ⟨⟨a, ha⟩, -⟩
      cases ha
  · rw [if_neg hwrite]
    exact ⟨⟨_, rfl⟩, hs⟩

theorem meets_saveManualUpdate {nodeId : Uuid} {oldStatus newStatus : Option String}
    {s : Attempted} {before : List Commit} (hs : ChangedAfter before s) :
    Program.Meets (faulty env faults) (saveManualUpdate cfg nodeId oldStatus newStatus) s
      fun x t => (∃ a, x = .ok a) ∧ ChangedAfter before t := by
  cases newStatus with
  | none => exact ⟨⟨_, rfl⟩, hs⟩
  | some status => exact meets_saveStatusChange _ _ _ hs

/-- Discarding the result keeps what a call leaves. -/
theorem closed_discard {α : Type} {p : Service α} {action : String} {nodeId : Uuid}
    {s : Attempted} (hp : Program.Meets (faulty env faults) p s (Closed action nodeId w)) :
    Program.Meets (faulty env faults) (discardResult p) s (Closed action nodeId w) := by
  refine hp.bind (fun a t ht => ?_) (fun e t ht => ?_)
  · exact ht.imp_right fun h => ⟨h.1, _, rfl⟩
  · exact ht.imp_right fun ⟨_, a, ha⟩ => nomatch ha

/-- A call that did not get beyond its quiet part. -/
theorem closed_of_same {α : Type} {action : String} {nodeId : Uuid} {x : Except NodeFailure α}
    {s : Attempted} (hs : SameWorld w s) : Closed action nodeId w x s :=
  .inl (congrArg NodeWorld.nodes hs)

theorem meets_updateMutation (haudit : cfg.audit = true) (nodeId : Uuid) (data : NodeUpdateDTO)
    {s : Attempted} (hs : SameWorld w s) :
    Program.Meets (faulty env faults) (updateNode cfg nodeId data) s (Closed "update" nodeId w) := by
  unfold updateNode
  refine (quiet_meets (quiet_ensureKnownHost nodeId data.changes) hs).bind
    (fun _ t ht => ?_) fun _ _ => closed_of_same
  refine (quiet_meets (quiet_secureChanges _) ht).bind (fun secured t ht => ?_)
    fun _ _ => closed_of_same
  refine (quiet_meets (quiet_readOldStatus _ nodeId) ht).bind (fun oldStatus t ht => ?_)
    fun _ _ => closed_of_same
  refine (meets_logRequired haudit "update" nodeId _ ht).bind (fun _ t ht => ?_)
    fun _ _ => closed_of_same
  refine (meets_updateNode ht secured).bind (fun updated t' ht' => ?_) fun _ _ h => .inl h
  cases updated with
  | none => exact .inl ht'
  | some node =>
      obtain ⟨after, rfl, hcommits⟩ := ht'
      have hchanged : ChangedAfter t.world.commits t' := ⟨[], hcommits⟩
      refine (meets_saveManualUpdate hchanged).bind (fun _ t'' ht'' => ?_) (fun e t'' ht'' => ?_)
      · obtain ⟨-, rest, hrest⟩ := ht''
        exact .inr ⟨auditedFirst_of_announced ht hrest, _, rfl⟩
      · obtain ⟨⟨a, ha⟩, -⟩ := ht''
        cases ha

theorem meets_writeTags (haudit : cfg.audit = true) (action : String) (nodeId : Uuid)
    (tag : String) (tags : List (Option String)) {s : Attempted} (hs : SameWorld w s) :
    Program.Meets (faulty env faults) (writeTags cfg action nodeId tag tags) s
      (Closed action nodeId w) := by
  unfold writeTags
  refine (meets_logRequired haudit action nodeId _ hs).bind (fun _ t ht => ?_)
    fun _ _ => closed_of_same
  unfold overwriteTags
  refine (meets_updateNode ht _).bind (fun updated t' ht' => ?_) fun _ _ h => .inl h
  cases updated with
  | none => exact .inl ht'
  | some node =>
      obtain ⟨after, rfl, hcommits⟩ := ht'
      exact .inr ⟨auditedFirst_of_announced ht hcommits, _, rfl⟩

theorem meets_addTag (haudit : cfg.audit = true) (nodeId : Uuid) (tag : String)
    {s : Attempted} (hs : SameWorld w s) :
    Program.Meets (faulty env faults) (Node.addTag cfg nodeId tag) s
      (Closed "add_tag" nodeId w) := by
  unfold Node.addTag
  have hread : (await (.getNode nodeId)).Asks Request.quiet := .call trivial
  refine (quiet_meets hread hs).bind (fun node t ht => ?_) fun _ _ => closed_of_same
  cases node with
  | none => exact closed_of_same ht
  | some node =>
      show Program.Meets _ (if _ then _ else _) _ _
      split
      · exact closed_of_same ht
      · exact meets_writeTags haudit _ _ _ _ ht

theorem meets_removeTag (haudit : cfg.audit = true) (nodeId : Uuid) (tag : String)
    {s : Attempted} (hs : SameWorld w s) :
    Program.Meets (faulty env faults) (Node.removeTag cfg nodeId tag) s
      (Closed "remove_tag" nodeId w) := by
  unfold Node.removeTag
  have hread : (await (.getNode nodeId)).Asks Request.quiet := .call trivial
  refine (quiet_meets hread hs).bind (fun node t ht => ?_) fun _ _ => closed_of_same
  cases node with
  | none => exact closed_of_same ht
  | some node =>
      show Program.Meets _ (if _ then _ else _) _ _
      split
      · exact meets_writeTags haudit _ _ _ _ ht
      · exact closed_of_same ht

theorem meets_deleteNode (haudit : cfg.audit = true) (nodeId : Uuid) {s : Attempted}
    (hs : SameWorld w s) :
    Program.Meets (faulty env faults) (Node.deleteNode cfg nodeId) s (Closed "delete" nodeId w) := by
  unfold Node.deleteNode
  have hread : (await (.getNode nodeId)).Asks Request.quiet := .call trivial
  refine (quiet_meets hread hs).bind (fun node t ht => ?_) fun _ _ => closed_of_same
  cases node with
  | none => exact closed_of_same ht
  | some node =>
      refine (meets_logRequired haudit "delete" nodeId none ht).bind (fun _ t ht => ?_)
        fun _ _ => closed_of_same
      refine Program.Meets.bind (Q := Closed "delete" nodeId w) ?_ ?_ ?_
      · rw [Program.meets_call]
        obtain ⟨e, -, hworld⟩ | ⟨hanswer, hworld⟩ := faulty_cases env faults (.deleteNode nodeId) t
        · exact .inl ((congrArg NodeWorld.nodes hworld).trans ht.1)
        · have hperform : perform env (.deleteNode nodeId) t.world =
              if (t.world.nodes.find? nodeId).isSome then
                (.ok true, t.world.withNodes (t.world.nodes.erase nodeId))
              else (.ok false, t.world) := rfl
          unfold Closed
          rw [hanswer, hworld, hperform]
          split
          · exact .inr ⟨auditedFirst_of_announced ht rfl, _, rfl⟩
          · exact .inl ht.1
      · exact fun _ t ht => ht.imp_right fun h => ⟨h.1, _, rfl⟩
      · exact fun _ t ht => ht.imp_right fun ⟨_, a, ha⟩ => nomatch ha

/-! ## `create_node` -/

theorem run_fetchHostKey (host : String) (port : Int) (s : Attempted) :
    Program.run (faulty env faults) (fetchHostKey cfg host port) s = (.ok (), s) := by
  unfold fetchHostKey
  split
  · rw [Program.run_bind, Program.run_attempt, Program.run_call]
    rfl
  · rfl

theorem run_encryptValue (o : Option String) (s : Attempted) :
    Program.run (faulty env faults) (encryptValue o) s = (encrypted env o, s) := by
  cases o with
  | none => rfl
  | some value =>
      rw [encryptValue_some]
      by_cases hempty : value = ""
      · rw [if_pos hempty, hempty]
        rfl
      · have hanswer : faulty env faults (.encrypt value) s = (env.encrypt value, s) := rfl
        have hencrypted : encrypted env (some value) = (env.encrypt value).map some := if_neg hempty
        rw [if_neg hempty, Program.run_bind, Program.run_call, hanswer, hencrypted]
        cases env.encrypt value <;> rfl

/-- What `create_node` does once the secrets are encrypted. -/
def insertAndLog (cfg : Setting) (name : String) (secured : NodeCreateDTO) : Service NodeViewDTO := do
  let node : NodeViewDTO ← await (.createNode secured)
  cfg.logRequired "create" (some node.id) (some [("name", .str name)])
  pure node

/-- `create_node` encrypts, and then inserts before it logs. -/
theorem run_createNode (data : NodeCreateDTO) (s : Attempted) :
    Program.run (faulty env faults) (createNode cfg data) s =
      match encryptedCreate env data with
      | .error e => (.error e, s)
      | .ok secured => Program.run (faulty env faults) (insertAndLog cfg data.name secured) s := by
  unfold createNode encryptedCreate
  rw [Program.run_bind, run_fetchHostKey]
  simp only []
  rw [Program.run_bind, run_encryptValue]
  cases encrypted env data.credentials.password with
  | error e => rfl
  | ok password =>
      simp only []
      rw [Program.run_bind, run_encryptValue]
      cases encrypted env data.credentials.sshKey with
      | error e => rfl
      | ok sshKey =>
          simp only []
          rw [Program.run_bind, run_encryptValue]
          cases encrypted env data.credentials.passphrase with
          | error e => rfl
          | ok passphrase => rfl

/-- The first transaction of the store is the insert. -/
theorem faulty_createNode (secured : NodeCreateDTO) (s : Attempted) :
    faulty env faults (.createNode secured) s =
      match faults.store s.store with
      | some e => (.error e, { s with store := s.store + 1 })
      | none => ((perform env (.createNode secured) s.world).1,
          { s with world := (perform env (.createNode secured) s.world).2, store := s.store + 1 }) :=
  rfl

theorem perform_createNode (secured : NodeCreateDTO) (w : NodeWorld) :
    perform env (.createNode secured) w =
      match insertNode env w.nodes secured with
      | .error e => (.error e, w)
      | .ok (t, row) => (.ok row.toView, w.withNodes t) := by
  show committed w ((insertNode env w.nodes secured).map _) = _
  cases insertNode env w.nodes secured <;> rfl

/-- Where the insert does not go through, nothing is changed. -/
theorem closed_of_not_inserts {data : NodeCreateDTO} (h : ¬ Inserts env faults w data) :
    (Program.run (faulty env faults) (createNode cfg data) ⟨w, 0, 0⟩).2.world = w := by
  rw [run_createNode]
  cases hsecured : encryptedCreate env data with
  | error e => rfl
  | ok secured =>
      simp only []
      unfold insertAndLog
      rw [Program.run_bind, Program.run_call, faulty_createNode]
      cases hfault : faults.store 0 with
      | some e => rfl
      | none =>
          simp only []
          rw [perform_createNode]
          cases hinsert : insertNode env w.nodes secured with
          | error e => rfl
          | ok inserted =>
              exact absurd ⟨hfault, secured, inserted.1, inserted.2, hsecured, hinsert⟩ h

/-- The rows of a table that took a node. -/
theorem rows_of_insertNode {t t' : NodeTable} {data : NodeCreateDTO} {row : NodeRow}
    (h : insertNode env t data = .ok (t', row)) : t'.rows = t.rows ++ [row] := by
  unfold insertNode at h
  split at h
  · cases h
  · cases h
  · split at h
    · cases h
    · rename_i hinsert
      cases h
      exact (NamedTable.insert?_eq_some.1 hinsert).2.1

/-- Where the insert goes through, the table has changed, and the change is the first
new commit. -/
theorem changed_of_inserts {data : NodeCreateDTO} (h : Inserts env faults w data) :
    (Program.run (faulty env faults) (createNode cfg data) ⟨w, 0, 0⟩).2.world.nodes ≠ w.nodes ∧
      ChangedAfter w.commits
        (Program.run (faulty env faults) (createNode cfg data) ⟨w, 0, 0⟩).2 := by
  obtain ⟨hfault, secured, t, row, hsecured, hinsert⟩ := h
  have hne : t ≠ w.nodes := by
    intro heq
    have hrows := congrArg List.length (rows_of_insertNode hinsert)
    rw [heq, List.length_append, List.length_singleton] at hrows
    omega
  have hkeep : Program.Meets (faulty env faults) (cfg.logRequired "create" (some row.toView.id)
      (some [("name", .str data.name)])) ⟨w.withNodes t, 1, 0⟩
      fun _ s => s.world.nodes = t ∧ ChangedAfter w.commits s := by
    have hasks : Program.Asks (fun r => ∃ event, r = .enqueueRequired event)
        (cfg.logRequired "create" (some row.toView.id) (some [("name", .str data.name)])) := by
      unfold Setting.logRequired Node.logRequired
      split
      · have hcall : (await (.enqueueRequired (auditEvent "create" (some row.toView.id) none
            (some [("name", .str data.name)])))).Asks fun r => ∃ event, r = .enqueueRequired event :=
          .call ⟨_, rfl⟩
        refine hcall.attempt.bind fun stored => ?_
        cases stored with
        | ok _ => exact .done _
        | error _ => exact .raise _
      · exact .done _
    refine hasks.meets ?_ ⟨rfl, [], rfl⟩
    rintro r s ⟨event, rfl⟩ ⟨hnodes, rest, hrest⟩
    obtain ⟨e, -, hworld⟩ | ⟨-, hworld⟩ := faulty_cases env faults (.enqueueRequired event) s
    · rw [hworld]
      exact ⟨hnodes, rest, by rw [hworld, hrest]⟩
    · rw [hworld]
      refine ⟨hnodes, rest ++ [.required event], ?_⟩
      rw [hworld]
      show s.world.commits ++ _ = _
      rw [hrest, List.append_assoc, List.cons_append]
  have hrun : Program.Meets (faulty env faults) (createNode cfg data) ⟨w, 0, 0⟩
      fun _ s => s.world.nodes = t ∧ ChangedAfter w.commits s := by
    unfold Program.Meets
    rw [run_createNode, hsecured]
    unfold insertAndLog
    simp only []
    rw [Program.run_bind, Program.run_call, faulty_createNode, hfault]
    simp only []
    rw [perform_createNode, hinsert]
    have hlogged : Program.Meets (faulty env faults) (cfg.logRequired "create" (some row.toView.id)
        (some [("name", .str data.name)]) >>= fun _ => pure row.toView) ⟨w.withNodes t, 1, 0⟩
        fun _ s => s.world.nodes = t ∧ ChangedAfter w.commits s :=
      hkeep.bind (fun _ _ ht => ht) fun _ _ ht => ht
    exact hlogged
  exact ⟨fun heq => hne (hrun.1.symm.trans heq), hrun.2⟩

/-- Discarding the result keeps the world. -/
theorem run_discardResult {α : Type} (p : Service α) (s : Attempted) :
    (Program.run (faulty env faults) (discardResult p) s).2 =
      (Program.run (faulty env faults) p s).2 := by
  unfold discardResult
  rw [Program.run_bind]
  cases Program.run (faulty env faults) p s with
  | mk x t => cases x <;> rfl

/-! ## Which mutations fail closed -/

theorem failClosed_of_closed {m : Mutation}
    (h : Program.Meets (faulty env faults) (m.program cfg) ⟨w, 0, 0⟩
      (Closed m.action (m.nodeId w) w)) : FailClosed cfg env faults w m where
  audited hne := by
    obtain hsame | ⟨haudited, -⟩ := h
    · exact absurd hsame hne
    · exact haudited
  unchanged text herror := by
    obtain hsame | ⟨-, a, ha⟩ := h
    · exact hsame
    · rw [herror] at ha
      cases ha

/-- A mutation that is announced first fails closed. -/
theorem failClosed_of_announced (haudit : cfg.audit = true) {m : Mutation}
    (h : AnnouncedFirst env faults w m) : FailClosed cfg env faults w m := by
  apply failClosed_of_closed
  have hw : SameWorld w ⟨w, 0, 0⟩ := rfl
  cases m with
  | create data =>
      refine .inl ?_
      show (Program.run (faulty env faults) (discardResult _) _).2.world.nodes = _
      rw [run_discardResult, closed_of_not_inserts h]
  | update id data => exact closed_discard (meets_updateMutation haudit id data hw)
  | delete id => exact closed_discard (meets_deleteNode haudit id hw)
  | addTag id tag => exact closed_discard (meets_addTag haudit id tag hw)
  | removeTag id tag => exact closed_discard (meets_removeTag haudit id tag hw)

/-- A mutation that fails closed is announced first. -/
theorem announced_of_failClosed {m : Mutation} (h : FailClosed cfg env faults w m) :
    AnnouncedFirst env faults w m := by
  cases m with
  | create data =>
      intro hinserts
      have haudited := h.audited
      unfold Mutation.program at haudited
      rw [run_discardResult] at haudited
      obtain ⟨hne, rest, hrest⟩ := changed_of_inserts hinserts
      obtain ⟨first, rest', event, hcommits, hquiet, hevent, -, -⟩ := haudited hne
      rw [hrest] at hcommits
      have hsplit := List.append_cancel_left hcommits
      cases first with
      | nil => cases hevent
      | cons commit first =>
          rw [List.cons_append] at hsplit
          exact hquiet ((List.cons.inj hsplit).1 ▸ List.mem_cons_self ..)
  | update _ _ | delete _ | addTag _ _ | removeTag _ _ => exact trivial

/-- **When a mutation fails closed**: always, but for `create_node` where the insert
goes through. -/
theorem fail_closed_iff (haudit : cfg.audit = true) (env : StoreEnv) (faults : Faults)
    (w : NodeWorld) (m : Mutation) :
    FailClosed cfg env faults w m ↔ AnnouncedFirst env faults w m :=
  ⟨announced_of_failClosed, failClosed_of_announced haudit⟩

end Run

/-- A node without secrets. -/
def plainCreate (name : String) : NodeCreateDTO where
  name := name
  endpoint := ⟨"10.0.0.1", 22, .ssh, none, false⟩
  credentials := ⟨none, none, none, none⟩
  tags := []

/-- The required outbox is down. -/
def outboxDown : Faults where
  store _ := none
  outbox _ := some ⟨.other, "connection refused"⟩

/-- Every mutation fails closed. -/
def AllFailClosed (cfg : Setting) (env : StoreEnv) : Prop :=
  ∀ faults w m, FailClosed cfg env faults w m

/-- A new node stays although its event could not be committed. -/
theorem not_allFailClosed : ¬ AllFailClosed plainSetting plainStoreEnv := by
  intro h
  refine announced_of_failClosed (h outboxDown emptyWorld (.create (plainCreate "web"))) ?_
  exact ⟨rfl, _, _, _, rfl, rfl⟩

/-- A tag is not added while the outbox is down. -/
theorem fail_closed_addTag : ∃ text,
    (Program.run (faulty plainStoreEnv outboxDown) ((Mutation.addTag 1 "edge").program plainSetting)
        ⟨oneNode, 0, 0⟩).1 = .error ⟨.auditWriteError, text⟩ ∧
      (Program.run (faulty plainStoreEnv outboxDown) ((Mutation.addTag 1 "edge").program plainSetting)
        ⟨oneNode, 0, 0⟩).2.world.nodes = oneNode.nodes := by
  have hclosed := (@fail_closed_iff plainSetting rfl plainStoreEnv outboxDown oneNode
    (.addTag 1 "edge")).2 trivial
  obtain ⟨text, hraised⟩ : ∃ text, (Program.run (faulty plainStoreEnv outboxDown)
      ((Mutation.addTag 1 "edge").program plainSetting) ⟨oneNode, 0, 0⟩).1 =
        .error ⟨.auditWriteError, text⟩ := ⟨_, rfl⟩
  exact ⟨text, hraised, hclosed.unchanged text hraised⟩

end Node
end NodeNexus
