import NodeNexus.Config.Export
import NodeNexus.Node.World

/-!
# Writes of nodes

The requests that create and update nodes, with the checks of their schemas, and what
`NodeManagementService` comes to when it runs against the store.

* `NodeCreate`, `NodeUpdate` — a request that passed its validation; an update has the
  fields that were set, with a value or `None`.
* `createOutcome`, `updateOutcome` — the result of the service method, and the nodes it
  leaves; `comes_createNode` and `comes_updateNode` say that the programs come to this.
-/

namespace NodeNexus
namespace Node

open Content
open NodeNexus.Core
open Config (IsDecimal validDockerHost dockerFields)

/-! ## Requests -/

/-- `NodeCreate`. -/
structure NodeCreate (uni : Unicode) (isDecimal : IsDecimal) where
  name : String
  host : String
  port : Int
  connectionType : ConnectionType
  username : Option String
  password : Option String
  sshKey : Option String
  passphrase : Option String
  dockerHost : Option String
  hasDocker : Bool
  tags : List String
  description : Option String
  name_ok : safeNameIn 1 255 name = true
  host_ok : 1 ≤ host.length ∧ host.length ≤ 255
  port_ok : 1 ≤ port ∧ port ≤ 65535
  description_ok : ∀ text, description = some text → text.length ≤ 1000
  docker_ok : dockerFields uni isDecimal dockerHost hasDocker = true

theorem safeName_web : safeNameIn 1 255 "web" = true := by decide

theorem host_private : 1 ≤ "10.0.0.1".length ∧ "10.0.0.1".length ≤ 255 := by decide

theorem port_ssh : 1 ≤ (22 : Int) ∧ (22 : Int) ≤ 65535 := by decide

theorem dockerFields_none (uni : Unicode) (isDecimal : IsDecimal) :
    dockerFields uni isDecimal none false = true := rfl

/-- The checks of the single fields of `NodeUpdate`; `None` passes them. -/
def NodeChange.FieldOk (uni : Unicode) (isDecimal : IsDecimal) : NodeChange → Prop
  | .name (some text) => safeNameIn 1 255 text = true
  | .host (some text) => 1 ≤ text.length ∧ text.length ≤ 255
  | .port (some number) => 1 ≤ number ∧ number ≤ 65535
  | .dockerHost (some text) => validDockerHost uni isDecimal text = true
  | .tags (some texts) => ∀ text ∈ texts, text.isSome = true
  | .description (some text) => text.length ≤ 1000
  | _ => True

/-- `NodeUpdate`, as `model_dump(exclude_unset=True)` gives its fields. -/
structure NodeUpdate (uni : Unicode) (isDecimal : IsDecimal) extends NodeUpdateDTO where
  fields_ok : ∀ change ∈ changes, change.FieldOk uni isDecimal
  /-- `check_docker_fields_update`. -/
  docker_ok : ∀ host, NodeChange.dockerHost (some host) ∈ changes →
    NodeChange.hasDocker (some false) ∉ changes

variable {uni : Unicode} {isDecimal : IsDecimal}

/-- The transfer object that `bulk_create_nodes` makes of an item; it has no description. -/
def NodeCreate.dto (item : NodeCreate uni isDecimal) : NodeCreateDTO where
  name := item.name
  endpoint := ⟨item.host, item.port, item.connectionType, item.dockerHost, item.hasDocker⟩
  credentials := ⟨item.username, item.password, item.sshKey, item.passphrase⟩
  tags := item.tags

/-! ## Outcomes -/

/-- A secret as it is stored. -/
def sealValue (env : StoreEnv) : Option String → Except NodeFailure (Option String)
  | none => .ok none
  | some s => if s = "" then .ok (some s) else (env.encrypt s).map some

/-- A change as it is stored. -/
def sealChange (env : StoreEnv) : NodeChange → Except NodeFailure NodeChange
  | .password o => (sealValue env o).map .password
  | .sshKey o => (sealValue env o).map .sshKey
  | .passphrase o => (sealValue env o).map .passphrase
  | change => .ok change

/-- The changes as they are stored. -/
def sealChanges (env : StoreEnv) : List NodeChange → Except NodeFailure (List NodeChange)
  | [] => .ok []
  | change :: changes => do
      let secured ← sealChange env change
      let rest ← sealChanges env changes
      .ok (secured :: rest)

/-- The request for a new node as it is stored. -/
def sealCreate (env : StoreEnv) (data : NodeCreateDTO) : Except NodeFailure NodeCreateDTO := do
  let password ← sealValue env data.credentials.password
  let sshKey ← sealValue env data.credentials.sshKey
  let passphrase ← sealValue env data.credentials.passphrase
  .ok { data with credentials := ⟨data.credentials.username, password, sshKey, passphrase⟩ }

/-- What `create_node` returns or raises, and the nodes it leaves. -/
def createOutcome (env : StoreEnv) (nodes : NodeTable) (data : NodeCreateDTO) :
    Except NodeFailure NodeViewDTO × NodeTable :=
  match sealCreate env data with
  | .error e => (.error e, nodes)
  | .ok secured =>
      match insertNode env nodes secured with
      | .error e => (.error e, nodes)
      | .ok (t, row) => (.ok row.toView, t)

/-- What `update_node` returns or raises, and the nodes it leaves. -/
def updateOutcome (env : StoreEnv) (cfg : Setting) (nodes : NodeTable) (id : Uuid)
    (changes : List NodeChange) : Except NodeFailure NodeViewDTO × NodeTable :=
  match sealChanges env (clearDockerHost changes) with
  | .error e => (.error e, nodes)
  | .ok secured =>
      match updateRow env nodes id secured with
      | .error e => (.error e, nodes)
      | .ok none => (.error (cfg.notFound id), nodes)
      | .ok (some (t, row)) => (.ok row.toView, t)

/-! ## Running the services -/

section Run

variable {env : StoreEnv} {cfg : Setting} {w : NodeWorld}

/-- A program ends with a known result and does not write nodes. -/
abbrev Leaves {α : Type} (env : StoreEnv) (p : Service α) (w : NodeWorld) (x : Except NodeFailure α) :
    Prop :=
  Program.Meets (perform env) p w fun y t => y = x ∧ t.nodes = w.nodes

theorem leaves_pure {α : Type} (a : α) : Leaves env (pure a) w (.ok a) := ⟨rfl, rfl⟩

/-- One part after the other. -/
theorem Leaves.bind {α β : Type} {p : Service α} {f : α → Service β} {a : α}
    {Q : Except NodeFailure β → NodeWorld → Prop} (hp : Leaves env p w (.ok a))
    (hf : ∀ t, t.nodes = w.nodes → Program.Meets (perform env) (f a) t Q) :
    Program.Meets (perform env) (p >>= f) w Q := by
  refine Program.Meets.bind hp (fun b t h => ?_) fun e t h => nomatch h.1
  cases h.1
  exact hf t h.2

theorem Leaves.bind_error {α β : Type} {p : Service α} {f : α → Service β} {e : NodeFailure}
    (hp : Leaves env p w (.error e)) : Leaves env (p >>= f) w (.error e) := by
  refine Program.Meets.bind hp (fun b t h => nomatch h.1) fun e' t h => ?_
  cases h.1
  exact ⟨rfl, h.2⟩

theorem leaves_encryptValue (o : Option String) :
    Leaves env (encryptValue o) w (sealValue env o) := by
  cases o with
  | none => exact leaves_pure none
  | some s =>
      rw [encryptValue_some, sealValue]
      split
      · exact leaves_pure (some s)
      · have hcall : Leaves env (await (.encrypt s)) w (env.encrypt s) :=
          Program.meets_call.2 ⟨rfl, rfl⟩
        cases henc : env.encrypt s with
        | error e =>
            rw [henc] at hcall
            exact hcall.bind_error
        | ok token =>
            rw [henc] at hcall
            exact hcall.bind fun t ht => ⟨rfl, ht⟩

theorem leaves_secureChange (change : NodeChange) :
    Leaves env (secureChange change) w (sealChange env change) := by
  have hsealed : ∀ (o : Option String) (wrap : Option String → NodeChange),
      Leaves env (encryptValue o >>= fun o => (pure (wrap o) : Service NodeChange)) w
        ((sealValue env o).map wrap) := by
    intro o wrap
    have hvalue : Leaves env (encryptValue o) w (sealValue env o) := leaves_encryptValue o
    cases hseal : sealValue env o with
    | error e =>
        rw [hseal] at hvalue
        exact hvalue.bind_error
    | ok o' =>
        rw [hseal] at hvalue
        exact hvalue.bind fun t ht => ⟨rfl, ht⟩
  cases change with
  | password o => exact hsealed o .password
  | sshKey o => exact hsealed o .sshKey
  | passphrase o => exact hsealed o .passphrase
  | _ => exact leaves_pure _

theorem leaves_secureChanges (changes : List NodeChange) :
    Leaves env (secureChanges changes) w (sealChanges env changes) := by
  induction changes generalizing w with
  | nil => exact leaves_pure []
  | cons change changes ih =>
      have hfirst : Leaves env (secureChange change) w (sealChange env change) :=
        leaves_secureChange change
      unfold secureChanges sealChanges
      cases hseal : sealChange env change with
      | error e =>
          rw [hseal] at hfirst
          exact hfirst.bind_error
      | ok secured =>
          rw [hseal] at hfirst
          refine hfirst.bind fun t ht => ?_
          have hrest : Leaves env (secureChanges changes) t (sealChanges env changes) := ih
          cases hseals : sealChanges env changes with
          | error e =>
              rw [hseals] at hrest
              exact hrest.bind_error.mono fun x t' hx => ⟨hx.1, hx.2.trans ht⟩
          | ok rest =>
              rw [hseals] at hrest
              exact hrest.bind fun t' ht' => ⟨rfl, ht'.trans ht⟩

theorem leaves_fetchHostKey (host : String) (port : Int) :
    Leaves env (fetchHostKey cfg host port) w (.ok ()) := by
  unfold fetchHostKey
  split
  · have hcall : Program.Meets (perform env) (await (.ensureHost host port)).attempt w
        fun y t => (∃ x, y = .ok x) ∧ t.nodes = w.nodes :=
      Program.meets_attempt.2 (Program.meets_call.2 ⟨⟨_, rfl⟩, rfl⟩)
    refine hcall.bind (fun x t ht => ⟨rfl, ht.2⟩) fun e t ht => ?_
    obtain ⟨x, hx⟩ := ht.1
    cases hx
  · exact leaves_pure ()

theorem leaves_getNode (id : Uuid) :
    Leaves env (await (.getNode id)) w (.ok ((w.nodes.find? id).map (·.toView))) :=
  Program.meets_call.2 ⟨rfl, rfl⟩

theorem leaves_ensureKnownHost (nodeId : Uuid) (changes : List NodeChange) :
    Leaves env (ensureKnownHost cfg nodeId changes) w (.ok ()) := by
  unfold ensureKnownHost
  split
  · exact leaves_pure ()
  · refine (leaves_getNode nodeId).bind fun t ht => ?_
    split
    · exact (leaves_fetchHostKey _ _).mono fun x t' hx => ⟨hx.1, hx.2.trans ht⟩
    · exact ⟨rfl, ht⟩

/-- The read of the old status returns in any case. -/
theorem readOldStatus_meets (read : Bool) (nodeId : Uuid) :
    Program.Meets (perform env) (readOldStatus read nodeId) w
      fun y t => (∃ old, y = .ok old) ∧ t.nodes = w.nodes := by
  unfold readOldStatus
  split
  · exact ⟨⟨none, rfl⟩, rfl⟩
  · have hcall : Leaves env (await (.getNode nodeId)).attempt w
        (.ok (.ok ((w.nodes.find? nodeId).map (·.toView)))) :=
      Program.meets_attempt.2 ((leaves_getNode nodeId).mono fun x t hx => ⟨by rw [hx.1], hx.2⟩)
    refine hcall.bind fun t ht => ?_
    cases w.nodes.find? nodeId with
    | none => exact ⟨⟨none, rfl⟩, ht⟩
    | some row => exact ⟨⟨some row.status.text, rfl⟩, ht⟩

theorem leaves_logRequired (action : String) (nodeId : Option Uuid)
    (details : Option Json.Fields) : Leaves env (cfg.logRequired action nodeId details) w (.ok ()) := by
  unfold Setting.logRequired
  split
  · exact ⟨rfl, rfl⟩
  · exact leaves_pure ()

theorem leaves_saveStatusChange (task : Nat) (write : Bool) (change : NodeStatusChangeDTO) :
    Leaves env (saveStatusChange task write change) w (.ok ()) := by
  unfold saveStatusChange
  by_cases hwrite : write = true ∧ change.oldStatus ≠ some change.newStatus
  · rw [if_pos hwrite]
    exact ⟨rfl, rfl⟩
  · rw [if_neg hwrite]
    exact leaves_pure ()

theorem leaves_saveManualUpdate (nodeId : Uuid) (oldStatus newStatus : Option String) :
    Leaves env (saveManualUpdate cfg nodeId oldStatus newStatus) w (.ok ()) := by
  cases newStatus with
  | none => exact leaves_pure ()
  | some newStatus => exact leaves_saveStatusChange 0 _ _

/-- A program ends with a result and leaves nodes. -/
abbrev Comes {α : Type} (env : StoreEnv) (p : Service α) (w : NodeWorld)
    (out : Except NodeFailure α × NodeTable) : Prop :=
  Program.Meets (perform env) p w fun x t => (x, t.nodes) = out

/-- A part whose result is known, in front of the rest. -/
theorem Leaves.cases {α β : Type} {p : Service α} {f : α → Service β} {x : Except NodeFailure α}
    {out : Except NodeFailure β × NodeTable} (hp : Leaves env p w x)
    (hok : ∀ a t, x = .ok a → t.nodes = w.nodes → Comes env (f a) t out)
    (herror : ∀ e, x = .error e → (.error e, w.nodes) = out) : Comes env (p >>= f) w out := by
  refine Program.Meets.bind hp (fun a t h => hok a t h.1.symm h.2) fun e t h => ?_
  rw [h.2]
  exact herror e h.1.symm

/-- **`create_node` against the store.** -/
theorem comes_createNode (env : StoreEnv) (cfg : Setting) (w : NodeWorld) (data : NodeCreateDTO) :
    Comes env (createNode cfg data) w (createOutcome env w.nodes data) := by
  unfold createNode
  refine (leaves_fetchHostKey _ _).cases (fun _ w₁ _ h₁ => ?_) fun e h => nomatch h
  refine (leaves_encryptValue _).cases (fun password w₂ hpassword h₂ => ?_) fun e he => ?_
  · refine (leaves_encryptValue _).cases (fun sshKey w₃ hsshKey h₃ => ?_) fun e he => ?_
    · refine (leaves_encryptValue _).cases (fun passphrase w₄ hpassphrase h₄ => ?_) fun e he => ?_
      · have hnodes : w₄.nodes = w.nodes := ((h₄.trans h₃).trans h₂).trans h₁
        have hseal : sealCreate env data = .ok { data with
            credentials := ⟨data.credentials.username, password, sshKey, passphrase⟩ } := by
          simp only [sealCreate, hpassword, hsshKey, hpassphrase]
          rfl
        rw [← hnodes]
        unfold createOutcome
        rw [hseal]
        simp only
        generalize hsecured : ({ data with
          credentials := ⟨data.credentials.username, password, sshKey, passphrase⟩ } :
            NodeCreateDTO) = secured
        cases hinsert : insertNode env w₄.nodes secured with
        | error e =>
            have hcall : Leaves env (await (.createNode secured)) w₄ (.error e) := by
              refine Program.meets_call.2 ?_
              simp only [perform, hinsert, committed, Except.map]
              exact ⟨trivial, trivial⟩
            exact hcall.cases (fun a t h => nomatch h) fun e' he' => by cases he'; rfl
        | ok made =>
            obtain ⟨t, row⟩ := made
            have hcall : Program.Meets (perform env) (await (.createNode secured)) w₄
                fun y t' => y = .ok row.toView ∧ t'.nodes = t := by
              refine Program.meets_call.2 ?_
              simp only [perform, hinsert, committed, Except.map]
              exact ⟨trivial, rfl⟩
            refine hcall.bind (fun node t' h => ?_) fun e t' h => nomatch h.1
            cases h.1
            rw [← h.2]
            exact (leaves_logRequired _ _ _).cases (fun _ t'' _ h'' => by
              rw [← h'']
              rfl) fun e he => nomatch he
      · simp only [createOutcome, sealCreate, hpassword, hsshKey, he, h₁, h₂, h₃]
        rfl
    · simp only [createOutcome, sealCreate, hpassword, he, h₁, h₂]
      rfl
  · simp only [createOutcome, sealCreate, he, h₁]
    rfl

/-- **`update_node` against the store.** -/
theorem comes_updateNode (env : StoreEnv) (cfg : Setting) (w : NodeWorld) (id : Uuid)
    (data : NodeUpdateDTO) :
    Comes env (updateNode cfg id data) w (updateOutcome env cfg w.nodes id data.changes) := by
  unfold updateNode
  refine (leaves_ensureKnownHost _ _).cases (fun _ w₁ _ h₁ => ?_) fun e h => nomatch h
  refine (leaves_secureChanges _).cases (fun secured w₂ hsecured h₂ => ?_) fun e he => ?_
  · refine (readOldStatus_meets _ _).bind (fun old w₃ h₃ => ?_) fun e t h => ?_
    · refine (leaves_logRequired _ _ _).cases (fun _ w₄ _ h₄ => ?_) fun e h => nomatch h
      have hnodes : w₄.nodes = w.nodes := ((h₄.trans h₃.2).trans h₂).trans h₁
      rw [← hnodes]
      unfold updateOutcome
      rw [hsecured]
      simp only
      cases hupdate : updateRow env w₄.nodes id secured with
      | error e =>
          have hcall : Leaves env (await (.updateNode id secured)) w₄ (.error e) := by
            refine Program.meets_call.2 ?_
            simp only [perform, hupdate, updated, committed, Except.map]
            exact ⟨trivial, trivial⟩
          exact hcall.cases (fun a t h => nomatch h) fun e' he' => by cases he'; rfl
      | ok found =>
          cases found with
          | none =>
              have hcall : Leaves env (await (.updateNode id secured)) w₄ (.ok none) := by
                refine Program.meets_call.2 ?_
                simp only [perform, hupdate, updated, committed, Except.map]
                exact ⟨trivial, trivial⟩
              refine hcall.cases (fun a t h ht => ?_) fun e he => nomatch he
              cases h
              rw [← ht]
              rfl
          | some made =>
              obtain ⟨t, row⟩ := made
              have hcall : Program.Meets (perform env) (await (.updateNode id secured)) w₄
                  fun y t' => y = .ok (some row.toView) ∧ t'.nodes = t := by
                refine Program.meets_call.2 ?_
                simp only [perform, hupdate, updated, committed, Except.map]
                exact ⟨trivial, rfl⟩
              refine hcall.bind (fun node t' h => ?_) fun e t' h => nomatch h.1
              cases h.1
              rw [← h.2]
              exact (leaves_saveManualUpdate _ _ _).cases (fun _ t'' _ h'' => by
                rw [← h'']
                rfl) fun e he => nomatch he
    · obtain ⟨old, hold⟩ := h.1
      cases hold
  · simp only [updateOutcome, he, h₁]

end Run

/-! ## What a node shows -/

/-- The columns of a node that requests write and responses show. -/
structure ShownNode where
  name : String
  host : String
  port : Int
  connectionType : ConnectionType
  status : NodeStatus
  username : Option String
  dockerHost : Option String
  hasDocker : Bool
  tags : Option (List (Option String))
  description : Option String

/-- What a row shows. -/
def NodeRow.shown (row : NodeRow) : ShownNode where
  name := row.name
  host := row.host
  port := row.port
  connectionType := row.connectionType
  status := row.status
  username := row.username
  dockerHost := row.dockerHost
  hasDocker := row.hasDocker
  tags := row.tags
  description := row.description

/-- A change as it is asked for; a secret shows nothing, and `None` is no value of a
column that is not null. -/
def ShownNode.apply (node : ShownNode) : NodeChange → ShownNode
  | .name (some v) => { node with name := v }
  | .host (some v) => { node with host := v }
  | .port (some v) => { node with port := v }
  | .connectionType (some v) => { node with connectionType := v }
  | .status (some v) => { node with status := v }
  | .username o => { node with username := o }
  | .dockerHost o => { node with dockerHost := o }
  | .hasDocker (some v) => { node with hasDocker := v }
  | .tags o => { node with tags := o }
  | .description o => { node with description := o }
  | _ => node

/-- The tags of a change are texts. -/
def NodeChange.TextTags : NodeChange → Prop
  | .tags (some texts) => ∀ text ∈ texts, text.isSome = true
  | _ => True

theorem NodeChange.FieldOk.textTags {change : NodeChange} (h : change.FieldOk uni isDecimal) :
    change.TextTags := by
  cases change with
  | tags o =>
      cases o with
      | none => trivial
      | some texts => exact h
  | _ => trivial

theorem bindText_eq {db : Columns} (hdb : db.Lawful) {o r : Option String}
    (h : bindText db o = .ok r) : r = o := by
  cases o with
  | none =>
      cases h
      rfl
  | some s =>
      obtain ⟨s', hs, rfl⟩ := map_eq_ok.1 h
      rw [hdb.text_eq s s' hs]

/-- Tags that are texts are stored as they are. -/
theorem bindTags_texts {db : Columns} (hback : db.ReadsBack) {o r : Option (List (Option String))}
    (htexts : ∀ texts, o = some texts → ∀ text ∈ texts, text.isSome = true)
    (h : bindTags db (o.map fun ts => ts.map jsonText) = .ok r) : r = o := by
  cases o with
  | none =>
      cases h
      rfl
  | some texts =>
      obtain ⟨ts, rfl⟩ : ∃ ts : List String, texts = ts.map some := by
        refine ⟨texts.map fun text => text.getD "", ?_⟩
        rw [List.map_map]
        refine (List.map_id texts).symm.trans (List.map_congr_left fun text htext => ?_)
        cases text with
        | none => cases htexts texts rfl none htext
        | some s => rfl
      have hjson : (ts.map some).map jsonText = ts.map Json.str := by
        rw [List.map_map]
        rfl
      rw [Option.map_some, hjson] at h
      exact bindTags_eq hback h

/-- **A column shows what was set.** -/
theorem setField_shown {db : Columns} (hdb : db.Lawful) (hback : db.ReadsBack)
    {row row' : NodeRow} {change : NodeChange} (htags : change.TextTags)
    (h : setField db row change = .ok row') : row'.shown = row.shown.apply change := by
  have hname : ∀ {o : Option String} {column : String} {v : String},
      notNull column (bindName db) o = .ok v → o = some v := by
    intro o column v hv
    cases o with
    | none => cases hv
    | some s => rw [bindName_eq hdb hv]
  cases change <;> simp only [setField, map_eq_ok] at h <;> obtain ⟨v, hv, rfl⟩ := h
  case name o => rw [hname hv]; rfl
  case host o => rw [hname hv]; rfl
  case port o =>
    cases o with
    | none => cases hv
    | some n => rw [bindInteger_eq hv]; rfl
  case connectionType o =>
    cases o with
    | none => cases hv
    | some c => cases hv; rfl
  case status o =>
    cases o with
    | none => cases hv
    | some c => cases hv; rfl
  case username o => rw [bindOptionalName_eq hdb hv]; rfl
  case password o => rfl
  case sshKey o => rfl
  case passphrase o => rfl
  case dockerHost o => rw [bindOptionalName_eq hdb hv]; rfl
  case hasDocker o =>
    cases o with
    | none => cases hv
    | some b => cases hv; rfl
  case tags o =>
    have hv' : v = o := bindTags_texts hback (fun texts ho => by rw [ho] at htags; exact htags) hv
    rw [hv']
    rfl
  case description o => rw [bindText_eq hdb hv]; rfl

theorem setFields_shown {db : Columns} (hdb : db.Lawful) (hback : db.ReadsBack)
    {changes : List NodeChange} {row row' : NodeRow}
    (htags : ∀ change ∈ changes, change.TextTags) (h : setFields db row changes = .ok row') :
    row'.shown = changes.foldl ShownNode.apply row.shown := by
  induction changes generalizing row with
  | nil =>
      cases h
      rfl
  | cons change changes ih =>
      obtain ⟨row₁, h₁, h₂⟩ := bind_eq_ok.1 h
      rw [ih (fun c hc => htags c (List.mem_cons_of_mem _ hc)) h₂,
        setField_shown hdb hback (htags change (List.mem_cons_self ..)) h₁]
      rfl

/-- A secured change shows as much as the change. -/
theorem sealChange_apply {env : StoreEnv} {change secured : NodeChange}
    (h : sealChange env change = .ok secured) (node : ShownNode) :
    node.apply secured = node.apply change ∧ (change.TextTags → secured.TextTags) := by
  cases change <;> simp only [sealChange, map_eq_ok, Except.ok.injEq] at h
  case password o => obtain ⟨v, -, rfl⟩ := h; exact ⟨rfl, id⟩
  case sshKey o => obtain ⟨v, -, rfl⟩ := h; exact ⟨rfl, id⟩
  case passphrase o => obtain ⟨v, -, rfl⟩ := h; exact ⟨rfl, id⟩
  all_goals
    subst h
    exact ⟨rfl, id⟩

theorem sealChanges_apply {env : StoreEnv} {changes secured : List NodeChange}
    (h : sealChanges env changes = .ok secured) (node : ShownNode) :
    secured.foldl ShownNode.apply node = changes.foldl ShownNode.apply node ∧
      ((∀ c ∈ changes, c.TextTags) → ∀ c ∈ secured, c.TextTags) := by
  induction changes generalizing secured node with
  | nil =>
      cases h
      exact ⟨rfl, id⟩
  | cons change changes ih =>
      obtain ⟨c, hc, h⟩ := bind_eq_ok.1 h
      obtain ⟨rest, hrest, h⟩ := bind_eq_ok.1 h
      cases h
      obtain ⟨happly, htags⟩ := sealChange_apply hc node
      obtain ⟨happlies, htagss⟩ := ih hrest (node.apply change)
      refine ⟨?_, fun hall c' hc' => ?_⟩
      · rw [List.foldl_cons, List.foldl_cons, happly, happlies]
      · rcases List.mem_cons.1 hc' with rfl | hc'
        · exact htags (hall change (List.mem_cons_self ..))
        · exact htagss (fun x hx => hall x (List.mem_cons_of_mem _ hx)) c' hc'

/-- What a new row shows. -/
theorem bindCreate_shown {db : Columns} (hdb : db.Lawful) (hback : db.ReadsBack) {now : DateTime}
    {id : Uuid} {data : NodeCreateDTO} {row : NodeRow} (h : bindCreate db now id data = .ok row) :
    row.shown =
      { name := data.name
        host := data.endpoint.host
        port := data.endpoint.port
        connectionType := data.endpoint.connectionType
        status := .active
        username := data.credentials.username
        dockerHost := data.endpoint.dockerHost
        hasDocker := data.endpoint.hasDocker
        tags := some (data.tags.map some)
        description := none } := by
  simp only [bindCreate, bind_eq_ok] at h
  obtain ⟨name, hname, host, hhost, port, hport, username, husername, _, -, _, -, _, -,
    dockerHost, hdockerHost, tags, htags, hrow⟩ := h
  cases hrow
  simp only [NodeRow.shown]
  rw [bindName_eq hdb hname, bindName_eq hdb hhost, bindInteger_eq hport,
    bindOptionalName_eq hdb husername, bindOptionalName_eq hdb hdockerHost,
    bindTags_eq hback htags]

theorem sealCreate_eq_ok {env : StoreEnv} {data secured : NodeCreateDTO}
    (h : sealCreate env data = .ok secured) :
    secured.name = data.name ∧ secured.endpoint = data.endpoint ∧
      secured.credentials.username = data.credentials.username ∧ secured.tags = data.tags := by
  simp only [sealCreate, bind_eq_ok] at h
  obtain ⟨_, -, _, -, _, -, h⟩ := h
  cases h
  exact ⟨rfl, rfl, rfl, rfl⟩

/-! ## Changes of one field -/

section Fields

variable {α : Type} {g : ShownNode → α} {field : String} {changes : List NodeChange}

theorem foldl_apply_of_notMem (hother : ∀ node c, NodeChange.field c ≠ field →
      g (ShownNode.apply node c) = g node)
    (h : field ∉ changes.map (·.field)) (node : ShownNode) :
    g (changes.foldl ShownNode.apply node) = g node := by
  induction changes generalizing node with
  | nil => rfl
  | cons c changes ih =>
      rw [List.map_cons, List.mem_cons, not_or] at h
      rw [List.foldl_cons, ih h.2, hother node c fun hc => h.1 hc.symm]

theorem foldl_apply_of_mem (hother : ∀ node c, NodeChange.field c ≠ field →
      g (ShownNode.apply node c) = g node)
    (hnodup : (changes.map (·.field)).Nodup) {c : NodeChange} (hc : c ∈ changes)
    (hfield : c.field = field) {v : α} (hset : ∀ node, g (ShownNode.apply node c) = v)
    (node : ShownNode) : g (changes.foldl ShownNode.apply node) = v := by
  induction changes generalizing node with
  | nil => cases hc
  | cons c' changes ih =>
      rw [List.map_cons, List.nodup_cons] at hnodup
      rw [List.foldl_cons]
      rcases List.mem_cons.1 hc with rfl | hc
      · rw [hfield] at hnodup
        rw [foldl_apply_of_notMem hother hnodup.1, hset]
      · exact ih hnodup.2 hc _

end Fields

theorem apply_dockerHost_other (node : ShownNode) (c : NodeChange) (h : c.field ≠ "docker_host") :
    (node.apply c).dockerHost = node.dockerHost := by
  unfold ShownNode.apply
  split <;> first | rfl | exact absurd rfl h

theorem apply_hasDocker_other (node : ShownNode) (c : NodeChange) (h : c.field ≠ "has_docker") :
    (node.apply c).hasDocker = node.hasDocker := by
  unfold ShownNode.apply
  split <;> first | rfl | exact absurd rfl h

/-! ### The fields of docker -/

section Docker

variable {changes : List NodeChange}

theorem exists_dockerHost (h : "docker_host" ∈ changes.map (·.field)) :
    ∃ o, NodeChange.dockerHost o ∈ changes := by
  obtain ⟨c, hc, hfield⟩ := List.mem_map.1 h
  cases c with
  | dockerHost o => exact ⟨o, hc⟩
  | _ => exact absurd hfield (by simp [NodeChange.field])

theorem exists_hasDocker (h : "has_docker" ∈ changes.map (·.field)) :
    ∃ b, NodeChange.hasDocker b ∈ changes := by
  obtain ⟨c, hc, hfield⟩ := List.mem_map.1 h
  cases c with
  | hasDocker b => exact ⟨b, hc⟩
  | _ => exact absurd hfield (by simp [NodeChange.field])

theorem dockerHost_of_mem (hnodup : (changes.map (·.field)).Nodup) {o : Option String}
    (h : NodeChange.dockerHost o ∈ changes) (node : ShownNode) :
    (changes.foldl ShownNode.apply node).dockerHost = o :=
  foldl_apply_of_mem (g := ShownNode.dockerHost) apply_dockerHost_other hnodup h rfl
    (fun _ => rfl) node

theorem hasDocker_of_mem (hnodup : (changes.map (·.field)).Nodup) {b : Bool}
    (h : NodeChange.hasDocker (some b) ∈ changes) (node : ShownNode) :
    (changes.foldl ShownNode.apply node).hasDocker = b :=
  foldl_apply_of_mem (g := ShownNode.hasDocker) apply_hasDocker_other hnodup h rfl
    (fun _ => rfl) node

/-- An update that does not set `has_docker` keeps it. -/
theorem hasDocker_kept {node : ShownNode} (h : "has_docker" ∉ changes.map (·.field)) :
    ((clearDockerHost changes).foldl ShownNode.apply node).hasDocker = node.hasDocker := by
  refine foldl_apply_of_notMem (g := ShownNode.hasDocker) apply_hasDocker_other ?_ node
  intro hmem
  obtain ⟨b, hb⟩ := exists_hasDocker hmem
  rcases mem_clearDockerHost.1 hb with hb | ⟨heq, -, -⟩
  · exact h (List.mem_map.2 ⟨_, hb, rfl⟩)
  · cases heq

/-- An update that disables docker sets or clears the docker host. -/
theorem dockerHost_cleared (h : NodeChange.hasDocker (some false) ∈ changes) :
    "docker_host" ∈ (clearDockerHost changes).map (·.field) := by
  by_cases hset : "docker_host" ∈ changes.map (·.field)
  · obtain ⟨o, ho⟩ := exists_dockerHost hset
    exact List.mem_map.2 ⟨_, mem_clearDockerHost.2 (.inl ho), rfl⟩
  · exact List.mem_map.2 ⟨_, mem_clearDockerHost.2 (.inr ⟨rfl, h, hset⟩), rfl⟩

end Docker

/-! ## What the outcomes leave -/

/-- `None` for a column that is not null. -/
def NodeChange.nullsColumn : NodeChange → Bool
  | .name none | .host none | .port none | .connectionType none | .status none
  | .hasDocker none => true
  | _ => false

theorem setField_nullsColumn {db : Columns} {row row' : NodeRow} {change : NodeChange}
    (h : setField db row change = .ok row') : change.nullsColumn = false := by
  cases change with
  | name o | host o | port o | connectionType o | status o | hasDocker o =>
      cases o with
      | none => cases h
      | some v => rfl
  | _ => rfl

theorem setFields_nullsColumn {db : Columns} {changes : List NodeChange} {row row' : NodeRow}
    (h : setFields db row changes = .ok row') : ∀ c ∈ changes, c.nullsColumn = false := by
  induction changes generalizing row with
  | nil => exact fun c hc => nomatch hc
  | cons change changes ih =>
      obtain ⟨row₁, h₁, h₂⟩ := bind_eq_ok.1 h
      intro c hc
      rcases List.mem_cons.1 hc with rfl | hc
      · exact setField_nullsColumn h₁
      · exact ih h₂ c hc

theorem sealChange_nullsColumn {env : StoreEnv} {change secured : NodeChange}
    (h : sealChange env change = .ok secured) : secured.nullsColumn = change.nullsColumn := by
  cases change <;> simp only [sealChange, map_eq_ok, Except.ok.injEq] at h
  case password o => obtain ⟨v, -, rfl⟩ := h; rfl
  case sshKey o => obtain ⟨v, -, rfl⟩ := h; rfl
  case passphrase o => obtain ⟨v, -, rfl⟩ := h; rfl
  all_goals
    subst h
    rfl

/-- Each change is among the secured ones. -/
theorem exists_of_sealChanges {env : StoreEnv} {changes secured : List NodeChange}
    (h : sealChanges env changes = .ok secured) {c : NodeChange} (hc : c ∈ changes) :
    ∃ c' ∈ secured, sealChange env c = .ok c' := by
  induction changes generalizing secured with
  | nil => cases hc
  | cons change changes ih =>
      obtain ⟨first, hfirst, h⟩ := bind_eq_ok.1 h
      obtain ⟨rest, hrest, h⟩ := bind_eq_ok.1 h
      cases h
      rcases List.mem_cons.1 hc with rfl | hc
      · exact ⟨first, List.mem_cons_self .., hfirst⟩
      · obtain ⟨c', hc', hseal⟩ := ih hrest hc
        exact ⟨c', List.mem_cons_of_mem _ hc', hseal⟩

theorem textTags_clearDockerHost {changes : List NodeChange}
    (h : ∀ c ∈ changes, c.TextTags) : ∀ c ∈ clearDockerHost changes, c.TextTags := by
  intro c hc
  rcases mem_clearDockerHost.1 hc with hc | ⟨rfl, -, -⟩
  · exact h c hc
  · trivial

/-- What a request for a new node shows. -/
def NodeCreateDTO.shown (data : NodeCreateDTO) : ShownNode where
  name := data.name
  host := data.endpoint.host
  port := data.endpoint.port
  connectionType := data.endpoint.connectionType
  status := .active
  username := data.credentials.username
  dockerHost := data.endpoint.dockerHost
  hasDocker := data.endpoint.hasDocker
  tags := some (data.tags.map some)
  description := none

/-- **`create_node`** raises and leaves the nodes, or adds one that shows the request. -/
theorem createOutcome_cases {env : StoreEnv} (hdb : env.db.Lawful) (hback : env.db.ReadsBack)
    (nodes : NodeTable) (data : NodeCreateDTO) :
    (∃ e, createOutcome env nodes data = (.error e, nodes)) ∨
      ∃ row t, createOutcome env nodes data = (.ok row.toView, t) ∧
        t.rows = nodes.rows ++ [row] ∧ row.id = nodes.nextId ∧ row.shown = data.shown := by
  unfold createOutcome
  cases hseal : sealCreate env data with
  | error e => exact .inl ⟨e, rfl⟩
  | ok secured =>
      simp only
      obtain ⟨hname, hendpoint, husername, htags⟩ := sealCreate_eq_ok hseal
      cases hinsert : insertNode env nodes secured with
      | error e => exact .inl ⟨e, rfl⟩
      | ok made =>
          obtain ⟨t, row⟩ := made
          right
          unfold insertNode at hinsert
          split at hinsert
          · cases hinsert
          · cases hinsert
          · rename_i row' hbind
            split at hinsert
            · cases hinsert
            · rename_i t' hput
              cases hinsert
              obtain ⟨-, hrows, -⟩ := NamedTable.insert?_eq_some.1 hput
              refine ⟨row, t, rfl, hrows, bindCreate_id hbind, ?_⟩
              rw [bindCreate_shown hdb hback hbind, hname, hendpoint, husername, htags]
              rfl

/-- **`update_node`** raises and leaves the nodes, or changes one as it is asked to. -/
theorem updateOutcome_cases {env : StoreEnv} (hdb : env.db.Lawful) (hback : env.db.ReadsBack)
    (cfg : Setting) (nodes : NodeTable) (id : Uuid) {changes : List NodeChange}
    (htags : ∀ c ∈ changes, c.TextTags) :
    (∃ e, updateOutcome env cfg nodes id changes = (.error e, nodes)) ∨
      ∃ row new t, nodes.find? id = some row ∧
        updateOutcome env cfg nodes id changes = (.ok new.toView, t) ∧ new.id = id ∧
        new.shown = (clearDockerHost changes).foldl ShownNode.apply row.shown ∧
        (∀ c ∈ changes, c.nullsColumn = false) ∧
        ∀ i, t.find? i = if i = id then some new else nodes.find? i := by
  unfold updateOutcome
  cases hseal : sealChanges env (clearDockerHost changes) with
  | error e => exact .inl ⟨e, rfl⟩
  | ok secured =>
      simp only
      cases hupdate : updateRow env nodes id secured with
      | error e => exact .inl ⟨e, rfl⟩
      | ok found =>
          cases found with
          | none => exact .inl ⟨_, rfl⟩
          | some made =>
              obtain ⟨t, new⟩ := made
              right
              obtain ⟨row, row', hfind, hset, hnew, hleft⟩ := find?_of_updateRow hupdate
              obtain ⟨happly, hsecured⟩ := sealChanges_apply hseal row.shown
              have hshown := setFields_shown hdb hback
                (hsecured (textTags_clearDockerHost htags)) hset
              have hid : new.id = id := by
                rw [hnew]
                exact (setFields_id hset).trans (NamedTable.find?_eq_some.1 hfind).2
              refine ⟨row, new, t, hfind, rfl, hid, ?_, fun c hc => ?_, hleft⟩
              · rw [← happly, ← hshown, hnew]
                rfl
              · obtain ⟨c', hc', hsealed⟩ :=
                  exists_of_sealChanges hseal (mem_clearDockerHost.2 (.inl hc))
                rw [← sealChange_nullsColumn hsealed]
                exact setFields_nullsColumn hset c' hc'

end Node
end NodeNexus
