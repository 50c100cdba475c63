import NodeNexus.Config.RoundTrip
import NodeNexus.Node.Writes

/-!
# Docker hosts of stored nodes

`docker_host` requires `has_docker`: the schemas of the two write requests, of the import
and of the export check it.  An update is partial, so its check sees the fields of the
request only.

* `writeSystem` — accepted requests that create, update and import nodes.
* `Exports` — every stored node has docker if it has a docker host, and all of them can be
  exported.
* `SetsHostWithDocker` — an update that sets a docker host, and not `has_docker`, meets a
  node that has docker.
* `docker_host_has_docker` — every run of such updates keeps `Exports`, and the first other
  one that is applied breaks it.
-/

namespace NodeNexus
namespace Config

open Content Node
open NodeNexus.Core

/-! ## Writes -/

/-- What is around the requests; both gateways write to one database. -/
structure WriteEnv where
  exports : ExportEnv
  store : StoreEnv
  setting : Setting
  same_db : exports.db = store.db

/-- The nodes and the other tables of an import. -/
structure WriteState where
  world : NodeWorld
  commands : NamedTable (@Row.id CommandBody) (@Row.name CommandBody)
  scripts : NamedTable (@Row.id ScriptBody) (@Row.name ScriptBody)

/-- The tables as the gateway of the configuration sees them. -/
def WriteState.config (s : WriteState) : ConfigStore := ⟨s.world.nodes, s.commands, s.scripts⟩

/-- An accepted request, and when it is handled. -/
inductive NodeWrite (env : ExportEnv) where
  /-- An item of `bulk_create_nodes`. -/
  | create (now : DateTime) (item : NodeCreate env.uni env.isDecimal)
  /-- A PATCH of a node. -/
  | update (now : DateTime) (id : Uuid) (data : NodeUpdate env.uni env.isDecimal)
  /-- An import; its entries have the schemas of the export. -/
  | importConfig (now : DateTime) (orders : Orders) (data : ConfigExport env)

/-- The store at a moment. -/
def WriteEnv.storeAt (env : WriteEnv) (now : DateTime) : StoreEnv := { env.store with now := now }

/-- What the handler of an update comes to. -/
def WriteEnv.updated (env : WriteEnv) (s : WriteState) (now : DateTime) (id : Uuid)
    (data : NodeUpdate env.exports.uni env.exports.isDecimal) :
    Except NodeFailure NodeViewDTO × NodeWorld :=
  Program.run (perform (env.storeAt now)) (updateNode env.setting id data.toNodeUpdateDTO) s.world

/-- What a request leaves; where it raises an import leaves all tables. -/
def writeStep (env : WriteEnv) (s : WriteState) : NodeWrite env.exports → WriteState
  | .create now item =>
      { s with
        world := (Program.run (perform (env.storeAt now)) (createNode env.setting item.dto)
          s.world).2 }
  | .update now id data => { s with world := (env.updated s now id data).2 }
  | .importConfig now orders data =>
      match importConfig { env.exports.toConfigEnv with now := now } orders s.config
          (importRequest data) with
      | .error _ => s
      | .ok (c, _) =>
          { world := s.world.withNodes c.nodes, commands := c.commands, scripts := c.scripts }

/-- All runs of accepted requests, from a store without nodes. -/
def writeSystem (env : WriteEnv) : System WriteState (NodeWrite env.exports) where
  init s := s.world.nodes.rows = []
  step s write := some (writeStep env s write)

/-- Stored nodes have docker if they have a docker host, and the export validates all of
them, whatever the orders of its queries are. -/
structure Exports (env : WriteEnv) (s : WriteState) : Prop where
  docker : ∀ row ∈ s.world.nodes.rows, row.dockerHost.isSome = true → row.hasDocker = true
  valid : ∀ orders : Orders, orders.Of s.config →
    Returns ((load nodeGetAll env.exports.batchSize orders.nodes).mapM
      (exportNode env.exports.uni env.exports.isDecimal))

/-- An update that sets a docker host, and not `has_docker`, meets a node that has
docker. -/
def SetsHostWithDocker (env : WriteEnv) (s : WriteState) : NodeWrite env.exports → Prop
  | .update _ id data => ∀ host, NodeChange.dockerHost (some host) ∈ data.changes →
      "has_docker" ∉ data.changes.map (·.field) →
        ∀ row, s.world.nodes.find? id = some row → row.hasDocker = true
  | _ => True

/-! ## One node -/

theorem dockerFields_of_hasDocker {uni : Unicode} {isDecimal : IsDecimal} {host : String}
    {hasDocker : Bool} (hvalid : validDockerHost uni isDecimal host = true)
    (h : hasDocker = true) : dockerFields uni isDecimal (some host) hasDocker = true := by
  rw [dockerFields, Option.all_some, h, hvalid]
  rfl

section OneNode

variable {uni : Unicode} {isDecimal : IsDecimal}

/-- What a node shows passes the checks of `NodeExport`. -/
structure Exportable (uni : Unicode) (isDecimal : IsDecimal) (node : ShownNode) : Prop where
  tags : ∀ tag ∈ node.tags.getD [], tag.isSome = true
  name : safeName node.name = true
  docker : dockerFields uni isDecimal node.dockerHost node.hasDocker = true

theorem returns_exportNode_iff {row : NodeRow} :
    Returns (exportNode uni isDecimal row) ↔ Exportable uni isDecimal row.shown :=
  returns_exportNode.trans ⟨fun h => ⟨h.1, h.2.1, h.2.2⟩, fun h => ⟨h.tags, h.name, h.docker⟩⟩

theorem Exportable.has_docker {node : ShownNode} (h : Exportable uni isDecimal node)
    (hhost : node.dockerHost.isSome = true) : node.hasDocker = true := by
  obtain ⟨host, hhost⟩ := Option.isSome_iff_exists.1 hhost
  have hdocker := h.docker
  rw [hhost, dockerFields, Option.all_some, Bool.and_eq_true] at hdocker
  exact hdocker.1

theorem safeName_of_safeNameIn {lo hi : Nat} {s : String} (h : safeNameIn lo hi s = true) :
    safeName s = true := by
  simp only [safeNameIn, Bool.and_eq_true] at h
  exact h.1.1

/-- A change that passes its check leaves the tags and the name valid. -/
theorem apply_tags_name {node : ShownNode} {c : NodeChange} (h : c.FieldOk uni isDecimal)
    (htags : ∀ tag ∈ node.tags.getD [], tag.isSome = true) (hname : safeName node.name = true) :
    (∀ tag ∈ (node.apply c).tags.getD [], tag.isSome = true) ∧
      safeName (node.apply c).name = true := by
  unfold ShownNode.apply
  split <;> try exact ⟨htags, hname⟩
  · exact ⟨htags, safeName_of_safeNameIn h⟩
  · rename_i o
    refine ⟨fun tag htag => ?_, hname⟩
    cases o with
    | none => cases htag
    | some texts => exact h tag htag

theorem foldl_tags_name {changes : List NodeChange} (h : ∀ c ∈ changes, c.FieldOk uni isDecimal)
    {node : ShownNode} (htags : ∀ tag ∈ node.tags.getD [], tag.isSome = true)
    (hname : safeName node.name = true) :
    (∀ tag ∈ (changes.foldl ShownNode.apply node).tags.getD [], tag.isSome = true) ∧
      safeName (changes.foldl ShownNode.apply node).name = true := by
  induction changes generalizing node with
  | nil => exact ⟨htags, hname⟩
  | cons c changes ih =>
      obtain ⟨htags', hname'⟩ := apply_tags_name (h c (List.mem_cons_self ..)) htags hname
      exact ih (fun c' hc' => h c' (List.mem_cons_of_mem _ hc')) htags' hname'

/-- **An accepted update keeps a node exportable** when a docker host that it sets alone
meets a node that has docker. -/
theorem exportable_update {data : NodeUpdate uni isDecimal} {node : ShownNode}
    (h : Exportable uni isDecimal node) (hnull : NodeChange.hasDocker none ∉ data.changes)
    (hdocker : ∀ host, NodeChange.dockerHost (some host) ∈ data.changes →
      "has_docker" ∉ data.changes.map (·.field) → node.hasDocker = true) :
    Exportable uni isDecimal ((clearDockerHost data.changes).foldl ShownNode.apply node) := by
  have hnodup := nodup_clearDockerHost data.fields_nodup
  have hok : ∀ c ∈ clearDockerHost data.changes, c.FieldOk uni isDecimal := by
    intro c hc
    rcases mem_clearDockerHost.1 hc with hc | ⟨rfl, -, -⟩
    · exact data.fields_ok c hc
    · trivial
  obtain ⟨htags, hname⟩ := foldl_tags_name hok h.tags h.name
  refine ⟨htags, hname, ?_⟩
  by_cases hhost : "docker_host" ∈ (clearDockerHost data.changes).map (·.field)
  · obtain ⟨o, ho⟩ := exists_dockerHost hhost
    rw [dockerHost_of_mem hnodup ho]
    cases o with
    | none => rfl
    | some host =>
        -- the request sets a host, so `has_docker` is not set to false with it
        have hin : NodeChange.dockerHost (some host) ∈ data.changes := by
          rcases mem_clearDockerHost.1 ho with hin | ⟨heq, -, -⟩
          · exact hin
          · cases heq
        refine dockerFields_of_hasDocker (data.fields_ok _ hin) ?_
        by_cases hhas : "has_docker" ∈ data.changes.map (·.field)
        · obtain ⟨b, hb⟩ := exists_hasDocker hhas
          match b, hb with
          | none, hb => exact absurd hb hnull
          | some true, hb => exact hasDocker_of_mem hnodup (mem_clearDockerHost.2 (.inl hb)) node
          | some false, hb => exact absurd hb (data.docker_ok host hin)
        · rw [hasDocker_kept hhas]
          exact hdocker host hin hhas
  · rw [foldl_apply_of_notMem (g := ShownNode.dockerHost) apply_dockerHost_other hhost]
    cases hold : node.dockerHost with
    | none => rfl
    | some host =>
        -- a node that keeps its host is not told that it has no docker
        have hdock := h.docker
        rw [hold, dockerFields, Option.all_some, Bool.and_eq_true] at hdock
        refine dockerFields_of_hasDocker hdock.2 ?_
        by_cases hhas : "has_docker" ∈ data.changes.map (·.field)
        · obtain ⟨b, hb⟩ := exists_hasDocker hhas
          match b, hb with
          | none, hb => exact absurd hb hnull
          | some true, hb => exact hasDocker_of_mem hnodup (mem_clearDockerHost.2 (.inl hb)) node
          | some false, hb => exact absurd (dockerHost_cleared hb) hhost
        · rw [hasDocker_kept hhas]
          exact hdock.1

/-- A new node is exportable. -/
theorem exportable_create (item : NodeCreate uni isDecimal) :
    Exportable uni isDecimal item.dto.shown where
  tags tag htag := by
    obtain ⟨text, -, rfl⟩ := List.mem_map.1 htag
    rfl
  name := safeName_of_safeNameIn item.name_ok
  docker := item.docker_ok

/-- An imported node is exportable. -/
theorem exportable_import {db : Columns} (hdb : db.Lawful) (hback : db.ReadsBack) {now : DateTime}
    {i : Uuid} {entry : NodeExport uni isDecimal} {row : NodeRow}
    (h : bindNode db now i entry.dto = .ok row) : Exportable uni isDecimal row.shown := by
  obtain ⟨-, hbound⟩ := bindNode_eq_ok h
  refine ⟨fun tag htag => ?_, ?_, ?_⟩
  · have htags : row.tags = some (entry.tags.map some) := bindTags_eq hback hbound.tags
    have htag' : tag ∈ row.tags.getD [] := htag
    rw [htags] at htag'
    obtain ⟨text, -, rfl⟩ := List.mem_map.1 htag'
    rfl
  · show safeName row.name = true
    rw [bindName_eq hdb hbound.name]
    exact entry.name_ok
  · show dockerFields uni isDecimal row.dockerHost row.hasDocker = true
    rw [bindOptionalName_eq hdb hbound.dockerHost, hbound.hasDocker]
    exact entry.docker_ok

end OneNode

/-! ## All nodes -/

section AllNodes

variable {env : WriteEnv} {s : WriteState}

/-- Every stored node is exportable. -/
def AllExportable (env : WriteEnv) (nodes : NodeTable) : Prop :=
  ∀ row ∈ nodes.rows, Exportable env.exports.uni env.exports.isDecimal row.shown

/-- The rows that a load returns are stored. -/
theorem load_subset {ρ : Type} {rows : List ρ} {orders : Nat → List ρ} {batchSize : Nat}
    (horders : OrdersOf rows orders) : load cut batchSize orders ⊆ rows := by
  unfold load
  cases hload : loadAll cut batchSize orders ((orders 0).length + 1) with
  | none => exact List.nil_subset _
  | some items => exact loadFrom_subset horders (List.nil_subset _) hload

theorem AllExportable.exports (h : AllExportable env s.world.nodes) : Exports env s where
  docker row hrow hhost := (h row hrow).has_docker hhost
  valid orders horders := by
    refine returns_mapM.2 fun row hrow => returns_exportNode_iff.2 (h row ?_)
    exact load_subset horders.nodes hrow

/-- A created node joins the others. -/
theorem allExportable_create (hdb : env.store.db.Lawful) (hback : env.store.db.ReadsBack)
    (h : AllExportable env s.world.nodes) (now : DateTime)
    (item : NodeCreate env.exports.uni env.exports.isDecimal) :
    AllExportable env (writeStep env s (.create now item)).world.nodes := by
  have hcomes := comes_createNode (env.storeAt now) env.setting s.world item.dto
  have hdb' : (env.storeAt now).db.Lawful := hdb
  have hcases := createOutcome_cases hdb' hback s.world.nodes item.dto
  rw [← hcomes] at hcases
  obtain ⟨e, hout⟩ | ⟨row, t, hout, hrows, -, hshown⟩ := hcases
  · have hnodes : (writeStep env s (.create now item)).world.nodes = s.world.nodes :=
      (Prod.ext_iff.1 hout).2
    rw [hnodes]
    exact h
  · have hnodes : (writeStep env s (.create now item)).world.nodes = t := (Prod.ext_iff.1 hout).2
    rw [hnodes]
    intro row' hrow'
    rw [hrows] at hrow'
    rcases List.mem_append.1 hrow' with hold | hnew
    · exact h row' hold
    · rw [List.mem_singleton.1 hnew, hshown]
      exact exportable_create item

/-- What an applied update leaves: one node changes as it is asked to. -/
theorem updated_cases (hdb : env.store.db.Lawful) (hback : env.store.db.ReadsBack) (now : DateTime)
    (id : Uuid) (data : NodeUpdate env.exports.uni env.exports.isDecimal) :
    (∃ e, (env.updated s now id data).1 = .error e ∧
      (env.updated s now id data).2.nodes = s.world.nodes) ∨
    ∃ row new, s.world.nodes.find? id = some row ∧
      (env.updated s now id data).1 = .ok new.toView ∧
      new.shown = (clearDockerHost data.changes).foldl ShownNode.apply row.shown ∧
      (∀ c ∈ data.changes, c.nullsColumn = false) ∧
      ∀ i, (env.updated s now id data).2.nodes.find? i =
        if i = id then some new else s.world.nodes.find? i := by
  have hcomes := comes_updateNode (env.storeAt now) env.setting s.world id data.toNodeUpdateDTO
  have hdb' : (env.storeAt now).db.Lawful := hdb
  have hcases := updateOutcome_cases hdb' hback env.setting s.world.nodes id
    fun c hc => (data.fields_ok c hc).textTags
  rw [← hcomes] at hcases
  obtain ⟨e, hout⟩ | ⟨row, new, t, hfind, hout, -, hshown, hnull, hleft⟩ := hcases
  · exact .inl ⟨e, (Prod.ext_iff.1 hout).1, (Prod.ext_iff.1 hout).2⟩
  · refine .inr ⟨row, new, hfind, (Prod.ext_iff.1 hout).1, hshown, hnull, fun i => ?_⟩
    rw [← hleft i]
    exact congrArg (fun t : NodeTable => t.find? i) (Prod.ext_iff.1 hout).2

theorem allExportable_update (hdb : env.store.db.Lawful) (hback : env.store.db.ReadsBack)
    (h : AllExportable env s.world.nodes) (now : DateTime) (id : Uuid)
    (data : NodeUpdate env.exports.uni env.exports.isDecimal)
    (hsets : SetsHostWithDocker env s (.update now id data)) :
    AllExportable env (writeStep env s (.update now id data)).world.nodes := by
  show AllExportable env (env.updated s now id data).2.nodes
  obtain ⟨e, -, hnodes⟩ | ⟨row, new, hfind, -, hshown, hnull, hleft⟩ :=
    updated_cases hdb hback now id data
  · rw [hnodes]
    exact h
  · intro row' hrow
    have hfind' := hleft row'.id
    rw [NamedTable.find?_eq_some.2 ⟨hrow, rfl⟩] at hfind'
    split at hfind'
    · cases hfind'
      rw [hshown]
      refine exportable_update (h row (NamedTable.find?_eq_some.1 hfind).1) ?_ ?_
      · exact fun hnone => Bool.noConfusion (hnull _ hnone)
      · exact fun host hhost hnot => hsets host hhost hnot row hfind
    · exact h row' (NamedTable.find?_eq_some.1 hfind'.symm).1

/-- Imported nodes join the others. -/
theorem allExportable_import (hdb : env.store.db.Lawful) (hback : env.store.db.ReadsBack)
    (h : AllExportable env s.world.nodes) (now : DateTime) (orders : Orders)
    (data : ConfigExport env.exports) :
    AllExportable env (writeStep env s (.importConfig now orders data)).world.nodes := by
  rw [← env.same_db] at hdb hback
  simp only [writeStep]
  split
  · exact h
  · rename_i c result hok
    obtain ⟨⟨errors, hnodes⟩, -, -⟩ := importConfig_eq_ok hok
    obtain ⟨⟨rows, hmade, hrows⟩, -, -⟩ := Kind.importRows_eq_ok hnodes
    intro row hrow
    have hrow' : row ∈ c.nodes.rows := hrow
    rw [hrows] at hrow'
    rcases List.mem_append.1 hrow' with hold | hnew
    · exact h row hold
    · obtain ⟨dto, hdto, i, -, hbind⟩ := exists_of_forall₂_right hmade hnew
      have hfresh := (notSkipped_sublist _ (List.Subset.refl _) _).subset hdto
      obtain ⟨entry, -, rfl⟩ := List.mem_map.1 (List.mem_of_mem_filter hfresh)
      exact exportable_import hdb hback hbind

theorem allExportable_step (hdb : env.store.db.Lawful) (hback : env.store.db.ReadsBack)
    (h : AllExportable env s.world.nodes) (write : NodeWrite env.exports)
    (hsets : SetsHostWithDocker env s write) :
    AllExportable env (writeStep env s write).world.nodes := by
  cases write with
  | create now item => exact allExportable_create hdb hback h now item
  | update now id data => exact allExportable_update hdb hback h now id data hsets
  | importConfig now orders data => exact allExportable_import hdb hback h now orders data

/-- An update that sets the docker host of a node without docker, where it is applied. -/
theorem not_exports_update (hdb : env.store.db.Lawful) (hback : env.store.db.ReadsBack)
    {now : DateTime} {id : Uuid} {data : NodeUpdate env.exports.uni env.exports.isDecimal}
    (hsets : ¬ SetsHostWithDocker env s (.update now id data))
    (happlied : Returns (env.updated s now id data).1) :
    ¬ Exports env (writeStep env s (.update now id data)) := by
  intro h
  apply hsets
  intro host hhost hnot row hfind
  obtain ⟨e, herror, -⟩ | ⟨row', new, hfind', -, hshown, -, hleft⟩ :=
    updated_cases (s := s) hdb hback now id data
  · rw [herror] at happlied
    exact absurd happlied (not_returns_error e)
  · rw [hfind] at hfind'
    cases hfind'
    have hnew : (env.updated s now id data).2.nodes.find? id = some new := by
      rw [hleft id, if_pos rfl]
    have hkept : new.hasDocker = row.hasDocker :=
      (congrArg ShownNode.hasDocker hshown).trans (hasDocker_kept hnot)
    have hset : new.dockerHost = some host :=
      (congrArg ShownNode.dockerHost hshown).trans
        (dockerHost_of_mem (nodup_clearDockerHost data.fields_nodup)
          (mem_clearDockerHost.2 (.inl hhost)) row.shown)
    rw [← hkept]
    refine h.docker new (NamedTable.find?_eq_some.1 hnew).1 ?_
    rw [hset]
    rfl

end AllNodes

/-! ## All runs -/

/-- **A docker host implies docker**, and the export validates, in every run whose updates
set the docker host of a node with docker only, or set `has_docker` with it; another update
that is applied leaves a node that the export refuses. -/
theorem docker_host_has_docker (env : WriteEnv) (hdb : env.store.db.Lawful)
    (hback : env.store.db.ReadsBack) :
    (∀ s, (writeSystem env).Reach (SetsHostWithDocker env) s → Exports env s) ∧
      ∀ s now id data, ¬ SetsHostWithDocker env s (.update now id data) →
        Returns (env.updated s now id data).1 →
          ¬ Exports env (writeStep env s (.update now id data)) := by
  refine ⟨fun s h => ?_, fun s now id data hsets happlied => ?_⟩
  · have hall : AllExportable env s.world.nodes := by
      refine h.invariant (I := fun s => AllExportable env s.world.nodes) ?_ ?_
      · intro s hinit row hrow
        rw [hinit] at hrow
        cases hrow
      · intro s write s' hs hsets hstep
        cases hstep
        exact allExportable_step hdb hback hs write hsets
    exact hall.exports
  · exact not_exports_update hdb hback hsets happlied

/-- Every run of accepted writes leaves nodes that can be exported. -/
def AlwaysExports (env : WriteEnv) : Prop := ∀ s, (writeSystem env).Reachable s → Exports env s

/-- The gateways as they are built. -/
def plainWriteEnv : WriteEnv where
  exports := plainExportEnv
  store := plainStoreEnv
  setting := plainSetting
  same_db := rfl

/-- No nodes, commands and scripts. -/
def noWrites : WriteState := ⟨emptyWorld, .empty 1, .empty 1⟩

/-- A node without docker. -/
def dockerless : NodeCreate asciiUnicode Char.isDigit where
  name := "web"
  host := "10.0.0.1"
  port := 22
  connectionType := .ssh
  username := none
  password := none
  sshKey := none
  passphrase := none
  dockerHost := none
  hasDocker := false
  tags := []
  description := none
  name_ok := safeName_web
  host_ok := host_private
  port_ok := port_ssh
  description_ok _ h := nomatch h
  docker_ok := dockerFields_none _ _

/-- A request that sets the docker host alone. -/
def setHost : NodeUpdate asciiUnicode Char.isDigit where
  changes := [.dockerHost (some "unix:///run/docker.sock")]
  fields_nodup := List.nodup_singleton _
  fields_ok change hchange := by
    obtain rfl := List.mem_singleton.1 hchange
    show validDockerHost _ _ _ = true
    decide
  docker_ok _ _ h := by
    cases List.mem_singleton.1 h

/-- A request that sets it and `has_docker`. -/
def setDocker : NodeUpdate asciiUnicode Char.isDigit where
  changes := [.hasDocker (some true), .dockerHost (some "unix:///run/docker.sock")]
  fields_nodup := by decide
  fields_ok change hchange := by
    rcases List.mem_pair.1 hchange with rfl | rfl
    · trivial
    · show validDockerHost _ _ _ = true
      decide
  docker_ok _ _ h := by
    rcases List.mem_pair.1 h with h | h <;> cases h

/-- The docker host of a node without docker is set; the node keeps `has_docker` false. -/
theorem not_alwaysExports : ¬ AlwaysExports plainWriteEnv := by
  intro h
  obtain ⟨s, hrun, row, hrow, hhost, hdocker⟩ : ∃ s, (writeSystem plainWriteEnv).exec noWrites
      [.create fleetMoment dockerless, .update fleetMoment 1 setHost] = some s ∧
      ∃ row ∈ s.world.nodes.rows, row.dockerHost.isSome = true ∧ row.hasDocker = false :=
    ⟨_, rfl, _, List.mem_singleton_self _, rfl, rfl⟩
  have hstart : (writeSystem plainWriteEnv).init noWrites := rfl
  have hexports := h s (System.reachable_of_exec hstart hrun)
  exact Bool.noConfusion (hdocker.symm.trans (hexports.docker row hrow hhost))

/-- Set together with `has_docker` the host can be exported. -/
theorem docker_host_has_docker_both : Exports plainWriteEnv
    (writeStep plainWriteEnv (writeStep plainWriteEnv noWrites (.create fleetMoment dockerless))
      (.update fleetMoment 1 setDocker)) := by
  have hstart : (writeSystem plainWriteEnv).Reach (SetsHostWithDocker plainWriteEnv) noWrites :=
    .start rfl
  have hcreated := System.Reach.next hstart (e := NodeWrite.create fleetMoment dockerless) trivial rfl
  have hupdated := System.Reach.next hcreated (e := NodeWrite.update fleetMoment 1 setDocker)
    (fun _ _ hnot => absurd (List.mem_cons_self ..) hnot) rfl
  exact (docker_host_has_docker plainWriteEnv plainColumns_lawful plainColumns_readsBack).1 _ hupdated

end Config
end NodeNexus
