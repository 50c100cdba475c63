import Mathlib.Data.List.Dedup
import Mathlib.Data.List.Forall2
import NodeNexus.Core.ErrorSanitize
import NodeNexus.Docker.ErrorMapper
import NodeNexus.Docker.Parsers
import NodeNexus.Node.Targets

/-!
# Bulk docker operations

`DockerBulkService` repeats the operations of the services for containers and images on many
nodes, and decides by itself which of them succeeded.

* `DockerServices` — the stored nodes and what a docker command comes to on each of them.
* `bulk` — the bulk operations: targets, workers, and the merge by index.
* `Succeeds` — the single operation returns normally, with exit code 0.
* `bulk_agrees_iff` — the two agree unless a command fails without an error text, or the logs
  of a container are on both streams or have blanks at an end.
-/

namespace NodeNexus
namespace Docker

open Content Node
open NodeNexus.Core

/-! ## Services -/

/-- `RemoteExecutionResult`. -/
structure ExecResult where
  stdout : String
  stderr : String
  exitCode : Int

/-- What the services below answer. -/
structure DockerServices where
  lowercase : Lowercase
  isPrintable : Char → Bool
  printUuid : Uuid → String
  /-- `get_connection`. -/
  getConnection : Uuid → Option NodeConnectionDTO
  /-- `get_connections_by_tags`. -/
  connectionsByTags : List String → Except NodeFailure (List NodeConnectionDTO)
  /-- `DockerRuntime.execute`, of the one command that is run on a node. -/
  execute : NodeConnectionDTO → Except NodeFailure ExecResult

/-- An accepted reference of a container. -/
structure ContainerId where
  value : String
  accepted : referenceRe value = true

/-- The actions of `bulk_container_action`. -/
inductive ContainerAction where
  | start
  | stop
  | restart
  | remove
  deriving DecidableEq

/-- The operations that exist for one node and for many. -/
inductive DockerOperation where
  | containerAction (containerId : ContainerId) (action : ContainerAction)
  | exec (containerId : ContainerId)
  | pullImage (image : String)
  | imageRemove (imageId : String)
  | imageBuild (tag : String) (buildArgs : List (String × String))
  | logs (containerId : ContainerId)

namespace DockerServices

variable (env : DockerServices)

/-- `DockerCommandRunner.get_target`. -/
def getTarget (nodeId : Uuid) : Except NodeFailure NodeConnectionDTO :=
  match env.getConnection nodeId with
  | none => .error ⟨.nodeNotFoundError, "Node " ++ env.printUuid nodeId ++ " not found"⟩
  | some node =>
      if node.endpoint.hasDocker then .ok node
      else .error ⟨.domain .dockerError,
        "Node " ++ env.printUuid nodeId ++ " is not a Docker node (has_docker=false)"⟩

/-- `str.strip` of a string. -/
def stripped (s : String) : String := String.ofList (strip s.toList)

/-- `_BUILD_ARG_KEY_RE`: `^[A-Za-z_][A-Za-z0-9_]*$`, the whole text. -/
def buildArgKeyRe (s : String) : Bool :=
  match s.toList with
  | [] => false
  | c :: cs => (c.isAlpha || c = '_') && cs.all fun d => d.isAlphanum || d = '_'

/-- `validate_build_arg_key`. -/
def validateBuildArgKey (key : String) : Except NodeFailure String :=
  validated buildArgKeyRe ("Invalid build arg key: " ++
    Json.reprStr env.isPrintable key ++ ". " ++
    "Must start with letter/underscore and contain only " ++
    "alphanumeric characters and underscores.") key

/-- The checks of an operation that are made before its command is built. -/
def checked : DockerOperation → Except NodeFailure Unit
  | .containerAction _ _ | .exec _ | .logs _ => .ok ()
  | .pullImage image => do
      let _ ← validateImageName env.isPrintable image
      .ok ()
  | .imageRemove imageId => do
      let _ ← validateImageTag env.isPrintable imageId
      .ok ()
  | .imageBuild tag buildArgs => do
      let _ ← validateImageTag env.isPrintable tag
      buildArgs.forM fun e => do
        let _ ← env.validateBuildArgKey e.1
        .ok ()

/-! ## One node -/

/-- Check, load the target, run the command. -/
def run (op : DockerOperation) (nodeId : Uuid) : Except NodeFailure ExecResult := do
  env.checked op
  let node ← env.getTarget nodeId
  env.execute node

/-- What most operations do: an exit code other than 0 is raised. -/
def runChecked (op : DockerOperation) (nodeId : Uuid) : Except NodeFailure ExecResult := do
  let result ← env.run op nodeId
  raiseForDockerError env.lowercase result.stderr result.exitCode
  .ok result

/-- `_lifecycle_action`, of `start_container`, `stop_container`, `restart_container` and
`remove_container`. -/
def lifecycleAction (containerId : ContainerId) (action : ContainerAction) (nodeId : Uuid) :
    Except NodeFailure Unit := do
  let _ ← env.runChecked (.containerAction containerId action) nodeId
  .ok ()

/-- `exec_command`: an exception of the runtime becomes a result with exit code 124. -/
def execCommand (containerId : ContainerId) (nodeId : Uuid) : Except NodeFailure ExecResult := do
  env.checked (.exec containerId)
  let node ← env.getTarget nodeId
  match env.execute node with
  | .ok result => .ok result
  | .error e => .ok ⟨"", e.text, 124⟩

/-- `DockerPullResultDTO`. -/
structure DockerPullResultDTO where
  image : String
  output : String
  success : Bool

/-- `pull_image`: a failed connection is not raised. -/
def pullImage (image : String) (nodeId : Uuid) : Except NodeFailure DockerPullResultDTO := do
  env.checked (.pullImage image)
  let node ← env.getTarget nodeId
  match env.execute node with
  | .error e =>
      if e.kind = .connectionFailedError then .ok ⟨image, e.text, false⟩ else .error e
  | .ok result => do
      raiseForDockerError env.lowercase result.stderr result.exitCode
      let success := decide (result.exitCode = 0)
      .ok ⟨image, if success then result.stdout else result.stderr, success⟩

/-- `remove_image`. -/
def removeImage (imageId : String) (nodeId : Uuid) : Except NodeFailure Unit := do
  let _ ← env.runChecked (.imageRemove imageId) nodeId
  .ok ()

/-- `DockerImageBuildResultDTO`, less the id that is searched for in the output. -/
structure DockerImageBuildResultDTO where
  tag : String
  output : String

/-- `build_image`. -/
def buildImage (tag : String) (buildArgs : List (String × String)) (nodeId : Uuid) :
    Except NodeFailure DockerImageBuildResultDTO := do
  let result ← env.runChecked (.imageBuild tag buildArgs) nodeId
  .ok ⟨tag, stripped result.stdout⟩

/-- The two streams of a container, one after the other. -/
def bothStreams (stdout stderr : String) : String :=
  if stdout ≠ "" ∧ stderr ≠ "" then
    if stdout.toList.getLast? = some '\n' ∨ stderr.toList.head? = some '\n' then
      stdout ++ stderr
    else stdout ++ "\n" ++ stderr
  else if stdout ≠ "" then stdout else stderr

/-- `get_logs`. -/
def getLogs (containerId : ContainerId) (nodeId : Uuid) : Except NodeFailure String := do
  let result ← env.runChecked (.logs containerId) nodeId
  .ok (bothStreams result.stdout result.stderr)

/-- The single operation returns normally, with exit code 0. -/
def Succeeds (nodeId : Uuid) : DockerOperation → Prop
  | .containerAction containerId action => env.lifecycleAction containerId action nodeId = .ok ()
  | .exec containerId => ∃ result, env.execCommand containerId nodeId = .ok result ∧
      result.exitCode = 0
  | .pullImage image => ∃ result, env.pullImage image nodeId = .ok result ∧
      result.success = true
  | .imageRemove imageId => env.removeImage imageId nodeId = .ok ()
  | .imageBuild tag buildArgs => ∃ result, env.buildImage tag buildArgs nodeId = .ok result
  | .logs containerId => ∃ output, env.getLogs containerId nodeId = .ok output

/-! ## Many nodes -/

/-- The status of an item. -/
inductive BulkStatus where
  | success
  | error
  deriving DecidableEq

/-- `BulkDockerNodeResultDTO`, and `BulkDockerPullResultDTO` with the same fields. -/
structure BulkDockerNodeResultDTO where
  nodeId : String
  nodeName : String
  status : BulkStatus
  output : String
  error : String

/-- `BulkDockerResultDTO`, and `BulkDockerPullResultsDTO`. -/
structure BulkDockerResultDTO where
  results : List BulkDockerNodeResultDTO
  total : Nat
  succeeded : Nat
  failed : Nat

/-- `_resolve_node_ids`.  A failed search for tags finds nothing. -/
def resolveNodeIds (nodeIds : List Uuid) (nodeTags : List String) : List Uuid :=
  if nodeTags = [] then nodeIds
  else
    let tagNodes := match env.connectionsByTags nodeTags with
      | .ok nodes => nodes
      | .error _ => []
    let tagIds := (tagNodes.filter (·.endpoint.hasDocker)).map (·.id)
    -- the first of equal ids is kept
    (nodeIds ++ tagIds).reverse.dedup.reverse

/-- The result of a target that cannot be loaded. -/
def prepareError (nodeId : Uuid) (e : NodeFailure) : BulkDockerNodeResultDTO where
  nodeId := env.printUuid nodeId
  nodeName := "unknown"
  status := .error
  output := ""
  error := if e.kind = .nodeNotFoundError then "Node not found" else sanitizeBulkError e

/-- A target, with its index. -/
structure Prepared where
  index : Nat
  nodeId : String
  node : NodeConnectionDTO

/-- `_prepare`, from an index on: the targets and the errors. -/
def prepareFrom : Nat → List Uuid → List Prepared × List (Nat × BulkDockerNodeResultDTO)
  | _, [] => ([], [])
  | index, nodeId :: rest =>
      match env.getTarget nodeId with
      | .ok node =>
          (⟨index, env.printUuid nodeId, node⟩ :: (prepareFrom (index + 1) rest).1,
            (prepareFrom (index + 1) rest).2)
      | .error e =>
          ((prepareFrom (index + 1) rest).1,
            (index, env.prepareError nodeId e) :: (prepareFrom (index + 1) rest).2)

/-- The result of a command whose failure is seen by its exit code and its error text. -/
def textualResult (nodeId nodeName : String) (result : ExecResult) : BulkDockerNodeResultDTO :=
  if result.exitCode ≠ 0 ∧ result.stderr ≠ "" then
    ⟨nodeId, nodeName, .error, "", stripped result.stderr⟩
  else ⟨nodeId, nodeName, .success, stripped result.stdout, ""⟩

/-- The result that a worker makes of what a command has come to. -/
def itemResult (nodeId nodeName : String) (result : ExecResult) :
    DockerOperation → BulkDockerNodeResultDTO
  | .containerAction _ _ | .pullImage _ | .imageRemove _ | .imageBuild _ _ =>
      textualResult nodeId nodeName result
  | .exec _ =>
      ⟨nodeId, nodeName, if result.exitCode = 0 then .success else .error,
        stripped result.stdout, if result.exitCode ≠ 0 then stripped result.stderr else ""⟩
  | .logs _ =>
      ⟨nodeId, nodeName, if result.exitCode = 0 then .success else .error,
        if stripped result.stdout ≠ "" then stripped result.stdout else stripped result.stderr,
        if result.exitCode ≠ 0 ∧ result.stderr ≠ "" then stripped result.stderr else ""⟩

/-- The worker of a target. -/
def worker (op : DockerOperation) (target : Prepared) : BulkDockerNodeResultDTO :=
  match (do env.checked op; env.execute target.node : Except NodeFailure ExecResult) with
  | .ok result => itemResult target.nodeId target.node.name result op
  | .error e => ⟨target.nodeId, "unknown", .error, "", sanitizeBulkError e⟩

/-- `_finalize`, and the merge of the operations on images.  No target has the index of an
error. -/
def finalize (prepared : List Prepared) (errors : List (Nat × BulkDockerNodeResultDTO))
    (remote : List BulkDockerNodeResultDTO) : List BulkDockerNodeResultDTO :=
  let merged := errors ++ (prepared.zip remote).map fun p => (p.1.index, p.2)
  (merged.mergeSort fun a b => decide (a.1 ≤ b.1)).map (·.2)

/-- `_response`. -/
def response (results : List BulkDockerNodeResultDTO) : BulkDockerResultDTO :=
  let succeeded := results.countP fun result => result.status = .success
  ⟨results, results.length, succeeded, results.length - succeeded⟩

/-- `bulk_container_action`, `bulk_exec`, `bulk_pull_image`, `bulk_image_remove`,
`bulk_image_build` and `bulk_logs`. -/
def bulk (op : DockerOperation) (nodeIds : List Uuid) (nodeTags : List String) :
    BulkDockerResultDTO :=
  let prepared := env.prepareFrom 0 (env.resolveNodeIds nodeIds nodeTags)
  response (finalize prepared.1 prepared.2 (prepared.1.map (env.worker op)))

/-! ## Agreement -/

/-- One item agrees with the single operation on its node. -/
structure ItemAgrees (op : DockerOperation) (nodeId : Uuid) (item : BulkDockerNodeResultDTO) :
    Prop where
  own : item.nodeId = env.printUuid nodeId
  status : item.status = .success ↔ env.Succeeds nodeId op
  output : item.status = .success → ∀ containerId, op = .logs containerId →
    env.getLogs containerId nodeId = .ok item.output

/-- A bulk operation agrees with the single ones: one item per target, in the order of the
targets, and totals that add up. -/
structure BulkAgrees (op : DockerOperation) (nodeIds : List Uuid) (nodeTags : List String) :
    Prop where
  items : List.Forall₂ (env.ItemAgrees op) (env.resolveNodeIds nodeIds nodeTags)
    (env.bulk op nodeIds nodeTags).results
  total : (env.bulk op nodeIds nodeTags).total = (env.bulk op nodeIds nodeTags).results.length
  parts : (env.bulk op nodeIds nodeTags).total =
    (env.bulk op nodeIds nodeTags).succeeded + (env.bulk op nodeIds nodeTags).failed

/-- What the outcome of a command tells is read in one way by both: a failure has an error
text; the logs are on one stream, without blanks at an end. -/
def Telling (result : ExecResult) : DockerOperation → Prop
  | .containerAction _ _ | .pullImage _ | .imageRemove _ | .imageBuild _ _ =>
      result.exitCode = 0 ∨ result.stderr ≠ ""
  | .exec _ => True
  | .logs _ => result.exitCode = 0 → (result.stdout = "" ∨ result.stderr = "") ∧
      stripped result.stdout = result.stdout ∧ stripped result.stderr = result.stderr

/-! ### The merge -/

/-- Sorting by an index puts a permuted numbered list in its order again. -/
theorem mergeSort_of_perm {α : Type} {l l' : List (Nat × α)} (hperm : l.Perm l')
    (hsorted : l'.Pairwise fun a b => a.1 < b.1) :
    l.mergeSort (fun a b => decide (a.1 ≤ b.1)) = l' := by
  have hmerge : (l.mergeSort fun a b => decide (a.1 ≤ b.1)).Perm l' :=
    (List.mergeSort_perm l _).trans hperm
  have hpairwise : (l.mergeSort fun a b => decide (a.1 ≤ b.1)).Pairwise
      fun a b => a.1 ≤ b.1 := by
    have htrans : ∀ a b c : Nat × α, decide (a.1 ≤ b.1) = true → decide (b.1 ≤ c.1) = true →
        decide (a.1 ≤ c.1) = true := by
      intro a b c hab hbc
      rw [decide_eq_true_eq] at hab hbc ⊢
      exact Nat.le_trans hab hbc
    have htotal : ∀ a b : Nat × α, (decide (a.1 ≤ b.1) || decide (b.1 ≤ a.1)) = true := by
      intro a b
      rw [Bool.or_eq_true, decide_eq_true_eq, decide_eq_true_eq]
      exact Nat.le_total _ _
    exact (List.pairwise_mergeSort htrans htotal l).imp fun h => of_decide_eq_true h
  refine List.Perm.eq_of_pairwise ?_ hpairwise (hsorted.imp fun h => Nat.le_of_lt h) hmerge
  intro a b ha hb hab hba
  have hkeys : (l'.map (·.1)).Nodup := by
    rw [List.nodup_iff_pairwise_ne, List.pairwise_map]
    exact hsorted.imp fun h => Nat.ne_of_lt h
  exact List.inj_on_of_nodup_map hkeys (hmerge.subset ha) hb (Nat.le_antisymm hab hba)

/-- The result of a target. -/
def resultOf (op : DockerOperation) (nodeId : Uuid) : BulkDockerNodeResultDTO :=
  match env.getTarget nodeId with
  | .ok node => env.worker op ⟨0, env.printUuid nodeId, node⟩
  | .error e => env.prepareError nodeId e

/-- The results with the indices of their targets. -/
def numbered (op : DockerOperation) : Nat → List Uuid → List (Nat × BulkDockerNodeResultDTO)
  | _, [] => []
  | index, nodeId :: rest => (index, env.resultOf op nodeId) :: numbered op (index + 1) rest

theorem numbered_snd (op : DockerOperation) (index : Nat) (nodeIds : List Uuid) :
    (env.numbered op index nodeIds).map (·.2) = nodeIds.map (env.resultOf op) := by
  induction nodeIds generalizing index with
  | nil => rfl
  | cons nodeId rest ih => simp [numbered, ih]

theorem le_of_mem_numbered {op : DockerOperation} {index : Nat} {nodeIds : List Uuid}
    {p : Nat × BulkDockerNodeResultDTO} (h : p ∈ env.numbered op index nodeIds) :
    index ≤ p.1 := by
  induction nodeIds generalizing index with
  | nil => cases h
  | cons nodeId rest ih =>
      rcases List.mem_cons.1 h with rfl | h
      · exact Nat.le_refl _
      · exact Nat.le_of_succ_le (ih h)

theorem numbered_pairwise (op : DockerOperation) (index : Nat) (nodeIds : List Uuid) :
    (env.numbered op index nodeIds).Pairwise fun a b => a.1 < b.1 := by
  induction nodeIds generalizing index with
  | nil => exact List.Pairwise.nil
  | cons nodeId rest ih =>
      refine List.pairwise_cons.2 ⟨fun p hp => ?_, ih (index + 1)⟩
      exact env.le_of_mem_numbered hp

/-- The merged results are the numbered ones, in another order. -/
theorem merged_perm (op : DockerOperation) (index : Nat) (nodeIds : List Uuid) :
    ((env.prepareFrom index nodeIds).2 ++
      ((env.prepareFrom index nodeIds).1.zip
        ((env.prepareFrom index nodeIds).1.map (env.worker op))).map
          fun p => (p.1.index, p.2)).Perm (env.numbered op index nodeIds) := by
  induction nodeIds generalizing index with
  | nil => exact List.Perm.refl _
  | cons nodeId rest ih =>
      have hrest := ih (index + 1)
      rw [numbered, resultOf]
      cases htarget : env.getTarget nodeId with
      | ok node =>
          simp only [prepareFrom, htarget, List.map_cons, List.zip_cons_cons]
          exact List.perm_middle.trans (List.Perm.cons _ hrest)
      | error e =>
          simp only [prepareFrom, htarget, List.cons_append]
          exact List.Perm.cons _ hrest

/-- **The results of a bulk operation are the results of its targets, in their order.** -/
theorem bulk_results (op : DockerOperation) (nodeIds : List Uuid) (nodeTags : List String) :
    (env.bulk op nodeIds nodeTags).results =
      (env.resolveNodeIds nodeIds nodeTags).map (env.resultOf op) := by
  have hperm := env.merged_perm op 0 (env.resolveNodeIds nodeIds nodeTags)
  have hsort := mergeSort_of_perm hperm (env.numbered_pairwise op 0 _)
  rw [← env.numbered_snd op 0, ← hsort]
  rfl

/-- The totals of a response add up. -/
theorem response_totals (results : List BulkDockerNodeResultDTO) :
    (response results).total = (response results).results.length ∧
      (response results).total = (response results).succeeded + (response results).failed := by
  have hle : results.countP (fun result => decide (result.status = .success)) ≤
      results.length := List.countP_le_length
  refine ⟨rfl, ?_⟩
  simp only [response]
  omega

/-! ### Single operations -/

/-- No error is raised exactly for exit code 0. -/
theorem raiseForDockerError_eq_ok (lc : Lowercase) (stderr : String) (exitCode : Int) :
    raiseForDockerError lc stderr exitCode = .ok () ↔ exitCode = 0 := by
  unfold raiseForDockerError
  by_cases h : exitCode = 0
  · simp [h]
  · rw [if_neg h]
    simp only [h, iff_false]
    split
    · simp
    · split
      · simp
      · split <;> simp

/-- The command is run on a target, and its result is at hand. -/
def Ran (op : DockerOperation) (nodeId : Uuid) (result : ExecResult) : Prop :=
  env.checked op = .ok () ∧ ∃ node, env.getTarget nodeId = .ok node ∧
    env.execute node = .ok result

theorem run_eq_ok {op : DockerOperation} {nodeId : Uuid} {result : ExecResult} :
    env.run op nodeId = .ok result ↔ env.Ran op nodeId result := by
  unfold run Ran
  cases hchecked : env.checked op with
  | error e => simp [bind, Except.bind]
  | ok _ =>
      cases htarget : env.getTarget nodeId with
      | error e => simp [bind, Except.bind]
      | ok node => simp [bind, Except.bind]

theorem runChecked_eq_ok {op : DockerOperation} {nodeId : Uuid} {result : ExecResult} :
    env.runChecked op nodeId = .ok result ↔ env.Ran op nodeId result ∧ result.exitCode = 0 := by
  rw [← env.run_eq_ok]
  unfold runChecked
  cases hrun : env.run op nodeId with
  | error e => simp [bind, Except.bind]
  | ok result' =>
      cases hraise : raiseForDockerError env.lowercase result'.stderr result'.exitCode with
      | error e =>
          have hexit : result'.exitCode ≠ 0 := by
            intro hzero
            rw [(raiseForDockerError_eq_ok _ _ _).2 hzero] at hraise
            cases hraise
          simp only [bind, Except.bind, hraise, reduceCtorEq, false_iff, not_and,
            Except.ok.injEq]
          rintro rfl
          exact hexit
      | ok _ =>
          have hexit := (raiseForDockerError_eq_ok _ _ _).1 hraise
          simp only [bind, Except.bind, hraise, Except.ok.injEq]
          constructor
          · rintro rfl
            exact ⟨rfl, hexit⟩
          · exact And.left

/-- A run that drops its result ends normally exactly when there is one. -/
theorem returns_of_run {α β : Type} {x : Except NodeFailure α} {f : α → β} :
    (∃ b, (do let a ← x; .ok (f a) : Except NodeFailure β) = .ok b) ↔ ∃ a, x = .ok a := by
  cases x with
  | error e => simp [bind, Except.bind]
  | ok a => simp [bind, Except.bind]

/-- **A single operation succeeds exactly when its command has run with exit code 0.** -/
theorem succeeds_iff (nodeId : Uuid) (op : DockerOperation) :
    env.Succeeds nodeId op ↔ ∃ result, env.Ran op nodeId result ∧ result.exitCode = 0 := by
  have hunit : ∀ {x : Except NodeFailure Unit}, x = .ok () ↔ ∃ u, x = .ok u := by
    intro x
    constructor
    · intro h
      exact ⟨(), h⟩
    · rintro ⟨⟨⟩, h⟩
      exact h
  cases op with
  | containerAction containerId action =>
      rw [Succeeds, hunit, lifecycleAction, returns_of_run]
      simp only [runChecked_eq_ok]
  | imageRemove imageId =>
      rw [Succeeds, hunit, removeImage, returns_of_run]
      simp only [runChecked_eq_ok]
  | imageBuild tag buildArgs =>
      rw [Succeeds, buildImage, returns_of_run]
      simp only [runChecked_eq_ok]
  | logs containerId =>
      rw [Succeeds, getLogs, returns_of_run]
      simp only [runChecked_eq_ok]
  | exec containerId =>
      unfold Succeeds execCommand Ran
      cases htarget : env.getTarget nodeId with
      | error e => simp [checked, bind, Except.bind]
      | ok node =>
          cases hexecute : env.execute node with
          | error e => simp [checked, bind, Except.bind, hexecute]
          | ok result => simp [checked, bind, Except.bind, hexecute]
  | pullImage image =>
      unfold Succeeds pullImage Ran
      cases hchecked : env.checked (.pullImage image) with
      | error e => simp [hchecked, bind, Except.bind]
      | ok _ =>
          cases htarget : env.getTarget nodeId with
          | error e => simp [hchecked, bind, Except.bind]
          | ok node =>
              cases hexecute : env.execute node with
              | error e =>
                  by_cases hkind : e.kind = .connectionFailedError <;>
                    simp [hchecked, bind, Except.bind, hexecute, hkind]
              | ok result =>
                  have hraise := raiseForDockerError_eq_ok env.lowercase result.stderr
                    result.exitCode
                  cases hraised : raiseForDockerError env.lowercase result.stderr
                      result.exitCode with
                  | error e =>
                      rw [hraised] at hraise
                      simp only [reduceCtorEq, false_iff] at hraise
                      simp [hchecked, bind, Except.bind, hexecute, hraised, hraise]
                  | ok _ =>
                      rw [hraised] at hraise
                      simp only [true_iff] at hraise
                      rw [hraise] at hraised
                      simp [hchecked, bind, Except.bind, hexecute, hraised, hraise]

/-! ### Items -/

/-- The item of a target whose command has run. -/
theorem resultOf_ran {op : DockerOperation} {nodeId : Uuid} {result : ExecResult}
    (h : env.Ran op nodeId result) : ∃ nodeName,
      env.resultOf op nodeId = itemResult (env.printUuid nodeId) nodeName result op := by
  obtain ⟨hchecked, node, htarget, hexecute⟩ := h
  refine ⟨node.name, ?_⟩
  unfold resultOf worker
  rw [htarget]
  simp [hchecked, hexecute, bind, Except.bind]

/-- The item of a target whose command has not run. -/
theorem resultOf_not_ran {op : DockerOperation} {nodeId : Uuid}
    (h : ∀ result, ¬ env.Ran op nodeId result) :
    (env.resultOf op nodeId).nodeId = env.printUuid nodeId ∧
      (env.resultOf op nodeId).status = .error := by
  unfold resultOf
  cases htarget : env.getTarget nodeId with
  | error e => exact ⟨rfl, rfl⟩
  | ok node =>
      unfold worker
      cases hchecked : env.checked op with
      | error e => exact ⟨rfl, rfl⟩
      | ok _ =>
          cases hexecute : env.execute node with
          | error e => simp [bind, Except.bind, hexecute]
          | ok result => exact absurd ⟨hchecked, node, htarget, hexecute⟩ (h result)

/-- Stripping makes no text longer. -/
theorem length_stripped_le (s : String) : (stripped s).length ≤ s.length := by
  have hdrop : ∀ cs : List Char, (cs.dropWhile isSpace).length ≤ cs.length :=
    fun cs => (List.dropWhile_sublist _).length_le
  have hback := hdrop ((s.toList.dropWhile isSpace).reverse)
  have hfront := hdrop s.toList
  rw [List.length_reverse] at hback
  rw [stripped, String.length_ofList, strip, List.length_reverse, ← String.length_toList]
  exact Nat.le_trans hback hfront

/-- Both streams together are longer than each of them. -/
theorem length_bothStreams {stdout stderr : String} (hout : stdout ≠ "") (herr : stderr ≠ "") :
    stdout.length + stderr.length ≤ (bothStreams stdout stderr).length := by
  unfold bothStreams
  rw [if_pos ⟨hout, herr⟩]
  split
  · rw [String.length_append]
  · rw [String.length_append, String.length_append]
    omega

/-- What the single operation returns as logs is what the bulk operation shows, exactly when
it is on one stream and has no blanks at its ends. -/
theorem logs_eq_iff (stdout stderr : String) :
    bothStreams stdout stderr =
        (if stripped stdout ≠ "" then stripped stdout else stripped stderr) ↔
      (stdout = "" ∨ stderr = "") ∧ stripped stdout = stdout ∧ stripped stderr = stderr := by
  have hempty : stripped "" = "" := rfl
  have hpos : ∀ s : String, s ≠ "" → 0 < s.length := by
    intro s hs
    rw [Nat.pos_iff_ne_zero, ne_eq, ← String.length_toList, List.length_eq_zero_iff,
      String.toList_eq_nil_iff]
    exact hs
  by_cases hout : stdout = ""
  · subst hout
    simp only [bothStreams, hempty, ne_eq, not_true_eq_false, false_and, if_false, true_or,
      true_and]
    exact eq_comm
  · by_cases herr : stderr = ""
    · subst herr
      simp only [bothStreams, hempty, hout, ne_eq, not_false_eq_true, not_true_eq_false,
        and_false, if_false, if_true, or_true, true_and, and_true]
      by_cases hstripped : stripped stdout = ""
      · rw [if_neg (by simp [hstripped]), hstripped]
        exact ⟨fun h => absurd h hout, fun h => absurd h.symm hout⟩
      · rw [if_pos hstripped]
        exact eq_comm
    · have hlong := length_bothStreams hout herr
      have hshort := length_stripped_le stdout
      have hshort' := length_stripped_le stderr
      have hone := hpos stdout hout
      have hone' := hpos stderr herr
      simp only [hout, herr, or_self, false_and, iff_false]
      intro heq
      rw [heq] at hlong
      split at hlong <;> omega

/-- The item of a command that has run agrees with the single operation if and only if the
outcome tells the same to both. -/
theorem itemAgrees_ran {op : DockerOperation} {nodeId : Uuid} {result : ExecResult}
    (h : env.Ran op nodeId result) :
    env.ItemAgrees op nodeId (env.resultOf op nodeId) ↔ Telling result op := by
  obtain ⟨nodeName, hitem⟩ := env.resultOf_ran h
  have hone : ∀ result', env.Ran op nodeId result' → result' = result := by
    rintro result' h'
    rw [← env.run_eq_ok] at h h'
    rw [h] at h'
    cases h'
    rfl
  have hsucceeds : env.Succeeds nodeId op ↔ result.exitCode = 0 := by
    rw [succeeds_iff]
    constructor
    · rintro ⟨result', hran, hexit⟩
      rw [← hone result' hran]
      exact hexit
    · intro hexit
      exact ⟨result, h, hexit⟩
  have htextual : (textualResult (env.printUuid nodeId) nodeName result).status = .success ↔
      result.exitCode = 0 ∨ result.stderr = "" := by
    unfold textualResult
    by_cases hfailed : result.exitCode ≠ 0 ∧ result.stderr ≠ ""
    · rw [if_pos hfailed]
      simp [hfailed.1, hfailed.2]
    · rw [if_neg hfailed]
      simp only [true_iff]
      by_contra hboth
      exact hfailed (not_or.1 hboth)
  have hown : (textualResult (env.printUuid nodeId) nodeName result).nodeId =
      env.printUuid nodeId := by
    unfold textualResult
    split <;> rfl
  -- the operations whose failure is seen by its error text
  have hcommon : (∀ containerId, op ≠ .logs containerId) →
      env.resultOf op nodeId = textualResult (env.printUuid nodeId) nodeName result →
      (env.ItemAgrees op nodeId (env.resultOf op nodeId) ↔
        (result.exitCode = 0 ∨ result.stderr ≠ "")) := by
    intro hlogs heq
    rw [heq]
    constructor
    · intro hagrees
      have hstatus := hagrees.status
      rw [htextual, hsucceeds] at hstatus
      by_cases hstderr : result.stderr = ""
      · exact Or.inl (hstatus.1 (Or.inr hstderr))
      · exact Or.inr hstderr
    · intro htelling
      refine ⟨hown, ?_, fun _ containerId hop => absurd hop (hlogs containerId)⟩
      rw [htextual, hsucceeds]
      constructor
      · rintro (hexit | hstderr)
        · exact hexit
        · exact htelling.resolve_right fun hne => hne hstderr
      · exact Or.inl
  cases op with
  | containerAction containerId action => exact hcommon (by simp) hitem
  | pullImage image => exact hcommon (by simp) hitem
  | imageRemove imageId => exact hcommon (by simp) hitem
  | imageBuild tag buildArgs => exact hcommon (by simp) hitem
  | exec containerId =>
      rw [hitem]
      simp only [Telling, iff_true]
      refine ⟨rfl, ?_, fun _ containerId' hop => by cases hop⟩
      rw [hsucceeds]
      by_cases hexit : result.exitCode = 0 <;> simp [itemResult, hexit]
  | logs containerId =>
      have hgetLogs : result.exitCode = 0 →
          env.getLogs containerId nodeId = .ok (bothStreams result.stdout result.stderr) := by
        intro hexit
        have hrun := env.runChecked_eq_ok.2 ⟨h, hexit⟩
        simp [getLogs, hrun, bind, Except.bind]
      have houtput : (itemResult (env.printUuid nodeId) nodeName result
          (.logs containerId)).output =
          if stripped result.stdout ≠ "" then stripped result.stdout
          else stripped result.stderr := by
        simp only [itemResult]
      rw [hitem]
      constructor
      · intro hagrees hexit
        have hstatus : (itemResult (env.printUuid nodeId) nodeName result
            (.logs containerId)).status = .success := by simp [itemResult, hexit]
        have hsame := hagrees.output hstatus containerId rfl
        rw [hgetLogs hexit, Except.ok.injEq, houtput] at hsame
        exact (logs_eq_iff _ _).1 hsame
      · intro htelling
        refine ⟨rfl, ?_, ?_⟩
        · rw [hsucceeds]
          by_cases hexit : result.exitCode = 0 <;> simp [itemResult, hexit]
        · intro hstatus containerId' hop
          cases hop
          have hexit : result.exitCode = 0 := by
            by_contra hexit
            simp [itemResult, hexit] at hstatus
          rw [hgetLogs hexit, Except.ok.injEq, houtput]
          exact (logs_eq_iff _ _).2 (htelling hexit)

/-- The item of a command that has not run agrees with the single operation. -/
theorem itemAgrees_not_ran {op : DockerOperation} {nodeId : Uuid}
    (h : ∀ result, ¬ env.Ran op nodeId result) :
    env.ItemAgrees op nodeId (env.resultOf op nodeId) := by
  obtain ⟨hown, hstatus⟩ := env.resultOf_not_ran h
  refine ⟨hown, ?_, ?_⟩
  · rw [hstatus, succeeds_iff]
    constructor
    · intro hfalse
      cases hfalse
    · rintro ⟨result, hran, -⟩
      exact absurd hran (h result)
  · intro hsuccess
    rw [hstatus] at hsuccess
    cases hsuccess

/-- **A bulk docker operation agrees with the single ones if and only if every command that
runs tells them the same: where it fails its error text is not empty, and the logs it reads
are on one stream, without blanks at an end.** -/
theorem bulk_agrees_iff (op : DockerOperation) (nodeIds : List Uuid) (nodeTags : List String) :
    env.BulkAgrees op nodeIds nodeTags ↔
      ∀ nodeId ∈ env.resolveNodeIds nodeIds nodeTags, ∀ result,
        env.Ran op nodeId result → Telling result op := by
  have hitems : List.Forall₂ (env.ItemAgrees op) (env.resolveNodeIds nodeIds nodeTags)
      (env.bulk op nodeIds nodeTags).results ↔
      ∀ nodeId ∈ env.resolveNodeIds nodeIds nodeTags,
        env.ItemAgrees op nodeId (env.resultOf op nodeId) := by
    rw [bulk_results, List.forall₂_map_right_iff, List.forall₂_same]
  constructor
  · intro hagrees nodeId hmem result hran
    exact (env.itemAgrees_ran hran).1 (hitems.1 hagrees.items nodeId hmem)
  · intro htelling
    refine ⟨hitems.2 fun nodeId hmem => ?_, (response_totals _).1, (response_totals _).2⟩
    by_cases hran : ∃ result, env.Ran op nodeId result
    · obtain ⟨result, hran⟩ := hran
      exact (env.itemAgrees_ran hran).2 (htelling nodeId hmem result hran)
    · exact env.itemAgrees_not_ran fun result h => hran ⟨result, h⟩

end DockerServices

/-- Services with one docker node, where every command fails without a word. -/
def silentServices : DockerServices where
  lowercase := asciiLowercase
  isPrintable _ := true
  printUuid := Nat.repr
  getConnection id := some { (fleetNode id).toConnectionDto with
    endpoint := ⟨"10.0.0.1", 22, .ssh, none, true⟩ }
  connectionsByTags _ := .ok []
  execute _ := .ok ⟨"", "", 1⟩

/-- A container that could not be started, without an error text, counts as started. -/
theorem silent_failure_disagrees (containerId : ContainerId) :
    ¬ silentServices.BulkAgrees (.containerAction containerId .start) [3] [] := by
  intro h
  have hran : silentServices.Ran (.containerAction containerId .start) 3 ⟨"", "", 1⟩ :=
    ⟨rfl, _, rfl, rfl⟩
  have hitems := h.items
  rw [DockerServices.bulk_results, List.forall₂_map_right_iff, List.forall₂_same] at hitems
  have htelling := (silentServices.itemAgrees_ran hran).1
    (hitems 3 (by simp [DockerServices.resolveNodeIds]))
  rcases htelling with hexit | hstderr
  · cases hexit
  · exact hstderr rfl

/-- The container `web`. -/
def webContainer : ContainerId := ⟨"web", by decide⟩

/-- The bulk start of `web` on a node where docker fails silently. -/
theorem silent_start_disagrees :
    ¬ silentServices.BulkAgrees (.containerAction webContainer .start) [3] [] :=
  silent_failure_disagrees webContainer

end Docker
end NodeNexus
