import Mathlib.Data.List.Dedup
import NodeNexus.Node.Targets
import NodeNexus.Script.Resolve
import NodeNexus.Script.Run

/-!
# The targets of a script

`ScriptExecutionService.execute_script`, from the request to its results: which of the
requested nodes get an execution row, a remote worker and a result.

* `ScriptServices` — what the services around the call answer.
* `executeScript` — the call, with the rows it creates and the targets it hands to workers.
* `RunOrRefused` — every requested node has its result, or nothing was begun.
* `runOrRefused_iff` — that is so unless some requested nodes are known and others are not,
  or an exception ends the call after its first row.
-/

namespace NodeNexus
namespace Script

open Content Node
open NodeNexus.Core

/-! ## The call -/

/-- `ScriptExecutionRequestDTO`, less what is only stored. -/
structure ScriptExecutionRequest where
  nodeIds : List Uuid
  tags : List String
  params : Json.Fields
  timeout : Option Int

/-- `ScriptExecutionTargetDTO`. -/
structure ScriptExecutionTarget where
  executionId : Uuid
  scriptId : Uuid
  node : NodeConnectionDTO
  steps : List ResolvedScriptStep
  timeout : Int

/-- The exceptions of a call. -/
inductive ScriptError where
  | scriptNotFoundError (message : String)
  | nodeNotFoundError (message : String)
  /-- `TimeoutError`: the limit of the whole script has expired. -/
  | timeoutError
  /-- Raised by the reader of scripts or of commands, or by a stored step. -/
  | failure (e : Failure)
  /-- Any other exception. -/
  | other
  deriving DecidableEq

/-- What the services answer during one call. -/
structure ScriptServices where
  fmt : Formats
  unicode : Unicode
  /-- `get_definition`. -/
  getDefinition : Uuid → Except Failure (Option ScriptRow)
  /-- `get_template`. -/
  commandReader : Uuid → Except Failure (Option CommandTemplate)
  /-- The stored nodes, and the orders in which the database answers. -/
  nodes : NodeRows
  selects : Selects
  selects_of : selects.Of nodes
  /-- The exception that the lookup of the targets raises instead. -/
  lookupFails : Option ScriptError
  /-- `create_execution`, for the target with a given index. -/
  createExecution : Nat → Except ScriptError Uuid
  /-- What the worker of a target reports: the status and the steps. -/
  work : ScriptExecutionTarget → TerminalStatus × List StepResult
  /-- The exception that ends `wait_for`: the limit of the whole script has expired, or a
  worker was cancelled. -/
  interrupted : Option ScriptError
  /-- The exception that escapes from `_log_result`, for the result with a given index; an
  `AuditWriteError` does not. -/
  logFails : Nat → Option ScriptError

/-- `_run_remote`, as far as targets go: it returns a result of its target. -/
def ScriptServices.runTarget (env : ScriptServices) (target : ScriptExecutionTarget) :
    ScriptNodeResult Uuid where
  executionId := target.executionId
  nodeId := target.node.id
  nodeName := target.node.name
  status := (env.work target).1
  steps := (env.work target).2

/-- The loop that creates the rows: the targets made so far, and the exception that ended
it. -/
def createTargets (env : ScriptServices) (scriptId : Uuid) (steps : List ResolvedScriptStep)
    (timeout : Int) : Nat → List NodeConnectionDTO → List ScriptExecutionTarget × Option ScriptError
  | _, [] => ([], none)
  | index, node :: rest =>
      match env.createExecution index with
      | .error e => ([], some e)
      | .ok executionId =>
          let made := createTargets env scriptId steps timeout (index + 1) rest
          (⟨executionId, scriptId, node, steps, timeout⟩ :: made.1, made.2)

/-- The loop over the results.  The exceptions of `update_execution` are caught. -/
def settleResults (env : ScriptServices) : Nat → List (ScriptNodeResult Uuid) → Option ScriptError
  | _, [] => none
  | index, _ :: rest =>
      match env.logFails index with
      | some e => some e
      | none => settleResults env (index + 1) rest

/-- A call and how it ended. -/
structure ScriptCall where
  /-- The nodes that execution rows were created for. -/
  created : List Uuid
  /-- The nodes whose targets were handed to the workers. -/
  gathered : List Uuid
  outcome : Except ScriptError (List (ScriptNodeResult Uuid))

/-- A call that raised before it did anything. -/
def ScriptCall.refused (e : ScriptError) : ScriptCall := ⟨[], [], .error e⟩

/-- `execute_script` from its targets on. -/
def executeTargets (env : ScriptServices) (scriptId : Uuid) (steps : List ResolvedScriptStep)
    (timeout : Int) (nodes : List NodeConnectionDTO) : ScriptCall :=
  match createTargets env scriptId steps timeout 0 nodes with
  | (targets, some e) => ⟨targets.map (·.node.id), [], .error e⟩
  | (targets, none) =>
      match env.interrupted with
      | some e => ⟨targets.map (·.node.id), targets.map (·.node.id), .error e⟩
      | none =>
          ⟨targets.map (·.node.id), targets.map (·.node.id),
            match settleResults env 0 (targets.map env.runTarget) with
            | some e => .error e
            | none => .ok (targets.map env.runTarget)⟩

/-- The definition and its resolved steps. -/
def loadDefinition (env : ScriptServices) (scriptId : Uuid) (params : Json.Fields) :
    Except ScriptError (ScriptRow × List ResolvedScriptStep) :=
  match env.getDefinition scriptId with
  | .error e => .error (.failure e)
  | .ok none =>
      .error (.scriptNotFoundError ("Script " ++ env.fmt.printUuid scriptId ++ " not found"))
  | .ok (some row) =>
      match resolveSteps env.fmt env.unicode env.commandReader params row with
      | .error e => .error (.failure e)
      | .ok steps => .ok (row, steps)

/-- `execute_script`. -/
def executeScript (env : ScriptServices) (scriptId : Uuid) (request : ScriptExecutionRequest) :
    ScriptCall :=
  match loadDefinition env scriptId request.params with
  | .error e => .refused e
  | .ok (row, steps) =>
      match env.lookupFails with
      | some e => .refused e
      | none =>
          if resolveTargets env.selects request.nodeIds request.tags = [] ∧
              request.nodeIds ≠ [] then
            .refused (.nodeNotFoundError "Node not found")
          else executeTargets env scriptId steps (request.timeout.getD row.timeout)
            (resolveTargets env.selects request.nodeIds request.tags)

/-! ## What is promised -/

/-- Nothing was begun before the call raised, or it returned exactly one result for each of
the requested ids. -/
def RunOrRefused (nodeIds : List Uuid) (call : ScriptCall) : Prop :=
  ((∃ e, call.outcome = .error e) ∧ call.created = [] ∧ call.gathered = []) ∨
    ∃ results, call.outcome = .ok results ∧ (results.map (·.nodeId)).Perm nodeIds.dedup

/-- The id is the id of a stored node. -/
def ScriptServices.Knows (env : ScriptServices) (id : Uuid) : Prop :=
  ∃ node ∈ env.nodes.rows, node.id = id

/-- No exception ends the call while it creates `n` rows, runs and logs. -/
structure ScriptServices.Undisturbed (env : ScriptServices) (n : Nat) : Prop where
  created : ∀ i < n, ∃ id, env.createExecution i = .ok id
  completed : env.interrupted = none
  logged : ∀ i < n, env.logFails i = none

/-! ## The loops -/

variable {env : ScriptServices} {scriptId : Uuid} {steps : List ResolvedScriptStep}
  {timeout : Int} {nodeIds : List Uuid}

/-- The loop ends without an exception exactly when every row can be created, and then it has
made a target of every node. -/
theorem createTargets_eq_none (index : Nat) (nodes : List NodeConnectionDTO) :
    (createTargets env scriptId steps timeout index nodes).2 = none ↔
      ∀ i < nodes.length, ∃ id, env.createExecution (index + i) = .ok id := by
  induction nodes generalizing index with
  | nil => simp [createTargets]
  | cons node rest ih =>
      simp only [createTargets, List.length_cons]
      cases hcreate : env.createExecution index with
      | error e =>
          simp only [reduceCtorEq, false_iff]
          intro h
          obtain ⟨id, hid⟩ := h 0 (by omega)
          rw [Nat.add_zero, hcreate] at hid
          cases hid
      | ok executionId =>
          rw [ih (index + 1)]
          constructor
          · intro h i hi
            cases i with
            | zero => exact ⟨executionId, hcreate⟩
            | succ i =>
                obtain ⟨id, hid⟩ := h i (by omega)
                exact ⟨id, by rw [← hid]; congr 1; omega⟩
          · intro h i hi
            obtain ⟨id, hid⟩ := h (i + 1) (by omega)
            exact ⟨id, by rw [← hid]; congr 1; omega⟩

theorem createTargets_nodes {index : Nat} {nodes : List NodeConnectionDTO}
    (h : (createTargets env scriptId steps timeout index nodes).2 = none) :
    (createTargets env scriptId steps timeout index nodes).1.map (·.node) = nodes := by
  induction nodes generalizing index with
  | nil => rfl
  | cons node rest ih =>
      simp only [createTargets] at h ⊢
      cases hcreate : env.createExecution index with
      | error e =>
          rw [hcreate] at h
          cases h
      | ok executionId =>
          rw [hcreate] at h
          simpa using ih h

theorem createTargets_eq_nil (index : Nat) (nodes : List NodeConnectionDTO) :
    (createTargets env scriptId steps timeout index nodes).1 = [] ↔
      nodes = [] ∨ ∃ e, env.createExecution index = .error e := by
  cases nodes with
  | nil => simp [createTargets]
  | cons node rest =>
      simp only [createTargets]
      cases env.createExecution index with
      | error e => simp
      | ok executionId => simp

theorem settleResults_eq_none (index : Nat) (results : List (ScriptNodeResult Uuid)) :
    settleResults env index results = none ↔
      ∀ i < results.length, env.logFails (index + i) = none := by
  induction results generalizing index with
  | nil => simp [settleResults]
  | cons result rest ih =>
      simp only [settleResults, List.length_cons]
      cases hlog : env.logFails index with
      | some e =>
          simp only [reduceCtorEq, false_iff]
          intro h
          have hzero := h 0 (by omega)
          rw [Nat.add_zero, hlog] at hzero
          cases hzero
      | none =>
          rw [ih (index + 1)]
          constructor
          · intro h i hi
            cases i with
            | zero => exact hlog
            | succ i =>
                rw [← h i (by omega)]
                congr 1
                omega
          · intro h i hi
            rw [← h (i + 1) (by omega)]
            congr 1
            omega

/-! ## The targets of ids -/

/-- The ids of the answer are the known ones among the requested. -/
theorem mem_targets (env : ScriptServices) {nodeIds : List Uuid} {id : Uuid} :
    id ∈ (resolveTargets env.selects nodeIds []).map (·.id) ↔ id ∈ nodeIds ∧ env.Knows id := by
  rw [List.mem_map]
  constructor
  · rintro ⟨dto, hdto, rfl⟩
    obtain ⟨node, hrow, -, hlisted, -, rfl⟩ := (mem_resolveTargets env.selects_of).1 hdto
    have hids : nodeIds ≠ [] := by
      rintro rfl
      simp [resolveTargets] at hdto
    exact ⟨hlisted hids, node, hrow, rfl⟩
  · rintro ⟨hid, node, hrow, rfl⟩
    refine ⟨node.toConnectionDto, ?_, rfl⟩
    rw [mem_resolveTargets env.selects_of]
    refine ⟨node, hrow, Or.inl (List.ne_nil_of_mem hid), fun _ => hid, ?_, rfl⟩
    intro h
    exact absurd rfl h

theorem targets_eq_nil_iff (env : ScriptServices) {nodeIds : List Uuid} :
    resolveTargets env.selects nodeIds [] = [] ↔ ∀ id ∈ nodeIds, ¬ env.Knows id := by
  rw [← List.map_eq_nil_iff (f := (·.id)), List.eq_nil_iff_forall_not_mem]
  constructor
  · intro h id hid hknown
    exact h id ((mem_targets env).2 ⟨hid, hknown⟩)
  · intro h id hmem
    obtain ⟨hid, hknown⟩ := (mem_targets env).1 hmem
    exact h id hid hknown

/-- The targets are the requested ids, each once, exactly when all of these are known. -/
theorem targets_perm_iff (env : ScriptServices) {nodeIds : List Uuid} :
    ((resolveTargets env.selects nodeIds []).map (·.id)).Perm nodeIds.dedup ↔
      ∀ id ∈ nodeIds, env.Knows id := by
  rw [List.perm_ext_iff_of_nodup (resolveTargets_nodup env.selects_of) (List.nodup_dedup _)]
  constructor
  · intro h id hid
    exact ((mem_targets env).1 ((h id).2 (List.mem_dedup.2 hid))).2
  · intro h id
    rw [mem_targets, List.mem_dedup]
    exact ⟨And.left, fun hid => ⟨hid, h id hid⟩⟩

/-! ## Run or refused -/

theorem runOrRefused_refused (nodeIds : List Uuid) (e : ScriptError) :
    RunOrRefused nodeIds (.refused e) :=
  Or.inl ⟨⟨e, rfl⟩, rfl, rfl⟩

/-- From its targets on, a call that has some returns their results, raises for the first row,
or raises with rows left behind. -/
theorem runOrRefused_executeTargets (nodeIds : List Uuid) {nodes : List NodeConnectionDTO}
    (hnodes : nodes ≠ []) :
    RunOrRefused nodeIds (executeTargets env scriptId steps timeout nodes) ↔
      (∃ e, env.createExecution 0 = .error e) ∨
        (nodes.map (·.id)).Perm nodeIds.dedup ∧ env.Undisturbed nodes.length := by
  have hnil := @createTargets_eq_nil env scriptId steps timeout 0 nodes
  have hnone := @createTargets_eq_none env scriptId steps timeout 0 nodes
  have hall := @createTargets_nodes env scriptId steps timeout 0 nodes
  simp only [hnodes, false_or, Nat.zero_add] at hnil hnone
  unfold executeTargets
  cases hmade : createTargets env scriptId steps timeout 0 nodes with
  | mk targets failure =>
      simp only [hmade] at hnil hnone hall
      cases failure with
      | some e =>
          simp only [reduceCtorEq, false_iff] at hnone
          constructor
          · rintro (⟨-, hcreated, -⟩ | ⟨results, hok, -⟩)
            · exact Or.inl (hnil.1 (List.map_eq_nil_iff.1 hcreated))
            · cases hok
          · rintro (hfirst | ⟨-, hquiet⟩)
            · exact Or.inl ⟨⟨e, rfl⟩, List.map_eq_nil_iff.2 (hnil.2 hfirst), rfl⟩
            · exact absurd hquiet.created hnone
      | none =>
          simp only [true_iff, forall_const] at hnone hall
          have hlength : targets.length = nodes.length := by
            rw [← hall, List.length_map]
          have hsome : targets ≠ [] := by
            rintro rfl
            exact hnodes hall.symm
          have hids : (targets.map env.runTarget).map (·.nodeId) = nodes.map (·.id) := by
            rw [← hall, List.map_map, List.map_map]
            rfl
          have hfirst : ¬ ∃ e, env.createExecution 0 = .error e := fun h => hsome (hnil.2 h)
          have hcreated : targets.map (·.node.id) ≠ [] := by simpa using hsome
          rw [or_iff_right hfirst]
          cases hinterrupted : env.interrupted with
          | some e =>
              constructor
              · rintro (⟨-, hnone', -⟩ | ⟨results, hok, -⟩)
                · exact absurd hnone' hcreated
                · cases hok
              · rintro ⟨-, hquiet⟩
                rw [hquiet.completed] at hinterrupted
                cases hinterrupted
          | none =>
              have hsettle := @settleResults_eq_none env 0 (targets.map env.runTarget)
              simp only [List.length_map, Nat.zero_add, hlength] at hsettle
              cases hlogs : settleResults env 0 (targets.map env.runTarget) with
              | some e =>
                  rw [hlogs] at hsettle
                  simp only [reduceCtorEq, false_iff] at hsettle
                  constructor
                  · rintro (⟨-, hnone', -⟩ | ⟨results, hok, -⟩)
                    · exact absurd hnone' hcreated
                    · simp only [hlogs] at hok
                      cases hok
                  · rintro ⟨-, hquiet⟩
                    exact absurd hquiet.logged hsettle
              | none =>
                  have hlogged := hsettle.1 hlogs
                  have hquiet : env.Undisturbed nodes.length := ⟨hnone, hinterrupted, hlogged⟩
                  constructor
                  · rintro (⟨-, hnone', -⟩ | ⟨results, hok, hperm⟩)
                    · exact absurd hnone' hcreated
                    · simp only [hlogs] at hok
                      cases hok
                      rw [hids] at hperm
                      exact ⟨hperm, hquiet⟩
                  · rintro ⟨hperm, -⟩
                    refine Or.inr ⟨targets.map env.runTarget, ?_, ?_⟩
                    · simp only [hlogs]
                    · rw [hids]
                      exact hperm

/-- A call without a known target creates no row. -/
theorem runOrRefused_untargeted (hnone : resolveTargets env.selects nodeIds [] = []) :
    RunOrRefused nodeIds
      (if resolveTargets env.selects nodeIds [] = [] ∧ nodeIds ≠ [] then
        .refused (.nodeNotFoundError "Node not found")
      else executeTargets env scriptId steps timeout (resolveTargets env.selects nodeIds [])) := by
  by_cases hids : nodeIds = []
  · rw [if_neg (by simp [hids]), hnone]
    subst hids
    cases hinterrupted : env.interrupted with
    | some e =>
        refine Or.inl ⟨⟨e, ?_⟩, ?_, ?_⟩ <;>
          simp [executeTargets, createTargets, hinterrupted]
    | none =>
        refine Or.inr ⟨[], ?_, by simp⟩
        simp [executeTargets, createTargets, hinterrupted, settleResults]
  · rw [if_pos ⟨hnone, hids⟩]
    exact runOrRefused_refused nodeIds _

/-- **Every requested node is run or refused if and only if the script cannot be loaded, the
targets cannot be looked up, no requested id is known, the first row cannot be created, or all
requested ids are known and no exception ends the call after its first row.** -/
theorem runOrRefused_iff (env : ScriptServices) (scriptId : Uuid) (nodeIds : List Uuid)
    (params : Json.Fields) (timeout : Option Int) :
    RunOrRefused nodeIds (executeScript env scriptId ⟨nodeIds, [], params, timeout⟩) ↔
      (∃ e, loadDefinition env scriptId params = .error e) ∨
      (∃ e, env.lookupFails = some e) ∨
      (∀ id ∈ nodeIds, ¬ env.Knows id) ∨
      (∃ e, env.createExecution 0 = .error e) ∨
      ((∀ id ∈ nodeIds, env.Knows id) ∧ env.Undisturbed nodeIds.dedup.length) := by
  unfold executeScript
  cases hload : loadDefinition env scriptId params with
  | error e => simp [runOrRefused_refused]
  | ok loaded =>
      obtain ⟨row, steps⟩ := loaded
      simp only [reduceCtorEq, exists_false, false_or]
      cases hlookup : env.lookupFails with
      | some e => simp [runOrRefused_refused]
      | none =>
          simp only [reduceCtorEq, exists_false, false_or]
          rw [← targets_eq_nil_iff env, ← targets_perm_iff env]
          by_cases hnone : resolveTargets env.selects nodeIds [] = []
          · exact iff_of_true (runOrRefused_untargeted hnone) (Or.inl hnone)
          · rw [if_neg (by simp [hnone]), runOrRefused_executeTargets nodeIds hnone]
            simp only [hnone, false_or]
            constructor
            · rintro (hfirst | ⟨hperm, hquiet⟩)
              · exact Or.inl hfirst
              · have hlength := hperm.length_eq
                rw [List.length_map] at hlength
                exact Or.inr ⟨hperm, hlength ▸ hquiet⟩
            · rintro (hfirst | ⟨hperm, hquiet⟩)
              · exact Or.inl hfirst
              · have hlength := hperm.length_eq
                rw [List.length_map] at hlength
                exact Or.inr ⟨hperm, hlength ▸ hquiet⟩

/-- Services with one stored node, where nothing goes wrong. -/
def oneNodeServices : ScriptServices where
  fmt := canonicalFormats
  unicode := asciiUnicode
  getDefinition _ := .ok (some ⟨7, "deploy", none, ⟨.list []⟩, none, 30, none⟩)
  commandReader _ := .ok none
  nodes := fleet 1
  selects := ⟨(fleet 1).rows, (fleet 1).rows⟩
  selects_of := ⟨List.Perm.refl _, List.Perm.refl _⟩
  lookupFails := none
  createExecution i := .ok i
  work _ := (.success, [])
  interrupted := none
  logFails _ := none

/-- Of a known and an unknown id, only the known one is run, and nothing is said about the
other. -/
theorem unknown_id_dropped :
    ¬ RunOrRefused [0, 5] (executeScript oneNodeServices 7 ⟨[0, 5], [], [], none⟩) := by
  have hcall : (executeScript oneNodeServices 7 ⟨[0, 5], [], [], none⟩).created = [0] := by
    decide
  have houtcome : ∃ result : ScriptNodeResult Uuid,
      (executeScript oneNodeServices 7 ⟨[0, 5], [], [], none⟩).outcome = .ok [result] :=
    ⟨_, rfl⟩
  rintro (⟨-, hnone, -⟩ | ⟨results, hok, hperm⟩)
  · rw [hcall] at hnone
    cases hnone
  · obtain ⟨result, hresult⟩ := houtcome
    rw [hresult] at hok
    cases hok
    have hlength : 1 = ([0, 5] : List Uuid).dedup.length := hperm.length_eq
    revert hlength
    decide

end Script
end NodeNexus
