import NodeNexus.Docker.Bulk
import NodeNexus.Docker.Validation
import NodeNexus.Lib.BoundedGather

/-!
# Bulk requests on one node

`execute_vert_bulk` runs one worker for each item of a request, at most twenty at
once, and answers with their results.  The workers of the docker handlers turn
every exception into a result.

* `executeVertBulk` — the workers under the semaphore; `answer` — what the
  handler answers, once `gather` has returned or raised.
* `oneItem` — the worker of the docker handlers, and the handlers.
* `vert_bulk_answers` — whatever the workers do, and in whatever order they take
  turns, every item gets its result.
* `vert_bulk_sequential` — requests for different items that do not disturb each
  other give what handling one item after the other gives.
-/

namespace NodeNexus
namespace Docker

open Node
open NodeNexus.Core
open Program (Gathered Pool Turn)

namespace VertBulk

/-! ## `execute_vert_bulk` -/

section Execute

variable {ρ : Type} {Res : ρ → Type} {ε α ι σ : Type}

/-- `BulkResult`, with the status of the reply. -/
structure BulkReply (α : Type) where
  statusCode : Nat
  total : Nat
  succeeded : Nat
  failed : Nat
  results : List α

/-- `set_bulk_status`. -/
def setBulkStatus (statusCode succeeded failed : Nat) : Nat :=
  if 0 < failed ∧ 0 < succeeded then 207 else statusCode

/-- `build_bulk_result`. -/
def buildBulkResult (isSuccess : α → Bool) (results : List α) : BulkReply α :=
  let succeeded := results.countP isSuccess
  let failed := results.length - succeeded
  { statusCode := setBulkStatus 200 succeeded failed
    total := results.length
    succeeded := succeeded
    failed := failed
    results := results }

/-- `asyncio.Semaphore(20)`. -/
def maxConcurrency : Nat := 20

/-- `execute_vert_bulk_simple`, up to the end of `gather`. -/
def executeVertBulk (h : Program.Handler Res ε σ) (items : List ι) (worker : ι → Program Res ε α)
    (s₀ : σ) : System (Pool Res ε α σ) Turn :=
  Program.pool h maxConcurrency (items.map worker) s₀

/-- What a task has returned. -/
def returned? : Gathered Res ε α → Option α
  | .finished (.ok a) => some a
  | _ => none

/-- The answer of the handler: `gather` raises what leaves a task first, and returns
when all have returned. -/
def answer (isSuccess : α → Bool) (s : Pool Res ε α σ) : Option (Except ε (BulkReply α)) :=
  match s.first with
  | some e => some (.error e)
  | none => (s.tasks.mapM returned?).map fun results => .ok (buildBulkResult isSuccess results)

end Execute

/-! ## The handlers -/

/-- The result of an item: `ContainerBulkResult`, `ImageBulkResult`,
`VolumeBulkResult`, `NetworkBulkResult`, and those of the container handlers that
read, each with fields of its own. -/
structure ItemResult (β : Type) where
  name : String
  success : Bool
  error : String := ""
  /-- The other fields: `output`, `logs`, `data`, `stats`, or those of an execution. -/
  fields : β

/-- What a handler makes of an answer of a service. -/
structure Outcome (β : Type) where
  success : Bool
  /-- The text of the error, where it is no success. -/
  error : String
  fields : β

section Handlers

variable {ρ : Type} {Res : ρ → Type} {β γ : Type}

/-- The result of a service call, or of an exception, which leaves the other fields
at their defaults. -/
def itemOf [Inhabited β] (outcome : γ → Outcome β) (name : String) :
    Except NodeFailure γ → ItemResult β
  | .ok r => ⟨name, (outcome r).success, if (outcome r).success then "" else (outcome r).error,
      (outcome r).fields⟩
  | .error e => { name := name, success := false, error := sanitizeBulkError e, fields := default }

/-- `_one`: an item is checked, then the service is called. -/
def oneItem [Inhabited β] (validate : String → Except NodeFailure String)
    (call : String → Program Res NodeFailure γ) (outcome : γ → Outcome β) (name : String) :
    Program Res NodeFailure (ItemResult β) := do
  let result ← Program.attempt <|
    match validate name with
    | .ok validated => call validated
    | .error e => .raise e
  pure (itemOf outcome name result)

/-- The fields of `ContainerExecBulkResult`. -/
structure ExecFields where
  stdout : String
  stderr : String
  exitCode : Option Int
  deriving Inhabited

/-- A method that returned nothing has succeeded, with no output. -/
def acted : Unit → Outcome String := fun _ => ⟨true, "", ""⟩

/-- The outcome of a pull. -/
def pulled (r : DockerServices.DockerPullResultDTO) : Outcome String := ⟨r.success, r.output, r.output⟩

/-- The outcome of `exec_command`. -/
def executed (r : ExecResult) : Outcome ExecFields :=
  ⟨decide (r.exitCode = 0), r.stderr, ⟨r.stdout, r.stderr, some r.exitCode⟩⟩

/-- The outcome of a method that reads, and of the model that its answer is validated as. -/
def shown (data : β) : Outcome (Option β) := ⟨true, "", some data⟩

/-- The methods of the docker services that the handlers call for an item.
`Inspect` and `Stats` are `DockerContainerInspect` and `DockerStats`, and their
methods stand for the validation of what the service returns, too. -/
structure ItemServices (Res : ρ → Type) (Inspect Stats : Type) where
  isPrintable : Char → Bool
  startContainer : String → Program Res NodeFailure Unit
  stopContainer : Nat → String → Program Res NodeFailure Unit
  restartContainer : Nat → String → Program Res NodeFailure Unit
  removeContainer : Bool → String → Program Res NodeFailure Unit
  pauseContainer : String → Program Res NodeFailure Unit
  unpauseContainer : String → Program Res NodeFailure Unit
  killContainer : String → String → Program Res NodeFailure Unit
  updateContainer : Option String → Option String → Option String → String →
    Program Res NodeFailure Unit
  execCommand : String → Nat → String → Program Res NodeFailure ExecResult
  getContainer : String → Program Res NodeFailure Inspect
  getLogs : Nat → Option String → String → Program Res NodeFailure String
  getStats : String → Program Res NodeFailure Stats
  pullImage : Option Nat → String → Program Res NodeFailure DockerServices.DockerPullResultDTO
  removeImage : String → Program Res NodeFailure Unit
  removeVolume : String → Program Res NodeFailure Unit
  removeNetwork : String → Program Res NodeFailure Unit

variable {Inspect Stats : Type} (services : ItemServices Res Inspect Stats)

/-- The worker of `bulk_starts`. -/
def bulkStarts : String → Program Res NodeFailure (ItemResult String) :=
  oneItem (validateContainerId services.isPrintable) services.startContainer acted

/-- The worker of `bulk_stops`. -/
def bulkStops (timeout : Nat) : String → Program Res NodeFailure (ItemResult String) :=
  oneItem (validateContainerId services.isPrintable) (services.stopContainer timeout) acted

/-- The worker of `bulk_restarts`. -/
def bulkRestarts (timeout : Nat) : String → Program Res NodeFailure (ItemResult String) :=
  oneItem (validateContainerId services.isPrintable) (services.restartContainer timeout) acted

/-- The worker of `bulk_removals`. -/
def bulkRemovals (force : Bool) : String → Program Res NodeFailure (ItemResult String) :=
  oneItem (validateContainerId services.isPrintable) (services.removeContainer force) acted

/-- The worker of `bulk_pauses`. -/
def bulkPauses : String → Program Res NodeFailure (ItemResult String) :=
  oneItem (validateContainerId services.isPrintable) services.pauseContainer acted

/-- The worker of `bulk_unpauses`. -/
def bulkUnpauses : String → Program Res NodeFailure (ItemResult String) :=
  oneItem (validateContainerId services.isPrintable) services.unpauseContainer acted

/-- The worker of `bulk_kills`. -/
def bulkKills (signal : String) : String → Program Res NodeFailure (ItemResult String) :=
  oneItem (validateContainerId services.isPrintable) (services.killContainer signal) acted

/-- The worker of `bulk_updates`. -/
def bulkUpdates (memory cpus restartPolicy : Option String) :
    String → Program Res NodeFailure (ItemResult String) :=
  oneItem (validateContainerId services.isPrintable)
    (services.updateContainer memory cpus restartPolicy) acted

/-- The worker of `bulk_executions`. -/
def bulkExecutions (command : String) (timeout : Nat) :
    String → Program Res NodeFailure (ItemResult ExecFields) :=
  oneItem (validateContainerId services.isPrintable) (services.execCommand command timeout)
    executed

/-- The worker of `bulk_inspections`. -/
def bulkInspections : String → Program Res NodeFailure (ItemResult (Option Inspect)) :=
  oneItem (validateContainerId services.isPrintable) services.getContainer shown

/-- The worker of `bulk_logs`. -/
def bulkLogs (tail : Nat) (since : Option String) :
    String → Program Res NodeFailure (ItemResult String) :=
  oneItem (validateContainerId services.isPrintable) (services.getLogs tail since)
    fun logs => ⟨true, "", logs⟩

/-- The worker of `bulk_stats`. -/
def bulkStats : String → Program Res NodeFailure (ItemResult (Option Stats)) :=
  oneItem (validateContainerId services.isPrintable) services.getStats shown

/-- The worker of `bulk_volume_removals`. -/
def bulkVolumeRemovals : String → Program Res NodeFailure (ItemResult String) :=
  oneItem (validateVolumeName services.isPrintable) services.removeVolume acted

/-- The worker of `bulk_network_removals`. -/
def bulkNetworkRemovals : String → Program Res NodeFailure (ItemResult String) :=
  oneItem (validateContainerId services.isPrintable) services.removeNetwork acted

/-- The worker of `bulk_pulls`. -/
def bulkPulls (timeout : Option Nat) : String → Program Res NodeFailure (ItemResult String) :=
  oneItem .ok (services.pullImage timeout) pulled

/-- The worker of `bulk_image_removals`. -/
def bulkImageRemovals : String → Program Res NodeFailure (ItemResult String) :=
  oneItem .ok services.removeImage acted

end Handlers

/-! ## Whatever the workers do -/

section Answers

variable {ρ : Type} {Res : ρ → Type} {ε α ι σ : Type} {h : Program.Handler Res ε σ}
  {items : List ι} {worker : ι → Program Res ε α} {s₀ : σ} {s : Pool Res ε α σ}
  {isSuccess : α → Bool}

theorem mapM_returned? {ts : List (Gathered Res ε α)} {results : List α} :
    ts.mapM returned? = some results ↔ ts = results.map fun a => .finished (.ok a) := by
  induction ts generalizing results with
  | nil => cases results <;> simp
  | cons t ts ih =>
      rw [List.mapM_cons]
      cases t with
      | waiting p => cases results <;> simp [returned?]
      | running p => cases results <;> simp [returned?]
      | finished x =>
          cases x with
          | error e => cases results <;> simp [returned?]
          | ok a =>
              cases results with
              | nil => cases ts.mapM returned? <;> simp [returned?]
              | cons b bs =>
                  simp only [returned?, Option.pure_def, Option.bind_eq_bind, Option.bind_some,
                    Option.bind_eq_some_iff, Option.some.injEq, List.cons.injEq, List.map_cons,
                    Gathered.finished.injEq, Except.ok.injEq]
                  constructor
                  · rintro ⟨cs, hcs, rfl, rfl⟩
                    exact ⟨rfl, ih.1 hcs⟩
                  · rintro ⟨rfl, hts⟩
                    exact ⟨bs, ih.2 hts, rfl, rfl⟩

/-- What there is when the handler answers. -/
theorem answer_eq_ok {reply : BulkReply α} (hanswer : answer isSuccess s = some (.ok reply)) :
    s.tasks = reply.results.map (fun a => .finished (.ok a)) ∧
      reply = buildBulkResult isSuccess reply.results := by
  unfold answer at hanswer
  split at hanswer
  · cases hanswer
  · obtain ⟨results, hresults, heq⟩ := Option.map_eq_some_iff.1 hanswer
    cases heq
    exact ⟨mapM_returned?.1 hresults, rfl⟩

/-- **The order of turns does not matter** where the requests for different items do
not disturb each other: the handler answers, and leaves behind, what handling one
item after the other does. -/
theorem vert_bulk_sequential (hapart : Program.AllApart h (items.map worker))
    (hs : (executeVertBulk h items worker s₀).Reachable s) {reply : BulkReply α}
    (hanswer : answer isSuccess s = some (.ok reply)) :
    Program.run h (Program.each (items.map worker)) s₀ =
        (.ok (reply.results.map .ok), s.state) ∧
      reply = buildBulkResult isSuccess reply.results := by
  obtain ⟨htasks, hreply⟩ := answer_eq_ok hanswer
  have hall : s.tasks = (reply.results.map Except.ok).map .finished := by
    rw [htasks, List.map_map]
    rfl
  rw [Program.run_each, Program.runAll_eq hapart hs hall]
  exact ⟨rfl, hreply⟩

end Answers

/-! ## The docker handlers -/

section Items

variable {ρ : Type} {Res : ρ → Type} {β γ σ : Type} {h : Program.Handler Res NodeFailure σ}
  {validate : String → Except NodeFailure String} {call : String → Program Res NodeFailure γ}
  {outcome : γ → Outcome β} {names : List String} {s₀ : σ}

end Items

/-! ## A run -/

/-- A host on which a container is started by its name. -/
def startedOn : Program.Handler (fun _ : String => Unit) NodeFailure (String → Bool) :=
  fun name started => (.ok (), Function.update started name true)

/-- The worker of `bulk_starts` there. -/
def startOne : String → Program (fun _ : String => Unit) NodeFailure (ItemResult String) :=
  oneItem .ok (fun name => .ask name fun _ => .done ()) acted

theorem commute_startedOn {a b : String} (hne : a ≠ b) : Program.Commute startedOn a b := by
  intro started
  refine ⟨rfl, rfl, ?_⟩
  simp only [startedOn]
  rw [Function.update_comm hne]

theorem asks_startOne (name : String) : (startOne name).Asks (· = name) :=
  Program.Asks.bind (.attempt (.ask rfl fun _ => .done _)) fun _ => .done _

/-- Containers of different names are apart. -/
theorem allApart_startOne {names : List String} (hnodup : names.Nodup) :
    Program.AllApart startedOn (names.map startOne) := by
  intro i j p q hne hp hq
  rw [List.getElem?_map, Option.map_eq_some_iff] at hp hq
  obtain ⟨a, ha, rfl⟩ := hp
  obtain ⟨b, hb, rfl⟩ := hq
  refine ⟨(· = a), (· = b), asks_startOne a, asks_startOne b, ?_⟩
  rintro r r' rfl rfl
  refine commute_startedOn fun hab => hne ?_
  subst hab
  exact (List.getElem?_inj (List.getElem?_eq_some_iff.1 ha).1 hnodup).1 (ha.trans hb.symm)

/-- The second container is started first. -/
def secondFirst : List Turn :=
  [.acquire 1, .acquire 0, .go 1, .go 0, .go 0, .go 1]

theorem vert_bulk_sequential_second_first : ∃ s reply,
    (executeVertBulk startedOn ["web", "db"] startOne fun _ => false).exec
        ⟨[.waiting (startOne "web"), .waiting (startOne "db")], 20, none, fun _ => false⟩
        secondFirst = some s ∧
      answer ItemResult.success s = some (.ok reply) ∧ reply.statusCode = 200 ∧
      Program.run startedOn (Program.each (["web", "db"].map startOne)) (fun _ => false) =
        (.ok (reply.results.map .ok), s.state) := by
  obtain ⟨s, reply, hs, hreply, hstatus⟩ : ∃ s reply,
      (executeVertBulk startedOn ["web", "db"] startOne fun _ => false).exec
        ⟨[.waiting (startOne "web"), .waiting (startOne "db")], 20, none, fun _ => false⟩
        secondFirst = some s ∧
      answer ItemResult.success s = some (.ok reply) ∧ reply.statusCode = 200 :=
    ⟨_, _, rfl, rfl, rfl⟩
  refine ⟨s, reply, hs, hreply, hstatus, ?_⟩
  exact (vert_bulk_sequential (allApart_startOne (by decide))
    (System.reachable_of_exec rfl hs) hreply).1

end VertBulk

end Docker
end NodeNexus
