import NodeNexus.Compose.Projects
import NodeNexus.Lib.Transition

/-!
# Interleaved upserts of compose projects

Any number of `upsert_project` and `delete_project` calls run at once; between two transactions of
one of them others may commit.

* `composeSystem` — the calls over one table, a transaction a step.
* `Stage` — where an upsert is in its chain of calls, and what it may rely on there: once a
  create has found a row, the row is there as long as nobody has deleted it.
* `Settled` — what an upsert that ends has to show: its own row, or a delete that came between.
* `one_result_iff` — an upsert of some data has one result on every path exactly when the data has
  an environment and the database has nothing against it: create stores an empty environment as
  `None` and update as `{}`, and a missing node or pack is reported as an existing project.
-/

namespace NodeNexus
namespace Compose

open Content
open NodeNexus.Core

variable (db : ComposeDb)

/-! ## The system -/

/-- An `upsert_project` call. -/
structure Call where
  data : ComposeCreate
  program : Upsert
  /-- Its first request was made. -/
  started : Bool
  /-- How often a delete has removed its project's row since then. -/
  removed : Nat

/-- A call that is about to be made. -/
def Call.fresh (data : ComposeCreate) : Call := ⟨data, upsertProject data, false, 0⟩

/-- The call has begun and has not ended. -/
def Call.underWay (c : Call) : Bool := c.started && !c.program.ended

/-- A delete has removed the row of a project. -/
def Call.seesRemoval (key : Uuid × String) (c : Call) : Call :=
  if c.underWay = true ∧ c.data.key = key then { c with removed := c.removed + 1 } else c

/-- The table and the calls. -/
structure ComposeState where
  store : ComposeStore
  calls : List Call

/-- What can happen next. -/
inductive Event where
  /-- The next request of a call is answered. -/
  | request (call : Nat) (now : Nat)
  /-- A `delete_project` call. -/
  | delete (nodeId : Uuid) (projectName : String)

/-- One transaction. -/
def step (s : ComposeState) : Event → Option ComposeState
  | .request i now =>
      match s.calls[i]? with
      | none => none
      | some c =>
          (c.program.advance (answer db now) s.store).map fun next =>
            { store := next.2
              calls := s.calls.set i { c with program := next.1, started := true } }
  | .delete nodeId projectName =>
      let deleted := deleteProject db nodeId projectName s.store
      some
        { store := deleted.2
          calls :=
            match deleted.1 with
            | .ok true => s.calls.map (Call.seesRemoval (nodeId, projectName))
            | _ => s.calls }

/-- The calls over one table; none of them has begun. -/
def composeSystem : System ComposeState Event where
  init s := ∀ c ∈ s.calls, ∃ data, c = Call.fresh data
  step := step db

/-! ## What an upsert has to show -/

/-- An environment that the database may have for the data: what `dict` makes of it, or nothing
where it is empty. -/
def OwnEnv (data : ComposeCreate) (env : Option EnvDict) : Prop :=
  env = some (dictOf data.env) ∨ data.env = [] ∧ env = none

/-- A call that has ended has returned the row of its data, which is in the table, or has raised
after deletes. -/
structure Settled (env : Option EnvDict) (store : ComposeStore) (c : Call) : Prop where
  returned : ∀ view, c.program = .done view →
    ∃ row, store.projects.find? c.data.key = some row ∧ RowOf c.data env row ∧ view = toDto row
  raised : ∀ e, c.program = .raise e → 1 ≤ c.removed

/-- **The upsert of some data has one result**: whatever other calls do, there is one row at most,
every call with this data that ends has settled, and the environment is the same on all paths. -/
def OneResult (data : ComposeCreate) : Prop :=
  ∃ env, OwnEnv data env ∧ ∀ s, (composeSystem db).Reachable s →
    (s.store.projects.rows.filter fun row => row.key = data.key).length ≤ 1 ∧
    ∀ i now s' c c', step db s (.request i now) = some s' → s.calls[i]? = some c →
      s'.calls[i]? = some c' → c.data = data → Settled env s'.store c'

variable {db} {s : ComposeState} {c : Call}

/-! ## Steps -/

/-- The step of a call that asks something. -/
theorem step_request {i : Nat} (now : Nat) {r : Request}
    {k : Except ComposeFailure (Answer r) → Upsert} (hc : s.calls[i]? = some c)
    (hp : c.program = .ask r k) :
    step db s (.request i now) = some
      { store := (answer db now r s.store).2
        calls := s.calls.set i
          { c with program := k (answer db now r s.store).1, started := true } } := by
  simp only [step, hc, hp, Program.advance, Option.map_some]

/-- Only a call that asks something takes a step. -/
theorem exists_of_step {i now : Nat} {s' : ComposeState}
    (h : step db s (.request i now) = some s') :
    ∃ c r k, s.calls[i]? = some c ∧ c.program = .ask r k ∧
      s' = { store := (answer db now r s.store).2
             calls := s.calls.set i
               { c with program := k (answer db now r s.store).1, started := true } } := by
  cases hc : s.calls[i]? with
  | none => simp [step, hc] at h
  | some c =>
      cases hp : c.program with
      | done view => simp [step, hc, hp, Program.advance] at h
      | raise e => simp [step, hc, hp, Program.advance] at h
      | ask r k =>
          rw [step_request now hc hp] at h
          exact ⟨c, r, k, rfl, hp, (Option.some.inj h).symm⟩

/-- A delete that removes no row leaves every row where it is. -/
theorem deleteProject_keeps {nodeId : Uuid} {projectName : String} {store : ComposeStore}
    (h : (deleteProject db nodeId projectName store).1 ≠ .ok true) {key : Uuid × String}
    (hrow : (store.projects.find? key).isSome = true) :
    ((deleteProject db nodeId projectName store).2.projects.find? key).isSome = true := by
  rw [find?_deleteProject]
  split_ifs with hhit
  · exfalso
    refine h ?_
    rw [deleteProject, if_neg (by simp [hhit.1]), ← hhit.2, hrow]
  · exact hrow

/-! ## The chain of calls -/

/-- Where an upsert is in its chain. -/
inductive Stage (store : ComposeStore) (c : Call) : Prop where
  | waiting : c.program = upsertProject c.data → Stage store c
  | creating : c.started = true → c.program = createOrUpdate c.data → Stage store c
  | updating : c.started = true → c.program = updateOrCreate c.data → Stage store c
  /-- The create has found a row. -/
  | retrying (text : String) : c.started = true → c.program = updateOrRaise c.data text →
      ((store.projects.find? c.data.key).isSome = true ∨ 1 ≤ c.removed) → Stage store c
  | ended : c.program.ended = true → Stage store c

/-- A stage goes on as long as the row is not deleted. -/
theorem Stage.mono {store store' : ComposeStore} (h : Stage store c)
    (hkeep : (store.projects.find? c.data.key).isSome = true →
      (store'.projects.find? c.data.key).isSome = true) : Stage store' c := by
  cases h with
  | waiting hp => exact .waiting hp
  | creating hs hp => exact .creating hs hp
  | updating hs hp => exact .updating hs hp
  | retrying text hs hp hrow =>
      refine .retrying text hs hp ?_
      rcases hrow with hrow | hrow
      · exact Or.inl (hkeep hrow)
      · exact Or.inr hrow
  | ended he => exact .ended he

/-- A delete that removes the row is seen by the calls that have begun. -/
theorem Stage.seesRemoval {store store' : ComposeStore} (h : Stage store c) :
    Stage store' (c.seesRemoval c.data.key) := by
  unfold Call.seesRemoval
  split_ifs with hseen
  · cases h with
    | waiting hp => exact .waiting hp
    | creating hs hp => exact .creating hs hp
    | updating hs hp => exact .updating hs hp
    | retrying text hs hp _ => exact .retrying text hs hp (Or.inr (Nat.le_add_left 1 _))
    | ended he => exact .ended he
  · cases h with
    | waiting hp => exact .waiting hp
    | creating hs hp => exact .creating hs hp
    | updating hs hp => exact .updating hs hp
    | retrying text hs hp _ =>
        -- it asks something and has begun, so it has seen the delete
        refine absurd ⟨?_, rfl⟩ hseen
        rw [Call.underWay, hs, hp, updateOrRaise_eq]
        rfl
    | ended he => exact .ended he

theorem settled_of_asks {env : Option EnvDict} {store : ComposeStore} {r : Request}
    {k : Except ComposeFailure (Answer r) → Upsert} (hp : c.program = .ask r k) :
    Settled env store c where
  returned := fun view h => by
    rw [hp] at h
    exact nomatch h
  raised := fun e h => by
    rw [hp] at h
    exact nomatch h

/-- A call that raises after a delete has settled. -/
theorem settled_of_raised {env : Option EnvDict} {store : ComposeStore} {e : ComposeFailure}
    (hp : c.program = Program.raise e) (hremoved : 1 ≤ c.removed) : Settled env store c where
  returned := fun view h => by
    rw [hp] at h
    cases h
  raised := fun _ _ => hremoved

/-- A call that returns a row which is in the table has settled. -/
theorem settled_of_returned {env : Option EnvDict} {store : ComposeStore} {row : ComposeRow}
    (hp : c.program = .done (toDto row)) (hrow : store.projects.find? c.data.key = some row)
    (hdata : RowOf c.data env row) : Settled env store c where
  returned := fun view h => by
    rw [hp] at h
    cases h
    exact ⟨row, hrow, hdata, rfl⟩
  raised := fun e h => by
    rw [hp] at h
    exact nomatch h

/-- The call whose program goes on with `p`. -/
def Call.goesOn (c : Call) (p : Upsert) : Call := { c with program := p, started := true }

/-- What an update of the data's project does to a call that ends with its view. -/
theorem settled_update {store : ComposeStore} (now : Nat) (hdata : Upsertable db c.data)
    {row : ComposeRow} (hrow : store.projects.find? c.data.key = some row) :
    ∃ view store', updateProject db now c.data.nodeId c.data.projectName c.data.toUpdate store =
        (.ok (some view), store') ∧
      Settled (some (dictOf c.data.env)) store' (c.goesOn (.done view)) := by
  rcases updateProject_of_some now hdata hrow with ⟨row', store', heq, hfound, hown⟩
  exact ⟨toDto row', store', heq, settled_of_returned rfl hfound hown⟩

/-- **One request takes an upsert to its next stage**, and settles it when it ends. -/
theorem Stage.request {store : ComposeStore} (now : Nat) (h : Stage store c)
    (hdata : Upsertable db c.data) {r : Request} {k : Except ComposeFailure (Answer r) → Upsert}
    (hp : c.program = .ask r k) :
    Stage (answer db now r store).2 (c.goesOn (k (answer db now r store).1)) ∧
      Settled (some (dictOf c.data.env)) (answer db now r store).2
        (c.goesOn (k (answer db now r store).1)) := by
  cases h with
  | waiting hprogram =>
      rw [hprogram, upsertProject_eq] at hp
      cases hp
      simp only [answer, getProject_of_text hdata.name]
      cases hfind : store.projects.find? c.data.key with
      | none => exact ⟨.creating rfl rfl, settled_of_asks (createOrUpdate_eq c.data)⟩
      | some row => exact ⟨.updating rfl rfl, settled_of_asks (updateOrCreate_eq c.data)⟩
  | creating _ hprogram =>
      rw [hprogram, createOrUpdate_eq] at hp
      cases hp
      cases hfind : store.projects.find? c.data.key with
      | none =>
          simp only [answer, createProject_of_none now hdata hfind]
          refine ⟨.ended rfl, settled_of_returned rfl ?_ (rowOf_newRow now hdata.env)⟩
          exact (Table.find?_put _ _ _).trans (if_pos rfl)
      | some row =>
          have hsome : (store.projects.find? c.data.key).isSome = true := by rw [hfind]; rfl
          simp only [answer, createProject_of_some now hdata hsome]
          exact ⟨.retrying _ rfl rfl (Or.inl hsome), settled_of_asks (updateOrRaise_eq c.data _)⟩
  | updating _ hprogram =>
      rw [hprogram, updateOrCreate_eq] at hp
      cases hp
      cases hfind : store.projects.find? c.data.key with
      | none =>
          simp only [answer, updateProject_of_none now _ hdata.name hfind]
          exact ⟨.creating rfl rfl, settled_of_asks (createOrUpdate_eq c.data)⟩
      | some row =>
          rcases settled_update now hdata hfind with ⟨view, store', heq, hsettled⟩
          simp only [answer, heq]
          exact ⟨.ended rfl, hsettled⟩
  | retrying text _ hprogram hrow =>
      rw [hprogram, updateOrRaise_eq] at hp
      cases hp
      cases hfind : store.projects.find? c.data.key with
      | none =>
          -- the row that the create found is gone, so a delete was seen
          have hremoved : 1 ≤ c.removed := by simpa [hfind] using hrow
          simp only [answer, updateProject_of_none now _ hdata.name hfind]
          exact ⟨.ended rfl, settled_of_raised rfl hremoved⟩
      | some row =>
          rcases settled_update now hdata hfind with ⟨view, store', heq, hsettled⟩
          simp only [answer, heq]
          exact ⟨.ended rfl, hsettled⟩
  | ended hended =>
      rw [hp] at hended
      exact absurd hended Bool.false_ne_true

/-! ## Runs -/

/-- Every upsert of the data is in some stage. -/
def Staged (data : ComposeCreate) (s : ComposeState) : Prop :=
  ∀ c ∈ s.calls, c.data = data → Stage s.store c

/-- **A transaction keeps every upsert of the data in its chain.** -/
theorem staged_step {data : ComposeCreate} {e : Event} {s' : ComposeState}
    (hdata : Upsertable db data) (hs : Staged data s) (hstep : step db s e = some s') :
    Staged data s' := by
  cases e with
  | request i now =>
      rcases exists_of_step hstep with ⟨c, r, k, hc, hp, rfl⟩
      intro c' hmem hown
      rcases List.mem_or_eq_of_mem_set hmem with hmem | rfl
      · exact (hs c' hmem hown).mono (isSome_answer now r)
      · subst hown
        exact ((hs c (List.mem_of_getElem? hc) rfl).request now hdata hp).1
  | delete nodeId projectName =>
      cases hstep
      intro c' hmem hown
      by_cases hdeleted : (deleteProject db nodeId projectName s.store).1 = .ok true
      · simp only [hdeleted, List.mem_map] at hmem
        rcases hmem with ⟨c, hc, rfl⟩
        have hsame : (c.seesRemoval (nodeId, projectName)).data = c.data := by
          unfold Call.seesRemoval
          split_ifs
          · rfl
          · rfl
        rw [hsame] at hown
        have hstage := hs c hc hown
        by_cases hkey : c.data.key = (nodeId, projectName)
        · rw [← hkey]
          exact hstage.seesRemoval
        · have hunseen : c.seesRemoval (nodeId, projectName) = c :=
            if_neg fun hseen => hkey hseen.2
          rw [hunseen]
          refine hstage.mono ?_
          rw [find?_deleteProject, if_neg fun hhit => hkey hhit.2]
          exact id
      · have hcalls : c' ∈ s.calls := by
          revert hmem
          cases hresult : (deleteProject db nodeId projectName s.store).1 with
          | error e => exact id
          | ok b =>
              cases b with
              | true => exact absurd hresult hdeleted
              | false => exact id
        exact (hs c' hcalls hown).mono (deleteProject_keeps hdeleted)

/-- Every reachable state has every upsert of the data in its chain. -/
theorem staged_of_reachable {data : ComposeCreate} (hdata : Upsertable db data)
    (hs : (composeSystem db).Reachable s) : Staged data s := by
  refine hs.invariant ?_ ?_
  · intro s hinit c hc hown
    rcases hinit c hc with ⟨data', rfl⟩
    exact .waiting rfl
  · intro s e s' hstaged _ hstep
    exact staged_step hdata hstaged hstep

/-- The unique index leaves a project one row. -/
theorem rows_of_key_le (t : Table ComposeRow.key) (key : Uuid × String) :
    (t.rows.filter fun row => row.key = key).length ≤ 1 := by
  rw [t.filter_key key]
  cases t.find? key with
  | none => exact Nat.zero_le 1
  | some row => exact Nat.le_refl 1

/-- The condition is enough. -/
theorem oneResult_of_upsertable {data : ComposeCreate} (hdata : Upsertable db data) :
    OneResult db data := by
  refine ⟨some (dictOf data.env), Or.inl rfl, ?_⟩
  intro s hs
  refine ⟨rows_of_key_le _ _, ?_⟩
  intro i now s' c c' hstep hc hc' hown
  rcases exists_of_step hstep with ⟨c₀, r, k, hc₀, hp, rfl⟩
  rw [hc] at hc₀
  cases hc₀
  have hlt : i < s.calls.length := (List.getElem?_eq_some_iff.mp hc).1
  rw [List.getElem?_set_self hlt] at hc'
  cases hc'
  subst hown
  exact ((staged_of_reachable hdata hs c (List.mem_of_getElem? hc) rfl).request now hdata hp).2

/-! ## Two calls in turn -/

/-- Two upserts of the same data, and no project yet. -/
def twoCalls (data : ComposeCreate) : ComposeState :=
  ⟨⟨Table.empty, 0⟩, [Call.fresh data, Call.fresh data]⟩

theorem reachable_twoCalls (data : ComposeCreate) :
    (composeSystem db).Reachable (twoCalls data) := by
  refine .start ?_
  intro c hc
  refine ⟨data, ?_⟩
  simpa [twoCalls] using hc

/-- The state after one request. -/
def afterRequest (db : ComposeDb) (s : ComposeState) (i : Nat) (c : Call) (r : Request)
    (k : Except ComposeFailure (Answer r) → Upsert) : ComposeState where
  store := (answer db 0 r s.store).2
  calls := s.calls.set i (c.goesOn (k (answer db 0 r s.store).1))

theorem reachable_afterRequest {i : Nat} {r : Request}
    {k : Except ComposeFailure (Answer r) → Upsert} (hs : (composeSystem db).Reachable s)
    (hc : s.calls[i]? = some c) (hp : c.program = .ask r k) :
    (composeSystem db).Reachable (afterRequest db s i c r k) :=
  .next (e := .request i 0) hs trivial (step_request 0 hc hp)

/-- After each of its requests a call of the data has settled. -/
def Settles (db : ComposeDb) (data : ComposeCreate) (env : Option EnvDict) : Prop :=
  ∀ s, (composeSystem db).Reachable s → ∀ (i : Nat) (c : Call) (r : Request)
    (k : Except ComposeFailure (Answer r) → Upsert), s.calls[i]? = some c → c.program = .ask r k →
    c.data = data →
      Settled env (answer db 0 r s.store).2 (c.goesOn (k (answer db 0 r s.store).1))

theorem settles_of_oneResult {data : ComposeCreate} (h : OneResult db data) :
    ∃ env, Settles db data env := by
  rcases h with ⟨env, _, h⟩
  refine ⟨env, ?_⟩
  intro s hs i c r k hc hp hdata
  have hlt : i < s.calls.length := (List.getElem?_eq_some_iff.mp hc).1
  exact (h s hs).2 i 0 _ c _ (step_request 0 hc hp) hc (List.getElem?_set_self hlt) hdata

section Necessary

variable {data : ComposeCreate} {env : Option EnvDict}

/-- The first call of two after its read. -/
def afterRead (data : ComposeCreate) : Call := (Call.fresh data).goesOn (createOrUpdate data)

/-- The state in which the first call of two has read that there is no project. -/
def readNothing (data : ComposeCreate) : ComposeState :=
  ⟨⟨Table.empty, 0⟩, [afterRead data, Call.fresh data]⟩

/-- A call that no delete has touched does not raise. -/
theorem Settled.not_raise {store : ComposeStore} {e : ComposeFailure} (hremoved : c.removed = 0)
    (h : Settled env store (c.goesOn (.raise e))) : False := by
  have hraised : 1 ≤ c.removed := h.raised e rfl
  omega

/-- The name can be looked up, and the first call goes on to create. -/
theorem text_of_settles (h : Settles db data env) :
    db.text data.projectName = true ∧ (composeSystem db).Reachable (readNothing data) := by
  have hstart : (composeSystem db).Reachable (twoCalls data) := reachable_twoCalls data
  have hsettled := h _ hstart 0 (Call.fresh data) _ _ rfl (upsertProject_eq data) rfl
  have hname : db.text data.projectName = true := by
    by_contra hname
    have hread : getProject db data.nodeId data.projectName (twoCalls data).store =
        .error .dataError := if_neg hname
    simp only [answer, hread] at hsettled
    exact hsettled.not_raise rfl
  have hread : getProject db data.nodeId data.projectName (twoCalls data).store = .ok none :=
    getProject_of_text hname
  have hnext := reachable_afterRequest hstart (i := 0) rfl (upsertProject_eq data)
  simp only [afterRequest, answer, hread] at hnext
  exact ⟨hname, hnext⟩

/-- The row of the data can be written. -/
theorem created_of_settles (h : Settles db data env) :
    (data.projectName.length ≤ 100 ∧ db.text data.projectName = true ∧
      db.text data.compose = true ∧ db.json (newRow 0 data ⟨Table.empty, 0⟩).env = true) ∧
    (db.nodes data.nodeId = true ∧ db.packOk data.templatePackId = true) ∧
    createProject db 0 data ⟨Table.empty, 0⟩ =
      (.ok (toDto (newRow 0 data ⟨Table.empty, 0⟩)),
        ⟨Table.empty.put (newRow 0 data ⟨Table.empty, 0⟩), 1⟩) := by
  rcases text_of_settles h with ⟨hname, hreach⟩
  have hsettled := h _ hreach 0 (afterRead data) _ _ rfl (createOrUpdate_eq data) rfl
  by_cases hfits : data.projectName.length ≤ 100 ∧ db.text data.projectName = true ∧
      db.text data.compose = true ∧ db.json (newRow 0 data ⟨Table.empty, 0⟩).env = true
  · by_cases hrefs : db.nodes data.nodeId = true ∧ db.packOk data.templatePackId = true
    · refine ⟨hfits, hrefs, ?_⟩
      rw [createProject, if_neg (not_not.mpr hfits), if_neg]
      simp [hrefs]
    · -- a missing node or pack is reported as an existing project, and there is none to update
      have hexists : createProject db 0 data ⟨Table.empty, 0⟩ =
          (.error (.alreadyExists (existsText db data)), ⟨Table.empty, 0⟩) := by
        rw [createProject, if_neg (not_not.mpr hfits), if_pos]
        right
        rw [← not_and_or]
        exact hrefs
      have hnext := reachable_afterRequest hreach (i := 0) rfl (createOrUpdate_eq data)
      have hlast := h _ hnext 0 ((afterRead data).goesOn (updateOrRaise data (existsText db data)))
        _ _ (by simp [afterRequest, readNothing, answer, hexists]) (updateOrRaise_eq data _) rfl
      have hnone : updateProject db 0 data.nodeId data.projectName data.toUpdate
          ⟨Table.empty, 0⟩ = (.ok none, ⟨Table.empty, 0⟩) :=
        updateProject_of_none 0 data.toUpdate hname rfl
      simp only [afterRequest, readNothing, answer, hexists, hnone] at hlast
      exact (hlast.not_raise rfl).elim
  · have herror : createProject db 0 data ⟨Table.empty, 0⟩ =
        (.error .dataError, ⟨Table.empty, 0⟩) := if_pos hfits
    simp only [readNothing, answer, herror] at hsettled
    exact (hsettled.not_raise rfl).elim

/-- What the first call has created. -/
def createdRow (data : ComposeCreate) : ComposeRow := newRow 0 data ⟨Table.empty, 0⟩

/-- The table with it. -/
def createdStore (data : ComposeCreate) : ComposeStore := ⟨Table.empty.put (createdRow data), 1⟩

theorem find?_createdRow (data : ComposeCreate) :
    (createdStore data).projects.find? data.key = some (createdRow data) :=
  (Table.find?_put _ _ _).trans (if_pos rfl)

/-- The first call has created the project, and the second one has not begun. -/
def createdOnce (data : ComposeCreate) : ComposeState :=
  ⟨createdStore data,
    [(afterRead data).goesOn (.done (toDto (createdRow data))), Call.fresh data]⟩

/-- The first call creates the project, with the environment of all paths. -/
theorem createdOnce_of_settles (h : Settles db data env) :
    (composeSystem db).Reachable (createdOnce data) ∧ (createdRow data).env = env := by
  rcases text_of_settles h with ⟨_, hreach⟩
  rcases created_of_settles h with ⟨_, _, hcreated⟩
  have hnext := reachable_afterRequest hreach (i := 0) rfl (createOrUpdate_eq data)
  have hsettled := h _ hreach 0 (afterRead data) _ _ rfl (createOrUpdate_eq data) rfl
  simp only [afterRequest, readNothing, answer, hcreated] at hnext hsettled
  refine ⟨hnext, ?_⟩
  rcases hsettled.returned _ rfl with ⟨row, hrow, hown, _⟩
  have hfound := find?_createdRow data
  have hsame : createdRow data = row := Option.some.inj (hfound.symm.trans hrow)
  rw [hsame]
  exact hown.env

/-- The second call has found the project. -/
def foundProject (data : ComposeCreate) : ComposeState :=
  ⟨createdStore data,
    [(afterRead data).goesOn (.done (toDto (createdRow data))),
      (Call.fresh data).goesOn (updateOrCreate data)]⟩

/-- The update of the second call changes the environment from `None` to `{}`, where the database
takes it. -/
theorem updateProject_createdStore (hname : db.text data.projectName = true)
    (hnone : (createdRow data).env = none) :
    updateProject db 0 data.nodeId data.projectName data.toUpdate (createdStore data) =
        (.error .dataError, createdStore data) ∨
      ∃ row store, updateProject db 0 data.nodeId data.projectName data.toUpdate
          (createdStore data) = (.ok (some (toDto row)), store) ∧
        store.projects.find? data.key = some row ∧ row.env = some (dictOf data.env) := by
  have hchanged : data.toUpdate.apply (createdRow data) ≠ createdRow data := by
    intro hsame
    have henv := congrArg ComposeRow.env hsame
    rw [hnone] at henv
    exact nomatch henv
  have hfound : (createdStore data).projects.find? (data.nodeId, data.projectName) =
      some (createdRow data) := find?_createdRow data
  rw [updateProject, if_neg (by simp [hname]), hfound]
  simp only [hchanged, if_false]
  split
  · exact Or.inl rfl
  · rw [if_neg fun hpack => hpack.1 rfl]
    exact Or.inr ⟨_, _, rfl, (Table.find?_put _ _ _).trans (if_pos rfl), rfl⟩

/-- **An empty environment has two results**: the first call stores `None`, the second `{}`. -/
theorem env_ne_nil_of_settles (h : Settles db data env) : data.env ≠ [] := by
  intro hempty
  rcases text_of_settles h with ⟨hname, _⟩
  rcases createdOnce_of_settles h with ⟨hreach, henv⟩
  have hnone : (createdRow data).env = none := if_pos hempty
  have hfound := find?_createdRow data
  have hread : getProject db data.nodeId data.projectName (createdOnce data).store =
      .ok (some (toDto (createdRow data))) := by
    rw [getProject_of_text hname]
    simp only [createdOnce, hfound, Option.map_some]
  have hnext := reachable_afterRequest hreach (i := 1) rfl (upsertProject_eq data)
  simp only [afterRequest, answer, hread] at hnext
  have hfoundProject : (composeSystem db).Reachable (foundProject data) := hnext
  have hsettled := h _ hfoundProject 1 ((Call.fresh data).goesOn (updateOrCreate data)) _ _ rfl
    (updateOrCreate_eq data) rfl
  rcases updateProject_createdStore hname hnone with herror | ⟨row, store, hok, hrow, hrowEnv⟩
  · simp only [foundProject, answer, herror] at hsettled
    exact hsettled.not_raise rfl
  · simp only [foundProject, answer, hok] at hsettled
    rcases hsettled.returned _ rfl with ⟨row', hrow', hown, _⟩
    have hsame : row = row' := Option.some.inj (hrow.symm.trans hrow')
    rw [hsame, hown.env, ← henv, hnone] at hrowEnv
    cases hrowEnv

/-- The condition is necessary. -/
theorem upsertable_of_oneResult (h : OneResult db data) : Upsertable db data := by
  rcases settles_of_oneResult h with ⟨env, hsettles⟩
  rcases created_of_settles hsettles with ⟨⟨hlength, hname, hcompose, hjson⟩, ⟨hnode, hpack⟩, _⟩
  have henv := env_ne_nil_of_settles hsettles
  have hrow : (newRow 0 data ⟨Table.empty, 0⟩).env = some (dictOf data.env) := if_neg henv
  rw [hrow] at hjson
  exact ⟨henv, hlength, hname, hcompose, hjson, hnode, hpack⟩

end Necessary

/-- **When an upsert has one result whatever path it takes.** -/
theorem one_result_iff (db : ComposeDb) (data : ComposeCreate) :
    OneResult db data ↔ Upsertable db data :=
  ⟨upsertable_of_oneResult, oneResult_of_upsertable⟩

/-- A database that has every node and pack and takes every value. -/
def openDb : ComposeDb where
  nodes _ := true
  packs _ := true
  text _ := true
  json _ := true
  fmt := canonicalFormats
  unicode := asciiUnicode

/-- A project without environment has two results. -/
theorem not_oneResult_without_env :
    ¬OneResult openDb { nodeId := 1, projectName := "shop", compose := "services: {}" } := by
  intro h
  exact (upsertable_of_oneResult h).env rfl

end Compose
end NodeNexus
