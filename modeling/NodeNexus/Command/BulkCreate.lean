import NodeNexus.Command.Handlers
import NodeNexus.Command.Outcomes

/-!
# The report of a bulk creation

The creating handlers write each entity in a transaction of its own, and log it after that.

* `storedBy` — the entities that a call leaves, each with the position of its item.
* `ReportMatches` — an item is reported as created exactly where its entity is stored.
* `ResendSafe` — sending the items reported as failed once more creates no entity twice.
* `bulk_create_report_iff` — the report is right where the event of each entity is stored: a
  lost event turns a stored entity into a failed item.
-/

namespace NodeNexus
namespace Command

open Content Node
open NodeNexus.Core

/-! ## What is stored and reported -/

/-- An entity, with the position of the item that it was made of. -/
abbrev Entity : Type := Nat × Uuid

/-- The entity that an answer stores. -/
def storedBy : Note Entity
  | .createScript item _, .ok script => [(item, script.id)]
  | .createCommand item _, .ok command => [(item, command.id)]
  | .service item (.createNode _), .ok node => [(item, node.id)]
  | _, _ => []

/-- The entities that a call leaves. -/
def stored (answers : Answers) (p : Endpoint BulkResult) : List Entity :=
  (Program.run (Program.noting storedBy answers) p []).2

/-- **The report matches the store**: the call returns one result for each of its `n` items,
and result `i` is a success exactly where the entity of item `i` is stored. -/
def ReportMatches (answers : Answers) (p : Endpoint BulkResult) (n : Nat) : Prop :=
  ∃ result, (Program.run (Program.noting storedBy answers) p []).1 = .ok result ∧
    result.results.length = n ∧ ∀ i r, result.results[i]? = some r →
      (r.status = .success ↔ ∃ id, (i, id) ∈ stored answers p)

/-- The positions of the items that are reported as failed. -/
def failedItems (result : BulkResult) : List Nat :=
  (List.range result.results.length).filter fun i =>
    (result.results[i]?).any fun r => decide (r.status = .error)

/-- **Sending the failed items once more creates no entity twice**: of each item, both calls
together store one entity at most.  The answers to the second call know nothing of the first:
the tables take a name once (`ix_commands_name`, `ix_scripts_name`, `ix_nodes_name`), so they
refuse an item that is still stored, and store it where it was deleted or renamed between the
calls. -/
def ResendSafe {ι : Type} (answers : Answers) (create : List ι → Endpoint BulkResult)
    (items : List ι) : Prop :=
  ∀ result, (Program.run (Program.noting storedBy answers) (create items) []).1 = .ok result →
    ∀ (answers' : Answers) (i : Nat),
      (stored answers (create items)).countP (fun entity => decide (entity.1 = i)) +
        (stored answers' (create ((failedItems result).filterMap (items[·]?)))).countP
          (fun entity => decide ((failedItems result)[entity.1]? = some i)) ≤ 1

/-! ## One item -/

/-- The entity of an item that was written. -/
def entityOf (item : Nat) : Except NodeFailure (Uuid × Option String) → List Entity
  | .ok entity => [(item, entity.1)]
  | .error _ => []

/-- What a creating use case comes to: the write, and what follows it. -/
structure Creates (answers : Answers) (item : Nat) (p : Endpoint (Uuid × Option String))
    (written : Except NodeFailure (Uuid × Option String))
    (recorded : Uuid × Option String → Except NodeFailure Unit) : Prop where
  result : Program.answered answers p = do
    let entity ← written
    recorded entity
    .ok entity
  stores : Program.noted storedBy answers p = entityOf item written

section Items

variable {ι : Type} {answers : Answers} {item : Nat} {p : Endpoint (Uuid × Option String)}
  {written : Except NodeFailure (Uuid × Option String)}
  {recorded : Uuid × Option String → Except NodeFailure Unit}

/-- What an item comes to. -/
def itemOutcome (written : Except NodeFailure (Uuid × Option String))
    (recorded : Uuid × Option String → Except NodeFailure Unit) :
    Except NodeFailure (Uuid × Option String) := do
  let entity ← written
  recorded entity
  .ok entity

theorem Creates.answered_createOne (h : Creates answers item p written recorded)
    (name : Option String) : Program.answered answers (createOne name p) =
      .ok (createResult name (itemOutcome written recorded)) := by
  unfold createOne
  rw [Program.answered_bind, Program.answered_attempt, h.result]
  rfl

theorem Creates.noted_createOne (h : Creates answers item p written recorded)
    (name : Option String) :
    Program.noted storedBy answers (createOne name p) = entityOf item written := by
  unfold createOne
  rw [Program.noted_bind_left fun _ => rfl, Program.noted_attempt, h.stores]

/-- A result is a success where the item was written and recorded. -/
theorem status_createResult {name : Option String} :
    (createResult name (itemOutcome written recorded)).status = .success ↔
      ∃ entity, written = .ok entity ∧ Returns (recorded entity) := by
  unfold itemOutcome
  cases written with
  | error e => exact iff_of_false nofun fun ⟨_, h, _⟩ => nomatch h
  | ok entity =>
      show (createResult name (recorded entity >>= _)).status = _ ↔ _
      cases hrecorded : recorded entity with
      | error e =>
          refine iff_of_false nofun ?_
          rintro ⟨entity', h, hreturns⟩
          cases h
          rw [hrecorded] at hreturns
          exact not_returns_error e hreturns
      | ok u => exact iff_of_true rfl ⟨entity, rfl, u, hrecorded⟩

theorem mem_entityOf {entity : Entity} :
    entity ∈ entityOf item written ↔ entity.1 = item ∧ ∃ x, written = .ok x ∧ x.1 = entity.2 := by
  cases written with
  | error e => exact iff_of_false List.not_mem_nil fun ⟨_, _, h, _⟩ => nomatch h
  | ok x =>
      rw [entityOf, List.mem_singleton]
      constructor
      · rintro rfl
        exact ⟨rfl, x, rfl, rfl⟩
      · rintro ⟨hitem, y, hy, hid⟩
        cases hy
        exact Prod.ext hitem hid.symm

end Items

/-! ## All items -/

/-- How a creating handler treats its items. -/
structure CreatesAll {ι : Type} (answers : Answers) (create : List ι → Endpoint BulkResult)
    (written : Nat → ι → Except NodeFailure (Uuid × Option String))
    (recorded : Nat → ι → Uuid × Option String → Except NodeFailure Unit) : Prop where
  result : ∀ items, ∃ (allFailed : Nat) (name : ι → Option String),
    Program.answered answers (create items) = .ok (bulkResultOf allFailed
      (items.zipIdx.map fun t =>
        createResult (name t.1) (itemOutcome (written t.2 t.1) (recorded t.2 t.1))))
  stores : ∀ items, Program.noted storedBy answers (create items) =
    items.zipIdx.flatMap fun t => entityOf t.2 (written t.2 t.1)

section All

variable {ι : Type} {answers : Answers} {create : List ι → Endpoint BulkResult}
  {written : Nat → ι → Except NodeFailure (Uuid × Option String)}
  {recorded : Nat → ι → Uuid × Option String → Except NodeFailure Unit} {items : List ι}

theorem createsAll_bulkCreate {allFailed : Nat} {name : ι → Option String}
    {creates : Nat → ι → Endpoint (Uuid × Option String)}
    (h : ∀ item i, Creates answers item (creates item i) (written item i) (recorded item i)) :
    CreatesAll answers (fun items => bulkCreate allFailed items fun item i =>
      createOne (name i) (creates item i)) written recorded where
  result items := by
    refine ⟨allFailed, name, ?_⟩
    unfold bulkCreate
    rw [Program.answered_bind, Program.answered_gather,
      mapM_eq_ok_map fun t _ => (h t.2 t.1).answered_createOne (name t.1)]
    rfl
  stores items := by
    unfold bulkCreate
    rw [Program.noted_bind_left fun _ => rfl, Program.noted_gather]
    simp only [(h _ _).noted_createOne]

/-- The entities of a call are those of its items that were written. -/
theorem CreatesAll.mem_stored (h : CreatesAll answers create written recorded) {i : Nat}
    {id : Uuid} : (i, id) ∈ stored answers (create items) ↔
      ∃ item, items[i]? = some item ∧ ∃ x, written i item = .ok x ∧ x.1 = id := by
  unfold stored
  rw [Program.run_noting, List.nil_append, h.stores, List.mem_flatMap]
  constructor
  · rintro ⟨t, ht, hentity⟩
    obtain ⟨rfl, x, hx, hid⟩ := mem_entityOf.1 hentity
    exact ⟨t.1, List.mem_zipIdx_iff_getElem?.1 ht, x, hx, hid⟩
  · rintro ⟨item, hitem, x, hx, hid⟩
    exact ⟨(item, i), List.mem_zipIdx_iff_getElem?.2 hitem, mem_entityOf.2 ⟨rfl, x, hx, hid⟩⟩

/-- The call returns whatever happens to its items, with one result for each. -/
theorem CreatesAll.returns (h : CreatesAll answers create written recorded) (items : List ι) :
    ∃ result, (Program.run (Program.noting storedBy answers) (create items) []).1 = .ok result ∧
      result.results.length = items.length ∧ ∀ i r, result.results[i]? = some r →
        ∃ item, items[i]? = some item ∧ (r.status = .success ↔
          ∃ x, written i item = .ok x ∧ Returns (recorded i item x)) := by
  obtain ⟨allFailed, name, hresult⟩ := h.result items
  rw [Program.run_noting, hresult]
  refine ⟨_, rfl, ?_, fun i r hr => ?_⟩
  · rw [bulkResultOf, List.length_map, List.length_zipIdx]
  · simp only [bulkResultOf, List.getElem?_map, List.getElem?_zipIdx] at hr
    cases hitem : items[i]? with
    | none =>
        rw [hitem] at hr
        cases hr
    | some item =>
        rw [hitem] at hr
        simp only [Option.map_some, Nat.zero_add, Option.some.injEq] at hr
        refine ⟨item, rfl, ?_⟩
        rw [← hr]
        exact status_createResult

/-- **The report is right where each entity that was written is recorded.** -/
theorem CreatesAll.reportMatches_iff (h : CreatesAll answers create written recorded) :
    ReportMatches answers (create items) items.length ↔
      ∀ i item x, items[i]? = some item → written i item = .ok x →
        Returns (recorded i item x) := by
  obtain ⟨result, hresult, hlength, hstatus⟩ := h.returns items
  constructor
  · rintro ⟨result', hresult', -, hmatches⟩ i item x hitem hx
    rw [hresult] at hresult'
    cases hresult'
    have hbound : i < result.results.length := by
      rw [hlength]
      exact (List.getElem?_eq_some_iff.1 hitem).1
    have hr := List.getElem?_eq_getElem hbound
    obtain ⟨item', hitem', hsuccess⟩ := hstatus i _ hr
    rw [hitem] at hitem'
    cases hitem'
    have hstored := h.mem_stored.2 ⟨item, hitem, x, hx, rfl⟩
    obtain ⟨x', hx', hrecorded⟩ := hsuccess.1 ((hmatches i _ hr).2 ⟨_, hstored⟩)
    rw [hx] at hx'
    cases hx'
    exact hrecorded
  · intro hrecorded
    refine ⟨result, hresult, hlength, fun i r hr => ?_⟩
    obtain ⟨item, hitem, hsuccess⟩ := hstatus i r hr
    rw [hsuccess]
    constructor
    · rintro ⟨x, hx, -⟩
      exact ⟨x.1, h.mem_stored.2 ⟨item, hitem, x, hx, rfl⟩⟩
    · rintro ⟨id, hid⟩
      obtain ⟨item', hitem', x, hx, -⟩ := h.mem_stored.1 hid
      rw [hitem] at hitem'
      cases hitem'
      exact ⟨x, hx, hrecorded i item x hitem hx⟩

/-- The positions of the stored entities are positions of items, each at most once. -/
theorem CreatesAll.nodup_positions (h : CreatesAll answers create written recorded) :
    ((stored answers (create items)).map Prod.fst).Nodup := by
  unfold stored
  rw [Program.run_noting, List.nil_append, h.stores, List.map_flatMap]
  have hsub : (items.zipIdx.flatMap fun t => (entityOf t.2 (written t.2 t.1)).map Prod.fst).Sublist
      (items.zipIdx.map Prod.snd) := by
    induction items.zipIdx with
    | nil => exact List.Sublist.slnil
    | cons t ts ih =>
        rw [List.flatMap_cons, List.map_cons]
        cases written t.2 t.1 with
        | ok x => exact ih.cons_cons t.2
        | error e => exact ih.cons t.2
  refine hsub.nodup ?_
  rw [List.zipIdx_map_snd]
  exact List.nodup_range'

/-- Of entities with different positions, one at most has the position that is meant. -/
theorem countP_le_one {entities : List Entity} (hnodup : (entities.map Prod.fst).Nodup)
    {q : Nat → Bool} (hq : ∀ i j, q i = true → q j = true → i = j) :
    entities.countP (fun entity => q entity.1) ≤ 1 := by
  induction entities with
  | nil => exact Nat.zero_le 1
  | cons entity entities ih =>
      rw [List.map_cons, List.nodup_cons] at hnodup
      rw [List.countP_cons]
      by_cases hentity : q entity.1 = true
      · have hnone : entities.countP (fun entity => q entity.1) = 0 := by
          rw [List.countP_eq_zero]
          intro other hother hsame
          rw [hq _ _ hentity hsame] at hnodup
          exact hnodup.1 (List.mem_map_of_mem hother)
        rw [hnone, if_pos hentity]
      · rw [if_neg hentity]
        exact ih hnodup.2

/-- **A report that matches the store is safe to resend from.** -/
theorem resendSafe_of_reportMatches
    (h : ∀ answers, ∃ written recorded, CreatesAll answers create written recorded)
    (hmatches : ReportMatches answers (create items) items.length) :
    ResendSafe answers create items := by
  obtain ⟨result, hresult, -, hstatus⟩ := hmatches
  intro result' hresult' answers' i
  rw [hresult] at hresult'
  cases hresult'
  obtain ⟨written, recorded, hcreates⟩ := h answers
  obtain ⟨written', recorded', hcreates'⟩ := h answers'
  have hfirst : (stored answers (create items)).countP (fun entity => decide (entity.1 = i)) ≤ 1 :=
    countP_le_one hcreates.nodup_positions (q := fun j => decide (j = i)) fun j k hj hk =>
      (of_decide_eq_true hj).trans (of_decide_eq_true hk).symm
  have hnodup : (failedItems result).Nodup := List.nodup_range.filter _
  have hsecond : (stored answers' (create ((failedItems result).filterMap (items[·]?)))).countP
      (fun entity => decide ((failedItems result)[entity.1]? = some i)) ≤ 1 := by
    refine countP_le_one hcreates'.nodup_positions
      (q := fun j => decide ((failedItems result)[j]? = some i)) fun j k hj hk => ?_
    have hj' := of_decide_eq_true hj
    have hk' := of_decide_eq_true hk
    exact (List.getElem?_inj (List.getElem?_eq_some_iff.1 hj').1 hnodup).1 (hj'.trans hk'.symm)
  by_cases hstored : ∃ id, (i, id) ∈ stored answers (create items)
  · have hnone : (stored answers' (create ((failedItems result).filterMap (items[·]?)))).countP
        (fun entity => decide ((failedItems result)[entity.1]? = some i)) = 0 := by
      rw [List.countP_eq_zero]
      intro entity _ hsame
      have hmem : i ∈ failedItems result := List.mem_of_getElem? (of_decide_eq_true hsame)
      unfold failedItems at hmem
      obtain ⟨-, hfailed⟩ := List.mem_filter.1 hmem
      cases hr : result.results[i]? with
      | none =>
          rw [hr] at hfailed
          cases hfailed
      | some r =>
          rw [hr] at hfailed
          have hsuccess := (hstatus i r hr).2 hstored
          simp [hsuccess] at hfailed
    omega
  · have hnone : (stored answers (create items)).countP (fun entity => decide (entity.1 = i)) = 0 := by
      rw [List.countP_eq_zero]
      intro entity hentity hsame
      have hposition : entity.1 = i := of_decide_eq_true hsame
      exact hstored ⟨entity.2, hposition ▸ hentity⟩
    omega

end All

/-! ## The three handlers -/

section Handlers

variable {answers : Answers} {cfg : Setting} {item : Nat}

/-- The event of a created script or command. -/
def createdEvent (entity name : String) : AuditEventDTO :=
  auditEvent "create" none none (some [("entity", .str entity), ("name", .str name)])

/-- What comes of the event of a script or a command. -/
def recordedAs (cfg : Setting) (answers : Answers) (item : Nat) (entity name : String) :
    Except NodeFailure Unit :=
  optionalOutcome cfg answers item "create" none [("entity", .str entity), ("name", .str name)]

theorem noted_log {action : String} {nodeId : Option Uuid} {details : Json.Fields} :
    Program.noted storedBy answers (ofService item none (cfg.log action nodeId details)) = [] := by
  rw [noted_ofService]
  have hasks : (cfg.log action nodeId details).Asks fun r => ∃ event, r = .enqueueOptional event :=
    asks_log (fun _ event => ⟨event, rfl⟩) ..
  refine hasks.noted_eq_nil fun r x hr => ?_
  obtain ⟨event, rfl⟩ := hr
  rfl

theorem creates_script (i : ScriptCreate) : Creates answers item
    (do
      let created ← createScript cfg item i.dto
      pure (created.id, some created.name))
    ((answers (.createScript item i.dto)).map fun script => (script.id, some script.name))
    fun _ => recordedAs cfg answers item "script" i.dto.name where
  result := by
    unfold createScript
    simp only [Program.answered_bind, Program.answered_call, Program.answered_pure,
      answered_ofService, answered_log]
    cases answers (.createScript item i.dto) with
    | error e => rfl
    | ok script =>
        show (_ >>= _ : Except NodeFailure _) >>= _ = recordedAs .. >>= _
        unfold recordedAs
        cases optionalOutcome cfg answers item "create" none
          [("entity", .str "script"), ("name", .str i.dto.name)] <;> rfl
  stores := by
    unfold createScript
    rw [Program.noted_bind_left fun _ => rfl, Program.noted_bind, Program.noted_call,
      Program.answered_call]
    cases answers (.createScript item i.dto) with
    | error e => rfl
    | ok script =>
        show storedBy _ _ ++ Program.noted storedBy answers (_ >>= _) = _
        rw [Program.noted_bind_left fun _ => rfl, noted_log]
        rfl

theorem creates_command (i : CommandCreate) : Creates answers item
    (do
      let created ← createCommand cfg item i.dto
      pure (created.id, some created.name))
    ((answers (.createCommand item i.dto)).map fun command => (command.id, some command.name))
    fun _ => recordedAs cfg answers item "command" i.dto.name where
  result := by
    unfold createCommand
    simp only [Program.answered_bind, Program.answered_call, Program.answered_pure,
      answered_ofService, answered_log]
    cases answers (.createCommand item i.dto) with
    | error e => rfl
    | ok command =>
        show (_ >>= _ : Except NodeFailure _) >>= _ = recordedAs .. >>= _
        unfold recordedAs
        cases optionalOutcome cfg answers item "create" none
          [("entity", .str "command"), ("name", .str i.dto.name)] <;> rfl
  stores := by
    unfold createCommand
    rw [Program.noted_bind_left fun _ => rfl, Program.noted_bind, Program.noted_call,
      Program.answered_call]
    cases answers (.createCommand item i.dto) with
    | error e => rfl
    | ok command =>
        show storedBy _ _ ++ Program.noted storedBy answers (_ >>= _) = _
        rw [Program.noted_bind_left fun _ => rfl, noted_log]
        rfl

/-! ### Nodes -/

/-- What comes of encrypting a text; an empty one is left as it is. -/
def sealedText (answers : Answers) (item : Nat) : Option String → Except NodeFailure (Option String)
  | none => .ok none
  | some text =>
      if text = "" then .ok (some text)
      else (answers (.service item (.encrypt text))).map some

/-- The node as it is written, with its secrets encrypted. -/
def securedNode (answers : Answers) (item : Nat) (data : NodeCreateDTO) :
    Except NodeFailure NodeCreateDTO := do
  let password ← sealedText answers item data.credentials.password
  let sshKey ← sealedText answers item data.credentials.sshKey
  let passphrase ← sealedText answers item data.credentials.passphrase
  .ok { data with credentials := ⟨data.credentials.username, password, sshKey, passphrase⟩ }

/-- What comes of writing a node. -/
def writtenNode (answers : Answers) (item : Nat) (data : NodeCreateDTO) :
    Except NodeFailure NodeViewDTO := do
  let secured ← securedNode answers item data
  answers (.service item (.createNode secured))

theorem answered_fetchHostKey (host : String) (port : Int) :
    Program.answered (partAnswers answers item none) (fetchHostKey cfg host port) = .ok () := by
  unfold fetchHostKey
  split
  · rw [Program.answered_bind, Program.answered_attempt]
    rfl
  · rfl

theorem answered_encryptValue (o : Option String) :
    Program.answered (partAnswers answers item none) (encryptValue o) =
      sealedText answers item o := by
  cases o with
  | none => rfl
  | some text =>
      have hsealed : sealedText answers item (some text) = if text = "" then .ok (some text)
          else (answers (.service item (.encrypt text))).map some := rfl
      rw [encryptValue_some, hsealed]
      split
      · rfl
      · rw [Program.answered_bind, Program.answered_call]
        show answers (.service item (.encrypt text)) >>= _ = _
        cases answers (.service item (.encrypt text)) <;> rfl

/-- `create_node` writes the node and then asks for its required event. -/
theorem answered_createNode (data : NodeCreateDTO) :
    Program.answered (partAnswers answers item none) (createNode cfg data) =
      writtenNode answers item data >>= fun node =>
        requiredOutcome cfg answers item "create" (some node.id)
          (some [("name", .str data.name)]) >>= fun _ => .ok node := by
  unfold createNode writtenNode securedNode
  simp only [Program.answered_bind, answered_fetchHostKey, answered_encryptValue,
    Program.answered_call, answered_logRequired, Program.answered_pure]
  cases sealedText answers item data.credentials.password with
  | error e => rfl
  | ok password =>
      cases sealedText answers item data.credentials.sshKey with
      | error e => rfl
      | ok sshKey =>
          cases sealedText answers item data.credentials.passphrase with
          | error e => rfl
          | ok passphrase => rfl

/-- A request of a service that creates no node. -/
def CreatesNone (r : Request) : Prop := ∀ data, r ≠ .createNode data

theorem noted_createsNone {α : Type} {p : Service α} (h : p.Asks CreatesNone) :
    Program.noted (partNote storedBy item none) (partAnswers answers item none) p = [] := by
  refine h.noted_eq_nil fun r x hr => ?_
  cases r with
  | createNode data => exact absurd rfl (hr data)
  | saveHistory task record => rfl
  | _ => cases x <;> rfl

theorem asks_encryptValue (o : Option String) : (encryptValue o).Asks CreatesNone := by
  cases o with
  | none => exact .done _
  | some text =>
      rw [encryptValue_some]
      split
      · exact .done _
      · have hencrypt : (await (.encrypt text)).Asks CreatesNone :=
          .call fun _ => Request.noConfusion
        exact hencrypt.bind fun token => .done _

theorem asks_fetchHostKey (host : String) (port : Int) :
    (fetchHostKey cfg host port).Asks CreatesNone := by
  unfold fetchHostKey
  split
  · have hfetch : (await (.ensureHost host port)).Asks CreatesNone :=
      .call fun _ => Request.noConfusion
    exact hfetch.attempt.bind fun _ => .done _
  · exact .done _

/-- The node stays stored when its event is lost. -/
theorem noted_createNode (data : NodeCreateDTO) :
    Program.noted (partNote storedBy item none) (partAnswers answers item none)
        (createNode cfg data) =
      entityOf item ((writtenNode answers item data).map fun node => (node.id, none)) := by
  have hlogged : ∀ node : NodeViewDTO, Program.noted (partNote storedBy item none)
      (partAnswers answers item none) (do
        cfg.logRequired "create" (some node.id) (some [("name", .str data.name)])
        pure node) = [] :=
    fun node => noted_createsNone
      ((asks_logRequired (fun _ _ => Request.noConfusion) ..).bind fun _ => .done _)
  unfold createNode writtenNode securedNode
  rw [Program.noted_bind_of_nil (noted_createsNone (asks_fetchHostKey ..)), answered_fetchHostKey]
  dsimp only
  rw [Program.noted_bind_of_nil (noted_createsNone (asks_encryptValue _)), answered_encryptValue]
  cases sealedText answers item data.credentials.password with
  | error e => rfl
  | ok password =>
      dsimp only
      rw [Program.noted_bind_of_nil (noted_createsNone (asks_encryptValue _)), answered_encryptValue]
      cases sealedText answers item data.credentials.sshKey with
      | error e => rfl
      | ok sshKey =>
          dsimp only
          rw [Program.noted_bind_of_nil (noted_createsNone (asks_encryptValue _)),
            answered_encryptValue]
          cases sealedText answers item data.credentials.passphrase with
          | error e => rfl
          | ok passphrase =>
              dsimp only
              rw [Program.noted_bind_left hlogged, Program.noted_call]
              show storedBy (.service item (.createNode _)) (answers _) = entityOf item
                ((answers (.service item (.createNode _))).map _)
              cases answers (.service item (.createNode _)) <;> rfl

theorem creates_node {uni : Unicode} {isDecimal : Config.IsDecimal} (i : NodeCreate uni isDecimal) :
    Creates answers item
      (do
        let node ← ofService item none (createNode cfg i.dto)
        pure (node.id, none))
      ((writtenNode answers item i.dto).map fun node => (node.id, none))
      fun entity => requiredOutcome cfg answers item "create" (some entity.1)
        (some [("name", .str i.dto.name)]) where
  result := by
    simp only [Program.answered_bind, answered_ofService, answered_createNode,
      Program.answered_pure]
    cases writtenNode answers item i.dto with
    | error e => rfl
    | ok node =>
        show (requiredOutcome .. >>= _) >>= _ = requiredOutcome .. >>= _
        cases requiredOutcome cfg answers item "create" (some node.id)
          (some [("name", .str i.dto.name)]) <;> rfl
  stores := by
    rw [Program.noted_bind_left fun _ => rfl, noted_ofService, noted_createNode]

end Handlers

/-! ## Where the reports are right -/

section Reports

variable {answers : Answers} {cfg : Setting} {uni : Unicode} {isDecimal : Config.IsDecimal}

/-- The event of each script that is written is stored, if there is an audit service. -/
def RecordsScripts (cfg : Setting) (answers : Answers) (items : List ScriptCreate) : Prop :=
  ∀ i item script, items[i]? = some item → answers (.createScript i item.dto) = .ok script →
    cfg.audit = true →
    Returns (answers (.service i (.enqueueOptional (createdEvent "script" item.dto.name))))

/-- The same of commands. -/
def RecordsCommands (cfg : Setting) (answers : Answers) (items : List CommandCreate) : Prop :=
  ∀ i item command, items[i]? = some item → answers (.createCommand i item.dto) = .ok command →
    cfg.audit = true →
    Returns (answers (.service i (.enqueueOptional (createdEvent "command" item.dto.name))))

/-- The required event of each node that is written is stored. -/
def RecordsNodes (cfg : Setting) (answers : Answers) (items : List (NodeCreate uni isDecimal)) :
    Prop :=
  ∀ i item node, items[i]? = some item → writtenNode answers i item.dto = .ok node →
    cfg.audit = true →
    Returns (answers (.service i (.enqueueRequired
      (auditEvent "create" (some node.id) none (some [("name", .str item.dto.name)])))))

theorem createsAll_scripts (answers : Answers) : ∃ written recorded,
    CreatesAll answers (bulkCreateScripts cfg) written recorded :=
  ⟨_, _, createsAll_bulkCreate fun _ i => creates_script i⟩

theorem createsAll_commands (answers : Answers) : ∃ written recorded,
    CreatesAll answers (bulkCreateCommands cfg) written recorded :=
  ⟨_, _, createsAll_bulkCreate fun _ i => creates_command i⟩

theorem createsAll_nodes (answers : Answers) : ∃ written recorded,
    CreatesAll answers (fun nodes : List (NodeCreate uni isDecimal) => bulkCreateNodes cfg nodes)
      written recorded :=
  ⟨_, _, createsAll_bulkCreate fun _ i => creates_node i⟩

theorem scripts_reported_iff {items : List ScriptCreate} :
    ReportMatches answers (bulkCreateScripts cfg items) items.length ↔
      RecordsScripts cfg answers items := by
  have hcreates : CreatesAll answers (bulkCreateScripts cfg) _ _ :=
    createsAll_bulkCreate fun _ i => creates_script i
  rw [hcreates.reportMatches_iff]
  constructor
  · intro h i item script hitem hscript
    have hwritten := h i item (script.id, some script.name) hitem (map_eq_ok.2 ⟨script, hscript, rfl⟩)
    exact returns_optionalOutcome.1 hwritten
  · intro h i item x hitem hx
    obtain ⟨script, hscript, -⟩ := map_eq_ok.1 hx
    exact returns_optionalOutcome.2 (h i item script hitem hscript)

theorem commands_reported_iff {items : List CommandCreate} :
    ReportMatches answers (bulkCreateCommands cfg items) items.length ↔
      RecordsCommands cfg answers items := by
  have hcreates : CreatesAll answers (bulkCreateCommands cfg) _ _ :=
    createsAll_bulkCreate fun _ i => creates_command i
  rw [hcreates.reportMatches_iff]
  constructor
  · intro h i item command hitem hcommand
    have hwritten := h i item (command.id, some command.name) hitem
      (map_eq_ok.2 ⟨command, hcommand, rfl⟩)
    exact returns_optionalOutcome.1 hwritten
  · intro h i item x hitem hx
    obtain ⟨command, hcommand, -⟩ := map_eq_ok.1 hx
    exact returns_optionalOutcome.2 (h i item command hitem hcommand)

/-- The report about nodes, where the event is a required one. -/
theorem nodes_reported_iff {items : List (NodeCreate uni isDecimal)} :
    ReportMatches answers (bulkCreateNodes cfg items) items.length ↔
      RecordsNodes cfg answers items := by
  have hcreates : CreatesAll answers
      (fun nodes : List (NodeCreate uni isDecimal) => bulkCreateNodes cfg nodes) _ _ :=
    createsAll_bulkCreate fun _ i => creates_node i
  rw [hcreates.reportMatches_iff]
  constructor
  · intro h i item node hitem hnode
    have hwritten := h i item (node.id, none) hitem (map_eq_ok.2 ⟨node, hnode, rfl⟩)
    exact returns_requiredOutcome.1 hwritten
  · intro h i item x hitem hx
    obtain ⟨node, hnode, rfl⟩ := map_eq_ok.1 hx
    exact returns_requiredOutcome.2 (h i item node hitem hnode)

/-- **When a bulk creation reports what it stored.**  In each of the three handlers that is so,
and the failed items can be sent again, where the event of each entity that was written is
stored. -/
theorem bulk_create_report_iff (cfg : Setting) (uni : Unicode) (isDecimal : Config.IsDecimal)
    (answers : Answers) (scripts : List ScriptCreate) (commands : List CommandCreate)
    (nodes : List (NodeCreate uni isDecimal)) :
    (ReportMatches answers (bulkCreateScripts cfg scripts) scripts.length ∧
        ResendSafe answers (bulkCreateScripts cfg) scripts ↔ RecordsScripts cfg answers scripts) ∧
      (ReportMatches answers (bulkCreateCommands cfg commands) commands.length ∧
        ResendSafe answers (bulkCreateCommands cfg) commands ↔
          RecordsCommands cfg answers commands) ∧
      (ReportMatches answers (bulkCreateNodes cfg nodes) nodes.length ∧
        ResendSafe answers (bulkCreateNodes cfg) nodes ↔ RecordsNodes cfg answers nodes) := by
  refine ⟨⟨fun h => scripts_reported_iff.1 h.1, fun h => ?_⟩,
    ⟨fun h => commands_reported_iff.1 h.1, fun h => ?_⟩,
    ⟨fun h => nodes_reported_iff.1 h.1, fun h => ?_⟩⟩
  · have hmatches := scripts_reported_iff.2 h
    exact ⟨hmatches, resendSafe_of_reportMatches createsAll_scripts hmatches⟩
  · have hmatches := commands_reported_iff.2 h
    exact ⟨hmatches, resendSafe_of_reportMatches createsAll_commands hmatches⟩
  · have hmatches := nodes_reported_iff.2 h
    exact ⟨hmatches, resendSafe_of_reportMatches createsAll_nodes hmatches⟩

/-- A command is stored, and the outbox of the request is down. -/
def commandStored : Answers
  | .createCommand _ data => .ok ⟨1, data.name, data.description, data.command, data.parameters,
      data.tags.map some, data.timeout⟩
  | _ => .error ⟨.other, "database is locked"⟩

/-- A command that lists a directory. -/
def listDirectory : CommandCreate where
  name := "list"
  description := none
  command := "ls"
  parameters := []
  tags := []
  timeout := 30
  name_ok := by decide
  description_ok := description_none
  command_ok := by decide
  timeout_ok := timeoutInRange_default

/-- A lost event turns a stored command into a failed item. -/
theorem not_reportsAlwaysMatch :
    ¬ ∀ (cfg : Setting) (answers : Answers) (items : List CommandCreate),
      ReportMatches answers (bulkCreateCommands cfg items) items.length := by
  intro h
  have hrecords := commands_reported_iff.1 (h plainSetting commandStored [listDirectory])
  exact not_returns_error _ (hrecords 0 listDirectory _ rfl rfl rfl)

end Reports

end Command
end NodeNexus
