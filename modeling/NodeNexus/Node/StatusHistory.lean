import NodeNexus.Lib.Transition
import NodeNexus.Node.Remote
import NodeNexus.Node.Tags

/-!
# The history of a node's status

`update_node`, `check_connectivity` and the workers of `bulk_check` each read the old
status of a node, write the new one and append to the history, in transactions of
their own.

* `statusSystem` — calls one after the other; the workers of one call are interleaved
  request by request.
* `Linked` — the entries of a node lead from its first status to its stored one.
* `StatusPhase` — where a worker stands with its node; `describes_step` is one request.
* `status_linked` — the history is linked in runs whose calls are `Apart`.
* `not_statusAlwaysLinked` — a node that one call checks twice gets two equal entries.
-/

namespace NodeNexus
namespace Node

open Content

/-! ## Chains -/

/-- Entries that lead from one status to another; each changes the status. -/
def Linked (first : Option String) : List NodeStatusChangeDTO → Option String → Prop
  | [], last => last = first
  | change :: changes, last =>
      change.oldStatus = first ∧ change.oldStatus ≠ some change.newStatus ∧
        Linked (some change.newStatus) changes last

/-- The stored status of a node. -/
def statusOf (w : NodeWorld) (node : Uuid) : Option String :=
  (w.nodes.find? node).map (·.status.text)

/-- The history of a node. -/
def entriesOf (w : NodeWorld) (node : Uuid) : List NodeStatusChangeDTO :=
  w.history.filter fun change => decide (change.nodeId = node)

/-! ## Calls -/

/-- The calls that set a status. -/
inductive StatusCall where
  | update (id : Uuid) (data : NodeUpdateDTO)
  | check (id : Uuid)
  | bulkCheck (ids : List String)

/-- A task on its way, with the node it is about. -/
structure StatusTask where
  node : Uuid
  program : Service Unit

/-- The tasks of a call.  A text of `bulk_check` that is no UUID has a worker that asks
nothing. -/
def StatusCall.tasks (cfg : Setting) : StatusCall → List StatusTask
  | .update id data => [⟨id, discardResult (updateNode cfg id data)⟩]
  | .check id => [⟨id, discardResult (checkConnectivity cfg id)⟩]
  | .bulkCheck ids => ids.zipIdx.filterMap fun (text, task) =>
      (cfg.parseUuid text).map fun id => ⟨id, discardResult (checkOne cfg task text)⟩

/-! ## The system -/

/-- The world, the tasks of the current call, and the tasks that an earlier call has
left behind: a gathering that raises does not wait for its other tasks. -/
structure StatusState where
  world : NodeWorld
  left : List StatusTask
  current : List StatusTask

/-- One step of a run. -/
inductive StatusEvent where
  /-- The next call starts. -/
  | start (call : StatusCall)
  /-- A request of a task is answered, by an exception where it fails. -/
  | answer (behind : Bool) (task : Nat) (env : StoreEnv) (fault : Option NodeFailure)

/-- An exception has left a program. -/
def raised : Service Unit → Bool
  | .raise _ => true
  | _ => false

/-- The current call has returned. -/
def StatusState.Returned (s : StatusState) : Prop :=
  (∀ t ∈ s.current, t.program.ended = true) ∨ ∃ t ∈ s.current, raised t.program = true

instance (s : StatusState) : Decidable s.Returned := inferInstanceAs (Decidable (_ ∨ _))

/-- No task is on its way. -/
def StatusState.Quiet (s : StatusState) : Prop :=
  ∀ t ∈ s.left ++ s.current, t.program.ended = true

/-- The gateways; reading a node and writing the status history succeed. -/
def answerReliably (env : StoreEnv) (fault : Option NodeFailure) :
    Program.Handler Answer NodeFailure NodeWorld
  | .getNode id, w => perform env (.getNode id) w
  | .saveStatusChange task change, w => perform env (.saveStatusChange task change) w
  | r, w =>
      match fault with
      | some e => (.error e, w)
      | none => perform env r w

/-- One request of one of some tasks. -/
def stepTask (env : StoreEnv) (fault : Option NodeFailure) (tasks : List StatusTask) (i : Nat)
    (w : NodeWorld) : Option (List StatusTask × NodeWorld) :=
  match tasks[i]? with
  | none => none
  | some t =>
      match t.program.advance (answerReliably env fault) w with
      | none => none
      | some (p, w') => some (tasks.set i ⟨t.node, p⟩, w')

/-- One step of a run. -/
def statusStep (cfg : Setting) (s : StatusState) : StatusEvent → Option StatusState
  | .start call =>
      if s.Returned then
        some { s with
          left := (s.left ++ s.current).filter fun t => !t.program.ended
          current := call.tasks cfg }
      else none
  | .answer true i env fault =>
      (stepTask env fault s.left i s.world).map fun (tasks, w) => { s with left := tasks, world := w }
  | .answer false i env fault =>
      (stepTask env fault s.current i s.world).map fun (tasks, w) =>
        { s with current := tasks, world := w }

/-- Runs of calls, from nodes without a history. -/
def statusSystem (cfg : Setting) (w₀ : NodeWorld) : System StatusState StatusEvent where
  init s := s = ⟨w₀, [], []⟩ ∧ w₀.history = []
  step := statusStep cfg

/-- A call starts when no task is on its way; it names a node only once, and a
`bulk_check` writes the status it finds. -/
def Apart (cfg : Setting) (s : StatusState) : StatusEvent → Prop
  | .start call => s.Quiet ∧ ((call.tasks cfg).map (·.node)).Nodup ∧
      ∀ ids, call = .bulkCheck ids → cfg.statusWriter = true
  | .answer .. => True

/-! ## Where a task stands -/

/-- What a task knows of the status of its node. -/
inductive StatusPhase where
  | idle
  /-- It has read the status. -/
  | known (old : Option String)
  /-- It has written another status, and the entry is not there yet. -/
  | owes (old : Option String) (new : String)

/-- The history needs nothing of the task. -/
def StatusPhase.Settled : StatusPhase → Prop
  | .idle | .known _ => True
  | .owes .. => False

/-- The phase after a status was written. -/
def StatusPhase.written (k : StatusPhase) (status : Option String)
    (answer : Except NodeFailure (Option NodeViewDTO)) : StatusPhase :=
  match answer, status, k with
  | .ok (some _), some new, .known old =>
      if old = some new then .known old else .owes old new
  | _, _, k => k

/-- What a task may ask about its node. -/
def StatusPhase.Allows (node : Uuid) (k : StatusPhase) : Request → Prop
  | .getNode id => id = node ∧ k.Settled
  | .updateNode id changes => id = node ∧ (changes.map (·.field)).Nodup ∧ k.Settled ∧
      (newStatusOf changes ≠ none → ∃ old, k = .known old)
  | .updateNodeStatus _ id _ => id = node ∧ ∃ old, k = .known old
  | .saveStatusChange _ change => change.nodeId = node ∧ k = .owes change.oldStatus change.newStatus
  | .createNode .. | .deleteNode .. | .bulkAddTags .. | .bulkRemoveTags .. => False
  | _ => True

/-- The phases that an answer can leave a task in. -/
def StatusPhase.After (k : StatusPhase) :
    (r : Request) → Except NodeFailure (Answer r) → StatusPhase → Prop
  | .getNode _, x, k' => ∃ view, x = .ok view ∧ k' = .known (view.map (·.status.text))
  | .updateNode _ changes, x, k' => k' = k.written (newStatusOf changes) x
  | .updateNodeStatus _ _ status, x, k' => k' = k.written (some status.text) x
  | .saveStatusChange .., x, k' => x = .ok () ∧ k' = .idle
  | .getConnection id, x, k' => k' = k ∧ ∀ connection, x = .ok (some connection) → connection.id = id
  | _, _, k' => k' = k

/-- A program that leaves nothing to be done for the history of its node. -/
def Settles (node : Uuid) (k : StatusPhase) {α : Type} (p : Service α) : Prop :=
  p.Follows (StatusPhase.Allows node) StatusPhase.After (fun k _ => k.Settled) k

/-- What is true in a phase, when the node had some status first. -/
def StatusPhase.Describes (first : Option String) (w : NodeWorld) (node : Uuid) :
    StatusPhase → Prop
  | .idle => Linked first (entriesOf w node) (statusOf w node)
  | .known old => Linked first (entriesOf w node) (statusOf w node) ∧ statusOf w node = old
  | .owes old new => Linked first (entriesOf w node) old ∧ old ≠ some new ∧
      statusOf w node = some new

/-! ## One request -/

section Requests

variable {env : StoreEnv} {fault : Option NodeFailure} {w : NodeWorld} {node : Uuid}
  {first : Option String} {k : StatusPhase}

/-- One more entry at the end of a chain. -/
theorem linked_append {changes : List NodeStatusChangeDTO} {change : NodeStatusChangeDTO}
    (h : Linked first changes change.oldStatus) (hne : change.oldStatus ≠ some change.newStatus) :
    Linked first (changes ++ [change]) (some change.newStatus) := by
  induction changes generalizing first with
  | nil => exact ⟨h, hne, rfl⟩
  | cons c changes ih => exact ⟨h.1, h.2.1, ih h.2.2⟩

theorem newStatusOf_eq_none {changes : List NodeChange} (h : "status" ∉ changes.map (·.field)) :
    newStatusOf changes = none := by
  unfold newStatusOf
  rw [List.findSome?_eq_none_iff]
  intro change hchange
  cases change with
  | status o => exact absurd (List.mem_map_of_mem hchange) h
  | _ => rfl

/-- The status after an update: the one it sets, or the old one. -/
theorem status_of_setFields {db : Columns} {changes : List NodeChange} {row row' : NodeRow}
    (hfields : (changes.map (·.field)).Nodup) (h : setFields db row changes = .ok row') :
    newStatusOf changes = none ∧ row'.status = row.status ∨
      newStatusOf changes = some row'.status.text := by
  induction changes generalizing row with
  | nil =>
      cases h
      exact .inl ⟨rfl, rfl⟩
  | cons change changes ih =>
      rw [List.map_cons, List.nodup_cons] at hfields
      obtain ⟨row₁, hset, hrest⟩ := bind_eq_ok.1 h
      have hrest := ih hfields.2 hrest
      cases change with
      | status o =>
          cases o with
          | none => cases hset
          | some status =>
              cases hset
              obtain ⟨-, hkept⟩ | hlater := hrest
              · right
                rw [hkept]
                rfl
              · rw [newStatusOf_eq_none hfields.1] at hlater
                cases hlater
      | _ =>
          obtain ⟨_, -, rfl⟩ := map_eq_ok.1 hset
          exact hrest

/-- What an update of a node does to its status. -/
theorem statusOf_updated {changes : List NodeChange} (hfields : (changes.map (·.field)).Nodup) :
    (∃ view row, (updated w (updateRow env w.nodes node changes)).1 = .ok (some view) ∧
        w.nodes.find? node = some row ∧
        (updated w (updateRow env w.nodes node changes)).2.history = w.history ∧
        (∀ n ≠ node, statusOf (updated w (updateRow env w.nodes node changes)).2 n = statusOf w n) ∧
        (newStatusOf changes = none ∧
            statusOf (updated w (updateRow env w.nodes node changes)).2 node = statusOf w node ∨
          ∃ new, newStatusOf changes = some new ∧
            statusOf (updated w (updateRow env w.nodes node changes)).2 node = some new)) ∨
      (∀ view, (updated w (updateRow env w.nodes node changes)).1 ≠ .ok (some view)) ∧
        (updated w (updateRow env w.nodes node changes)).2 = w := by
  obtain ⟨e, herror⟩ | ⟨-, hnone⟩ | ⟨row, row', t', hrow, hset, hput, hok⟩ :=
    updateRow_cases env w.nodes node changes
  · rw [herror]
    exact .inr ⟨fun _ h => (nomatch h), rfl⟩
  · rw [hnone]
    exact .inr ⟨fun _ h => (nomatch h), rfl⟩
  · left
    obtain ⟨-, -, -, -, -, hfind⟩ := find?_of_updateRow hok
    rw [hok]
    refine ⟨_, row, rfl, hrow, rfl, fun n hn => ?_, ?_⟩
    · show (t'.find? n).map _ = _
      rw [hfind, if_neg hn]
      rfl
    · have hnew : statusOf (updated w (.ok (some (t', { row' with updatedAt := env.now })))).2 node =
          some row'.status.text := by
        show (t'.find? node).map _ = _
        rw [hfind, if_pos rfl]
        rfl
      rw [hnew]
      obtain ⟨hnone, hkept⟩ | hset := status_of_setFields hfields hset
      · left
        refine ⟨hnone, ?_⟩
        unfold statusOf
        rw [hkept, hrow]
        rfl
      · exact .inr ⟨_, hset, rfl⟩

theorem entriesOf_eq {w' : NodeWorld} (h : w'.history = w.history) (n : Uuid) :
    entriesOf w' n = entriesOf w n := by
  unfold entriesOf
  rw [h]

/-- An update of the node in a phase that allows it. -/
theorem describes_updated {changes : List NodeChange} (hfields : (changes.map (·.field)).Nodup)
    (hsettled : k.Settled) (hknown : newStatusOf changes ≠ none → ∃ old, k = .known old)
    (hk : k.Describes first w node) :
    (k.written (newStatusOf changes) (updated w (updateRow env w.nodes node changes)).1).Describes
      first (updated w (updateRow env w.nodes node changes)).2 node := by
  obtain ⟨view, row, hview, hrow, hhistory, -, hstatus⟩ | ⟨hview, hsame⟩ :=
    statusOf_updated hfields
  · rw [hview]
    obtain ⟨hnone, hkept⟩ | ⟨new, hnew, hwritten⟩ := hstatus
    · rw [hnone]
      show k.Describes _ _ _
      cases k with
      | idle =>
          show Linked _ _ _
          rw [entriesOf_eq hhistory, hkept]
          exact hk
      | known old =>
          refine ⟨?_, ?_⟩
          · rw [entriesOf_eq hhistory, hkept]
            exact hk.1
          · rw [hkept]
            exact hk.2
      | owes old new => exact hsettled.elim
    · obtain ⟨old, rfl⟩ := hknown (by rw [hnew]; exact Option.some_ne_none _)
      rw [hnew]
      obtain ⟨hlinked, hold⟩ := hk
      rw [hold] at hlinked
      show StatusPhase.Describes _ _ _ (if old = some new then .known old else .owes old new)
      split
      · rename_i hsame
        refine ⟨?_, hwritten.trans hsame.symm⟩
        rw [entriesOf_eq hhistory, hwritten, ← hsame]
        exact hlinked
      · rename_i hdiffers
        refine ⟨?_, hdiffers, hwritten⟩
        rw [entriesOf_eq hhistory]
        exact hlinked
  · have hwritten : k.written (newStatusOf changes)
        (updated w (updateRow env w.nodes node changes)).1 = k := by
      cases hx : (updated w (updateRow env w.nodes node changes)).1 with
      | error e => rfl
      | ok o =>
          cases o with
          | none => rfl
          | some view => exact absurd hx (hview view)
    rw [hwritten, hsame]
    exact hk

/-- The requests that leave the nodes and the history as they are. -/
def Request.Neutral : Request → Prop
  | .updateNode .. | .updateNodeStatus .. | .saveStatusChange .. | .createNode .. | .deleteNode ..
  | .bulkAddTags .. | .bulkRemoveTags .. => False
  | _ => True

theorem neutral_step {r : Request} (hr : r.Neutral) :
    (answerReliably env fault r w).2.nodes = w.nodes ∧
      (answerReliably env fault r w).2.history = w.history := by
  cases r with
  | updateNode | updateNodeStatus | saveStatusChange | createNode | deleteNode | bulkAddTags
  | bulkRemoveTags => exact hr.elim
  | getNode => exact ⟨rfl, rfl⟩
  | _ => cases fault <;> exact ⟨rfl, rfl⟩

/-- What a phase says depends on the node and its history only. -/
theorem StatusPhase.Describes.congr {w' : NodeWorld} (hnodes : statusOf w' node = statusOf w node)
    (hhistory : entriesOf w' node = entriesOf w node) (hk : k.Describes first w node) :
    k.Describes first w' node := by
  cases k with
  | idle =>
      show Linked _ _ _
      rw [hnodes, hhistory]
      exact hk
  | known old =>
      show Linked _ _ _ ∧ _
      rw [hnodes, hhistory]
      exact hk
  | owes old new =>
      show Linked _ _ _ ∧ _ ∧ _
      rw [hnodes, hhistory]
      exact hk

theorem same_of_neutral {r : Request} (hr : r.Neutral) (n : Uuid) :
    statusOf (answerReliably env fault r w).2 n = statusOf w n ∧
      entriesOf (answerReliably env fault r w).2 n = entriesOf w n := by
  obtain ⟨hnodes, hhistory⟩ :
      (answerReliably env fault r w).2.nodes = w.nodes ∧
        (answerReliably env fault r w).2.history = w.history := neutral_step hr
  refine ⟨?_, entriesOf_eq hhistory n⟩
  unfold statusOf
  rw [hnodes]

/-- Where the history needs nothing, it is linked. -/
theorem linked_of_settled (hsettled : k.Settled) (hk : k.Describes first w node) :
    Linked first (entriesOf w node) (statusOf w node) := by
  cases k with
  | idle => exact hk
  | known old => exact hk.1
  | owes old new => exact hsettled.elim

/-- **One request of a task**, as far as its own node goes. -/
theorem describes_step {r : Request} (hr : k.Allows node r) (hk : k.Describes first w node) :
    ∃ k', k.After r (answerReliably env fault r w).1 k' ∧
      k'.Describes first (answerReliably env fault r w).2 node := by
  have hsame : r.Neutral → statusOf (answerReliably env fault r w).2 node = statusOf w node ∧
      entriesOf (answerReliably env fault r w).2 node = entriesOf w node :=
    fun h => same_of_neutral h node
  cases r with
  | createNode | deleteNode | bulkAddTags | bulkRemoveTags => exact hr.elim
  | getNode id =>
      obtain ⟨rfl, hsettled⟩ := hr
      refine ⟨_, ⟨_, rfl, rfl⟩, linked_of_settled hsettled hk, ?_⟩
      show statusOf w id = _
      rw [Option.map_map]
      rfl
  | updateNode id changes =>
      obtain ⟨rfl, hfields, hsettled, hknown⟩ := hr
      refine ⟨_, rfl, ?_⟩
      cases fault with
      | none => exact describes_updated hfields hsettled hknown hk
      | some e => exact hk
  | updateNodeStatus task id status =>
      obtain ⟨rfl, old, rfl⟩ := hr
      refine ⟨_, rfl, ?_⟩
      cases fault with
      | none =>
          have hfields : (([.status (some status)] : List NodeChange).map (·.field)).Nodup :=
            List.nodup_singleton _
          exact describes_updated hfields trivial (fun _ => ⟨old, rfl⟩) hk
      | some e => exact hk
  | saveStatusChange task change =>
      obtain ⟨rfl, rfl⟩ := hr
      obtain ⟨hlinked, hne, hstatus⟩ := hk
      refine ⟨.idle, ⟨rfl, rfl⟩, ?_⟩
      have hentries : entriesOf (answerReliably env fault (.saveStatusChange task change) w).2
          change.nodeId = entriesOf w change.nodeId ++ [change] := by
        show (w.history ++ [change]).filter _ = _
        rw [List.filter_append, List.filter_cons_of_pos (by simp), List.filter_nil]
        rfl
      show Linked _ _ (statusOf w change.nodeId)
      rw [hentries, hstatus]
      exact linked_append hlinked hne
  | getConnection id =>
      refine ⟨k, ⟨rfl, fun connection hx => ?_⟩, hk.congr (hsame trivial).1 (hsame trivial).2⟩
      cases fault with
      | none =>
          obtain ⟨row, hrow, rfl⟩ := Option.map_eq_some_iff.1 (Except.ok.inj hx)
          exact (NamedTable.find?_eq_some.1 hrow).2
      | some e => cases hx
  | _ => exact ⟨k, rfl, hk.congr (hsame trivial).1 (hsame trivial).2⟩

/-- **One request of a task** leaves the other nodes alone. -/
theorem others_step {r : Request} (hr : k.Allows node r) {n : Uuid} (hn : n ≠ node) :
    statusOf (answerReliably env fault r w).2 n = statusOf w n ∧
      entriesOf (answerReliably env fault r w).2 n = entriesOf w n := by
  have hsame : r.Neutral → statusOf (answerReliably env fault r w).2 n = statusOf w n ∧
      entriesOf (answerReliably env fault r w).2 n = entriesOf w n := fun h => same_of_neutral h n
  have hupdated : ∀ changes : List NodeChange, (changes.map (·.field)).Nodup →
      statusOf (updated w (updateRow env w.nodes node changes)).2 n = statusOf w n ∧
        entriesOf (updated w (updateRow env w.nodes node changes)).2 n = entriesOf w n := by
    intro changes hfields
    obtain ⟨-, -, -, -, hhistory, hothers, -⟩ | ⟨-, hsame⟩ := statusOf_updated hfields
    · exact ⟨hothers n hn, entriesOf_eq hhistory n⟩
    · rw [hsame]
      exact ⟨rfl, rfl⟩
  cases r with
  | createNode | deleteNode | bulkAddTags | bulkRemoveTags => exact hr.elim
  | updateNode id changes =>
      obtain ⟨rfl, hfields, -⟩ := hr
      cases fault with
      | none => exact hupdated changes hfields
      | some e => exact ⟨rfl, rfl⟩
  | updateNodeStatus task id status =>
      obtain ⟨rfl, -⟩ := hr
      cases fault with
      | none => exact hupdated [.status (some status)] (List.nodup_singleton _)
      | some e => exact ⟨rfl, rfl⟩
  | saveStatusChange task change =>
      obtain ⟨rfl, -⟩ := hr
      refine ⟨rfl, ?_⟩
      show (w.history ++ [change]).filter _ = _
      rw [List.filter_append, List.filter_cons_of_neg (by simpa using hn.symm), List.filter_nil,
        List.append_nil]
      rfl
  | _ => exact hsame trivial

end Requests

/-! ## The services settle -/

section Services

variable {cfg : Setting} {node : Uuid} {k : StatusPhase} {α β : Type}

/-- A program that asks nothing of the status. -/
def Request.aside : Request → Prop
  | .ensureHost .. | .encrypt .. | .decrypt .. | .enqueueRequired .. | .enqueueOptional ..
  | .execute .. => True
  | _ => False

/-- A program of requests aside stays in its phase. -/
theorem stays {p : Service α} (hp : p.Asks Request.aside) :
    p.Follows (StatusPhase.Allows node) StatusPhase.After (fun k' _ => k' = k) k := by
  induction hp with
  | done a => exact .done rfl
  | raise e => exact .raise rfl
  | @ask r f hr _ ih =>
      refine .ask ?_ fun x k' hx => ?_
      · cases r <;> first | exact hr.elim | trivial
      · have hsame : k' = k := by
          cases r <;> first | exact hr.elim | exact hx
        rw [hsame]
        exact ih x

theorem settles_pure (hk : k.Settled) (a : α) : Settles node k (pure a : Service α) := .done hk

theorem settles_raise (hk : k.Settled) (e : NodeFailure) :
    Settles node k (Program.raise e : Service α) := .raise hk

/-- Requests aside in front of a program that settles. -/
theorem settles_after {p : Service α} {f : α → Service β} (hp : p.Asks Request.aside)
    (hk : k.Settled) (hf : ∀ a, Settles node k (f a)) : Settles node k (p >>= f) := by
  refine (stays hp).bind (fun k' a h => ?_) fun k' e h => ?_
  · rw [h]
    exact hf a
  · rw [h]
    exact hk

theorem settles_discard {p : Service α} (hp : Settles node k p) :
    Settles node k (discardResult p) :=
  hp.bind (fun _ _ h => settles_pure h ()) fun _ _ h => h

/-- The old status is read, and the task knows it. -/
theorem knows_readOldStatus (hk : k.Settled) :
    (readOldStatus true node).Follows (StatusPhase.Allows node) StatusPhase.After
      (fun k' x => ∃ old, x = .ok old ∧ k' = .known old) k := by
  unfold readOldStatus
  rw [if_neg (by decide)]
  refine Program.Follows.bind (Q := fun k' x => ∃ view : Option NodeViewDTO, x = .ok (.ok view) ∧
    k' = .known (view.map (·.status.text))) ?_ (fun k' current h => ?_) fun k' e h => ?_
  · have hallow : k.Allows node (.getNode node) := ⟨rfl, hk⟩
    refine (Program.Follows.call hallow fun x k' hx => ?_).attempt
    obtain ⟨view, rfl, rfl⟩ := hx
    exact ⟨view, rfl, rfl⟩
  · obtain ⟨view, hview, rfl⟩ := h
    cases hview
    cases view with
    | none => exact .done ⟨none, rfl, rfl⟩
    | some view => exact .done ⟨_, rfl, rfl⟩
  · obtain ⟨view, hview, -⟩ := h
    cases hview

/-- The phase after a status was written over a known one. -/
def afterWrite (old : Option String) (new : String) : StatusPhase :=
  if old = some new then .known old else .owes old new

theorem written_known (old : Option String) (new : String)
    (x : Except NodeFailure (Option NodeViewDTO)) :
    (∃ view, x = .ok (some view)) ∧
        (StatusPhase.known old).written (some new) x = afterWrite old new ∨
      (¬ ∃ view, x = .ok (some view)) ∧
        (StatusPhase.known old).written (some new) x = .known old := by
  cases x with
  | error e => exact .inr ⟨by simp, rfl⟩
  | ok o =>
      cases o with
      | none => exact .inr ⟨by simp, rfl⟩
      | some view => exact .inl ⟨⟨view, rfl⟩, rfl⟩

/-- The entry of a change is appended where the status has changed. -/
theorem settles_saveStatusChange (task : Nat) (old : Option String) (new : String)
    (source : NodeStatusSource) : Settles node (afterWrite old new)
      (saveStatusChange task true ⟨node, old, new, source⟩) := by
  unfold saveStatusChange afterWrite
  by_cases hsame : old = some new
  · rw [if_pos hsame, if_neg (by simp [hsame])]
    exact settles_pure (k := .known old) trivial ()
  · rw [if_neg hsame, if_pos ⟨rfl, hsame⟩]
    refine Program.Follows.bind (Q := fun k' _ => k'.Settled) ?_ (fun k' _ h => settles_pure h ())
      fun k' e h => h
    have hallow : (StatusPhase.owes old new).Allows node
        (.saveStatusChange task ⟨node, old, new, source⟩) := ⟨rfl, rfl⟩
    refine (Program.Follows.call hallow fun x k' hx => ?_).attempt
    rw [hx.2]
    trivial

/-! ### `update_node` -/

theorem aside_encryptValue (o : Option String) : (encryptValue o).Asks Request.aside := by
  cases o with
  | none => exact .done _
  | some s =>
      rw [encryptValue_some]
      split
      · exact .done _
      · have hcall : (await (.encrypt s)).Asks Request.aside := .call trivial
        exact hcall.bind fun _ => .done _

/-- Securing changes keeps their fields. -/
theorem fields_secureChange (change : NodeChange) :
    (secureChange change).Follows (StatusPhase.Allows node) StatusPhase.After
      (fun k' x => k' = k ∧ ∀ c, x = .ok c → c.field = change.field) k := by
  have hsealed : ∀ (o : Option String) (wrap : Option String → NodeChange),
      (∀ o o', (wrap o).field = (wrap o').field) →
      (encryptValue o >>= fun o => (pure (wrap o) : Service NodeChange)).Follows
        (StatusPhase.Allows node) StatusPhase.After
        (fun k' x => k' = k ∧ ∀ c, x = .ok c → c.field = (wrap o).field) k := by
    intro o wrap hwrap
    refine (stays (aside_encryptValue o)).bind (fun k' o' h => .done ⟨h, ?_⟩) fun k' e h => ⟨h, ?_⟩
    · rintro c hc
      cases hc
      exact hwrap o' o
    · rintro c hc
      cases hc
  cases change with
  | password o => exact hsealed o .password fun _ _ => rfl
  | sshKey o => exact hsealed o .sshKey fun _ _ => rfl
  | passphrase o => exact hsealed o .passphrase fun _ _ => rfl
  | _ =>
      refine .done ⟨rfl, ?_⟩
      rintro c hc
      cases hc
      rfl

theorem fields_secureChanges (changes : List NodeChange) :
    (secureChanges changes).Follows (StatusPhase.Allows node) StatusPhase.After
      (fun k' x => k' = k ∧ ∀ cs, x = .ok cs → cs.map (·.field) = changes.map (·.field)) k := by
  induction changes with
  | nil =>
      refine .done ⟨rfl, ?_⟩
      rintro cs hcs
      cases hcs
      rfl
  | cons change changes ih =>
      refine (fields_secureChange change).bind (fun k' secured h => ?_) fun k' e h => ⟨h.1, ?_⟩
      · obtain ⟨rfl, hfield⟩ := h
        refine ih.bind (fun k' rest h => .done ⟨h.1, ?_⟩) fun k' e h => ⟨h.1, ?_⟩
        · rintro cs hcs
          cases hcs
          rw [List.map_cons, List.map_cons, hfield secured rfl, h.2 rest rfl]
        · rintro cs hcs
          cases hcs
      · rintro cs hcs
        cases hcs

theorem settles_fetchHostKey (host : String) (port : Int) (hk : k.Settled) :
    Settles node k (fetchHostKey cfg host port) := by
  unfold fetchHostKey
  split
  · have hcall : (await (.ensureHost host port)).Asks Request.aside := .call trivial
    exact settles_after hcall.attempt hk fun _ => settles_pure hk ()
  · exact settles_pure hk ()

theorem settles_ensureKnownHost (changes : List NodeChange) (hk : k.Settled) :
    Settles node k (ensureKnownHost cfg node changes) := by
  unfold ensureKnownHost
  split
  · exact settles_pure hk ()
  · refine Program.Follows.bind (Q := fun k' _ => k'.Settled) ?_ (fun k' current h => ?_)
      fun k' e h => h
    · have hallow : k.Allows node (.getNode node) := ⟨rfl, hk⟩
      refine Program.Follows.call hallow fun x k' hx => ?_
      obtain ⟨view, -, rfl⟩ := hx
      trivial
    · split
      · exact settles_fetchHostKey _ _ h
      · exact settles_pure h ()

theorem aside_logRequired (action : String) (nodeId : Option Uuid) (details : Option Json.Fields) :
    (cfg.logRequired action nodeId details).Asks Request.aside := by
  unfold Setting.logRequired
  split
  · unfold Node.logRequired
    have hcall : (await (.enqueueRequired (auditEvent action nodeId none details))).Asks
        Request.aside := .call trivial
    refine hcall.attempt.bind fun stored => ?_
    cases stored with
    | ok _ => exact .done _
    | error e => exact .raise _
  · exact .done _

/-- The end of `update_node`, from the write on. -/
theorem settles_write (hhistory : cfg.statusHistoryWriter = true) {secured : List NodeChange}
    (hfields : (secured.map (·.field)).Nodup) {old : Option String}
    (hk : newStatusOf secured = none ∧ k.Settled ∨
      ∃ new, newStatusOf secured = some new ∧ k = .known old) :
    Settles node k (await (.updateNode node secured) >>= fun updated : Option NodeViewDTO =>
      match updated with
      | none => Program.raise (cfg.notFound node)
      | some view => saveManualUpdate cfg node old (newStatusOf secured) >>= fun _ => pure view) := by
  obtain ⟨hnone, hk⟩ | ⟨new, hnew, rfl⟩ := hk
  · rw [hnone]
    refine Program.Follows.bind (Q := fun k' _ => k'.Settled) ?_ (fun k' updated h => ?_)
      fun k' e h => h
    · have hallow : k.Allows node (.updateNode node secured) :=
        ⟨rfl, hfields, hk, fun h => absurd hnone h⟩
      refine Program.Follows.call hallow fun x k' hx => ?_
      have hsame : k' = k := by
        rw [hx, hnone]
        cases x with
        | error e => rfl
        | ok o => cases o <;> rfl
      rw [hsame]
      exact hk
    · cases updated with
      | none => exact settles_raise h _
      | some view => exact settles_pure h view
  · rw [hnew]
    refine Program.Follows.bind (Q := fun k' x => (∃ view, x = .ok (some view)) ∧
        k' = afterWrite old new ∨ (¬ ∃ view, x = .ok (some view)) ∧ k' = .known old)
      ?_ (fun k' updated h => ?_) fun k' e h => ?_
    · have hallow : (StatusPhase.known old).Allows node (.updateNode node secured) :=
        ⟨rfl, hfields, trivial, fun _ => ⟨old, rfl⟩⟩
      refine Program.Follows.call hallow fun x k' hx => ?_
      rw [hx, hnew]
      exact written_known old new x
    · obtain ⟨⟨view, hview⟩, rfl⟩ | ⟨hview, rfl⟩ := h
      · cases hview
        show Settles _ _ (saveStatusChange 0 cfg.statusHistoryWriter _ >>= fun _ => pure view)
        rw [hhistory]
        exact (settles_saveStatusChange 0 old new _).bind (fun _ _ h => settles_pure h view)
          fun _ _ h => h
      · cases updated with
        | none => exact settles_raise (k := .known old) trivial _
        | some view => exact absurd ⟨view, rfl⟩ hview
    · obtain ⟨⟨view, hview⟩, -⟩ | ⟨-, rfl⟩ := h
      · cases hview
      · trivial

theorem settles_updateNode (hhistory : cfg.statusHistoryWriter = true) (data : NodeUpdateDTO)
    (hk : k.Settled) : Settles node k (updateNode cfg node data) := by
  unfold updateNode
  refine (settles_ensureKnownHost data.changes hk).bind (fun k _ hk => ?_) fun k e h => h
  refine (fields_secureChanges (clearDockerHost data.changes)).bind (fun k' secured h => ?_)
    fun k' e h => ?_
  · obtain ⟨rfl, hfields⟩ := h
    have hfields : (secured.map (·.field)).Nodup := by
      rw [hfields secured rfl]
      exact nodup_clearDockerHost data.fields_nodup
    cases hnew : newStatusOf secured with
    | none =>
        have hread : readOldStatus (none : Option String).isSome node = pure none := rfl
        rw [hread, Program.pure_bind']
        refine settles_after (aside_logRequired ..) hk fun _ => ?_
        rw [← hnew]
        exact settles_write hhistory hfields (.inl ⟨hnew, hk⟩)
    | some new =>
        refine (knows_readOldStatus hk).bind (fun k' old h => ?_) fun k' e h => ?_
        · obtain ⟨_, hold, rfl⟩ := h
          cases hold
          refine settles_after (aside_logRequired ..) trivial fun _ => ?_
          rw [← hnew]
          exact settles_write hhistory hfields (.inr ⟨new, hnew, rfl⟩)
        · obtain ⟨_, hold, -⟩ := h
          cases hold
  · rw [h.1]
    exact hk

/-! ### `check_connectivity` and `bulk_check` -/

theorem aside_buildSshConnector (task : Nat) (connection : NodeConnectionDTO)
    (timeout : Option Int) : (buildSshConnector task connection timeout).Asks Request.aside := by
  have hcall : ∀ value, (await (.decrypt task value)).Asks Request.aside := fun _ => .call trivial
  exact (hcall _).bind fun _ => (hcall _).bind fun _ => (hcall _).bind fun _ => .done _

theorem aside_log (action : String) (nodeId : Option Uuid) (details : Json.Fields) :
    (cfg.log action nodeId details).Asks Request.aside := by
  unfold Setting.log
  split
  · unfold logOptional
    have hcall : (await (.enqueueOptional (auditEvent action nodeId none (some details)))).Asks
        Request.aside := .call trivial
    refine hcall.attempt.bind fun stored => ?_
    cases stored with
    | ok _ => exact .done _
    | error e => exact .raise _
  · exact .done _

/-- A status is written over a known one. -/
theorem follows_updateNodeStatus (task : Nat) (old : Option String) (status : NodeStatus) :
    (await (.updateNodeStatus task node status)).Follows (StatusPhase.Allows node)
      StatusPhase.After (fun k' x => (∃ view, x = .ok (some view)) ∧
        k' = afterWrite old status.text ∨
          (¬ ∃ view, x = .ok (some view)) ∧ k' = .known old) (.known old) := by
  have hallow : (StatusPhase.known old).Allows node (.updateNodeStatus task node status) :=
    ⟨rfl, old, rfl⟩
  refine Program.Follows.call hallow fun x k' hx => ?_
  rw [hx]
  exact written_known old status.text x

/-- A connection that was found is the one of the node. -/
theorem follows_getConnection (id : Uuid) :
    (await (.getConnection id)).Follows (StatusPhase.Allows node) StatusPhase.After
      (fun k' x => k' = k ∧ ∀ connection, x = .ok (some connection) → connection.id = id) k := by
  have hallow : k.Allows node (.getConnection id) := trivial
  refine Program.Follows.call hallow fun x k' hx => ?_
  exact hx

theorem settles_checkConnectivity (hreader : cfg.nodeViewReader = true)
    (hhistory : cfg.statusHistoryWriter = true) (hk : k.Settled) :
    Settles node k (checkConnectivity cfg node) := by
  unfold checkConnectivity
  refine (follows_getConnection node).bind (fun k' connection h => ?_) fun k' e h => ?_
  rotate_left
  · rw [h.1]
    exact hk
  obtain ⟨rfl, -⟩ := h
  cases connection with
  | none => exact settles_raise hk _
  | some connection =>
      refine settles_after (aside_buildSshConnector ..) hk fun connector => ?_
      have hsession : (await (.execute 0 connector "echo ok")).Asks Request.aside := .call trivial
      refine settles_after hsession.attempt hk fun outcome => ?_
      refine settles_after (aside_log ..) hk fun _ => ?_
      rw [hreader, hhistory]
      refine (knows_readOldStatus hk).bind (fun k' old h => ?_) fun k' e h => ?_
      · obtain ⟨_, hold, rfl⟩ := h
        cases hold
        refine (follows_updateNodeStatus ..).bind (fun k' updated h => ?_) fun k' e h => ?_
        · obtain ⟨⟨view, hview⟩, rfl⟩ | ⟨hview, rfl⟩ := h
          · cases hview
            exact (settles_saveStatusChange ..).bind (fun _ _ h => settles_pure h view)
              fun _ _ h => h
          · cases updated with
            | none => exact settles_raise (k := .known old) trivial _
            | some view => exact absurd ⟨view, rfl⟩ hview
        · obtain ⟨⟨view, hview⟩, -⟩ | ⟨-, rfl⟩ := h
          · cases hview
          · trivial
      · obtain ⟨_, hold, -⟩ := h
        cases hold

/-- The worker writes the status, and says whether it did. -/
theorem follows_writeStatus (hwriter : cfg.statusWriter = true) (task : Nat) (old : Option String)
    (status : NodeStatus) : (writeStatus cfg task node status).Follows (StatusPhase.Allows node)
      StatusPhase.After (fun k' x => x = .ok none ∧ k' = afterWrite old status.text ∨
        (∃ text, x = .ok (some text)) ∧ k' = .known old) (.known old) := by
  unfold writeStatus
  rw [if_pos hwriter]
  refine Program.Follows.bind (Q := fun k' x => ∃ y : Except NodeFailure (Option NodeViewDTO),
    x = .ok y ∧ ((∃ view, y = .ok (some view)) ∧ k' = afterWrite old status.text ∨
      (¬ ∃ view, y = .ok (some view)) ∧ k' = .known old)) ?_ (fun k' updated h => ?_)
    fun k' e h => ?_
  · exact ((follows_updateNodeStatus task old status).mono fun k' x h => ⟨x, rfl, h⟩).attempt
  · obtain ⟨y, hy, h⟩ := h
    cases hy
    obtain ⟨⟨view, rfl⟩, rfl⟩ | ⟨hview, rfl⟩ := h
    · exact .done (.inl ⟨rfl, rfl⟩)
    · cases updated with
      | error e => exact .done (.inr ⟨⟨_, rfl⟩, rfl⟩)
      | ok o =>
          cases o with
          | none => exact .done (.inr ⟨⟨_, rfl⟩, rfl⟩)
          | some view => exact absurd ⟨view, rfl⟩ hview
  · obtain ⟨y, hy, -⟩ := h
    cases hy

theorem settles_checkFound (hreader : cfg.nodeViewReader = true)
    (hhistory : cfg.statusHistoryWriter = true) (hwriter : cfg.statusWriter = true) (task : Nat)
    (text : String) {connection : NodeConnectionDTO} (hk : k.Settled) :
    Settles connection.id k (checkFound cfg task text connection) := by
  unfold checkFound
  refine settles_after (aside_buildSshConnector ..) hk fun connector => ?_
  have hsession : (await (.execute task connector "echo ok")).Asks Request.aside := .call trivial
  refine settles_after hsession.attempt hk fun outcome => ?_
  rw [hreader, hhistory]
  refine (knows_readOldStatus hk).bind (fun k' old h => ?_) fun k' e h => ?_
  · obtain ⟨_, hold, rfl⟩ := h
    cases hold
    refine (follows_writeStatus hwriter ..).bind (fun k' failure h => ?_) fun k' e h => ?_
    · obtain ⟨hnone, rfl⟩ | ⟨⟨_, hsome⟩, rfl⟩ := h
      · cases hnone
        exact (settles_saveStatusChange ..).bind (fun _ _ h => settles_pure h _) fun _ _ h => h
      · cases hsome
        exact settles_pure (k := .known old) trivial _
    · obtain ⟨hnone, -⟩ | ⟨⟨_, hsome⟩, -⟩ := h
      · cases hnone
      · cases hsome
  · obtain ⟨_, hold, -⟩ := h
    cases hold

/-- A worker of `bulk_check` settles what it does to its node. -/
theorem settles_checkOne (hreader : cfg.nodeViewReader = true)
    (hhistory : cfg.statusHistoryWriter = true) (hwriter : cfg.statusWriter = true) (task : Nat)
    {text : String} (htext : cfg.parseUuid text = some node) (hk : k.Settled) :
    Settles node k (checkOne cfg task text) := by
  unfold checkOne
  rw [htext]
  refine (follows_getConnection node).bind (fun k' connection h => ?_) fun k' e h => ?_
  · obtain ⟨rfl, hid⟩ := h
    cases connection with
    | none => exact settles_pure hk _
    | some connection =>
        rw [← hid connection rfl]
        exact settles_checkFound hreader hhistory hwriter task text hk
  · rw [h.1]
    exact hk

end Services

/-! ## Runs -/

section Runs

variable {cfg : Setting} {w₀ : NodeWorld} {s s' : StatusState}

/-- Every task of a call settles what it does to its node. -/
theorem settles_tasks (hreader : cfg.nodeViewReader = true)
    (hhistory : cfg.statusHistoryWriter = true) {call : StatusCall}
    (hwriter : ∀ ids, call = .bulkCheck ids → cfg.statusWriter = true) :
    ∀ t ∈ call.tasks cfg, Settles t.node .idle t.program := by
  intro t ht
  cases call with
  | update id data =>
      rw [List.mem_singleton.1 ht]
      exact settles_discard (settles_updateNode hhistory data trivial)
  | check id =>
      rw [List.mem_singleton.1 ht]
      exact settles_discard (settles_checkConnectivity hreader hhistory trivial)
  | bulkCheck ids =>
      obtain ⟨⟨text, task⟩, -, htask⟩ := List.mem_filterMap.1 ht
      obtain ⟨id, hid, rfl⟩ := Option.map_eq_some_iff.1 htask
      exact settles_discard
        (settles_checkOne hreader hhistory (hwriter ids rfl) task hid trivial)

/-- The tasks are about different nodes, each stands in a phase that is true of its
node, and the history of the other nodes is linked. -/
structure StatusInv (w₀ : NodeWorld) (s : StatusState) : Prop where
  left : s.left = []
  nodes : (s.current.map (·.node)).Nodup
  phases : ∀ t ∈ s.current, ∃ k : StatusPhase,
    k.Describes (statusOf w₀ t.node) s.world t.node ∧ Settles t.node k t.program
  others : ∀ n ∉ s.current.map (·.node),
    Linked (statusOf w₀ n) (entriesOf s.world n) (statusOf s.world n)

/-- A task that has ended owes nothing. -/
theorem linked_of_ended {first : Option String} {w : NodeWorld} {t : StatusTask} {k : StatusPhase}
    (hk : k.Describes first w t.node) (ht : Settles t.node k t.program)
    (hended : t.program.ended = true) : Linked first (entriesOf w t.node) (statusOf w t.node) := by
  unfold Settles at ht
  cases hp : t.program with
  | done a =>
      rw [hp] at ht
      cases ht with
      | done h => exact linked_of_settled h hk
  | raise e =>
      rw [hp] at ht
      cases ht with
      | raise h => exact linked_of_settled h hk
  | ask r f =>
      rw [hp] at hended
      cases hended

/-- Between calls, every history is linked. -/
theorem linked_of_quiet (hs : StatusInv w₀ s) (hquiet : s.Quiet) (n : Uuid) :
    Linked (statusOf w₀ n) (entriesOf s.world n) (statusOf s.world n) := by
  by_cases hn : n ∈ s.current.map (·.node)
  · obtain ⟨t, ht, rfl⟩ := List.mem_map.1 hn
    obtain ⟨k, hk, hsettles⟩ := hs.phases t ht
    exact linked_of_ended hk hsettles (hquiet t (List.mem_append_right _ ht))
  · exact hs.others n hn

theorem statusInv_start (hreader : cfg.nodeViewReader = true)
    (hhistory : cfg.statusHistoryWriter = true) {call : StatusCall} (hs : StatusInv w₀ s)
    (hapart : Apart cfg s (.start call)) (hstep : statusStep cfg s (.start call) = some s') :
    StatusInv w₀ s' := by
  obtain ⟨hquiet, hnodes, hwriter⟩ := hapart
  have hlinked := linked_of_quiet hs hquiet
  obtain ⟨-, hstep⟩ := Option.ite_none_right_eq_some.1 hstep
  cases hstep
  refine ⟨?_, hnodes, fun t ht => ?_, fun n _ => hlinked n⟩
  · refine List.filter_eq_nil_iff.2 fun t ht => ?_
    rw [hquiet t ht]
    decide
  · exact ⟨.idle, hlinked t.node, settles_tasks hreader hhistory hwriter t ht⟩

theorem statusInv_answer {behind : Bool} {i : Nat} {env : StoreEnv} {fault : Option NodeFailure}
    (hs : StatusInv w₀ s) (hstep : statusStep cfg s (.answer behind i env fault) = some s') :
    StatusInv w₀ s' := by
  cases behind with
  | true =>
      unfold statusStep stepTask at hstep
      rw [hs.left] at hstep
      cases hstep
  | false =>
      obtain ⟨⟨tasks, w⟩, htask, rfl⟩ := Option.map_eq_some_iff.1 hstep
      unfold stepTask at htask
      split at htask
      · cases htask
      · rename_i t hget
        split at htask
        · cases htask
        · rename_i p w' hadvance
          cases htask
          obtain ⟨hi, hat⟩ := List.getElem?_eq_some_iff.1 hget
          have ht : t ∈ s.current := List.mem_of_getElem? hget
          obtain ⟨k, hk, hsettles⟩ := hs.phases t ht
          obtain ⟨r, hallow, rfl, hgoes⟩ := hsettles.advance hadvance
          obtain ⟨k', hafter, hk'⟩ : ∃ k', k.After r (answerReliably env fault r s.world).1 k' ∧
              k'.Describes _ (answerReliably env fault r s.world).2 t.node :=
            describes_step hallow hk
          have hnodes : (s.current.set i ⟨t.node, p⟩).map (·.node) = s.current.map (·.node) := by
            have hself := List.set_getElem_self
              (show i < (s.current.map (·.node)).length by rw [List.length_map]; exact hi)
            rw [List.getElem_map, hat] at hself
            rw [List.map_set, hself]
          have hnodup : ((s.current.set i ⟨t.node, p⟩).map (·.node)).Nodup := by
            rw [hnodes]
            exact hs.nodes
          have hother : ∀ n ≠ t.node,
              statusOf (answerReliably env fault r s.world).2 n = statusOf s.world n ∧
                entriesOf (answerReliably env fault r s.world).2 n = entriesOf s.world n :=
            fun n hn => others_step hallow hn
          refine ⟨hs.left, hnodup, fun t' ht' => ?_, fun n hn => ?_⟩
          · by_cases hsame : t'.node = t.node
            · have hnew : (⟨t.node, p⟩ : StatusTask) ∈ s.current.set i ⟨t.node, p⟩ :=
                List.mem_set hi _
              have ht'p : t' = ⟨t.node, p⟩ := List.inj_on_of_nodup_map hnodup ht' hnew hsame
              rw [ht'p]
              exact ⟨k', hk', hgoes k' hafter⟩
            · have ht'old : t' ∈ s.current := by
                obtain h | h := List.mem_or_eq_of_mem_set ht'
                · exact h
                · exact absurd (congrArg StatusTask.node h) hsame
              obtain ⟨k₁, hk₁, hsettles₁⟩ := hs.phases t' ht'old
              exact ⟨k₁, hk₁.congr (hother t'.node hsame).1 (hother t'.node hsame).2, hsettles₁⟩
          · rw [hnodes] at hn
            have hne : n ≠ t.node := fun h => hn (h ▸ List.mem_map_of_mem ht)
            show Linked _ (entriesOf _ n) (statusOf _ n)
            rw [(hother n hne).1, (hother n hne).2]
            exact hs.others n hn

/-- **The history of every node is linked** from its first status to the stored one in
runs whose calls are apart, whenever no task is on its way. -/
theorem status_linked (hreader : cfg.nodeViewReader = true)
    (hhistory : cfg.statusHistoryWriter = true) (h : (statusSystem cfg w₀).Reach (Apart cfg) s)
    (hquiet : s.Quiet) (n : Uuid) :
    Linked (statusOf w₀ n) (entriesOf s.world n) (statusOf s.world n) := by
  have hinv : StatusInv w₀ s := by
    refine h.invariant ?_ ?_
    · rintro _ ⟨rfl, hempty⟩
      refine ⟨rfl, List.nodup_nil, fun t ht => absurd ht List.not_mem_nil, fun n _ => ?_⟩
      show Linked _ (w₀.history.filter _) _
      rw [hempty]
      exact rfl
    · intro s e s' hs hapart hstep
      cases e with
      | start call => exact statusInv_start hreader hhistory hs hapart hstep
      | answer behind i env fault => exact statusInv_answer hs hstep
  exact linked_of_quiet hinv hquiet n

end Runs

/-! ## A node that one call checks twice -/

/-- Hosts that refuse every connection. -/
def refusingEnv : StoreEnv :=
  { plainStoreEnv with remote := fun _ _ => .error ⟨.connectionFailedError, "refused"⟩ }

/-- Both workers run side by side, request by request. -/
def sideBySide (n : Nat) : List StatusEvent :=
  (List.range n).flatMap fun _ =>
    [.answer false 0 refusingEnv none, .answer false 1 refusingEnv none]

/-- Whatever the runs, the history of every node is linked between the calls. -/
def StatusAlwaysLinked (cfg : Setting) : Prop :=
  ∀ w₀ s, (statusSystem cfg w₀).Reachable s → s.Quiet → ∀ n,
    Linked (statusOf w₀ n) (entriesOf s.world n) (statusOf s.world n)

/-- Services for which one text names a node. -/
def oneIdSetting : Setting :=
  { plainSetting with parseUuid := fun text => if text = "1" then some 1 else none }

/-- The entry of a check that finds the node unreachable. -/
def unreachableEntry : NodeStatusChangeDTO := ⟨1, some "active", "unreachable", .connectivityCheck⟩

/-- Both workers read the old status before either writes: the second entry does not
start where the first one ends. -/
theorem not_statusAlwaysLinked : ¬ StatusAlwaysLinked oneIdSetting := by
  intro h
  obtain ⟨s, hrun, hended, hentries⟩ : ∃ s,
      (statusSystem oneIdSetting oneNode).exec ⟨oneNode, [], []⟩
        (.start (.bulkCheck ["1", "1"]) :: sideBySide 8) = some s ∧
      (s.left ++ s.current).all (fun t => t.program.ended) = true ∧
      entriesOf s.world 1 = [unreachableEntry, unreachableEntry] := ⟨_, rfl, rfl, rfl⟩
  have hlinked := h oneNode s (System.reachable_of_exec ⟨rfl, rfl⟩ hrun)
    (fun t ht => List.all_eq_true.1 hended t ht) 1
  rw [hentries] at hlinked
  obtain ⟨-, -, hsecond, -⟩ := hlinked
  exact absurd hsecond (by decide)

/-- `Apart`, evaluated. -/
def apart (cfg : Setting) (s : StatusState) : StatusEvent → Bool
  | .start call =>
      (s.left ++ s.current).all (·.program.ended) &&
        decide ((call.tasks cfg).map (·.node)).Nodup &&
        match call with
        | .bulkCheck _ => cfg.statusWriter
        | _ => true
  | .answer .. => true

theorem apart_sound (cfg : Setting) (s : StatusState) (e : StatusEvent)
    (h : apart cfg s e = true) : Apart cfg s e := by
  cases e with
  | answer behind i env fault => trivial
  | start call =>
      unfold apart at h
      simp only [Bool.and_eq_true, decide_eq_true_eq] at h
      refine ⟨fun t ht => List.all_eq_true.1 h.1.1 t ht, h.1.2, ?_⟩
      rintro ids rfl
      exact h.2

/-- Services for which two texts name nodes. -/
def twoIdsSetting : Setting :=
  { plainSetting with
    parseUuid := fun text => if text = "1" then some 1 else if text = "2" then some 2 else none }

/-- A world with two nodes. -/
def twoNodes : NodeWorld where
  nodes :=
    { rows := [fleetNode 1, fleetNode 2]
      nextId := 3
      ids_nodup := by decide
      names_nodup := by decide
      drawn := by
        intro row hrow
        rcases List.mem_pair.1 hrow with rfl | rfl
        · decide
        · decide }
  history := []
  commits := []

/-- Both nodes are checked at once, and the first one does not answer; then it is checked again. -/
def twiceChecked : List StatusEvent :=
  .start (.bulkCheck ["1", "2"]) ::
    ((List.range 7).flatMap fun _ =>
      [.answer false 0 refusingEnv none, .answer false 1 plainStoreEnv none]) ++
    [.answer false 0 refusingEnv none, .start (.check 1)] ++
    List.replicate 9 (.answer false 0 plainStoreEnv none)

/-- The first node has two entries that are linked. -/
theorem status_linked_check : ∃ s : StatusState,
    (statusSystem twoIdsSetting twoNodes).exec ⟨twoNodes, [], []⟩ twiceChecked = some s ∧
      entriesOf s.world 1 =
        [unreachableEntry, ⟨1, some "unreachable", "active", .connectivityCheck⟩] ∧
      Linked (some "active") (entriesOf s.world 1) (statusOf s.world 1) := by
  obtain ⟨s, hrun, hended, hentries⟩ : ∃ s,
      (statusSystem twoIdsSetting twoNodes).exec ⟨twoNodes, [], []⟩ twiceChecked = some s ∧
      (s.left ++ s.current).all (fun t => t.program.ended) = true ∧
      entriesOf s.world 1 =
        [unreachableEntry, ⟨1, some "unreachable", "active", .connectivityCheck⟩] :=
    ⟨_, rfl, rfl, rfl⟩
  have hreach : (statusSystem twoIdsSetting twoNodes).Reach (Apart twoIdsSetting) s :=
    System.Reach.exec_of_checks (apart_sound twoIdsSetting) (.start ⟨rfl, rfl⟩) hrun rfl
  exact ⟨s, hrun, hentries, status_linked rfl rfl hreach
    (fun t ht => List.all_eq_true.1 hended t ht) 1⟩

end Node
end NodeNexus
