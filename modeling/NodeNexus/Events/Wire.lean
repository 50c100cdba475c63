import NodeNexus.Events.Broadcaster
import NodeNexus.Lib.EventStream

/-!
# What a client reads

The response of a subscriber is text.  This file follows it to the client, whose receiver of
event streams turns the text back into events.

* `Publication` — the events of the services, with their data.
* `Chunk.item`, `toList_text` — each chunk of `_event_generator` is a comment or an event of
  an event stream.
* `Told` — what a stream is told is never out of order, twice or with a gap, also when its
  subscriber is dropped or leaves.
* `client_reads` — in every run, wherever the text is cut off, the client has the first of
  the events it was to be told, with their data.
-/

namespace NodeNexus
namespace Events

open Content EventStream

/-! ## The events of the services -/

/-- The `docker.container` events that carry nothing but the container. -/
inductive ContainerAction where
  | start
  | stop
  | restart
  | remove
  | pause
  | unpause
deriving DecidableEq

/-- The last part of the name of the event. -/
def ContainerAction.text : ContainerAction → String
  | start => "start"
  | stop => "stop"
  | restart => "restart"
  | remove => "remove"
  | pause => "pause"
  | unpause => "unpause"

/-- The calls of `publish` in the services. -/
inductive Publication where
  /-- `ScheduleManagementService.create_or_update`. -/
  | scheduled (scriptId : Uuid)
  /-- `NodeCommandService.check_connectivity` and `NodeBulkOperationService.bulk_check`. -/
  | statusChanged (nodeId : String) (oldStatus : Option String) (newStatus : String)
  /-- `ExecutionLifecycleService.cancel_execution`. -/
  | cancelled (executionId : Uuid)
  /-- `ScriptExecutionService.execute_script`, after its timeout too. -/
  | scriptEnded (executionId scriptId nodeId : Uuid) (success : Bool)
  /-- `CommandExecutionService.execute_command`. -/
  | commandCompleted (commandId nodeId : Uuid) (exitCode : Int)
  | commandFailed (commandId nodeId : Uuid) (errorType : String)
  /-- `ContainerService._lifecycle_action`, `pause_container` and `unpause_container`. -/
  | container (action : ContainerAction) (nodeId : Uuid) (containerId : String)
  /-- `ContainerService.rename_container` and `kill_container`. -/
  | renamed (nodeId : Uuid) (containerId newName : String)
  | killed (nodeId : Uuid) (containerId signal : String)

namespace Publication

/-- The name of the event. -/
def event : Publication → String
  | scheduled _ => "script.scheduled"
  | statusChanged .. => "node.status_changed"
  | cancelled _ => "execution.cancelled"
  | scriptEnded _ _ _ success => if success then "execution.completed" else "execution.failed"
  | commandCompleted .. => "execution.completed"
  | commandFailed .. => "execution.failed"
  | container action _ _ => "docker.container." ++ action.text
  | renamed .. => "docker.container.rename"
  | killed .. => "docker.container.kill"

/-- Its data. -/
def data : Publication → Json.Fields
  | scheduled scriptId => [("script_id", .str (uuidText scriptId))]
  | statusChanged nodeId oldStatus newStatus =>
      [("node_id", .str nodeId), ("old_status", oldStatus.elim .null .str),
        ("new_status", .str newStatus)]
  | cancelled executionId => [("execution_id", .str (uuidText executionId))]
  | scriptEnded executionId scriptId nodeId success =>
      [("execution_id", .str (uuidText executionId)), ("script_id", .str (uuidText scriptId)),
        ("node_id", .str (uuidText nodeId)),
        ("status", .str (if success then "success" else "error"))]
  | commandCompleted commandId nodeId exitCode =>
      [("command_id", .str (uuidText commandId)), ("node_id", .str (uuidText nodeId)),
        ("exit_code", .int exitCode)]
  | commandFailed commandId nodeId errorType =>
      [("command_id", .str (uuidText commandId)), ("node_id", .str (uuidText nodeId)),
        ("error_type", .str errorType)]
  | container _ nodeId containerId =>
      [("node_id", .str (uuidText nodeId)), ("container_id", .str containerId)]
  | renamed nodeId containerId newName =>
      [("node_id", .str (uuidText nodeId)), ("container_id", .str containerId),
        ("new_name", .str newName)]
  | killed nodeId containerId signal =>
      [("node_id", .str (uuidText nodeId)), ("container_id", .str containerId),
        ("signal", .str signal)]

/-- The names that the docstring of `event_stream` lists. -/
def names : List String :=
  ["node.status_changed", "execution.completed", "execution.failed", "execution.cancelled",
    "script.scheduled", "docker.container.start", "docker.container.stop",
    "docker.container.restart", "docker.container.remove", "docker.container.pause",
    "docker.container.unpause", "docker.container.kill", "docker.container.rename"]

/-- The list is complete. -/
theorem event_mem (p : Publication) : p.event ∈ names := by
  cases p with
  | scheduled => exact (show "script.scheduled" ∈ names by simp [names])
  | statusChanged => exact (show "node.status_changed" ∈ names by simp [names])
  | cancelled => exact (show "execution.cancelled" ∈ names by simp [names])
  | scriptEnded executionId scriptId nodeId success =>
      show (if success then "execution.completed" else "execution.failed") ∈ names
      cases success <;> simp [names]
  | commandCompleted => exact (show "execution.completed" ∈ names by simp [names])
  | commandFailed => exact (show "execution.failed" ∈ names by simp [names])
  | container action =>
      show "docker.container." ++ action.text ∈ names
      cases action <;> simp [names, ContainerAction.text]
  | renamed => exact (show "docker.container.rename" ∈ names by simp [names])
  | killed => exact (show "docker.container.kill" ∈ names by simp [names])

/-- The name of an event is one line. -/
theorem event_unbroken (p : Publication) : Unbroken p.event.toList ∧ p.event.toList ≠ [] := by
  have hnames : ∀ name ∈ names, Unbroken name.toList ∧ name.toList ≠ [] := by decide
  exact hnames _ p.event_mem

/-- The data of all events reads back. -/
theorem data_plain (p : Publication) : Json.Plain (.dict p.data) := by
  cases p with
  | statusChanged nodeId oldStatus newStatus =>
      cases oldStatus <;>
        exact ⟨show List.Nodup ["node_id", "old_status", "new_status"] by decide,
          trivial, trivial, trivial, trivial⟩
  | scheduled => exact ⟨List.nodup_singleton _, trivial, trivial⟩
  | cancelled => exact ⟨List.nodup_singleton _, trivial, trivial⟩
  | scriptEnded =>
      exact ⟨show List.Nodup ["execution_id", "script_id", "node_id", "status"] by decide,
        trivial, trivial, trivial, trivial, trivial⟩
  | commandCompleted =>
      exact ⟨show List.Nodup ["command_id", "node_id", "exit_code"] by decide,
        trivial, trivial, trivial, trivial⟩
  | commandFailed =>
      exact ⟨show List.Nodup ["command_id", "node_id", "error_type"] by decide,
        trivial, trivial, trivial, trivial⟩
  | container =>
      exact ⟨show List.Nodup ["node_id", "container_id"] by decide, trivial, trivial, trivial⟩
  | renamed =>
      exact ⟨show List.Nodup ["node_id", "container_id", "new_name"] by decide,
        trivial, trivial, trivial, trivial⟩
  | killed =>
      exact ⟨show List.Nodup ["node_id", "container_id", "signal"] by decide,
        trivial, trivial, trivial, trivial⟩

end Publication

/-- The event was published by a service. -/
def SseEvent.Announced (e : SseEvent) : Prop :=
  ∃ p : Publication, e.event = p.event ∧ e.data = p.data

/-- The runs in which the services publish. -/
def AnnouncedStep (_ : SseState) : SseStep → Prop
  | .publish event data _ => ∃ p : Publication, event = p.event ∧ data = p.data
  | _ => True

/-! ## The text of a response -/

/-- The event as a client is to dispatch it. -/
def SseEvent.message (e : SseEvent) : Message :=
  ⟨e.event.toList, Json.dump (.dict e.data), hexPad 32 e.id⟩

/-- A chunk as an item of an event stream. -/
def Chunk.item : Chunk → Item
  | .opening => .comment []
  | .keepalive => .comment " keepalive".toList
  | .event e => .message e.message

/-- The response, as far as it has been written. -/
def Stream.text (stream : Stream) : List Char := stream.out.flatMap fun chunk => chunk.text.toList

theorem toList_text (chunk : Chunk) : chunk.text.toList = chunk.item.text := by
  cases chunk with
  | opening => rfl
  | keepalive => rfl
  | event e =>
      simp [Chunk.text, Chunk.item, Item.text, Item.lines, Message.lines, SseEvent.message, block,
        Line.text, Line.body, Json.dumps]

theorem message?_item (chunk : Chunk) :
    chunk.item.message? = chunk.event?.map SseEvent.message := by
  cases chunk <;> rfl

theorem text_eq_items (chunks : List Chunk) :
    (chunks.flatMap fun chunk => chunk.text.toList) = (chunks.map Chunk.item).flatMap Item.text := by
  simp only [List.flatMap_map, toList_text]

theorem messages_items (chunks : List Chunk) :
    (chunks.map Chunk.item).filterMap Item.message? =
      (chunks.filterMap Chunk.event?).map SseEvent.message := by
  simp only [List.filterMap_map, List.map_filterMap, Function.comp_def, message?_item]

/-- Printable text is one line, without the character that no id may have. -/
theorem unbroken_of_printable {cs : List Char} (h : Json.Printable cs) :
    Unbroken cs ∧ '\x00' ∉ cs :=
  ⟨⟨fun hc => absurd (h _ hc) (by decide), fun hc => absurd (h _ hc) (by decide)⟩,
    fun hc => absurd (h _ hc) (by decide)⟩

theorem printable_hexPad (width n : Nat) : Json.Printable (hexPad width n) := by
  intro c hc
  obtain ⟨d, hd, rfl⟩ := mem_hexPad hc
  exact Json.printable_digitChar hd

/-- An event of the services can be written. -/
theorem SseEvent.Announced.sound {e : SseEvent} (h : e.Announced) : e.message.Sound := by
  obtain ⟨p, hevent, hdata⟩ := h
  have hname := p.event_unbroken
  have hplain := p.data_plain
  rw [← hevent] at hname
  rw [← hdata] at hplain
  exact ⟨hname.1, hname.2, (unbroken_of_printable (Json.printable_dump _ hplain)).1,
    (unbroken_of_printable (printable_hexPad 32 e.id)).1,
    (unbroken_of_printable (printable_hexPad 32 e.id)).2⟩

/-! ## What a stream is told -/

/-- What a stream is to be told: the end of the history it found, and all events since. -/
def SseState.due (s : SseState) (stream : Stream) : List SseEvent :=
  stream.historyAt.rtake replayWindow ++ s.published.drop stream.publishedAt

/-- A stream is told the first of its events, and all of them while it is registered. -/
structure Told (s : SseState) (subId : Uuid) (stream : Stream) : Prop where
  first : stream.read ++ s.waiting subId <+: s.due stream
  all : subId ∈ s.broadcaster.queues → stream.read ++ s.waiting subId = s.due stream

/-- What a step other than `subscribe` and `publish` does to the streams: an event goes from a
queue to its stream, and nobody is registered anew. -/
structure Passed (s s' : SseState) : Prop where
  streams : ∀ subId stream', s'.streams subId = some stream' → ∃ stream,
    s.streams subId = some stream ∧ stream'.historyAt = stream.historyAt ∧
      stream'.publishedAt = stream.publishedAt ∧
      stream'.read ++ s'.waiting subId = stream.read ++ s.waiting subId
  queues : s'.broadcaster.queues ⊆ s.broadcaster.queues
  published : s'.published = s.published

/-- One stream and its queue change, and keep what they have together. -/
theorem passed_of_stream {s s' : SseState} {subId : Uuid} {stream stream' : Stream}
    (hstream : s.streams subId = some stream)
    (hafter : s'.streams = Function.update s.streams subId (some stream'))
    (hhistory : stream'.historyAt = stream.historyAt)
    (hpublished : stream'.publishedAt = stream.publishedAt)
    (htold : stream'.read ++ s'.waiting subId = stream.read ++ s.waiting subId)
    (hothers : ∀ other, other ≠ subId → s'.heap other = s.heap other)
    (hqueues : s'.broadcaster.queues ⊆ s.broadcaster.queues)
    (hsame : s'.published = s.published) : Passed s s' where
  streams other stream'' h := by
    by_cases hne : other = subId
    · rw [hne, hafter, Function.update_self] at h
      cases h
      exact ⟨stream, hne ▸ hstream, hhistory, hpublished, hne ▸ htold⟩
    · rw [hafter, Function.update_of_ne hne] at h
      refine ⟨stream'', h, rfl, rfl, ?_⟩
      rw [SseState.waiting, hothers other hne]
      rfl
  queues := hqueues
  published := hsame

theorem unsubscribe_subset (b : SseBroadcaster) (subId : Uuid) :
    (b.unsubscribe subId).queues ⊆ b.queues :=
  fun _ h => (List.mem_filter.1 h).1

/-- **The steps.**  Somebody subscribes, an event is published, or events go on. -/
theorem moves_of_step {s s' : SseState} {step : SseStep} (h : sseSystem.step s step = some s') :
    step = .subscribe ∧ s' = s.subscribe ∨
      (∃ event data timestamp, step = .publish event data timestamp ∧
        s' = s.publish ⟨event, data, s.drawn, timestamp⟩) ∨ Passed s s' := by
  cases step with
  | subscribe =>
      cases h
      exact .inl ⟨rfl, rfl⟩
  | publish event data timestamp =>
      cases h
      exact .inr (.inl ⟨event, data, timestamp, rfl, rfl⟩)
  | next subId =>
      right; right
      simp only [sseSystem, sseStep] at h
      split at h
      · cases h
      rename_i stream hstream
      split at h
      · cases h
      split at h
      · -- the comment before the first event
        cases h
        exact passed_of_stream hstream rfl rfl rfl (by simp [Stream.read, Stream.emit,
          Chunk.event?, SseState.waiting, SseState.setStream]) (fun _ _ => rfl)
          (List.Subset.refl _) rfl
      split at h
      · cases h
      · rename_i e queue hget
        cases h
        refine passed_of_stream hstream rfl rfl rfl ?_
          (fun _ hne => Function.update_of_ne hne ..) (List.Subset.refl _) rfl
        simp [Stream.read, Stream.emit, Chunk.event?, SseState.waiting,
          BoundedQueue.items_of_get? hget]
      · rename_i queue hget
        cases h
        refine passed_of_stream hstream rfl rfl rfl ?_
          (fun _ hne => Function.update_of_ne hne ..) (unsubscribe_subset ..) rfl
        simp [Stream.read, Stream.finish, SseState.waiting, BoundedQueue.items_of_get? hget]
  | keepalive subId =>
      right; right
      simp only [sseSystem, sseStep] at h
      split at h
      · cases h
      rename_i stream hstream
      split at h
      · cases h
      cases h
      exact passed_of_stream hstream rfl rfl rfl (by simp [Stream.read, Stream.emit,
        Chunk.event?, SseState.waiting, SseState.setStream]) (fun _ _ => rfl)
        (List.Subset.refl _) rfl
  | close subId =>
      right; right
      simp only [sseSystem, sseStep] at h
      split at h
      · cases h
      rename_i stream hstream
      split at h
      · cases h
      split at h
      · cases h
        exact passed_of_stream hstream rfl rfl rfl rfl (fun _ _ => rfl) (List.Subset.refl _) rfl
      · cases h
        exact passed_of_stream hstream rfl rfl rfl rfl (fun _ _ => rfl)
          (unsubscribe_subset ..) rfl

/-- What every stream is told. -/
def AllTold (s : SseState) : Prop :=
  ∀ subId stream, s.streams subId = some stream → Told s subId stream

theorem AllTold.subscribe {s : SseState} (h : AllTold s) : AllTold s.subscribe := by
  intro subId stream hstream
  by_cases hne : subId = s.drawn
  · -- the new subscriber waits for the end of the history
    rw [hne, subscribe_streams_self] at hstream
    cases hstream
    have hwaiting : s.subscribe.waiting s.drawn = s.broadcaster.history.rtake replayWindow := by
      rw [SseState.waiting, subscribe_heap]
      simp
    have hall : Stream.read ⟨[], false, s.broadcaster.history, s.published.length⟩ ++
        s.subscribe.waiting subId =
        s.subscribe.due ⟨[], false, s.broadcaster.history, s.published.length⟩ := by
      rw [hne, hwaiting]
      simp [Stream.read, SseState.due, SseState.subscribe, SseState.setStream]
    exact ⟨hall ▸ List.prefix_refl _, fun _ => hall⟩
  · rw [subscribe_streams_of_ne s hne] at hstream
    obtain ⟨hfirst, hall⟩ := h subId stream hstream
    have hwaiting : s.subscribe.waiting subId = s.waiting subId := by
      rw [SseState.waiting, subscribe_heap_of_ne s hne]
      rfl
    refine ⟨by rw [hwaiting]; exact hfirst, fun hmem => ?_⟩
    rw [hwaiting]
    refine hall ?_
    rcases List.mem_append.1 hmem with hmem | hmem
    · exact hmem
    · exact absurd (List.mem_singleton.1 hmem) hne

theorem AllTold.publish {s : SseState} (h : AllTold s) (hinv : SseInv s) (e : SseEvent) :
    AllTold (s.publish e) := by
  intro subId stream hstream
  obtain ⟨hfirst, hall⟩ := h subId stream hstream
  have hdue : (s.publish e).due stream = s.due stream ++ [e] := by
    simp only [SseState.due, SseState.publish]
    rw [List.drop_append_of_le_length (hinv.publishedAt subId stream hstream), List.append_assoc]
  cases published_publish s e hinv.keys subId with
  | told hmem _ items _ =>
      have hwaiting : (s.publish e).waiting subId = s.waiting subId ++ [e] := by
        rw [SseState.waiting, SseState.waiting, items, List.filterMap_append]
        rfl
      have hnow : stream.read ++ (s.publish e).waiting subId = (s.publish e).due stream := by
        rw [hwaiting, hdue, ← List.append_assoc, hall hmem]
      exact ⟨hnow ▸ List.prefix_refl _, fun _ => hnow⟩
  | dropped _ _ same gone =>
      refine ⟨?_, fun hkept => absurd hkept gone⟩
      rw [SseState.waiting, same, hdue]
      exact hfirst.trans (List.prefix_append ..)
  | passed _ same gone =>
      refine ⟨?_, fun hkept => absurd hkept gone⟩
      rw [SseState.waiting, same, hdue]
      exact hfirst.trans (List.prefix_append ..)

theorem AllTold.passed {s s' : SseState} (h : AllTold s) (p : Passed s s') : AllTold s' := by
  intro subId stream' hstream'
  obtain ⟨stream, hstream, hhistory, hpublished, htold⟩ := p.streams subId stream' hstream'
  obtain ⟨hfirst, hall⟩ := h subId stream hstream
  have hdue : s'.due stream' = s.due stream := by
    rw [SseState.due, SseState.due, hhistory, hpublished, p.published]
  rw [← htold, ← hdue] at hfirst
  refine ⟨hfirst, fun hmem => ?_⟩
  rw [htold, hdue]
  exact hall (p.queues hmem)

/-- **No stream has a gap**: in every run, what a stream has read and what waits for it are
the first of its events, in their order. -/
theorem allTold_of_reachable {s : SseState} (h : sseSystem.Reachable s) : AllTold s := by
  induction h with
  | start hinit =>
      cases hinit
      exact nofun
  | next hreach _ hstep ih =>
      rcases moves_of_step hstep with ⟨-, rfl⟩ | ⟨event, data, timestamp, -, rfl⟩ | hpassed
      · exact ih.subscribe
      · exact ih.publish (sseInv_of_reachable hreach) _
      · exact ih.passed hpassed

/-- All published events are those of the services. -/
theorem announced_of_reach {s : SseState} (h : sseSystem.Reach AnnouncedStep s) :
    ∀ e ∈ s.published, e.Announced := by
  induction h with
  | start hinit =>
      cases hinit
      exact nofun
  | next _ hannounced hstep ih =>
      rcases moves_of_step hstep with ⟨-, rfl⟩ | ⟨event, data, timestamp, rfl, rfl⟩ | hpassed
      · exact ih
      · simp only [SseState.publish, List.forall_mem_append, List.forall_mem_singleton]
        exact ⟨ih, hannounced⟩
      · rwa [hpassed.published]

/-! ## What the client has -/

/-- The client of a stream that has received some of its text. -/
structure ClientReads (s : SseState) (stream : Stream) (text : List Char) : Prop where
  /-- It has dispatched the first of the events it was to be told. -/
  first : (read text).messages <+: (s.due stream).map SseEvent.message
  /-- It has dispatched the events of the chunks that it received as a whole. -/
  whole : ∃ got rest, stream.out = got ++ rest ∧
    (got.flatMap fun chunk => chunk.text.toList) <+: text ∧
    (∀ chunk ∈ rest.head?,
      ¬ ((got ++ [chunk]).flatMap fun chunk => chunk.text.toList) <+: text) ∧
    (read text).messages = (got.filterMap Chunk.event?).map SseEvent.message
  /-- Their data is what was published. -/
  data : ∀ m ∈ (read text).messages, ∃ e ∈ s.published, m = e.message ∧
    ∀ float, Json.loads float (String.ofList m.data) = some (.dict e.data)

/-- What a stream is to be told was published. -/
theorem due_subset {s : SseState} (h : SseInv s) {subId : Uuid} {stream : Stream}
    (hstream : s.streams subId = some stream) : s.due stream ⊆ s.published :=
  (told_suffix h hstream).subset

/-- **What a client reads.**  In every run in which the services publish, whoever comes, goes
or is dropped, and wherever the response of a subscriber is cut off: its client has dispatched
the events of the chunks that arrived as a whole, and these are the first of the events that
the subscriber was to be told, without gap, repetition or change of order, with the data that
was published. -/
theorem client_reads {s : SseState} (h : sseSystem.Reach AnnouncedStep s) {subId : Uuid}
    {stream : Stream} (hstream : s.streams subId = some stream) {text : List Char}
    (htext : text <+: stream.text) : ClientReads s stream text := by
  have hinv := sseInv_of_reachable h.reachable
  have htold := allTold_of_reachable h.reachable subId stream hstream
  have hread : stream.read <+: s.due stream := (List.prefix_append ..).trans htold.first
  have hannounced : ∀ e ∈ stream.read, e.Announced := fun e he =>
    announced_of_reach h e (due_subset hinv hstream (hread.subset he))
  have hsound : ∀ item ∈ stream.out.map Chunk.item, item.Sound := by
    intro item hitem
    obtain ⟨chunk, hchunk, rfl⟩ := List.mem_map.1 hitem
    cases chunk with
    | opening => exact (show Unbroken [] by decide)
    | keepalive => exact (show Unbroken " keepalive".toList by decide)
    | event e => exact (hannounced e (List.mem_filterMap.2 ⟨_, hchunk, rfl⟩)).sound
  rw [Stream.text, text_eq_items] at htext
  obtain ⟨items, others, hitems, hwhole, hnext, hmessages⟩ := read_cut hsound idle_start htext
  obtain ⟨got, rest, hout, rfl, rfl⟩ := List.map_eq_append_iff.1 hitems
  have hgot : (read text).messages = (got.filterMap Chunk.event?).map SseEvent.message := by
    rw [← messages_items]
    exact hmessages
  have hfirst : (got.filterMap Chunk.event?) <+: s.due stream := by
    refine List.IsPrefix.trans ?_ hread
    rw [Stream.read, hout, List.filterMap_append]
    exact List.prefix_append ..
  refine ⟨?_, ⟨got, rest, hout, ?_, ?_, hgot⟩, ?_⟩
  · rw [hgot]
    exact hfirst.map _
  · rw [text_eq_items]
    exact hwhole
  · intro chunk hchunk
    rw [text_eq_items, List.map_append]
    refine hnext chunk.item ?_
    rw [List.head?_map]
    exact Option.mem_map_of_mem _ hchunk
  · intro m hm
    rw [hgot] at hm
    obtain ⟨e, he, rfl⟩ := List.mem_map.1 hm
    have hpublished := due_subset hinv hstream (hfirst.subset he)
    obtain ⟨p, -, hdata⟩ := announced_of_reach h e hpublished
    refine ⟨e, hpublished, rfl, fun float => ?_⟩
    have hplain := p.data_plain
    rw [← hdata] at hplain
    exact Json.loads_dumps float hplain

/-- The event of a scheduled script. -/
def scheduledEvent (scriptId eventId : Nat) : SseEvent :=
  ⟨"script.scheduled", (Publication.scheduled scriptId).data, eventId, "t"⟩

/-- The stream of a subscriber of two events. -/
def twoEventStream : Stream :=
  ⟨[.opening, .event (scheduledEvent 7 1), .event (scheduledEvent 8 2)], false, [], 0⟩

/-- The steps that lead to it. -/
def twoEventSteps : List SseStep :=
  [.subscribe, .publish "script.scheduled" (Publication.scheduled 7).data "t",
    .publish "script.scheduled" (Publication.scheduled 8).data "t", .next 0, .next 0, .next 0]

/-- Its response, up to the middle of the second event. -/
def cutResponse : List Char :=
  [Chunk.opening, .event (scheduledEvent 7 1)].flatMap (·.text.toList) ++
    (Chunk.event (scheduledEvent 8 2)).text.toList.take 20

/-- The client has dispatched the first event. -/
theorem client_reads_cut : ∃ s, sseSystem.exec sseStart twoEventSteps = some s ∧
    ClientReads s twoEventStream cutResponse ∧
    (read cutResponse).messages = [(scheduledEvent 7 1).message] := by
  have hsteps : ∀ e ∈ twoEventSteps, ∀ s, AnnouncedStep s e := by
    simp only [twoEventSteps, List.forall_mem_cons]
    exact ⟨fun _ => trivial, fun _ => ⟨.scheduled 7, rfl, rfl⟩, fun _ => ⟨.scheduled 8, rfl, rfl⟩,
      fun _ => trivial, fun _ => trivial, fun _ => trivial, nofun⟩
  have hstart : sseSystem.Reach AnnouncedStep sseStart := .start rfl
  have htext : twoEventStream.text = [Chunk.opening, .event (scheduledEvent 7 1)].flatMap
      (·.text.toList) ++ (Chunk.event (scheduledEvent 8 2)).text.toList := by
    simp only [Stream.text, twoEventStream, List.flatMap_cons, List.flatMap_nil, List.append_nil,
      List.append_assoc]
  have hcut : cutResponse <+: twoEventStream.text := by
    rw [htext, cutResponse, List.prefix_append_right_inj]
    exact List.take_prefix ..
  have hread : (read cutResponse).messages = [(scheduledEvent 7 1).message] := by
    rw [cutResponse, text_eq_items, toList_text]
    decide +kernel
  exact ⟨_, rfl, @client_reads _ (hstart.exec_of hsteps rfl) 0 _ rfl _ hcut, hread⟩

end Events
end NodeNexus
