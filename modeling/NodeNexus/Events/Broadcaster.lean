import Mathlib.Data.List.DropRight
import Mathlib.Data.List.Nodup
import Mathlib.Logic.Function.Basic
import NodeNexus.Content.Formats
import NodeNexus.Lib.BoundedQueue
import NodeNexus.Lib.Hex
import NodeNexus.Lib.JsonText
import NodeNexus.Lib.Transition

/-!
# Server-sent events

`SseBroadcaster` keeps a queue for each subscriber and the last events; the
response of a subscriber is written by `_event_generator`, which reads its queue.

* `SseBroadcaster.subscribe`, `publish`, `unsubscribe` — the three operations.
* `sseSystem` — subscribers that come, read at their own pace and go, while events
  are published.
* `NeverMissesSilently` — a stream that goes on has every event, and one that was
  dropped finds the end of its stream in its queue.
* `sse_never_misses_while_room` — this holds as long as nobody is dropped, and the first
  drop of a live subscriber breaks it: nothing ever puts the sentinel that
  `_event_generator` waits for.
-/

namespace NodeNexus
namespace Events

open Content

/-! ## The broadcaster -/

/-- `SseEvent`. -/
structure SseEvent where
  event : String
  data : Json.Fields
  id : Uuid
  timestamp : String

/-- `asyncio.Queue[SseEvent | None]` of a subscriber; `None` ends the stream. -/
abbrev SseQueue : Type := BoundedQueue (Option SseEvent) 256

/-- `_max_history`. -/
def maxHistory : Nat := 100

/-- How much of the history a new subscriber is told. -/
def replayWindow : Nat := 50

/-- `SseBroadcaster`: the keys of `_queues` in their order, and `_history`.  The queue
objects are shared with the streams and live in a heap, each under the id of its
subscription. -/
structure SseBroadcaster where
  queues : List Uuid
  history : List SseEvent

/-- `SseBroadcaster.__init__`. -/
def SseBroadcaster.empty : SseBroadcaster := ⟨[], []⟩

/-- `SseBroadcaster.subscribe` with the id `subId`: a queue that starts with the end of
the history. -/
def SseBroadcaster.subscribe (b : SseBroadcaster) (heap : Uuid → SseQueue) (subId : Uuid) :
    SseBroadcaster × (Uuid → SseQueue) :=
  ({ b with queues := b.queues ++ [subId] },
    Function.update heap subId
      (BoundedQueue.empty.putWhileRoom ((b.history.rtake replayWindow).map some)))

/-- `SseBroadcaster.unsubscribe`. -/
def SseBroadcaster.unsubscribe (b : SseBroadcaster) (subId : Uuid) : SseBroadcaster :=
  { b with queues := b.queues.filter (· ≠ subId) }

/-- The first loop of `publish`: put the event in each queue; the second component is
`dead`. -/
def offer (e : SseEvent) : List Uuid → (Uuid → SseQueue) → (Uuid → SseQueue) × List Uuid
  | [], heap => (heap, [])
  | subId :: subIds, heap =>
      match (heap subId).put? (some e) with
      | some queue => offer e subIds (Function.update heap subId queue)
      | none => ((offer e subIds heap).1, subId :: (offer e subIds heap).2)

/-- The history with one more event, cut to its last `_max_history`. -/
def remember (history : List SseEvent) (e : SseEvent) : List SseEvent :=
  if maxHistory < (history ++ [e]).length then (history ++ [e]).rtake maxHistory
  else history ++ [e]

/-- `SseBroadcaster.publish`: the queues that were full leave `_queues`. -/
def SseBroadcaster.publish (b : SseBroadcaster) (heap : Uuid → SseQueue) (e : SseEvent) :
    SseBroadcaster × (Uuid → SseQueue) :=
  (⟨b.queues.filter (· ∉ (offer e b.queues heap).2), remember b.history e⟩,
    (offer e b.queues heap).1)

/-! ## The streams -/

/-- What `_event_generator` yields. -/
inductive Chunk where
  | opening
  | keepalive
  | event (e : SseEvent)

/-- The text of a chunk. -/
def Chunk.text : Chunk → String
  | .opening => ":\n\n"
  | .keepalive => ": keepalive\n\n"
  | .event e =>
      "id: " ++ String.ofList (hexPad 32 e.id) ++ "\nevent: " ++ e.event ++ "\ndata: " ++
        Json.dumps (.dict e.data) ++ "\n\n"

/-- The event of a chunk. -/
def Chunk.event? : Chunk → Option SseEvent
  | .event e => some e
  | _ => none

/-- The response of a subscriber, as far as it has been written. -/
structure Stream where
  out : List Chunk
  /-- `_event_generator` has returned or was closed. -/
  ended : Bool
  /-- The history when the subscriber came, and how much had been published by then. -/
  historyAt : List SseEvent
  publishedAt : Nat

/-- The events a subscriber has read. -/
def Stream.read (stream : Stream) : List SseEvent := stream.out.filterMap Chunk.event?

/-- One more chunk is written. -/
def Stream.emit (stream : Stream) (chunk : Chunk) : Stream :=
  { stream with out := stream.out ++ [chunk] }

/-- The generator has ended. -/
def Stream.finish (stream : Stream) : Stream := { stream with ended := true }

/-- The broadcaster, the queues and streams of all subscribers so far, the number of ids
drawn, and everything that was published. -/
structure SseState where
  broadcaster : SseBroadcaster
  heap : Uuid → SseQueue
  streams : Uuid → Option Stream
  drawn : Nat
  published : List SseEvent

/-- What can happen. -/
inductive SseStep where
  /-- A request for the stream: `subscribe` and the generator, which has not run yet. -/
  | subscribe
  /-- A service publishes an event. -/
  | publish (event : String) (data : Json.Fields) (timestamp : String)
  /-- The server asks the generator for its next chunk and gets one, or its end. -/
  | next (subId : Uuid)
  /-- The generator waits for 30 seconds at an empty queue. -/
  | keepalive (subId : Uuid)
  /-- The client is gone: the generator is closed. -/
  | close (subId : Uuid)

/-- The stream of a subscriber changes. -/
def SseState.setStream (s : SseState) (subId : Uuid) (stream : Stream) : SseState :=
  { s with streams := Function.update s.streams subId (some stream) }

/-- `subscribe`, and the generator of the new subscriber. -/
def SseState.subscribe (s : SseState) : SseState :=
  { s.setStream s.drawn ⟨[], false, s.broadcaster.history, s.published.length⟩ with
    broadcaster := (s.broadcaster.subscribe s.heap s.drawn).1
    heap := (s.broadcaster.subscribe s.heap s.drawn).2
    drawn := s.drawn + 1 }

/-- `publish` with its event. -/
def SseState.publish (s : SseState) (e : SseEvent) : SseState :=
  { s with
    broadcaster := (s.broadcaster.publish s.heap e).1
    heap := (s.broadcaster.publish s.heap e).2
    drawn := s.drawn + 1
    published := s.published ++ [e] }

/-- The `finally` of the generator, and its end. -/
def SseState.endStream (s : SseState) (subId : Uuid) (stream : Stream) : SseState :=
  { s.setStream subId stream.finish with
    broadcaster := s.broadcaster.unsubscribe subId }

/-- One step.  A generator that was closed before it ran does not reach its `finally`. -/
def sseStep (s : SseState) : SseStep → Option SseState
  | .subscribe => some s.subscribe
  | .publish event data timestamp => some (s.publish ⟨event, data, s.drawn, timestamp⟩)
  | .next subId =>
      match s.streams subId with
      | none => none
      | some stream =>
          if stream.ended then none
          else if stream.out.isEmpty then some (s.setStream subId (stream.emit .opening))
          else match (s.heap subId).get? with
            | none => none
            | some (some e, queue) =>
                some { s.setStream subId (stream.emit (.event e)) with
                  heap := Function.update s.heap subId queue }
            | some (none, queue) =>
                some { s.endStream subId stream with
                  heap := Function.update s.heap subId queue }
  | .keepalive subId =>
      match s.streams subId with
      | none => none
      | some stream =>
          if stream.ended ∨ stream.out.isEmpty ∨ (s.heap subId).items ≠ [] then none
          else some (s.setStream subId (stream.emit .keepalive))
  | .close subId =>
      match s.streams subId with
      | none => none
      | some stream =>
          if stream.ended then none
          else if stream.out.isEmpty then some (s.setStream subId stream.finish)
          else some (s.endStream subId stream)

/-- Every interleaving of subscribers and services. -/
def sseSystem : System SseState SseStep where
  init s := s = ⟨.empty, fun _ => .empty, fun _ => none, 0, []⟩
  step := sseStep

/-! ## What a subscriber is promised -/

/-- The events that wait in a queue. -/
def SseState.waiting (s : SseState) (subId : Uuid) : List SseEvent :=
  (s.heap subId).items.filterMap id

/-- A stream has exactly its events: the end of the history it found, and all events
since, each once. -/
structure Complete (s : SseState) (subId : Uuid) (stream : Stream) : Prop where
  all : stream.read ++ s.waiting subId =
    stream.historyAt.rtake replayWindow ++ s.published.drop stream.publishedAt
  once : ((stream.read ++ s.waiting subId).map (·.id)).Nodup

/-- Nobody misses events silently. -/
structure NeverMissesSilently (s : SseState) : Prop where
  /-- A stream that goes on is complete. -/
  complete : ∀ subId stream, s.streams subId = some stream → stream.ended = false →
    Complete s subId stream
  /-- The stream of a subscriber that was dropped is going to end. -/
  sentinel : ∀ subId stream, s.streams subId = some stream → stream.ended = false →
    subId ∉ s.broadcaster.queues → none ∈ (s.heap subId).items

/-- A publish finds room in the queue of every registered subscriber whose stream goes on. -/
def RoomForAll (s : SseState) : SseStep → Prop
  | .publish .. => ∀ subId ∈ s.broadcaster.queues, ∀ stream, s.streams subId = some stream →
      stream.ended = false → (s.heap subId).items.length < 256
  | _ => True

/-! ## The loop of `publish` -/

theorem offer_of_notMem (e : SseEvent) {subId : Uuid} {subIds : List Uuid} (h : subId ∉ subIds)
    (heap : Uuid → SseQueue) :
    (offer e subIds heap).1 subId = heap subId ∧ subId ∉ (offer e subIds heap).2 := by
  induction subIds generalizing heap with
  | nil => exact ⟨rfl, h⟩
  | cons subId' subIds ih =>
      rw [List.mem_cons, not_or] at h
      unfold offer
      split
      · rename_i queue hput
        obtain ⟨hheap, hdead⟩ := ih h.2 (Function.update heap subId' queue)
        exact ⟨by rw [hheap, Function.update_of_ne h.1], hdead⟩
      · obtain ⟨hheap, hdead⟩ := ih h.2 heap
        refine ⟨hheap, ?_⟩
        rw [List.mem_cons, not_or]
        exact ⟨h.1, hdead⟩

/-- What the loop does to a registered queue depends on that queue alone. -/
theorem offer_of_mem (e : SseEvent) {subId : Uuid} {subIds : List Uuid} (hnodup : subIds.Nodup)
    (h : subId ∈ subIds) (heap : Uuid → SseQueue) :
    (∃ queue, (heap subId).put? (some e) = some queue ∧ (offer e subIds heap).1 subId = queue ∧
        subId ∉ (offer e subIds heap).2) ∨
      ((heap subId).put? (some e) = none ∧ (offer e subIds heap).1 subId = heap subId ∧
        subId ∈ (offer e subIds heap).2) := by
  induction subIds generalizing heap with
  | nil => cases h
  | cons subId' subIds ih =>
      rw [List.nodup_cons] at hnodup
      unfold offer
      rcases List.mem_cons.1 h with rfl | hmem
      · split
        · rename_i queue hput
          obtain ⟨hheap, hdead⟩ := offer_of_notMem e hnodup.1 (Function.update heap subId queue)
          exact .inl ⟨queue, hput, by rw [hheap, Function.update_self], hdead⟩
        · rename_i hput
          obtain ⟨hheap, -⟩ := offer_of_notMem e hnodup.1 heap
          exact .inr ⟨hput, hheap, List.mem_cons_self ..⟩
      · have hne : subId ≠ subId' := fun heq => hnodup.1 (heq ▸ hmem)
        split
        · rename_i queue hput
          have hsame : Function.update heap subId' queue subId = heap subId :=
            Function.update_of_ne hne ..
          have hrec := ih hnodup.2 hmem (Function.update heap subId' queue)
          rw [hsame] at hrec
          exact hrec
        · rcases ih hnodup.2 hmem heap with ⟨queue, hput, hheap, hdead⟩ | ⟨hput, hheap, hdead⟩
          · refine .inl ⟨queue, hput, hheap, ?_⟩
            rw [List.mem_cons, not_or]
            exact ⟨hne, hdead⟩
          · exact .inr ⟨hput, hheap, List.mem_cons_of_mem _ hdead⟩

/-- What a publish does to one subscriber. -/
inductive Published (s s' : SseState) (e : SseEvent) (subId : Uuid) : Prop where
  /-- It is registered and its queue has room: the event comes last. -/
  | told (h : subId ∈ s.broadcaster.queues) (room : (s.heap subId).items.length < 256)
      (items : (s'.heap subId).items = (s.heap subId).items ++ [some e])
      (kept : subId ∈ s'.broadcaster.queues)
  /-- It is registered and its queue is full: it is forgotten. -/
  | dropped (h : subId ∈ s.broadcaster.queues) (full : 256 ≤ (s.heap subId).items.length)
      (same : s'.heap subId = s.heap subId) (gone : subId ∉ s'.broadcaster.queues)
  /-- It is not registered. -/
  | passed (h : subId ∉ s.broadcaster.queues) (same : s'.heap subId = s.heap subId)
      (gone : subId ∉ s'.broadcaster.queues)

theorem published_publish (s : SseState) (e : SseEvent) (hnodup : s.broadcaster.queues.Nodup)
    (subId : Uuid) : Published s (s.publish e) e subId := by
  have hkeys : ∀ subId, subId ∈ (s.publish e).broadcaster.queues ↔
      subId ∈ s.broadcaster.queues ∧ subId ∉ (offer e s.broadcaster.queues s.heap).2 := by
    intro subId
    simp [SseState.publish, SseBroadcaster.publish]
  by_cases hmem : subId ∈ s.broadcaster.queues
  · rcases offer_of_mem e hnodup hmem s.heap with
      ⟨queue, hput, hheap, hdead⟩ | ⟨hput, hheap, hdead⟩
    · have hqueue : (s.publish e).heap subId = queue := hheap
      refine .told hmem ?_ ?_ ((hkeys subId).2 ⟨hmem, hdead⟩)
      · by_contra hfull
        rw [BoundedQueue.put?_eq_none_iff.2 (Nat.le_of_not_lt hfull)] at hput
        cases hput
      · rw [hqueue, BoundedQueue.items_of_put? hput]
    · exact .dropped hmem (BoundedQueue.put?_eq_none_iff.1 hput) hheap
        fun hkept => ((hkeys subId).1 hkept).2 hdead
  · exact .passed hmem (offer_of_notMem e hmem s.heap).1 fun hkept => hmem ((hkeys subId).1 hkept).1

/-! ## What a step does -/

/-- The stream of one subscriber goes on or ends; nothing else happens. -/
structure Touched (s s' : SseState) (subId : Uuid) (stream stream' : Stream) : Prop where
  before : s.streams subId = some stream
  live : stream.ended = false
  after : s'.streams = Function.update s.streams subId (some stream')
  historyAt : stream'.historyAt = stream.historyAt
  publishedAt : stream'.publishedAt = stream.publishedAt
  /-- What is read leaves the queue. -/
  told : stream'.ended = false →
    stream'.read ++ s'.waiting subId = stream.read ++ s.waiting subId
  items : (s'.heap subId).items <:+ (s.heap subId).items
  others : ∀ other, other ≠ subId → s'.heap other = s.heap other
  /-- Only a stream that ends is unsubscribed. -/
  queues : s'.broadcaster.queues = s.broadcaster.queues ∨
    stream'.ended = true ∧
      s'.broadcaster.queues = s.broadcaster.queues.filter (· ≠ subId)
  history : s'.broadcaster.history = s.broadcaster.history
  drawn : s'.drawn = s.drawn
  published : s'.published = s.published

theorem touched_emit {s : SseState} {subId : Uuid} {stream : Stream} {chunk : Chunk}
    (hstream : s.streams subId = some stream) (hlive : stream.ended = false)
    (hchunk : chunk.event? = none) :
    Touched s (s.setStream subId (stream.emit chunk)) subId stream (stream.emit chunk) where
  before := hstream
  live := hlive
  after := rfl
  historyAt := rfl
  publishedAt := rfl
  told _ := by
    have hread : (stream.emit chunk).read = stream.read := by
      simp [Stream.read, Stream.emit, hchunk]
    rw [hread]
    rfl
  items := List.suffix_refl _
  others _ _ := rfl
  queues := .inl rfl
  history := rfl
  drawn := rfl
  published := rfl

theorem touched_read {s : SseState} {subId : Uuid} {stream : Stream} {e : SseEvent}
    {queue : SseQueue} (hstream : s.streams subId = some stream) (hlive : stream.ended = false)
    (hget : (s.heap subId).get? = some (some e, queue)) :
    Touched s { s.setStream subId (stream.emit (.event e)) with
      heap := Function.update s.heap subId queue } subId stream (stream.emit (.event e)) where
  before := hstream
  live := hlive
  after := rfl
  historyAt := rfl
  publishedAt := rfl
  told _ := by
    simp [Stream.read, Stream.emit, Chunk.event?, SseState.waiting,
      BoundedQueue.items_of_get? hget]
  items := by
    simp only [Function.update_self, BoundedQueue.items_of_get? hget]
    exact List.suffix_cons _ _
  others _ hne := Function.update_of_ne hne ..
  queues := .inl rfl
  history := rfl
  drawn := rfl
  published := rfl

theorem touched_end {s : SseState} {subId : Uuid} {stream : Stream} {queue : SseQueue}
    (hstream : s.streams subId = some stream) (hlive : stream.ended = false)
    (hitems : queue.items <:+ (s.heap subId).items) :
    Touched s { s.endStream subId stream with heap := Function.update s.heap subId queue }
      subId stream stream.finish where
  before := hstream
  live := hlive
  after := rfl
  historyAt := rfl
  publishedAt := rfl
  told hend := by cases hend
  items := by
    simp only [Function.update_self]
    exact hitems
  others _ hne := Function.update_of_ne hne ..
  queues := .inr ⟨rfl, rfl⟩
  history := rfl
  drawn := rfl
  published := rfl

theorem touched_finish {s : SseState} {subId : Uuid} {stream : Stream}
    (hstream : s.streams subId = some stream) (hlive : stream.ended = false) :
    Touched s (s.setStream subId stream.finish) subId stream stream.finish where
  before := hstream
  live := hlive
  after := rfl
  historyAt := rfl
  publishedAt := rfl
  told hend := by cases hend
  items := List.suffix_refl _
  others _ _ := rfl
  queues := .inl rfl
  history := rfl
  drawn := rfl
  published := rfl

/-- **The steps.**  Somebody subscribes, an event is published, or one stream goes on. -/
theorem sseStep_cases {s s' : SseState} {step : SseStep} (h : sseStep s step = some s') :
    s' = s.subscribe ∧ step = .subscribe ∨
      (∃ event data timestamp, step = .publish event data timestamp ∧
        s' = s.publish ⟨event, data, s.drawn, timestamp⟩) ∨
      ∃ subId stream stream', Touched s s' subId stream stream' ∧
        ∀ event data timestamp, step ≠ .publish event data timestamp := by
  cases step with
  | subscribe =>
      cases h
      exact .inl ⟨rfl, rfl⟩
  | publish event data timestamp =>
      cases h
      exact .inr (.inl ⟨event, data, timestamp, rfl, rfl⟩)
  | next subId =>
      right; right
      simp only [sseStep] at h
      split at h
      · cases h
      rename_i stream hstream
      split at h
      · cases h
      rename_i hlive
      have hlive : stream.ended = false := by simpa using hlive
      split at h
      · cases h
        exact ⟨subId, stream, _, touched_emit hstream hlive rfl, nofun⟩
      split at h
      · cases h
      · rename_i e queue hget
        cases h
        exact ⟨subId, stream, _, touched_read hstream hlive hget, nofun⟩
      · rename_i queue hget
        cases h
        refine ⟨subId, stream, _, touched_end hstream hlive ?_, nofun⟩
        rw [BoundedQueue.items_of_get? hget]
        exact List.suffix_cons _ _
  | keepalive subId =>
      right; right
      simp only [sseStep] at h
      split at h
      · cases h
      rename_i stream hstream
      split at h
      · cases h
      rename_i hidle
      have hlive : stream.ended = false := by
        rw [not_or] at hidle
        simpa using hidle.1
      cases h
      exact ⟨subId, stream, _, touched_emit hstream hlive rfl, nofun⟩
  | close subId =>
      right; right
      simp only [sseStep] at h
      split at h
      · cases h
      rename_i stream hstream
      split at h
      · cases h
      rename_i hlive
      have hlive : stream.ended = false := by simpa using hlive
      split at h
      · cases h
        exact ⟨subId, stream, _, touched_finish hstream hlive, nofun⟩
      · cases h
        have htouched := touched_end hstream hlive (List.suffix_refl (s.heap subId).items)
        rw [Function.update_eq_self] at htouched
        exact ⟨subId, stream, _, htouched, nofun⟩

/-! ## The invariants -/

/-- What holds in every reachable state. -/
structure SseInv (s : SseState) : Prop where
  keys : s.broadcaster.queues.Nodup
  subscribed : ∀ subId ∈ s.broadcaster.queues, ∃ stream, s.streams subId = some stream
  drawnStream : ∀ subId stream, s.streams subId = some stream → subId < s.drawn
  drawnEvent : ∀ e ∈ s.published, e.id < s.drawn
  ids : (s.published.map (·.id)).Nodup
  /-- The history is the end of what was published. -/
  history : s.broadcaster.history = s.published.rtake maxHistory
  historyAt : ∀ subId stream, s.streams subId = some stream →
    stream.historyAt = (s.published.take stream.publishedAt).rtake maxHistory
  publishedAt : ∀ subId stream, s.streams subId = some stream →
    stream.publishedAt ≤ s.published.length
  /-- Nothing puts the sentinel. -/
  noSentinel : ∀ subId stream, s.streams subId = some stream → none ∉ (s.heap subId).items

theorem rtake_rtake (l : List SseEvent) {m n : Nat} (h : m ≤ n) :
    (l.rtake n).rtake m = l.rtake m := by
  rw [List.rtake_eq_reverse_take_reverse, List.rtake_eq_reverse_take_reverse,
    List.rtake_eq_reverse_take_reverse, List.reverse_reverse, List.take_take,
    Nat.min_eq_left h]

theorem rtake_concat_rtake (l : List SseEvent) (e : SseEvent) (n : Nat) :
    ((l.rtake n) ++ [e]).rtake n = (l ++ [e]).rtake n := by
  cases n with
  | zero => rw [List.rtake_zero, List.rtake_zero]
  | succ n =>
      rw [List.rtake_concat_succ, List.rtake_concat_succ, rtake_rtake l (Nat.le_succ n)]

theorem remember_eq (l : List SseEvent) (e : SseEvent) :
    remember (l.rtake maxHistory) e = (l ++ [e]).rtake maxHistory := by
  unfold remember
  split
  · exact rtake_concat_rtake l e maxHistory
  · rename_i hshort
    rw [← rtake_concat_rtake l e maxHistory]
    have hzero : (l.rtake maxHistory ++ [e]).length - maxHistory = 0 := by omega
    rw [List.rtake.eq_1 (l.rtake maxHistory ++ [e]), hzero, List.drop_zero]

theorem sseInv_init {s : SseState} (h : sseSystem.init s) : SseInv s := by
  cases h
  exact ⟨List.nodup_nil, nofun, nofun, nofun, List.nodup_nil, rfl, nofun, nofun, nofun⟩

/-- The queue of a new subscriber holds the end of the history. -/
theorem subscribe_heap (s : SseState) :
    (s.subscribe.heap s.drawn).items = (s.broadcaster.history.rtake replayWindow).map some := by
  have hshort : (s.broadcaster.history.rtake replayWindow).length ≤ replayWindow := by
    rw [List.rtake, List.length_drop]
    omega
  have hfits : ((s.broadcaster.history.rtake replayWindow).map some).length ≤ 256 := by
    rw [List.length_map]
    exact hshort.trans (by decide)
  have hroom : (BoundedQueue.empty : SseQueue).items.length +
      ((s.broadcaster.history.rtake replayWindow).map some).length ≤ 256 := by
    simpa [BoundedQueue.empty] using hfits
  have hitems := BoundedQueue.items_putWhileRoom hroom
  simpa [SseState.subscribe, SseBroadcaster.subscribe, BoundedQueue.empty] using hitems

theorem subscribe_streams_of_ne (s : SseState) {subId : Uuid} (h : subId ≠ s.drawn) :
    s.subscribe.streams subId = s.streams subId :=
  Function.update_of_ne h ..

theorem subscribe_heap_of_ne (s : SseState) {subId : Uuid} (h : subId ≠ s.drawn) :
    s.subscribe.heap subId = s.heap subId :=
  Function.update_of_ne h ..

theorem subscribe_streams_self (s : SseState) :
    s.subscribe.streams s.drawn =
      some ⟨[], false, s.broadcaster.history, s.published.length⟩ :=
  Function.update_self ..

theorem SseInv.subscribe {s : SseState} (h : SseInv s) : SseInv s.subscribe where
  keys := by
    refine List.nodup_append.2 ⟨h.keys, List.nodup_singleton _, ?_⟩
    rintro subId hmem _ hnew rfl
    obtain ⟨stream, hstream⟩ := h.subscribed subId hmem
    rw [List.mem_singleton] at hnew
    exact absurd (h.drawnStream subId stream hstream) (hnew ▸ Nat.lt_irrefl _)
  subscribed subId hmem := by
    rcases List.mem_append.1 hmem with hmem | hmem
    · obtain ⟨stream, hstream⟩ := h.subscribed subId hmem
      have hne : subId ≠ s.drawn := Nat.ne_of_lt (h.drawnStream subId stream hstream)
      exact ⟨stream, by rw [subscribe_streams_of_ne s hne, hstream]⟩
    · rw [List.mem_singleton.1 hmem]
      exact ⟨_, subscribe_streams_self s⟩
  drawnStream subId stream hstream := by
    by_cases hne : subId = s.drawn
    · rw [hne]
      exact Nat.lt_succ_self _
    · rw [subscribe_streams_of_ne s hne] at hstream
      exact Nat.lt_succ_of_lt (h.drawnStream subId stream hstream)
  drawnEvent e he := Nat.lt_succ_of_lt (h.drawnEvent e he)
  ids := h.ids
  history := h.history
  historyAt subId stream hstream := by
    by_cases hne : subId = s.drawn
    · rw [hne, subscribe_streams_self] at hstream
      cases hstream
      simp only
      rw [h.history]
      exact congrArg (List.rtake · maxHistory) (List.take_length ..).symm
    · rw [subscribe_streams_of_ne s hne] at hstream
      exact h.historyAt subId stream hstream
  publishedAt subId stream hstream := by
    by_cases hne : subId = s.drawn
    · rw [hne, subscribe_streams_self] at hstream
      cases hstream
      exact Nat.le_refl _
    · rw [subscribe_streams_of_ne s hne] at hstream
      exact h.publishedAt subId stream hstream
  noSentinel subId stream hstream := by
    by_cases hne : subId = s.drawn
    · rw [hne, subscribe_heap]
      simp
    · rw [subscribe_streams_of_ne s hne] at hstream
      rw [subscribe_heap_of_ne s hne]
      exact h.noSentinel subId stream hstream

theorem SseInv.publish {s : SseState} (h : SseInv s) (event : String) (data : Json.Fields)
    (timestamp : String) : SseInv (s.publish ⟨event, data, s.drawn, timestamp⟩) where
  keys := h.keys.filter _
  subscribed subId hmem := h.subscribed subId (List.mem_of_mem_filter hmem)
  drawnStream subId stream hstream := Nat.lt_succ_of_lt (h.drawnStream subId stream hstream)
  drawnEvent e he := by
    rcases List.mem_append.1 he with he | he
    · exact Nat.lt_succ_of_lt (h.drawnEvent e he)
    · rw [List.mem_singleton.1 he]
      exact Nat.lt_succ_self _
  ids := by
    simp only [SseState.publish, List.map_append, List.map_cons, List.map_nil]
    refine List.nodup_append.2 ⟨h.ids, List.nodup_singleton _, ?_⟩
    rintro n hn _ hnew rfl
    obtain ⟨e, he, rfl⟩ := List.mem_map.1 hn
    rw [List.mem_singleton] at hnew
    exact absurd (h.drawnEvent e he) (hnew ▸ Nat.lt_irrefl _)
  history := by
    simp only [SseState.publish, SseBroadcaster.publish]
    rw [h.history, remember_eq]
  historyAt subId stream hstream := by
    simp only [SseState.publish]
    rw [List.take_append_of_le_length (h.publishedAt subId stream hstream)]
    exact h.historyAt subId stream hstream
  publishedAt subId stream hstream := by
    simp only [SseState.publish, List.length_append]
    exact Nat.le_add_right_of_le (h.publishedAt subId stream hstream)
  noSentinel subId stream hstream := by
    have hbefore := h.noSentinel subId stream hstream
    cases published_publish s ⟨event, data, s.drawn, timestamp⟩ h.keys subId with
    | told _ _ items _ =>
        rw [items]
        simp [hbefore]
    | dropped _ _ same _ => rw [same]; exact hbefore
    | passed _ same _ => rw [same]; exact hbefore

theorem Touched.queues_sublist {s s' : SseState} {subId : Uuid} {stream stream' : Stream}
    (t : Touched s s' subId stream stream') :
    s'.broadcaster.queues.Sublist s.broadcaster.queues := by
  rcases t.queues with hqueues | ⟨-, hqueues⟩
  · rw [hqueues]
  · rw [hqueues]
    exact List.filter_sublist

/-- A stream after the step was there before, with the same beginning. -/
theorem Touched.stream_before {s s' : SseState} {subId other : Uuid}
    {stream stream' stream'' : Stream} (t : Touched s s' subId stream stream')
    (h : s'.streams other = some stream'') :
    ∃ old, s.streams other = some old ∧ stream''.historyAt = old.historyAt ∧
      stream''.publishedAt = old.publishedAt := by
  rw [t.after] at h
  by_cases hne : other = subId
  · rw [hne, Function.update_self] at h
    cases h
    exact ⟨stream, hne ▸ t.before, t.historyAt, t.publishedAt⟩
  · rw [Function.update_of_ne hne] at h
    exact ⟨stream'', h, rfl, rfl⟩

theorem SseInv.touched {s s' : SseState} {subId : Uuid} {stream stream' : Stream}
    (h : SseInv s) (t : Touched s s' subId stream stream') : SseInv s' where
  keys := h.keys.sublist t.queues_sublist
  subscribed other hmem := by
    obtain ⟨old, hold⟩ := h.subscribed other (t.queues_sublist.subset hmem)
    rw [t.after]
    by_cases hne : other = subId
    · exact ⟨stream', by rw [hne, Function.update_self]⟩
    · exact ⟨old, by rw [Function.update_of_ne hne, hold]⟩
  drawnStream other stream'' hstream := by
    obtain ⟨old, hold, -, -⟩ := t.stream_before hstream
    rw [t.drawn]
    exact h.drawnStream other old hold
  drawnEvent e he := by
    rw [t.published] at he
    rw [t.drawn]
    exact h.drawnEvent e he
  ids := by
    rw [t.published]
    exact h.ids
  history := by
    rw [t.history, t.published]
    exact h.history
  historyAt other stream'' hstream := by
    obtain ⟨old, hold, hhistory, hpublished⟩ := t.stream_before hstream
    rw [hhistory, hpublished, t.published]
    exact h.historyAt other old hold
  publishedAt other stream'' hstream := by
    obtain ⟨old, hold, -, hpublished⟩ := t.stream_before hstream
    rw [hpublished, t.published]
    exact h.publishedAt other old hold
  noSentinel other stream'' hstream := by
    obtain ⟨old, hold, -, -⟩ := t.stream_before hstream
    have hbefore := h.noSentinel other old hold
    by_cases hne : other = subId
    · rw [hne] at hbefore ⊢
      exact fun hmem => hbefore (t.items.subset hmem)
    · rw [t.others other hne]
      exact hbefore

theorem SseInv.step {s s' : SseState} {step : SseStep} (h : SseInv s)
    (hstep : sseStep s step = some s') : SseInv s' := by
  rcases sseStep_cases hstep with ⟨rfl, -⟩ | ⟨event, data, timestamp, -, rfl⟩ |
    ⟨subId, stream, stream', t, -⟩
  · exact h.subscribe
  · exact h.publish event data timestamp
  · exact h.touched t

theorem sseInv_of_reachable {s : SseState} (h : sseSystem.Reachable s) : SseInv s :=
  h.invariant (fun _ => sseInv_init) fun _ _ _ hinv _ hstep => hinv.step hstep

/-! ## Streams without drops -/

/-- Each stream that goes on is registered and has its events. -/
def Followed (s : SseState) : Prop :=
  ∀ subId stream, s.streams subId = some stream → stream.ended = false →
    subId ∈ s.broadcaster.queues ∧
      stream.read ++ s.waiting subId =
        stream.historyAt.rtake replayWindow ++ s.published.drop stream.publishedAt

theorem Followed.subscribe {s : SseState} (h : Followed s) : Followed s.subscribe := by
  intro subId stream hstream hlive
  by_cases hne : subId = s.drawn
  · rw [hne, subscribe_streams_self] at hstream
    cases hstream
    refine ⟨by simp [SseState.subscribe, SseBroadcaster.subscribe, hne], ?_⟩
    have hwaiting : s.subscribe.waiting s.drawn = s.broadcaster.history.rtake replayWindow := by
      rw [SseState.waiting, subscribe_heap]
      simp
    rw [hne, hwaiting]
    simp [Stream.read, SseState.subscribe, SseState.setStream]
  · rw [subscribe_streams_of_ne s hne] at hstream
    obtain ⟨hmem, hall⟩ := h subId stream hstream hlive
    refine ⟨List.mem_append_left _ hmem, ?_⟩
    rw [SseState.waiting, subscribe_heap_of_ne s hne]
    exact hall

theorem Followed.publish {s : SseState} (h : Followed s) (hinv : SseInv s) (e : SseEvent)
    (hroom : ∀ subId ∈ s.broadcaster.queues, ∀ stream, s.streams subId = some stream →
      stream.ended = false → (s.heap subId).items.length < 256) :
    Followed (s.publish e) := by
  intro subId stream hstream hlive
  obtain ⟨hmem, hall⟩ := h subId stream hstream hlive
  cases published_publish s e hinv.keys subId with
  | told _ _ items kept =>
      refine ⟨kept, ?_⟩
      have hwaiting : (s.publish e).waiting subId = s.waiting subId ++ [e] := by
        rw [SseState.waiting, SseState.waiting, items, List.filterMap_append]
        rfl
      rw [hwaiting, ← List.append_assoc, hall, List.append_assoc]
      simp only [SseState.publish]
      rw [List.drop_append_of_le_length (hinv.publishedAt subId stream hstream)]
  | dropped _ full _ _ => exact absurd (hroom subId hmem stream hstream hlive) (Nat.not_lt.2 full)
  | passed hnot _ _ => exact absurd hmem hnot

theorem Followed.touched {s s' : SseState} {subId : Uuid} {stream stream' : Stream}
    (h : Followed s) (t : Touched s s' subId stream stream') : Followed s' := by
  intro other stream'' hstream hlive
  rw [t.after] at hstream
  by_cases hne : other = subId
  · rw [hne, Function.update_self] at hstream
    cases hstream
    obtain ⟨hmem, hall⟩ := h subId stream t.before t.live
    rcases t.queues with hqueues | ⟨hended, -⟩
    · rw [hne, hqueues, t.told hlive, hall, t.historyAt, t.publishedAt, t.published]
      exact ⟨hmem, rfl⟩
    · rw [hlive] at hended
      cases hended
  · rw [Function.update_of_ne hne] at hstream
    obtain ⟨hmem, hall⟩ := h other stream'' hstream hlive
    refine ⟨?_, ?_⟩
    · rcases t.queues with hqueues | ⟨-, hqueues⟩
      · rw [hqueues]
        exact hmem
      · rw [hqueues]
        exact List.mem_filter.2 ⟨hmem, by simpa using hne⟩
    · rw [SseState.waiting, t.others other hne, t.published]
      exact hall

theorem followed_of_reach {s : SseState} (h : sseSystem.Reach RoomForAll s) : Followed s := by
  induction h with
  | start hinit =>
      cases hinit
      exact nofun
  | next hreach hroom hstep ih =>
      have hinv := sseInv_of_reachable hreach.reachable
      rcases sseStep_cases hstep with ⟨rfl, -⟩ | ⟨event, data, timestamp, rfl, rfl⟩ |
        ⟨subId, stream, stream', t, -⟩
      · exact ih.subscribe
      · exact ih.publish hinv _ hroom
      · exact ih.touched t

/-- What a stream is told is the end of everything that was published. -/
theorem told_suffix {s : SseState} (h : SseInv s) {subId : Uuid} {stream : Stream}
    (hstream : s.streams subId = some stream) :
    stream.historyAt.rtake replayWindow ++ s.published.drop stream.publishedAt <:+
      s.published := by
  rw [h.historyAt subId stream hstream, rtake_rtake _ (by decide)]
  obtain ⟨front, hfront⟩ : (s.published.take stream.publishedAt).rtake replayWindow <:+
      s.published.take stream.publishedAt := List.drop_suffix ..
  refine ⟨front, ?_⟩
  rw [← List.append_assoc, hfront, List.take_append_drop]

theorem neverMissesSilently_of_followed {s : SseState} (hinv : SseInv s) (h : Followed s) :
    NeverMissesSilently s where
  complete subId stream hstream hlive := by
    obtain ⟨-, hall⟩ := h subId stream hstream hlive
    refine ⟨hall, ?_⟩
    rw [hall]
    exact hinv.ids.sublist ((told_suffix hinv hstream).sublist.map _)
  sentinel subId stream hstream hlive hnot :=
    absurd (h subId stream hstream hlive).1 hnot

/-- **A drop is silent.**  A subscriber whose queue is full when an event is published is
not registered any more, and its stream goes on without a sentinel to end it. -/
theorem dropped_silently {s : SseState} (h : SseInv s) (e : SseEvent) {subId : Uuid}
    {stream : Stream} (hmem : subId ∈ s.broadcaster.queues)
    (hstream : s.streams subId = some stream) (hfull : 256 ≤ (s.heap subId).items.length) :
    (s.publish e).streams subId = some stream ∧ subId ∉ (s.publish e).broadcaster.queues ∧
      none ∉ ((s.publish e).heap subId).items := by
  cases published_publish s e h.keys subId with
  | told _ room _ _ => exact absurd hfull (Nat.not_le.2 room)
  | dropped _ _ same gone =>
      refine ⟨hstream, gone, ?_⟩
      rw [same]
      exact h.noSentinel subId stream hstream
  | passed hnot _ _ => exact absurd hmem hnot

/-- **Nobody misses events silently as long as nobody is dropped.**  In every run in which a
publish always finds room in the queues of the streams that go on, each of these streams
has the end of its history and all events since; the first publish that does not find room
breaks this. -/
theorem sse_never_misses_while_room (s : SseState) :
    (sseSystem.Reach RoomForAll s → NeverMissesSilently s) ∧
      ∀ step s', sseSystem.Reachable s → sseSystem.step s step = some s' →
        ¬ RoomForAll s step → ¬ NeverMissesSilently s' := by
  refine ⟨fun h => ?_, fun step s' hreach hstep hroom h => ?_⟩
  · exact neverMissesSilently_of_followed (sseInv_of_reachable h.reachable) (followed_of_reach h)
  · rcases sseStep_cases hstep with ⟨-, rfl⟩ | ⟨event, data, timestamp, rfl, rfl⟩ |
      ⟨_, _, _, -, hother⟩
    · exact hroom trivial
    · simp only [RoomForAll, not_forall, Nat.not_lt] at hroom
      obtain ⟨subId, hmem, stream, hstream, hlive, hfull⟩ := hroom
      obtain ⟨hafter, hgone, hnone⟩ := dropped_silently (sseInv_of_reachable hreach)
        ⟨event, data, s.drawn, timestamp⟩ hmem hstream hfull
      exact hnone (h.sentinel subId stream hafter hlive hgone)
    · cases step with
      | publish event data timestamp => exact hother event data timestamp rfl
      | subscribe => exact hroom trivial
      | next subId => exact hroom trivial
      | keepalive subId => exact hroom trivial
      | close subId => exact hroom trivial

/-- The state before anybody came. -/
def sseStart : SseState := ⟨.empty, fun _ => .empty, fun _ => none, 0, []⟩

/-- A subscriber, an event, and the first two chunks of the stream. -/
theorem sse_never_misses_one_event :
    ∃ s, sseSystem.exec sseStart
        [.subscribe, .publish "script.scheduled" [] "t", .next 0, .next 0] = some s ∧
      NeverMissesSilently s := by
  refine ⟨_, rfl, (sse_never_misses_while_room _).1 ?_⟩
  have hroom : RoomForAll sseStart.subscribe (.publish "script.scheduled" [] "t") := by
    intro subId hmem _ _ _
    cases List.mem_singleton.1 hmem
    exact (show 0 < 256 by decide)
  have hstart : sseSystem.Reach RoomForAll sseStart := .start rfl
  have hcame : sseSystem.Reach RoomForAll sseStart.subscribe :=
    .next hstart (e := .subscribe) trivial rfl
  have htold := System.Reach.next hcame hroom rfl
  exact .next (.next htold (e := .next 0) trivial rfl) (e := .next 0) trivial rfl

/-- Publishes that nobody reads fill a queue. -/
theorem unread_exec {s : SseState} (h : sseSystem.Reachable s) (subId : Uuid) {stream : Stream}
    (hmem : subId ∈ s.broadcaster.queues) (hstream : s.streams subId = some stream) (n : Nat)
    (hfits : (s.heap subId).items.length + n ≤ 256) :
    ∃ s', sseSystem.Reachable s' ∧ subId ∈ s'.broadcaster.queues ∧
      s'.streams subId = some stream ∧
      (s'.heap subId).items.length = (s.heap subId).items.length + n := by
  induction n with
  | zero => exact ⟨s, h, hmem, hstream, rfl⟩
  | succ n ih =>
      obtain ⟨t, hreach, hin, ht, hlength⟩ := ih (by omega)
      refine ⟨t.publish ⟨"e", [], t.drawn, "t"⟩,
        hreach.next (e := .publish "e" [] "t") trivial rfl, ?_⟩
      cases published_publish t ⟨"e", [], t.drawn, "t"⟩ (sseInv_of_reachable hreach).keys subId with
      | told _ _ items kept =>
          refine ⟨kept, ht, ?_⟩
          rw [items, List.length_append, hlength]
          rfl
      | dropped _ full _ _ => omega
      | passed hnot _ _ => exact absurd hin hnot

/-- A subscriber that reads nothing while 257 events are published is left alone. -/
theorem not_alwaysNeverMissesSilently :
    ¬ ∀ s, sseSystem.Reachable s → NeverMissesSilently s := by
  intro h
  have hcame : sseSystem.Reachable sseStart.subscribe :=
    .next (.start rfl) (e := .subscribe) trivial rfl
  obtain ⟨s, hreach, hmem, hstream, hlength⟩ := unread_exec hcame 0
    (List.mem_singleton.2 rfl) (subscribe_streams_self sseStart) 256 (Nat.le_refl 256)
  have hfull : (s.heap 0).items.length = 256 := hlength
  obtain ⟨hafter, hgone, hnone⟩ := dropped_silently (sseInv_of_reachable hreach)
    ⟨"e", [], s.drawn, "t"⟩ hmem hstream hfull.ge
  have hnext := h _ (hreach.next (e := .publish "e" [] "t") trivial rfl)
  exact hnone (hnext.sentinel 0 _ hafter rfl hgone)

end Events
end NodeNexus
