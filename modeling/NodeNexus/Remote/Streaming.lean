import NodeNexus.Lib.BoundedQueue
import NodeNexus.Lib.Transition
import Mathlib.Logic.Function.Basic

/-!
# Streamed output of a remote command

`execute_command_streaming_events` runs two pumps, one for each stream of the remote
process, and a waiter for its exit.  All of them put events into one bounded queue;
the consumer takes events out until it gets an exit.

* `streamSystem` — the tasks, interleaved in any order.
* `Delivered` — the consumer has got every chunk, and then the exit.
* `DrainedFirst` — the exit is put into the queue after the last chunk.
* `delivers_all` — under that condition a run ends, and everything was delivered.
* `not_alwaysDelivered` — an exit that overtakes a chunk ends the stream without it.
-/

namespace NodeNexus
namespace Remote

/-! ## Events -/

/-- The streams of a remote process. -/
inductive StreamName where
  | stdout
  | stderr
  deriving DecidableEq

/-- `RemoteStreamEventDTO`. -/
inductive StreamEvent where
  | chunk (stream : StreamName) (data : String)
  | exit (code : Int)
  deriving DecidableEq

/-- The chunk of a stream that an event carries. -/
def StreamEvent.data (n : StreamName) : StreamEvent → Option String
  | .chunk stream data => if stream = n then some data else none
  | .exit _ => none

/-- Is the event an exit? -/
def StreamEvent.isExit : StreamEvent → Bool
  | .chunk .. => false
  | .exit _ => true

/-- The chunks of a stream among some events. -/
def chunksOf (n : StreamName) (events : List StreamEvent) : List String :=
  events.filterMap (StreamEvent.data n)

/-- `_STREAM_QUEUE_SIZE`. -/
def streamQueueSize : Nat := 128

/-- `_exit_status`. -/
def exitStatus (status : Option Int) : Int := status.getD 255

/-! ## Tasks -/

/-- A stream and its pump. -/
structure Pump where
  /-- What the remote process has yet to send. -/
  incoming : List String
  /-- What has arrived and was not read. -/
  buffered : List String
  /-- The chunk that the pump is about to put. -/
  held : Option String
  /-- The task has ended: the stream was read to its end, or the task was cancelled. -/
  finished : Bool

/-- The chunks that the pump has not put. -/
def Pump.rest (p : Pump) : List String := p.held.toList ++ p.buffered ++ p.incoming

/-- `wait_for_exit`. -/
inductive Waiter where
  /-- In `process.wait`. -/
  | waiting
  /-- In `queue.put`. -/
  | putting
  | done
  deriving DecidableEq

/-- The tasks, the queue between them, and the consumer. -/
structure StreamState where
  pumps : StreamName → Pump
  queue : BoundedQueue StreamEvent streamQueueSize
  waiter : Waiter
  /-- The process has ended, and all it sent has arrived. -/
  closed : Bool
  /-- What the consumer has got. -/
  received : List StreamEvent
  /-- The loop of the consumer goes on. -/
  consuming : Bool

/-- One step of one task. -/
inductive StreamStep where
  /-- A chunk arrives. -/
  | deliver (n : StreamName)
  /-- The process ends. -/
  | close
  /-- A pump reads a chunk, or finds the end of its stream. -/
  | read (n : StreamName)
  /-- A pump puts its chunk; it waits while the queue is full. -/
  | put (n : StreamName)
  /-- `process.wait` returns. -/
  | wait
  /-- The waiter puts the exit. -/
  | putExit
  /-- The consumer gets an event. -/
  | get
  deriving DecidableEq

/-- One pump is changed. -/
def StreamState.withPump (s : StreamState) (n : StreamName) (p : Pump) : StreamState :=
  { s with pumps := Function.update s.pumps n p }

/-- `task.cancel()`. -/
def Pump.cancel (p : Pump) : Pump := { p with held := none, finished := true }

/-- The consumer gets an event; an exit ends its loop, which cancels the pumps. -/
def StreamState.got (s : StreamState) (event : StreamEvent)
    (queue : BoundedQueue StreamEvent streamQueueSize) : StreamState :=
  if event.isExit then
    { s with
      pumps := fun n => (s.pumps n).cancel
      queue := queue
      received := s.received ++ [event]
      consuming := false }
  else { s with queue := queue, received := s.received ++ [event] }

/-- A pump reads its stream. -/
def Pump.read (p : Pump) : Option Pump :=
  if p.finished = true ∨ p.held.isSome = true then none
  else
    match p.buffered with
    | chunk :: chunks => some { p with buffered := chunks, held := some chunk }
    | [] => if p.incoming = [] then some { p with finished := true } else none

/-- One step. -/
def streamStep (code : Int) (s : StreamState) : StreamStep → Option StreamState
  | .deliver n =>
      match (s.pumps n).incoming with
      | [] => none
      | chunk :: chunks => some (s.withPump n
          { s.pumps n with incoming := chunks, buffered := (s.pumps n).buffered ++ [chunk] })
  | .close =>
      if s.closed = false ∧ (s.pumps .stdout).incoming = [] ∧ (s.pumps .stderr).incoming = [] then
        some { s with closed := true }
      else none
  | .read n => (s.pumps n).read.map (s.withPump n)
  | .put n =>
      match (s.pumps n).held with
      | none => none
      | some chunk => (s.queue.put? (.chunk n chunk)).map fun queue =>
          { s.withPump n { s.pumps n with held := none } with queue := queue }
  | .wait =>
      if s.closed = true ∧ s.waiter = .waiting then some { s with waiter := .putting } else none
  | .putExit =>
      if s.waiter = .putting then
        (s.queue.put? (.exit code)).map fun queue => { s with queue := queue, waiter := .done }
      else none
  | .get =>
      if s.consuming then s.queue.get?.map fun (event, queue) => s.got event queue else none

/-- The start of `execute_command_streaming_events`. -/
def streamStart (chunks : StreamName → List String) : StreamState where
  pumps n := ⟨chunks n, [], none, false⟩
  queue := .empty
  waiter := .waiting
  closed := false
  received := []
  consuming := true

/-- The runs of a command that sends some chunks and ends with some status. -/
def streamSystem (chunks : StreamName → List String) (status : Option Int) :
    System StreamState StreamStep where
  init s := s = streamStart chunks
  step := streamStep (exitStatus status)

/-- The consumer has got all chunks of each stream in their order, then the exit. -/
def Delivered (chunks : StreamName → List String) (status : Option Int) (s : StreamState) : Prop :=
  ∃ events, s.received = events ++ [.exit (exitStatus status)] ∧
    (∀ e ∈ events, e.isExit = false) ∧ ∀ n, chunksOf n events = chunks n

/-- The exit is put when the pumps have put all chunks. -/
def DrainedFirst (s : StreamState) : StreamStep → Prop
  | .putExit => ∀ n, (s.pumps n).rest = []
  | _ => True

/-! ## One step -/

section Steps

variable {code : Int} {chunks : StreamName → List String} {status : Option Int}
  {s s' : StreamState}

/-- A step between the streams and their pumps, or of the waiter before the exit. -/
structure Inward (s s' : StreamState) : Prop where
  queue : s'.queue = s.queue
  received : s'.received = s.received
  consuming : s'.consuming = s.consuming
  rest : ∀ n, (s'.pumps n).rest = (s.pumps n).rest
  waiter : s'.waiter = s.waiter ∨ s.waiter = .waiting ∧ s'.waiter = .putting
  finished : ∀ n, (s'.pumps n).finished = true →
    (s.pumps n).finished = true ∨ (s'.pumps n).rest = []

/-- A pump that changes without losing or gaining a chunk. -/
theorem inward_withPump {n : StreamName} {p : Pump} (hrest : p.rest = (s.pumps n).rest)
    (hfinished : p.finished = true → (s.pumps n).finished = true ∨ p.rest = []) :
    Inward s (s.withPump n p) where
  queue := rfl
  received := rfl
  consuming := rfl
  rest m := by
    by_cases h : m = n
    · subst h
      simp only [StreamState.withPump, Function.update_self]
      exact hrest
    · simp only [StreamState.withPump, Function.update_of_ne h]
  waiter := .inl rfl
  finished m := by
    by_cases h : m = n
    · subst h
      simp only [StreamState.withPump, Function.update_self]
      exact hfinished
    · simp only [StreamState.withPump, Function.update_of_ne h]
      exact .inl

/-- Reading moves a chunk on, or finds the end. -/
theorem rest_of_read {p p' : Pump} (h : p.read = some p') :
    p'.rest = p.rest ∧ (p'.finished = true → p'.rest = []) := by
  unfold Pump.read at h
  split at h
  · cases h
  · rename_i hidle
    obtain ⟨hopen, hheld⟩ : ¬ p.finished = true ∧ p.held = none := by simpa using hidle
    split at h
    · rename_i chunk buffered hbuffered
      cases h
      refine ⟨?_, fun hfinished => absurd hfinished hopen⟩
      simp [Pump.rest, hbuffered, hheld]
    · rename_i hbuffered
      obtain ⟨hincoming, hp⟩ := Option.ite_none_right_eq_some.1 h
      cases hp
      exact ⟨rfl, fun _ => by simp [Pump.rest, hbuffered, hheld, hincoming]⟩

/-- **What one step does.** -/
theorem streamStep_cases {e : StreamStep} (h : streamStep code s e = some s') :
    Inward s s' ∨
      (∃ n chunk queue, (s.pumps n).held = some chunk ∧
        queue.items = s.queue.items ++ [.chunk n chunk] ∧
        s' = { s.withPump n { s.pumps n with held := none } with queue := queue }) ∨
      (∃ queue, e = .putExit ∧ s.waiter = .putting ∧
        queue.items = s.queue.items ++ [.exit code] ∧
        s' = { s with queue := queue, waiter := .done }) ∨
      ∃ event queue, s.consuming = true ∧ s.queue.items = event :: queue.items ∧
        s' = s.got event queue := by
  cases e with
  | deliver n =>
      left
      simp only [streamStep] at h
      split at h
      · cases h
      · rename_i chunk incoming hincoming
        cases h
        refine inward_withPump ?_ .inl
        simp [Pump.rest, hincoming]
  | close =>
      left
      obtain ⟨-, h⟩ := Option.ite_none_right_eq_some.1 h
      cases h
      exact ⟨rfl, rfl, rfl, fun _ => rfl, .inl rfl, fun _ => .inl⟩
  | read n =>
      left
      obtain ⟨p, hread, rfl⟩ := Option.map_eq_some_iff.1 h
      obtain ⟨hrest, hend⟩ := rest_of_read hread
      exact inward_withPump hrest fun hfinished => .inr (hend hfinished)
  | put n =>
      right
      left
      simp only [streamStep] at h
      split at h
      · cases h
      · rename_i chunk hheld
        obtain ⟨queue, hput, rfl⟩ := Option.map_eq_some_iff.1 h
        exact ⟨n, chunk, queue, hheld, BoundedQueue.items_of_put? hput, rfl⟩
  | wait =>
      left
      obtain ⟨⟨-, hwaiting⟩, h⟩ := Option.ite_none_right_eq_some.1 h
      cases h
      exact ⟨rfl, rfl, rfl, fun _ => rfl, .inr ⟨hwaiting, rfl⟩, fun _ => .inl⟩
  | putExit =>
      right
      right
      left
      obtain ⟨hputting, h⟩ := Option.ite_none_right_eq_some.1 h
      obtain ⟨queue, hput, rfl⟩ := Option.map_eq_some_iff.1 h
      exact ⟨queue, rfl, hputting, BoundedQueue.items_of_put? hput, rfl⟩
  | get =>
      right
      right
      right
      obtain ⟨hconsuming, h⟩ := Option.ite_none_right_eq_some.1 h
      obtain ⟨⟨event, queue⟩, hget, rfl⟩ := Option.map_eq_some_iff.1 h
      exact ⟨event, queue, hconsuming, BoundedQueue.items_of_get? hget, rfl⟩

end Steps

/-! ## Where the stream stands -/

section Runs

variable {chunks : StreamName → List String} {status : Option Int} {s s' : StreamState}

/-- No event is an exit. -/
def NoExit (events : List StreamEvent) : Prop := ∀ e ∈ events, e.isExit = false

/-- The three parts of a run in which the exit comes after the chunks. -/
inductive StreamPhase (chunks : StreamName → List String) (status : Option Int)
    (s : StreamState) : Prop
  /-- The exit was not put; every chunk is received, queued or still with its pump. -/
  | running : s.consuming = true → s.waiter ≠ .done → NoExit (s.received ++ s.queue.items) →
      (∀ n, chunksOf n (s.received ++ s.queue.items) ++ (s.pumps n).rest = chunks n) →
      StreamPhase chunks status s
  /-- The exit is the last event in the queue. -/
  | exiting (events : List StreamEvent) : s.consuming = true → s.waiter = .done →
      s.received ++ s.queue.items = events ++ [.exit (exitStatus status)] → NoExit events →
      NoExit s.received → (∀ n, chunksOf n events = chunks n) → (∀ n, (s.pumps n).rest = []) →
      StreamPhase chunks status s
  /-- The consumer has got the exit. -/
  | ended : s.consuming = false → s.waiter = .done → s.queue.items = [] →
      Delivered chunks status s → (∀ n, (s.pumps n).rest = []) → StreamPhase chunks status s

theorem chunksOf_append (n : StreamName) (xs ys : List StreamEvent) :
    chunksOf n (xs ++ ys) = chunksOf n xs ++ chunksOf n ys :=
  List.filterMap_append

theorem noExit_append {xs ys : List StreamEvent} (hx : NoExit xs) (hy : NoExit ys) :
    NoExit (xs ++ ys) := by
  intro e he
  obtain he | he := List.mem_append.1 he
  · exact hx e he
  · exact hy e he

/-- The pump of a chunk that is put loses it from its front. -/
theorem rest_of_held {p : Pump} {chunk : String} (h : p.held = some chunk) :
    p.rest = chunk :: ({ p with held := none } : Pump).rest := by
  simp [Pump.rest, h]

theorem phase_inward (hs : StreamPhase chunks status s) (h : Inward s s') :
    StreamPhase chunks status s' := by
  have hdone : s.waiter = .done → s'.waiter = .done := by
    intro hwaiter
    obtain hsame | ⟨hwaiting, -⟩ := h.waiter
    · exact hsame.trans hwaiter
    · rw [hwaiter] at hwaiting
      cases hwaiting
  cases hs with
  | running hconsuming hwaiter hexit hall =>
      refine .running (h.consuming.trans hconsuming) ?_ ?_ fun n => ?_
      · obtain hsame | ⟨-, hputting⟩ := h.waiter
        · rw [hsame]
          exact hwaiter
        · rw [hputting]
          decide
      · rw [h.received, h.queue]
        exact hexit
      · rw [h.received, h.queue, h.rest]
        exact hall n
  | exiting events hconsuming hwaiter hqueue hexit hreceived hall hrest =>
      refine .exiting events (h.consuming.trans hconsuming) (hdone hwaiter) ?_ hexit ?_ hall
        fun n => (h.rest n).trans (hrest n)
      · rw [h.received, h.queue]
        exact hqueue
      · rw [h.received]
        exact hreceived
  | ended hconsuming hwaiter hqueue hdelivered hrest =>
      refine .ended (h.consuming.trans hconsuming) (hdone hwaiter) ?_ ?_
        fun n => (h.rest n).trans (hrest n)
      · rw [h.queue]
        exact hqueue
      · unfold Delivered
        rw [h.received]
        exact hdelivered

theorem phase_put (hs : StreamPhase chunks status s) {n : StreamName} {chunk : String}
    {queue : BoundedQueue StreamEvent streamQueueSize} (hheld : (s.pumps n).held = some chunk)
    (hqueue : queue.items = s.queue.items ++ [.chunk n chunk]) :
    StreamPhase chunks status
      { s.withPump n { s.pumps n with held := none } with queue := queue } := by
  have hrest := rest_of_held hheld
  cases hs with
  | running hconsuming hwaiter hexit hall =>
      refine .running hconsuming hwaiter ?_ fun m => ?_
      · show NoExit (s.received ++ queue.items)
        rw [hqueue, ← List.append_assoc]
        refine noExit_append hexit fun e he => ?_
        rw [List.mem_singleton.1 he]
        rfl
      · show chunksOf m (s.received ++ queue.items) ++ (Function.update s.pumps n _ m).rest = _
        rw [hqueue, ← List.append_assoc, chunksOf_append, ← hall m, List.append_assoc]
        by_cases h : m = n
        · subst h
          rw [Function.update_self, hrest]
          simp [chunksOf, StreamEvent.data]
        · rw [Function.update_of_ne h]
          simp [chunksOf, StreamEvent.data, Ne.symm h]
  | exiting events _ _ _ _ _ _ hempty =>
      rw [hempty n] at hrest
      cases hrest
  | ended _ _ _ _ hempty =>
      rw [hempty n] at hrest
      cases hrest

theorem phase_putExit (hs : StreamPhase chunks status s)
    {queue : BoundedQueue StreamEvent streamQueueSize} (hputting : s.waiter = .putting)
    (hqueue : queue.items = s.queue.items ++ [.exit (exitStatus status)])
    (hdrained : ∀ n, (s.pumps n).rest = []) :
    StreamPhase chunks status { s with queue := queue, waiter := .done } := by
  cases hs with
  | running hconsuming hwaiter hexit hall =>
      refine .exiting (s.received ++ s.queue.items) hconsuming rfl ?_ hexit ?_ (fun n => ?_) hdrained
      · show s.received ++ queue.items = _
        rw [hqueue, List.append_assoc]
      · exact fun e he => hexit e (List.mem_append_left _ he)
      · rw [← hall n, hdrained n, List.append_nil]
  | exiting events _ hdone => exact absurd (hputting.symm.trans hdone) (by decide)
  | ended _ hdone => exact absurd (hputting.symm.trans hdone) (by decide)

theorem rest_cancel {p : Pump} (h : p.rest = []) : p.cancel.rest = [] := by
  obtain ⟨hheld, hbuffered, hincoming⟩ :
      p.held.toList = [] ∧ p.buffered = [] ∧ p.incoming = [] := by
    simpa [Pump.rest, and_assoc] using h
  simp [Pump.rest, Pump.cancel, hbuffered, hincoming]

theorem phase_get (hs : StreamPhase chunks status s) {event : StreamEvent}
    {queue : BoundedQueue StreamEvent streamQueueSize} (hconsuming : s.consuming = true)
    (hitems : s.queue.items = event :: queue.items) :
    StreamPhase chunks status (s.got event queue) := by
  have hmoved : (s.received ++ [event]) ++ queue.items = s.received ++ s.queue.items := by
    rw [hitems, List.append_assoc, List.singleton_append]
  cases hs with
  | running _ hwaiter hexit hall =>
      have hchunk : event.isExit = false := hexit event (by rw [hitems]; simp)
      unfold StreamState.got
      rw [if_neg (by rw [hchunk]; decide)]
      refine .running hconsuming hwaiter ?_ fun n => ?_
      · show NoExit ((s.received ++ [event]) ++ queue.items)
        rw [hmoved]
        exact hexit
      · show chunksOf n ((s.received ++ [event]) ++ queue.items) ++ _ = _
        rw [hmoved]
        exact hall n
  | exiting events _ hdone hqueue hexit hreceived hall hrest =>
      unfold StreamState.got
      rw [hitems] at hqueue
      obtain hempty | ⟨items, last, hlast⟩ := queue.items.eq_nil_or_concat
      · rw [hempty] at hqueue
        obtain ⟨hevents, hevent⟩ := List.append_inj' hqueue rfl
        cases hevent
        have hexits : (StreamEvent.exit (exitStatus status)).isExit = true := rfl
        rw [if_pos hexits]
        exact .ended rfl hdone hempty ⟨s.received, rfl, hreceived, hevents ▸ hall⟩
          fun n => rest_cancel (hrest n)
      · have hsplit : s.received ++ event :: items = events ∧
            [last] = [.exit (exitStatus status)] := by
          refine List.append_inj' ?_ rfl
          rw [← hqueue, hlast]
          simp
        have hchunk : event.isExit = false := hexit event (by rw [← hsplit.1]; simp)
        rw [if_neg (by rw [hchunk]; decide)]
        refine .exiting events hconsuming hdone ?_ hexit ?_ hall hrest
        · show (s.received ++ [event]) ++ queue.items = _
          rw [hmoved, hitems]
          exact hqueue
        · refine noExit_append hreceived fun e he => ?_
          rw [List.mem_singleton.1 he]
          exact hchunk
  | ended hstopped =>
      rw [hconsuming] at hstopped
      cases hstopped

/-- A pump that has ended has nothing left. -/
def PumpsDone (s : StreamState) : Prop :=
  s.consuming = true → ∀ n, (s.pumps n).finished = true → (s.pumps n).rest = []

/-- **One step** of a run that puts the exit last. -/
theorem phase_step {e : StreamStep} (hs : StreamPhase chunks status s) (he : DrainedFirst s e)
    (h : streamStep (exitStatus status) s e = some s') : StreamPhase chunks status s' := by
  obtain hinward | ⟨n, chunk, queue, hheld, hqueue, rfl⟩ | ⟨queue, rfl, hputting, hqueue, rfl⟩ |
    ⟨event, queue, hconsuming, hitems, rfl⟩ := streamStep_cases h
  · exact phase_inward hs hinward
  · exact phase_put hs hheld hqueue
  · exact phase_putExit hs hputting hqueue he
  · exact phase_get hs hconsuming hitems

theorem pumpsDone_step {e : StreamStep} (hs : PumpsDone s)
    (h : streamStep (exitStatus status) s e = some s') : PumpsDone s' := by
  intro hconsuming n hfinished
  obtain hinward | ⟨m, chunk, queue, hheld, -, rfl⟩ | ⟨queue, rfl, -, -, rfl⟩ |
    ⟨event, queue, hbefore, -, rfl⟩ := streamStep_cases h
  · obtain hbefore | hrest := hinward.finished n hfinished
    · rw [hinward.rest]
      exact hs (hinward.consuming ▸ hconsuming) n hbefore
    · exact hrest
  · by_cases hm : n = m
    · subst hm
      have hend : (s.pumps n).finished = true := by
        simpa [StreamState.withPump] using hfinished
      have hrest := hs hconsuming n hend
      rw [rest_of_held hheld] at hrest
      cases hrest
    · simp only [StreamState.withPump, Function.update_of_ne hm] at hfinished ⊢
      exact hs hconsuming n hfinished
  · exact hs hconsuming n hfinished
  · unfold StreamState.got at hconsuming hfinished ⊢
    split at hconsuming
    · cases hconsuming
    · rename_i hchunk
      rw [if_neg hchunk] at hfinished ⊢
      exact hs hbefore n hfinished

/-- While the consumer waits, some step is possible that puts the exit last. -/
theorem progress (hs : StreamPhase chunks status s) (hpumps : PumpsDone s)
    (hconsuming : s.consuming = true) :
    ∃ e s', DrainedFirst s e ∧ streamStep (exitStatus status) s e = some s' := by
  by_cases hqueue : s.queue.items = []
  swap
  · obtain ⟨event, queue, hget⟩ := BoundedQueue.get?_of_ne_empty hqueue
    refine ⟨.get, s.got event queue, trivial, ?_⟩
    simp only [streamStep, hconsuming, hget]
    rfl
  by_cases hrest : ∀ n, (s.pumps n).rest = []
  · have hincoming : ∀ n, (s.pumps n).incoming = [] := fun n =>
      (List.append_eq_nil_iff.1 (hrest n)).2
    cases hs with
    | running _ hwaiter _ _ =>
        cases hw : s.waiter with
        | waiting =>
            cases hclosed : s.closed with
            | false =>
                refine ⟨.close, { s with closed := true }, trivial, ?_⟩
                simp only [streamStep, hclosed, hincoming]
                rfl
            | true =>
                refine ⟨.wait, { s with waiter := .putting }, trivial, ?_⟩
                simp only [streamStep, hclosed, hw]
                rfl
        | putting =>
            obtain ⟨queue, hput⟩ := BoundedQueue.put?_of_empty hqueue (by decide)
              (StreamEvent.exit (exitStatus status))
            refine ⟨.putExit, { s with queue := queue, waiter := .done }, hrest, ?_⟩
            simp only [streamStep, hw, hput]
            rfl
        | done => exact absurd hw hwaiter
    | exiting events _ _ hlast _ hreceived =>
        rw [hqueue, List.append_nil] at hlast
        have hexit := hreceived (.exit (exitStatus status)) (by rw [hlast]; simp)
        cases hexit
    | ended hstopped =>
        rw [hconsuming] at hstopped
        cases hstopped
  · obtain ⟨n, hn⟩ := not_forall.1 hrest
    have hopen : (s.pumps n).finished = false := by
      cases hfinished : (s.pumps n).finished with
      | false => rfl
      | true => exact absurd (hpumps hconsuming n hfinished) hn
    cases hheld : (s.pumps n).held with
    | some chunk =>
        obtain ⟨queue, hput⟩ := BoundedQueue.put?_of_empty hqueue (by decide)
          (StreamEvent.chunk n chunk)
        refine ⟨.put n, { s.withPump n { s.pumps n with held := none } with queue := queue },
          trivial, ?_⟩
        simp only [streamStep, hheld, hput]
        rfl
    | none =>
        cases hbuffered : (s.pumps n).buffered with
        | cons chunk buffered =>
            refine ⟨.read n, s.withPump n
              { s.pumps n with buffered := buffered, held := some chunk }, trivial, ?_⟩
            simp only [streamStep, Pump.read, hopen, hheld, hbuffered]
            rfl
        | nil =>
            cases hincoming : (s.pumps n).incoming with
            | cons chunk incoming =>
                refine ⟨.deliver n, s.withPump n { s.pumps n with
                  incoming := incoming, buffered := (s.pumps n).buffered ++ [chunk] },
                  trivial, ?_⟩
                simp only [streamStep, hincoming]
            | nil => exact absurd (by simp [Pump.rest, hheld, hbuffered, hincoming]) hn

/-! ## The length of a run -/

/-- The steps that the chunks of a pump can still take, and the end of the pump. -/
def Pump.work (p : Pump) : Nat :=
  4 * p.incoming.length + 3 * p.buffered.length + 2 * p.held.toList.length + (!p.finished).toNat

/-- The steps that the waiter can still take, and the exit after it. -/
def Waiter.work : Waiter → Nat
  | .waiting => 3
  | .putting => 2
  | .done => 0

/-- The steps that are left. -/
def StreamState.work (s : StreamState) : Nat :=
  (s.pumps .stdout).work + (s.pumps .stderr).work + s.queue.items.length + s.waiter.work +
    (!s.closed).toNat

theorem work_withPump (s : StreamState) (n : StreamName) (p : Pump) :
    (s.withPump n p).work + (s.pumps n).work = s.work + p.work := by
  cases n with
  | stdout =>
      simp only [StreamState.work, StreamState.withPump, Function.update_self,
        Function.update_of_ne (show StreamName.stderr ≠ .stdout by decide)]
      omega
  | stderr =>
      simp only [StreamState.work, StreamState.withPump, Function.update_self,
        Function.update_of_ne (show StreamName.stdout ≠ .stderr by decide)]
      omega

theorem work_withPump_lt {n : StreamName} {p : Pump} (h : p.work < (s.pumps n).work) :
    (s.withPump n p).work < s.work := by
  have hsum := work_withPump s n p
  omega

theorem work_withQueue (s : StreamState) (queue : BoundedQueue StreamEvent streamQueueSize) :
    ({ s with queue := queue } : StreamState).work + s.queue.items.length =
      s.work + queue.items.length := by
  simp only [StreamState.work]
  omega

theorem work_cancel (p : Pump) : p.cancel.work ≤ p.work := by
  simp only [Pump.work, Pump.cancel, Option.toList_none, List.length_nil, Bool.not_true,
    Bool.toNat_false]
  omega

theorem work_of_read {p p' : Pump} (h : p.read = some p') : p'.work < p.work := by
  unfold Pump.read at h
  split at h
  · cases h
  · rename_i hidle
    obtain ⟨hopen, hheld⟩ : p.finished = false ∧ p.held = none := by simpa using hidle
    split at h
    · rename_i chunk buffered hbuffered
      cases h
      simp [Pump.work, hbuffered, hheld]
      omega
    · rename_i hbuffered
      obtain ⟨-, hp⟩ := Option.ite_none_right_eq_some.1 h
      cases hp
      simp [Pump.work, hopen]

/-- Every step is one of those that were left. -/
theorem work_step {code : Int} {e : StreamStep} (h : streamStep code s e = some s') :
    s'.work < s.work := by
  cases e with
  | deliver n =>
      simp only [streamStep] at h
      split at h
      · cases h
      · rename_i chunk incoming hincoming
        cases h
        refine work_withPump_lt ?_
        simp only [Pump.work, hincoming, List.length_cons, List.length_append, List.length_nil]
        omega
  | close =>
      obtain ⟨⟨hopen, -⟩, h⟩ := Option.ite_none_right_eq_some.1 h
      cases h
      simp [StreamState.work, hopen]
  | read n =>
      obtain ⟨p, hread, rfl⟩ := Option.map_eq_some_iff.1 h
      exact work_withPump_lt (work_of_read hread)
  | put n =>
      simp only [streamStep] at h
      split at h
      · cases h
      · rename_i chunk hheld
        obtain ⟨queue, hput, rfl⟩ := Option.map_eq_some_iff.1 h
        have hpump : Pump.work { s.pumps n with held := none } + 2 = (s.pumps n).work := by
          simp only [Pump.work, hheld, Option.toList_some, Option.toList_none, List.length_cons,
            List.length_nil]
          omega
        have hqueue : queue.items.length = s.queue.items.length + 1 := by
          rw [BoundedQueue.items_of_put? hput, List.length_append, List.length_singleton]
        have hwork := work_withPump s n { s.pumps n with held := none }
        have hsum : StreamState.work
            { s.withPump n { s.pumps n with held := none } with queue := queue } +
              s.queue.items.length =
            (s.withPump n { s.pumps n with held := none }).work + queue.items.length :=
          work_withQueue _ queue
        calc StreamState.work { s.withPump n { s.pumps n with held := none } with queue := queue }
            = (s.withPump n { s.pumps n with held := none }).work + 1 := by omega
          _ < s.work := by omega
  | wait =>
      obtain ⟨⟨-, hwaiting⟩, h⟩ := Option.ite_none_right_eq_some.1 h
      cases h
      simp [StreamState.work, hwaiting, Waiter.work]
  | putExit =>
      obtain ⟨hputting, h⟩ := Option.ite_none_right_eq_some.1 h
      obtain ⟨queue, hput, rfl⟩ := Option.map_eq_some_iff.1 h
      have hqueue : queue.items.length = s.queue.items.length + 1 := by
        rw [BoundedQueue.items_of_put? hput, List.length_append, List.length_singleton]
      simp only [StreamState.work, hqueue, hputting, Waiter.work]
      omega
  | get =>
      obtain ⟨hconsuming, h⟩ := Option.ite_none_right_eq_some.1 h
      obtain ⟨⟨event, queue⟩, hget, rfl⟩ := Option.map_eq_some_iff.1 h
      have hqueue : s.queue.items.length = queue.items.length + 1 := by
        rw [BoundedQueue.items_of_get? hget, List.length_cons]
      have hout := work_cancel (s.pumps .stdout)
      have herr := work_cancel (s.pumps .stderr)
      show (s.got event queue).work < s.work
      unfold StreamState.got
      split
      · simp only [StreamState.work]
        omega
      · simp only [StreamState.work]
        omega

/-- A run has no more steps than were left where it starts. -/
theorem length_exec {es : List StreamStep} (h : (streamSystem chunks status).exec s es = some s') :
    es.length + s'.work ≤ s.work := by
  induction es generalizing s with
  | nil =>
      cases h
      simp
  | cons e es ih =>
      obtain ⟨t, hstep, hrest⟩ := Option.bind_eq_some_iff.1 h
      have hone := work_step hstep
      have hlater := ih hrest
      rw [List.length_cons]
      omega

/-- **Everything is delivered** in runs that put the exit last: such a run can go on
until the consumer has got the exit, it ends, and then every chunk was got before. -/
theorem delivers_all (h : (streamSystem chunks status).Reach DrainedFirst s) :
    (s.consuming = false → Delivered chunks status s) ∧
      (s.consuming = true → NoExit s.received ∧
        ∃ e s', DrainedFirst s e ∧ (streamSystem chunks status).step s e = some s') ∧
      ∀ es s', (streamSystem chunks status).exec s es = some s' → es.length ≤ s.work := by
  obtain ⟨hs, hpumps⟩ : StreamPhase chunks status s ∧ PumpsDone s := by
    refine h.invariant (I := fun t => StreamPhase chunks status t ∧ PumpsDone t) ?_
      fun t e t' ht he hstep => ⟨phase_step ht.1 he hstep, pumpsDone_step ht.2 hstep⟩
    rintro _ rfl
    refine ⟨.running rfl (show Waiter.waiting ≠ .done by decide)
      (fun e he => absurd he List.not_mem_nil) fun n => rfl, ?_⟩
    intro _ n hfinished
    cases hfinished
  refine ⟨fun hstopped => ?_, fun hconsuming => ⟨?_, progress hs hpumps hconsuming⟩,
    fun es s' hrun => by have := length_exec hrun; omega⟩
  · cases hs with
    | running hconsuming => rw [hstopped] at hconsuming; cases hconsuming
    | exiting events hconsuming => rw [hstopped] at hconsuming; cases hconsuming
    | ended _ _ _ hdelivered => exact hdelivered
  · cases hs with
    | running _ _ hexit => exact fun e he => hexit e (List.mem_append_left _ he)
    | exiting events _ _ _ _ hreceived => exact hreceived
    | ended hstopped => rw [hconsuming] at hstopped; cases hstopped

end Runs

/-! ## An exit that overtakes a chunk -/

/-- One chunk on the standard output. -/
def oneChunk : StreamName → List String
  | .stdout => ["done"]
  | .stderr => []

/-- Whatever the order of the steps, the consumer has got everything at the end. -/
def AlwaysDelivered (chunks : StreamName → List String) (status : Option Int) : Prop :=
  ∀ s, (streamSystem chunks status).Reachable s → s.consuming = false → Delivered chunks status s

/-- The chunk has arrived, but the exit is put before the pump reads it. -/
theorem not_alwaysDelivered : ¬ AlwaysDelivered oneChunk (some 0) := by
  intro h
  obtain ⟨s, hrun, hstopped, hreceived⟩ : ∃ s, (streamSystem oneChunk (some 0)).exec
      (streamStart oneChunk) [.deliver .stdout, .close, .wait, .putExit, .get] = some s ∧
      s.consuming = false ∧ s.received = [.exit 0] := ⟨_, rfl, rfl, rfl⟩
  obtain ⟨events, hevents, -, hall⟩ := h s (System.reachable_of_exec rfl hrun) hstopped
  rw [hreceived] at hevents
  have hlast : [] ++ [StreamEvent.exit 0] = events ++ [.exit 0] := hevents
  obtain ⟨hnone, -⟩ := List.append_inj' hlast rfl
  have hlost := hall .stdout
  rw [← hnone] at hlost
  exact absurd hlost (by decide)

theorem drainedFirst_of_ne {e : StreamStep} (h : e ≠ .putExit) (s : StreamState) :
    DrainedFirst s e := by
  cases e with
  | putExit => exact absurd rfl h
  | _ => trivial

/-- The same chunk, put before the exit. -/
theorem delivers_oneChunk : ∃ s, s.received = [.chunk .stdout "done", .exit 0] ∧
    Delivered oneChunk (some 0) s := by
  obtain ⟨s₁, hput, hout, herr, s₂, hexit, s, hget, hstopped, hreceived⟩ : ∃ s₁,
      (streamSystem oneChunk (some 0)).exec (streamStart oneChunk)
        [.deliver .stdout, .read .stdout, .put .stdout, .close, .wait] = some s₁ ∧
      (s₁.pumps .stdout).rest = [] ∧ (s₁.pumps .stderr).rest = [] ∧
      ∃ s₂, (streamSystem oneChunk (some 0)).step s₁ .putExit = some s₂ ∧
      ∃ s, (streamSystem oneChunk (some 0)).exec s₂ [.get, .get] = some s ∧
        s.consuming = false ∧ s.received = [.chunk .stdout "done", .exit 0] :=
    ⟨_, rfl, rfl, rfl, _, rfl, _, rfl, rfl, rfl⟩
  have hdrained : (streamSystem oneChunk (some 0)).Reach DrainedFirst s₁ :=
    System.Reach.exec_of (.start rfl)
      (fun e he => drainedFirst_of_ne ((by decide : ∀ e ∈ _, e ≠ StreamStep.putExit) e he)) hput
  have hexited : (streamSystem oneChunk (some 0)).Reach DrainedFirst s₂ := by
    refine .next (e := .putExit) hdrained (fun n => ?_) hexit
    cases n with
    | stdout => exact hout
    | stderr => exact herr
  have hend : (streamSystem oneChunk (some 0)).Reach DrainedFirst s :=
    hexited.exec_of
      (fun e he => drainedFirst_of_ne ((by decide : ∀ e ∈ _, e ≠ StreamStep.putExit) e he)) hget
  exact ⟨s, hreceived, (delivers_all hend).1 hstopped⟩

end Remote
end NodeNexus
