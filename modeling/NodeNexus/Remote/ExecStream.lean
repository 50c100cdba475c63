import NodeNexus.Lib.JsonText
import NodeNexus.Remote.Streaming

/-!
# The exec WebSocket

`exec_stream` reads frames of a client that was let in, and runs one command at a time
on the node's connection.

* `handleFrame` is one round of its loop; `commandMessage` and `signalMessage` are the
  schemas of the frames.
* `execSystem` — frames of the client, between the steps of the running command.
* `Answered` — a frame was answered by one error, and nothing else has happened.
* `exec_answers_iff` — a refused frame is answered in that way when it is no JSON or a
  JSON object; at most one command runs in any case.
* `not_execAlwaysAnswers` — a list ends the session.

A round is one step: while it waits for its answer to be sent, the command cannot
change what it does.
-/

namespace NodeNexus
namespace Remote

/-! ## Frames -/

/-- `_MAX_WS_MESSAGE_SIZE`. -/
def maxWsMessageSize : Nat := 16384

/-- The signals of the protocol. -/
inductive Signal where
  | sigint
  | sigterm
  | sighup
  deriving DecidableEq

/-- The literal of a signal. -/
def Signal.ofText? (text : String) : Option Signal :=
  if text = "SIGINT" then some .sigint
  else if text = "SIGTERM" then some .sigterm
  else if text = "SIGHUP" then some .sighup
  else none

/-- Is a value a given text? -/
def isText (x : Json) (text : String) : Bool :=
  match x with
  | .str s => s = text
  | _ => false

/-- A field is one literal, or missing where that is its default. -/
def literalOrDefault (fields : Json.Fields) (key text : String) : Bool :=
  match Json.get fields key with
  | none => true
  | some x => isText x text

/-- `WebSocketCommandMessage.model_validate`: the command. -/
def commandMessage (fields : Json.Fields) : Option String :=
  if literalOrDefault fields "version" "1" && literalOrDefault fields "type" "command" then
    match Json.get fields "command" with
    | some (.str command) =>
        if 1 ≤ command.length ∧ command.length ≤ 4096 then some command else none
    | _ => none
  else none

/-- `WebSocketSignalMessage.model_validate` of an object of type `signal`: the signal. -/
def signalMessage (fields : Json.Fields) : Option Signal :=
  if literalOrDefault fields "version" "1" then
    match Json.get fields "signal" with
    | some (.str signal) => Signal.ofText? signal
    | _ => none
  else none

/-- `data.get("type") == "signal"`. -/
def hasSignalType (fields : Json.Fields) : Bool :=
  match Json.get fields "type" with
  | some x => isText x "signal"
  | none => false

/-- What the interpreter does not read. -/
inductive ReadLimit where
  /-- An integer with too many digits; `ValueError`. -/
  | digits
  /-- Brackets nested too deeply; `RecursionError`. -/
  | nesting

/-- What the handler runs on. -/
structure ExecEnv where
  /-- How a number with a fraction or an exponent is rounded. -/
  float : String → String
  /-- The texts beyond the limits of the interpreter. -/
  limit : String → Option ReadLimit

/-- What `receive_json` makes of a frame. -/
inductive Received where
  | value (x : Json)
  | valueError
  | recursionError

/-- `receive_json`. -/
def ExecEnv.receive (env : ExecEnv) (text : String) : Received :=
  match env.limit text with
  | some .digits => .valueError
  | some .nesting => .recursionError
  | none =>
      match Json.loads env.float text with
      | none => .valueError
      | some x => .value x

/-! ## Sessions -/

/-- What the server sends. -/
inductive Message where
  | error (text : String)
  | signalAck (signal : Signal)
  /-- An event of the remote process. -/
  | event (event : StreamEvent)
  deriving DecidableEq

/-- Where a command task stands. -/
inductive TaskStatus where
  | running
  | done
  /-- Its process was killed and the task cancelled. -/
  | aborted
  deriving DecidableEq

/-- A command task of a session. -/
structure CommandTask where
  command : String
  status : TaskStatus
  deriving DecidableEq

/-- How a session ended. -/
inductive Ending where
  | closed (code : Nat) (reason : String)
  | disconnected
  deriving DecidableEq

/-- A session after the client was let in and the node connected. -/
structure ExecState where
  messages : List Message
  /-- The command tasks, the latest one last. -/
  tasks : List CommandTask
  /-- The connector has a process. -/
  activeProcess : Bool
  ended : Option Ending

/-- `send_json` of an error or an acknowledgement. -/
def ExecState.send (s : ExecState) (message : Message) : ExecState :=
  { s with messages := s.messages ++ [message] }

/-- `active_task is not None and not active_task.done()`. -/
def ExecState.busy (s : ExecState) : Bool :=
  match s.tasks.getLast? with
  | none => false
  | some task => task.status = .running

/-- The `finally` of the handler: a running command is killed. -/
def CommandTask.abort (task : CommandTask) : CommandTask :=
  if task.status = .running then { task with status := .aborted } else task

/-- The loop is left. -/
def ExecState.leave (s : ExecState) (ending : Ending) : ExecState :=
  { s with tasks := s.tasks.map (·.abort), activeProcess := false, ended := some ending }

/-- An exception that no branch of the loop expects. -/
def ExecState.unexpected (s : ExecState) : ExecState := s.leave (.closed 1011 "Internal error")

/-- What the remote `kill` of `send_signal` comes to. -/
inductive KillOutcome where
  | ok
  /-- `ValueError` or `RuntimeError`. -/
  | rejected
  /-- Any other exception. -/
  | failed

/-- `send_signal` and its answer. -/
def sendSignal (s : ExecState) (signal : Signal) (kill : KillOutcome) : ExecState :=
  if s.activeProcess = false then s.send (.error "Signal rejected")
  else
    match kill with
    | .ok => s.send (.signalAck signal)
    | .rejected => s.send (.error "Signal rejected")
    | .failed => s.unexpected

/-- The branch for a signal. -/
def handleSignal (s : ExecState) (fields : Json.Fields) (kill : KillOutcome) : ExecState :=
  match signalMessage fields with
  | none => s.send (.error "Signal rejected")
  | some signal => sendSignal s signal kill

/-- `create_task`, unless a command runs. -/
def startCommand (s : ExecState) (command : String) : ExecState :=
  if s.busy then s.send (.error "A command is already running")
  else { s with tasks := s.tasks ++ [⟨command, .running⟩] }

/-- The branch for a command. -/
def handleCommand (s : ExecState) (fields : Json.Fields) : ExecState :=
  match commandMessage fields with
  | none => s.send (.error "Invalid command message")
  | some command => startCommand s command

/-- What is done with a value: only a dictionary has `get`. -/
def handleValue (s : ExecState) (kill : KillOutcome) : Json → ExecState
  | .dict fields =>
      if hasSignalType fields then handleSignal s fields kill else handleCommand s fields
  | _ => s.unexpected

/-- `len(json.dumps(data)) > _MAX_WS_MESSAGE_SIZE`. -/
def tooLarge (x : Json) : Prop := maxWsMessageSize < (Json.dumps x).length

instance (x : Json) : Decidable (tooLarge x) := inferInstanceAs (Decidable (_ < _))

/-- One round of the loop. -/
def handleFrame (env : ExecEnv) (s : ExecState) (text : String) (kill : KillOutcome) : ExecState :=
  match env.receive text with
  | .valueError => s.send (.error "Invalid JSON")
  | .recursionError => s.unexpected
  | .value x =>
      if tooLarge x then s.leave (.closed 1009 "Message too large") else handleValue s kill x

/-! ## The system -/

/-- What can happen in a session. -/
inductive ExecEvent where
  /-- A text frame of the client; the outcome is that of a signal it may send. -/
  | frame (text : String) (kill : KillOutcome)
  /-- The running command has created its process. -/
  | spawn
  /-- The running command sends a message. -/
  | output (message : Message)
  /-- The running command has completed. -/
  | complete
  | disconnect

/-- The last task is done. -/
def ExecState.completed (s : ExecState) : ExecState :=
  match s.tasks.getLast? with
  | none => s
  | some task =>
      { s with tasks := s.tasks.dropLast ++ [{ task with status := .done }], activeProcess := false }

/-- One step of a session. -/
def execStep (env : ExecEnv) (s : ExecState) (e : ExecEvent) : Option ExecState :=
  if s.ended.isSome then none
  else
    match e with
    | .frame text kill => some (handleFrame env s text kill)
    | .spawn => if s.busy then some { s with activeProcess := true } else none
    | .output message => if s.busy then some (s.send message) else none
    | .complete => if s.busy then some s.completed else none
    | .disconnect => some (s.leave .disconnected)

/-- A session without commands. -/
def execStart : ExecState := ⟨[], [], false, none⟩

/-- The sessions of a client. -/
def execSystem (env : ExecEnv) : System ExecState ExecEvent where
  init s := s = execStart
  step := execStep env

/-! ## What is promised -/

/-- The frame is a message of the protocol. -/
def ValidFrame (env : ExecEnv) (text : String) : Prop :=
  ∃ fields, env.receive text = .value (.dict fields) ∧
    if hasSignalType fields then (signalMessage fields).isSome = true
    else (commandMessage fields).isSome = true

/-- The value of the frame is below the limit. -/
def WithinSize (env : ExecEnv) (text : String) : Prop :=
  ∀ x, env.receive text = .value x → ¬ tooLarge x

/-- The frame is no JSON, or a JSON object. -/
def Readable (env : ExecEnv) (text : String) : Prop :=
  env.receive text = .valueError ∨ ∃ fields, env.receive text = .value (.dict fields)

/-- One error was sent; the session goes on, and its commands as well. -/
structure Answered (s s' : ExecState) : Prop where
  error : ∃ text, s'.messages = s.messages ++ [.error text]
  tasks : s'.tasks = s.tasks
  activeProcess : s'.activeProcess = s.activeProcess
  open_session : s'.ended = none

/-- The tasks that run. -/
def ExecState.running (s : ExecState) : List CommandTask :=
  s.tasks.filter fun task => decide (task.status = .running)

/-- A refused frame is answered by one error where it is readable, and only there. -/
def AnswersReadable (env : ExecEnv) (s : ExecState) : Prop :=
  ∀ text kill s', execStep env s (.frame text kill) = some s' → WithinSize env text →
    ¬ ValidFrame env text → (Answered s s' ↔ Readable env text)

/-- A command that a frame asks for while another one runs is refused. -/
def RefusesCommands (env : ExecEnv) (s : ExecState) : Prop :=
  ∀ text kill s' fields command, execStep env s (.frame text kill) = some s' →
    WithinSize env text → env.receive text = .value (.dict fields) →
    hasSignalType fields = false → commandMessage fields = some command → s.busy = true →
    s' = s.send (.error "A command is already running")

/-! ## Frames -/

section Frames

variable {env : ExecEnv} {s s' : ExecState} {text : String} {kill : KillOutcome}

/-- A frame is read in a session that goes on. -/
theorem execStep_frame (h : execStep env s (.frame text kill) = some s') :
    s.ended = none ∧ s' = handleFrame env s text kill := by
  unfold execStep at h
  split at h
  · cases h
  · rename_i hopen
    refine ⟨by simpa using hopen, ?_⟩
    cases h
    rfl

theorem answered_send (hopen : s.ended = none) (text : String) :
    Answered s (s.send (.error text)) :=
  ⟨⟨text, rfl⟩, rfl, rfl, hopen⟩

theorem not_answered_leave (ending : Ending) : ¬ Answered s (s.leave ending) := by
  intro h
  have hended := h.open_session
  cases hended

/-- A refused object is answered. -/
theorem answered_handleValue {fields : Json.Fields} (hopen : s.ended = none)
    (hinvalid : ¬ if hasSignalType fields then (signalMessage fields).isSome = true
      else (commandMessage fields).isSome = true) :
    Answered s (handleValue s kill (.dict fields)) := by
  simp only [handleValue]
  split
  · rename_i hsignal
    rw [if_pos hsignal] at hinvalid
    have hnone : signalMessage fields = none := by simpa using hinvalid
    unfold handleSignal
    rw [hnone]
    exact answered_send hopen _
  · rename_i hcommand
    rw [if_neg hcommand] at hinvalid
    have hnone : commandMessage fields = none := by simpa using hinvalid
    unfold handleCommand
    rw [hnone]
    exact answered_send hopen _

/-- Only a dictionary is handled. -/
theorem handleValue_of_not_dict {x : Json} (hx : ∀ fields, x ≠ .dict fields) :
    handleValue s kill x = s.unexpected := by
  cases x with
  | dict fields => exact absurd rfl (hx fields)
  | _ => rfl

/-- A value that is not too large. -/
theorem handleFrame_value {x : Json} (h : env.receive text = .value x) (hx : ¬ tooLarge x) :
    handleFrame env s text kill = handleValue s kill x := by
  unfold handleFrame
  rw [h]
  simp only []
  rw [if_neg hx]

theorem answersReadable (env : ExecEnv) (s : ExecState) : AnswersReadable env s := by
  intro text kill s' hstep hsize hinvalid
  obtain ⟨hopen, rfl⟩ := execStep_frame hstep
  unfold Readable
  cases hreceived : env.receive text with
  | valueError =>
      unfold handleFrame
      rw [hreceived]
      exact ⟨fun _ => .inl rfl, fun _ => answered_send hopen _⟩
  | recursionError =>
      unfold handleFrame
      rw [hreceived]
      refine ⟨fun h => absurd h (not_answered_leave _), ?_⟩
      rintro (h | ⟨fields, h⟩) <;> cases h
  | value x =>
      rw [handleFrame_value hreceived (hsize x hreceived)]
      constructor
      · intro h
        by_contra hreadable
        have hx : ∀ fields, x ≠ .dict fields :=
          fun fields hfields => hreadable (.inr ⟨fields, by rw [hfields]⟩)
        rw [handleValue_of_not_dict hx] at h
        exact not_answered_leave _ h
      · rintro (h | ⟨fields, h⟩)
        · cases h
        · cases h
          exact answered_handleValue hopen fun hvalid => hinvalid ⟨fields, hreceived, hvalid⟩

theorem refusesCommands (env : ExecEnv) (s : ExecState) : RefusesCommands env s := by
  intro text kill s' fields command hstep hsize hreceived hsignal hcommand hbusy
  obtain ⟨-, rfl⟩ := execStep_frame hstep
  rw [handleFrame_value hreceived (hsize _ hreceived)]
  simp only [handleValue, hsignal, handleCommand, hcommand, startCommand, hbusy]
  rfl

end Frames

/-! ## Sessions -/

section Sessions

variable {env : ExecEnv} {s s' : ExecState}

/-- Only the last task can run. -/
def OnlyLastRuns (s : ExecState) : Prop :=
  ∀ task ∈ s.tasks.dropLast, task.status ≠ .running

theorem running_le_one (hs : OnlyLastRuns s) : s.running.length ≤ 1 := by
  unfold ExecState.running
  obtain hempty | ⟨earlier, last, hlast⟩ := s.tasks.eq_nil_or_concat
  · rw [hempty]
    exact Nat.zero_le 1
  · have hearlier : earlier.filter (fun task => decide (task.status = .running)) = [] := by
      refine List.filter_eq_nil_iff.2 fun task htask => ?_
      have hdone := hs task (by rw [hlast]; simpa using htask)
      simpa using hdone
    rw [hlast, List.concat_eq_append, List.filter_append, hearlier, List.nil_append]
    exact List.length_filter_le _ [last]

/-- A command that is not busy has no running task. -/
theorem not_running_of_idle (hs : OnlyLastRuns s) (hidle : s.busy = false) :
    ∀ task ∈ s.tasks, task.status ≠ .running := by
  obtain hempty | ⟨earlier, last, hlast⟩ := s.tasks.eq_nil_or_concat
  · rw [hempty]
    exact fun task htask => absurd htask List.not_mem_nil
  · rw [List.concat_eq_append] at hlast
    intro task htask
    rw [hlast] at htask
    obtain htask | htask := List.mem_append.1 htask
    · exact hs task (by rw [hlast]; simpa using htask)
    · rw [List.mem_singleton.1 htask]
      simpa [ExecState.busy, hlast] using hidle

theorem onlyLastRuns_leave (ending : Ending) : OnlyLastRuns (s.leave ending) := by
  intro task htask
  have hmem : task ∈ s.tasks.map (·.abort) := (List.dropLast_sublist _).subset htask
  obtain ⟨task, -, rfl⟩ := List.mem_map.1 hmem
  unfold CommandTask.abort
  split
  · exact fun h => nomatch h
  · rename_i hidle
    exact hidle

theorem onlyLastRuns_startCommand (hs : OnlyLastRuns s) (command : String) :
    OnlyLastRuns (startCommand s command) := by
  unfold startCommand
  split
  · exact hs
  · rename_i hidle
    intro task htask
    have htask : task ∈ s.tasks := by simpa using htask
    exact not_running_of_idle hs (by simpa using hidle) task htask

theorem onlyLastRuns_frame (hs : OnlyLastRuns s) (text : String) (kill : KillOutcome) :
    OnlyLastRuns (handleFrame env s text kill) := by
  have hvalue : ∀ x, OnlyLastRuns (handleValue s kill x) := by
    intro x
    cases x with
    | dict fields =>
        simp only [handleValue]
        split
        · unfold handleSignal
          split
          · exact hs
          · unfold sendSignal
            split
            · exact hs
            · cases kill with
              | ok => exact hs
              | rejected => exact hs
              | failed => exact onlyLastRuns_leave _
        · unfold handleCommand
          split
          · exact hs
          · exact onlyLastRuns_startCommand hs _
    | _ => exact onlyLastRuns_leave _
  unfold handleFrame
  split
  · exact hs
  · exact onlyLastRuns_leave _
  · split
    · exact onlyLastRuns_leave _
    · exact hvalue _

theorem onlyLastRuns_completed (hs : OnlyLastRuns s) : OnlyLastRuns s.completed := by
  unfold ExecState.completed
  split
  · exact hs
  · intro task htask
    exact hs task (by simpa using htask)

/-- One step of a session. -/
theorem onlyLastRuns_step {e : ExecEvent} (hs : OnlyLastRuns s)
    (h : execStep env s e = some s') : OnlyLastRuns s' := by
  unfold execStep at h
  split at h
  · cases h
  · cases e with
    | frame text kill =>
        cases h
        exact onlyLastRuns_frame hs text kill
    | spawn =>
        obtain ⟨-, h⟩ := Option.ite_none_right_eq_some.1 h
        cases h
        exact hs
    | output message =>
        obtain ⟨-, h⟩ := Option.ite_none_right_eq_some.1 h
        cases h
        exact hs
    | complete =>
        obtain ⟨-, h⟩ := Option.ite_none_right_eq_some.1 h
        cases h
        exact onlyLastRuns_completed hs
    | disconnect =>
        cases h
        exact onlyLastRuns_leave _

/-- **In every session** at most one command runs, others are refused meanwhile, and a
refused frame is answered by one error exactly where it is no JSON or an object. -/
theorem exec_answers_iff (h : (execSystem env).Reachable s) :
    s.running.length ≤ 1 ∧ RefusesCommands env s ∧ AnswersReadable env s := by
  have hs : OnlyLastRuns s := by
    refine h.invariant ?_ fun t e t' ht _ hstep => onlyLastRuns_step ht hstep
    rintro _ rfl task htask
    cases htask
  exact ⟨running_le_one hs, refusesCommands env s, answersReadable env s⟩

end Sessions

/-! ## A frame that is a list -/

/-- An interpreter without limits that are met. -/
def plainExecEnv : ExecEnv := ⟨id, fun _ => none⟩

/-- Every refused frame is answered by one error, and nothing else happens. -/
def ExecAlwaysAnswers (env : ExecEnv) : Prop :=
  ∀ s, (execSystem env).Reachable s → ∀ text kill s',
    execStep env s (.frame text kill) = some s' → WithinSize env text → ¬ ValidFrame env text →
    Answered s s'

theorem not_tooLarge {x : Json} {n : Nat} (h : (Json.dumps x).length = n) (hn : n ≤ 16384) :
    ¬ tooLarge x := by
  unfold tooLarge maxWsMessageSize
  omega

/-- A list has no `get`: the session is closed. -/
theorem not_execAlwaysAnswers : ¬ ExecAlwaysAnswers plainExecEnv := by
  intro h
  have hlist : plainExecEnv.receive "[1]" = .value (.list [.int 1]) := rfl
  have hlength : (Json.dumps (.list [.int 1])).length = 3 := rfl
  have hsmall : ¬ tooLarge (.list [.int 1]) := not_tooLarge hlength (by decide)
  have hsize : WithinSize plainExecEnv "[1]" := by
    intro x hx
    rw [hlist] at hx
    cases hx
    exact hsmall
  have hinvalid : ¬ ValidFrame plainExecEnv "[1]" := by
    rintro ⟨fields, hfields, -⟩
    rw [hlist] at hfields
    cases hfields
  have hstep : execStep plainExecEnv execStart (.frame "[1]" .ok) =
      some (handleFrame plainExecEnv execStart "[1]" .ok) := if_neg (by decide)
  have hanswered := h execStart (.start rfl) "[1]" .ok _ hstep hsize hinvalid
  rw [handleFrame_value hlist hsmall] at hanswered
  exact not_answered_leave _ hanswered

/-- A session in which nothing was asked. -/
theorem exec_answers_start : execStart.running.length ≤ 1 ∧
    RefusesCommands plainExecEnv execStart ∧ AnswersReadable plainExecEnv execStart :=
  exec_answers_iff (.start rfl)

end Remote
end NodeNexus
