import NodeNexus.Docker.Parsers
import NodeNexus.Lib.Transition
import NodeNexus.Remote.KnownHosts

/-!
# Interleaved changes of known_hosts

Calls of `ensure_host` and `refresh_host` run over one file, cut at their awaits.  A refresh has
`ssh-keygen -R` drop the old entries before it waits for the lock, and the program rewrites the
whole file in its own time.

* `callStep` — a call between two awaits; `Removal` — a running `ssh-keygen -R`.
* `hostKeySystem` — calls and removals over the file and the lock.
* `fileAfter_cases` — the only thing a call ever does to the file is to append.
* `KeepsKeys` — the steps that can do no harm: a removal that puts back what other hosts have in
  the file, an append behind a line feed, a failure of a refresh that has removed nothing.
* `host_keys_kept` — in runs of such steps every other host keeps its entries, and a refresh that
  fails leaves those of its own host as they were.
* `not_hostKeysNeverLost` — a refresh whose fetch fails has lost the old key.

Cancelled calls are not modelled.
-/

namespace NodeNexus
namespace KnownHosts

open Lines

/-! ## Failures -/

/-- What makes a call raise `HostKeyFetchError`. -/
inductive FetchFailure where
  | createDirectory (exc : String)
  | createFile (exc : String)
  | keyscanMissing
  | keyscanTimeout
  /-- `ssh-keyscan` reports an error, or nothing. -/
  | cannotFetch (msg : String)
  | noKeys
  | invalidKey (msg : String)
  | readOnly
  | cannotWrite (exc : String)
  | osError (exc : String)
  deriving DecidableEq

/-- `msg[:200]`. -/
def cut (msg : String) : String := String.ofList (msg.toList.take 200)

/-- The text of the error. -/
def FetchFailure.message (path host : String) (port : Nat) : FetchFailure → String
  | createDirectory exc => "Cannot create known_hosts directory: " ++ exc
  | createFile exc => "Cannot create known_hosts file: " ++ exc
  | keyscanMissing => "ssh-keyscan is not available in the runtime image"
  | keyscanTimeout => "ssh-keyscan timeout for " ++ host ++ ":" ++ toString port
  | cannotFetch msg =>
      "Cannot fetch host key for " ++ host ++ ":" ++ toString port ++ ": " ++ cut msg
  | noKeys => "No host keys received for " ++ host ++ ":" ++ toString port
  | invalidKey msg =>
      "Fetched host key invalid for " ++ host ++ ":" ++ toString port ++ ": " ++ cut msg
  | readOnly =>
      "known_hosts is read-only (" ++ path ++ "); mount it writable or use emptyDir for auto-add"
  | cannotWrite exc => "Cannot write known_hosts: " ++ exc
  | osError exc => "ssh-keyscan failed for " ++ host ++ ":" ++ toString port ++ ": " ++ exc

/-! ## What the programs and the file answer -/

/-- How the run of `ssh-keyscan` ends. -/
inductive Scan where
  | notStarted (exc : String)
  | timeout
  /-- Its return code, whether it printed anything, and the two outputs decoded. -/
  | finished (returncode : Int) (printed : Bool) (stdout : Text) (stderr : String)

/-- `raw if raw else default`, for a stripped output. -/
def orDefault (raw default : String) : String :=
  let stripped := Docker.strip raw.toList
  if stripped = [] then default else String.ofList stripped

/-- Some line is neither blank nor a comment. -/
def hasKeyLine (text : Text) : Bool :=
  (Docker.splitlines text).any fun line => Docker.strip line ≠ [] && line.head? ≠ some '#'

/-- The text that is fetched, or why there is none. -/
def Scan.text : Scan → Except FetchFailure Text
  | notStarted exc => .error (.osError exc)
  | timeout => .error .keyscanTimeout
  | finished returncode printed stdout stderr =>
      if returncode ≠ 0 ∨ ¬printed then .error (.cannotFetch (orDefault stderr "no host keys received"))
      else if hasKeyLine stdout then .ok stdout
      else .error .noKeys

/-- How the validation by `ssh-keygen -l` ends. -/
inductive Validation where
  /-- There is no `ssh-keygen`. -/
  | skipped
  | valid
  | invalid (stderr : String)
  /-- The temporary file, the start or the time limit. -/
  | osError (exc : String)

/-- Why the validation fails. -/
def Validation.failure : Validation → Option FetchFailure
  | skipped => none
  | valid => none
  | invalid stderr => some (.invalidKey (orDefault stderr "invalid host key"))
  | osError exc => some (.osError exc)

/-- How the write ends. -/
inductive Write where
  | done
  /-- So many characters are written before an `OSError`; that of `chmod` comes after all. -/
  | fails (written : Nat) (readOnly : Bool) (exc : String)

/-- What is appended. -/
def appended (text : Text) : Text := if text.getLast? = some '\n' then text else text ++ ['\n']

/-- What of it is written. -/
def Write.part (text : Text) : Write → Text
  | done => appended text
  | fails written _ _ => (appended text).take written

/-- Why the write fails. -/
def Write.failure : Write → Option FetchFailure
  | done => none
  | fails _ readOnly exc => some (if readOnly then .readOnly else .cannotWrite exc)

/-- How `ssh-keygen -R` is started. -/
inductive Launch where
  /-- There is no `ssh-keygen`, or no file. -/
  | skipped
  | notStarted
  | started

/-! ## Calls -/

/-- Where a call is. -/
inductive Phase where
  | new
  /-- `ensure_directory`. -/
  | directory
  /-- The first test of `ensure_host`. -/
  | testing
  /-- Before `ssh-keygen -R`. -/
  | removing
  /-- Waits for `ssh-keygen -R`. -/
  | waiting
  /-- `_fetch_and_append` is entered. -/
  | fetching
  /-- Waits for the lock. -/
  | queueing
  /-- The test under the lock. -/
  | rechecking
  | scanning
  | validating (text : Text)
  | appending (text : Text)
  | returned (added : Bool)
  /-- `HostKeyFetchError` was raised. -/
  | failed (e : FetchFailure)
  /-- `ValueError` was raised: a program cannot be called with a NUL. -/
  | valueError
  deriving DecidableEq

/-- The call has ended. -/
def Phase.ended : Phase → Bool
  | returned _ => true
  | failed _ => true
  | valueError => true
  | _ => false

/-- A call. -/
structure Call where
  host : String
  port : Nat
  /-- `refresh_host`, else `ensure_host`. -/
  refresh : Bool
  phase : Phase := .new
  /-- The entries of its host when it began. -/
  before : List Text := []
  /-- A call for its host has changed them since. -/
  changed : Bool := false
  deriving DecidableEq

/-- The name it looks for. -/
def Call.name (c : Call) : Text := hostKey c.host c.port

/-- What a call is answered at its await. -/
inductive Answer where
  | go
  | directory (failure : Option FetchFailure)
  | test (hasKeygen keygenFails readFails : Bool)
  | launch (launch : Launch)
  | awaited
  | keyscan (available : Bool)
  | lock
  | scan (result : Scan)
  | validation (result : Validation)
  | write (result : Write)

variable (keygen : SshKeygen) (autoAdd : Bool)

/-- The phase after a presence test. -/
def afterTest (w : Surroundings) (c : Call) (absent : Phase) : Phase :=
  match isPresent keygen w c.host c.port with
  | .error .embeddedNull => .valueError
  | .ok true => .returned false
  | .ok false => absent

/-- Where a call gets between two awaits of `ensure_host`, `refresh_host` and
`_fetch_and_append`. -/
def callStep (file : Option Text) (free : Bool) (c : Call) : Answer → Option Phase
  | .go => if c.phase = .new then some (if c.refresh || autoAdd then .directory else .returned false)
      else none
  | .directory failure =>
      if c.phase = .directory then
        match failure with
        | some e => some (.failed e)
        | none => some (if c.refresh then .removing else .testing)
      else none
  | .test hasKeygen keygenFails readFails =>
      let w : Surroundings := ⟨file, hasKeygen, keygenFails, readFails⟩
      if c.phase = .testing then some (afterTest keygen w c .fetching)
      else if c.phase = .rechecking then some (afterTest keygen w c .scanning)
      else none
  | .launch launch =>
      if c.phase = .removing then
        match launch with
        | .started => some (if Char.ofNat 0 ∈ c.name then .valueError else .waiting)
        | _ => some .fetching
      else none
  | .awaited => if c.phase = .waiting then some .fetching else none
  | .keyscan available =>
      if c.phase = .fetching then some (if available then .queueing else .failed .keyscanMissing)
      else none
  | .lock =>
      if c.phase = .queueing ∧ free then some (if c.refresh then .scanning else .rechecking)
      else none
  | .scan result =>
      if c.phase = .scanning then
        if Char.ofNat 0 ∈ c.host.toList then some .valueError
        else
          match result.text with
          | .error e => some (.failed e)
          | .ok text => some (.validating text)
      else none
  | .validation result =>
      match c.phase with
      | .validating text =>
          match result.failure with
          | some e => some (.failed e)
          | none => some (.appending text)
      | _ => none
  | .write result =>
      match c.phase with
      | .appending _ =>
          match result.failure with
          | some e => some (.failed e)
          | none => some (.returned true)
      | _ => none

/-- What that makes of the file: `ensure_directory` creates it, and a write appends. -/
def fileAfter (file : Option Text) (c : Call) : Answer → Option Text
  | .directory none => if c.phase = .directory then some (file.getD []) else file
  | .write result =>
      match c.phase with
      | .appending text => some (file.getD [] ++ result.part text)
      | _ => file
  | _ => file

/-- It starts `ssh-keygen -R`. -/
def launches (c : Call) : Answer → Bool
  | .launch .started => c.phase = .removing ∧ Char.ofNat 0 ∉ c.name
  | _ => false

/-! ## The system -/

/-- A running `ssh-keygen -R`. -/
structure Removal where
  name : Text
  /-- What it has read. -/
  read : Option Text := none
  ended : Bool := false

/-- What it does next. -/
inductive RemovalStep where
  | read
  /-- It puts the lines that it keeps into the place of the file. -/
  | replace
  /-- It ends without it. -/
  | exit

/-- The file, who has the lock, the calls and the removals. -/
structure Hosts where
  file : Option Text
  lock : Option Nat
  calls : List Call
  removals : List Removal

/-- The text of the file. -/
def Hosts.text (s : Hosts) : Text := s.file.getD []

/-- The entries of a name in a text. -/
def entries (text name : Text) : List Text := (lines '\n' text).filter (keygen.finds name)

/-- What can happen next. -/
inductive Event where
  | call (i : Nat) (answer : Answer)
  | removal (i : Nat) (step : RemovalStep)

/-- Two names of one host. -/
def SameHost (name name' : Text) : Prop := keygen.fold name = keygen.fold name'

instance (name name' : Text) : Decidable (SameHost keygen name name') :=
  inferInstanceAs (Decidable (keygen.fold name = keygen.fold name'))

/-- A call for a host has made this of the file: the calls for the same host take note. -/
def noted (name before after : Text) (c : Call) : Call :=
  if SameHost keygen c.name name ∧ c.phase ≠ .new ∧
      entries keygen after c.name ≠ entries keygen before c.name then
    { c with changed := true }
  else c

/-- A call is in its next phase; when it begins it looks at the file. -/
def Call.moved (c : Call) (text : Text) (phase : Phase) : Call :=
  { c with
    phase := phase
    before := if c.phase = .new then entries keygen text c.name else c.before }

/-- The lock after a step of a call. -/
def lockAfter (lock : Option Nat) (i : Nat) (answer : Answer) (phase : Phase) : Option Nat :=
  match answer with
  | .lock => some i
  | _ => if phase.ended ∧ lock = some i then none else lock

/-- The text that `ssh-keygen -R` leaves of what it has read. -/
def kept (name text : Text) : Text :=
  unlines '\n' ((lines '\n' text).filter fun line => !keygen.finds name line)

/-- One step. -/
def step (s : Hosts) : Event → Option Hosts
  | .call i answer =>
      match s.calls[i]? with
      | none => none
      | some c =>
          let file := fileAfter s.file c answer
          (callStep keygen autoAdd s.file s.lock.isNone c answer).map fun phase =>
            { file := file
              lock := lockAfter s.lock i answer phase
              calls := (s.calls.map (noted keygen c.name s.text (file.getD []))).modify i
                fun c' => c'.moved keygen s.text phase
              removals := s.removals ++ if launches c answer then [⟨c.name, none, false⟩] else [] }
  | .removal i what =>
      match s.removals[i]? with
      | none => none
      | some r =>
          if r.ended then none
          else
            match what, r.read with
            | .read, none => some { s with removals := s.removals.set i { r with read := some s.text } }
            | .replace, some text =>
                some
                  { s with
                    file := some (kept keygen r.name text)
                    calls := s.calls.map (noted keygen r.name s.text (kept keygen r.name text))
                    removals := s.removals.set i { r with ended := true } }
            | .exit, _ => some { s with removals := s.removals.set i { r with ended := true } }
            | _, _ => none

/-- Calls over one file; none of them has begun. -/
def hostKeySystem : System Hosts Event where
  init s := s.lock = none ∧ s.removals = [] ∧ ∀ c ∈ s.calls, c.phase = .new ∧ c.changed = false
  step := step keygen autoAdd

/-- The name for which a step is done. -/
def actor (s : Hosts) : Event → Option Text
  | .call i _ => (s.calls[i]?).map Call.name
  | .removal i _ => (s.removals[i]?).map Removal.name

/-! ## What is to hold -/

/-- A step keeps the entries of every other host, and where it makes a refresh fail, the entries of
its host are what they were when the refresh began. -/
structure KeysKept (s : Hosts) (e : Event) (s' : Hosts) : Prop where
  others : ∀ name, (∀ a, actor s e = some a → ¬SameHost keygen name a) →
    (entries keygen s.text name).Sublist (entries keygen s'.text name)
  failed : ∀ (i : Nat) (c c' : Call) (failure : FetchFailure), s.calls[i]? = some c →
    s'.calls[i]? = some c' → c.refresh = true → c.phase.ended = false →
      c'.phase = .failed failure → entries keygen s'.text c'.name = c'.before

/-- Host keys are never lost, whatever happens. -/
def HostKeysNeverLost : Prop :=
  ∀ s, (hostKeySystem keygen autoAdd).Reachable s → ∀ e s', step keygen autoAdd s e = some s' →
    KeysKept keygen s e s'

/-- Why an answer makes a call raise `HostKeyFetchError`. -/
def Answer.failure : Answer → Option FetchFailure
  | directory failure => failure
  | keyscan available => if available then none else some .keyscanMissing
  | scan result =>
      match result.text with
      | .error e => some e
      | .ok _ => none
  | validation result => result.failure
  | write result => result.failure
  | _ => none

/-- The steps that do no harm. -/
def KeepsKeys (s : Hosts) : Event → Prop
  | .call i answer =>
      ∀ c, s.calls[i]? = some c →
        -- what is written stands on lines of its own, and they are the host's
        (∀ text write, c.phase = .appending text → answer = .write write →
          (write.part text = [] ∨ Terminated '\n' s.text) ∧
          ∀ line ∈ lines '\n' (write.part text), ∀ name, keygen.finds name line = true →
            SameHost keygen name c.name) ∧
        -- a refresh fails only where nothing was changed for its host
        (c.refresh = true → answer.failure ≠ none → c.changed = false ∧
          ∀ text write, c.phase = .appending text → answer = .write write → write.part text = [])
  | .removal i .replace =>
      ∀ r text, s.removals[i]? = some r → r.read = some text →
        -- the other lines of the file are those it has read, and no line is of two hosts
        ((lines '\n' s.text).filter fun line => !keygen.finds r.name line) =
            ((lines '\n' text).filter fun line => !keygen.finds r.name line) ∧
          ∀ line ∈ lines '\n' s.text, keygen.finds r.name line = true →
            ∀ name, keygen.finds name line = true → SameHost keygen name r.name
  | .removal _ _ => True

variable {keygen autoAdd} {s s' : Hosts} {e : Event}

/-! ## What a call does to the file -/

/-- **A call only ever appends to the file.** -/
theorem fileAfter_cases (file : Option Text) (c : Call) (answer : Answer) :
    (∃ text result, c.phase = .appending text ∧ answer = .write result ∧
        (fileAfter file c answer).getD [] = file.getD [] ++ result.part text) ∨
      (fileAfter file c answer).getD [] = file.getD [] := by
  cases answer with
  | write result =>
      cases hphase : c.phase with
      | appending text => exact Or.inl ⟨text, result, rfl, rfl, by simp [fileAfter, hphase]⟩
      | _ => exact Or.inr (by simp [fileAfter, hphase])
  | directory failure =>
      right
      cases failure with
      | none =>
          simp only [fileAfter]
          split_ifs
          · rfl
          · rfl
      | some e => rfl
  | _ => exact Or.inr rfl

/-- A presence test raises no `HostKeyFetchError`. -/
theorem afterTest_ne_failed {w : Surroundings} {c : Call} {absent : Phase} {failure : FetchFailure}
    (h : absent ≠ .failed failure) : afterTest keygen w c absent ≠ .failed failure := by
  unfold afterTest
  cases isPresent keygen w c.host c.port with
  | error e =>
      cases e
      simp
  | ok present =>
      cases present with
      | true => simp
      | false => exact h

/-- **A call raises `HostKeyFetchError` when an answer makes it do so.** -/
theorem callStep_failed {file : Option Text} {free : Bool} {c : Call} {answer : Answer}
    {failure : FetchFailure}
    (h : callStep keygen autoAdd file free c answer = some (.failed failure)) :
    answer.failure ≠ none ∧ c.phase ≠ .new := by
  cases answer with
  | go =>
      simp only [callStep] at h
      split_ifs at h
      · simp at h
      · simp at h
  | directory failure' =>
      cases failure' with
      | none =>
          simp only [callStep] at h
          split_ifs at h
          · simp at h
          · simp at h
      | some e =>
          simp only [callStep] at h
          split_ifs at h with hphase
          exact ⟨by simp [Answer.failure], by simp [hphase]⟩
  | test hasKeygen keygenFails readFails =>
      simp only [callStep] at h
      split_ifs at h
      · exact absurd (Option.some.inj h) (afterTest_ne_failed (by simp))
      · exact absurd (Option.some.inj h) (afterTest_ne_failed (by simp))
  | launch launch =>
      cases launch with
      | started =>
          simp only [callStep] at h
          split_ifs at h
          · simp at h
          · simp at h
      | _ =>
          simp only [callStep] at h
          split_ifs at h
          simp at h
  | awaited =>
      simp only [callStep] at h
      split_ifs at h
      simp at h
  | keyscan available =>
      simp only [callStep] at h
      split_ifs at h with hphase havailable
      · simp at h
      · exact ⟨by simp [Answer.failure, havailable], by simp [hphase]⟩
  | lock =>
      simp only [callStep] at h
      split_ifs at h
      · simp at h
      · simp at h
  | scan result =>
      simp only [callStep] at h
      split_ifs at h with hphase hnul
      · simp at h
      · refine ⟨?_, by simp [hphase]⟩
        cases htext : result.text with
        | error e => simp [Answer.failure, htext]
        | ok text => simp [htext] at h
  | validation result =>
      simp only [callStep] at h
      cases hphase : c.phase with
      | validating text =>
          refine ⟨?_, by simp⟩
          cases hfailure : result.failure with
          | none => simp [hphase, hfailure] at h
          | some e => simp [Answer.failure, hfailure]
      | _ => simp [hphase] at h
  | write result =>
      simp only [callStep] at h
      cases hphase : c.phase with
      | appending text =>
          refine ⟨?_, by simp⟩
          cases hfailure : result.failure with
          | none => simp [hphase, hfailure] at h
          | some e => simp [Answer.failure, hfailure]
      | _ => simp [hphase] at h

/-! ## Steps -/

/-- The step of a call. -/
theorem step_call {i : Nat} {answer : Answer} (h : step keygen autoAdd s (.call i answer) = some s') :
    ∃ c phase, s.calls[i]? = some c ∧
      callStep keygen autoAdd s.file s.lock.isNone c answer = some phase ∧
      s'.text = (fileAfter s.file c answer).getD [] ∧
      s'.calls = (s.calls.map (noted keygen c.name s.text s'.text)).modify i
        fun c' => c'.moved keygen s.text phase := by
  simp only [step] at h
  cases hc : s.calls[i]? with
  | none => simp [hc] at h
  | some c =>
      simp only [hc] at h
      rcases Option.map_eq_some_iff.mp h with ⟨phase, hphase, rfl⟩
      exact ⟨c, phase, rfl, hphase, rfl, rfl⟩

/-- A removal rewrites the file, or leaves it and the calls alone. -/
theorem step_removal {i : Nat} {what : RemovalStep}
    (h : step keygen autoAdd s (.removal i what) = some s') :
    (∃ r text, what = .replace ∧ s.removals[i]? = some r ∧ r.read = some text ∧
        s'.text = kept keygen r.name text ∧
        s'.calls = s.calls.map (noted keygen r.name s.text s'.text)) ∨
      s'.text = s.text ∧ s'.calls = s.calls := by
  simp only [step] at h
  cases hr : s.removals[i]? with
  | none => simp [hr] at h
  | some r =>
      simp only [hr] at h
      by_cases hended : r.ended = true
      · simp [hended] at h
      · rw [if_neg hended] at h
        cases what with
        | read =>
            cases hread : r.read with
            | none =>
                simp only [hread, Option.some.injEq] at h
                rw [← h]
                exact Or.inr ⟨rfl, rfl⟩
            | some text => simp [hread] at h
        | replace =>
            cases hread : r.read with
            | none => simp [hread] at h
            | some text =>
                simp only [hread, Option.some.injEq] at h
                rw [← h]
                exact Or.inl ⟨r, text, rfl, rfl, hread, rfl, rfl⟩
        | exit =>
            simp only [Option.some.injEq] at h
            rw [← h]
            exact Or.inr ⟨rfl, rfl⟩

/-- The lines that `ssh-keygen -R` leaves. -/
theorem lines_kept (name text : Text) :
    lines '\n' (kept keygen name text) =
      (lines '\n' text).filter fun line => !keygen.finds name line := by
  refine lines_unlines ?_
  intro line hline
  exact notMem_of_mem_lines (List.mem_filter.mp hline).1

/-- What is written for a host adds no entry to another one. -/
theorem entries_append {text part name own : Text}
    (hplace : part = [] ∨ Terminated '\n' text)
    (hown : ∀ line ∈ lines '\n' part, ∀ name, keygen.finds name line = true →
      SameHost keygen name own) (hother : ¬SameHost keygen name own) :
    entries keygen (text ++ part) name = entries keygen text name := by
  rcases hplace with rfl | hterminated
  · rw [List.append_nil]
  · have hnone : (lines '\n' part).filter (keygen.finds name) = [] := by
      rw [List.filter_eq_nil_iff]
      intro line hline hfinds
      exact hother (hown line hline name hfinds)
    rw [entries, lines_append hterminated, List.filter_append, hnone, List.append_nil]
    rfl

/-- A removal that has read the lines of the other hosts puts them back. -/
theorem entries_kept {text read own name : Text}
    (hsame : ((lines '\n' text).filter fun line => !keygen.finds own line) =
      (lines '\n' read).filter fun line => !keygen.finds own line)
    (hown : ∀ line ∈ lines '\n' text, keygen.finds own line = true →
      ∀ name, keygen.finds name line = true → SameHost keygen name own)
    (hother : ¬SameHost keygen name own) :
    entries keygen (kept keygen own read) name = entries keygen text name := by
  rw [entries, lines_kept, ← hsame, List.filter_filter, entries]
  refine List.filter_congr ?_
  intro line hline
  by_cases hfinds : keygen.finds name line = true
  · have hnot : keygen.finds own line = false := by
      by_contra hown'
      exact hother (hown line hline (by simpa using hown') name hfinds)
    simp [hfinds, hnot]
  · simp [hfinds]

/-- **A step that does no harm leaves the entries of every other host.** -/
theorem entries_others (hkeep : KeepsKeys keygen s e) (hstep : step keygen autoAdd s e = some s')
    {name : Text} (hother : ∀ a, actor s e = some a → ¬SameHost keygen name a) :
    entries keygen s'.text name = entries keygen s.text name := by
  cases e with
  | call i answer =>
      rcases step_call hstep with ⟨c, phase, hc, _, htext, _⟩
      have hname : ¬SameHost keygen name c.name := hother c.name (by simp [actor, hc])
      rcases fileAfter_cases s.file c answer with ⟨text, result, hphase, hanswer, hfile⟩ | hfile
      · have hwrite := (hkeep c hc).1 text result hphase hanswer
        rw [htext, hfile]
        exact entries_append hwrite.1 hwrite.2 hname
      · rw [htext, hfile]
        rfl
  | removal i what =>
      rcases step_removal hstep with ⟨r, text, rfl, hr, hread, htext, _⟩ | ⟨htext, _⟩
      · have hname : ¬SameHost keygen name r.name := hother r.name (by simp [actor, hr])
        have hreplace := hkeep r text hr hread
        rw [htext]
        exact entries_kept hreplace.1 hreplace.2 hname
      · rw [htext]

/-! ## Runs -/

/-- A call for whose host nothing has changed finds the entries that it began with. -/
def Undisturbed (keygen : SshKeygen) (text : Text) (c : Call) : Prop :=
  c.phase ≠ .new → c.changed = false → entries keygen text c.name = c.before

theorem noted_fields (keygen : SshKeygen) (name before after : Text) (c : Call) :
    (noted keygen name before after c).name = c.name ∧
      (noted keygen name before after c).phase = c.phase ∧
      (noted keygen name before after c).before = c.before ∧
      (noted keygen name before after c).refresh = c.refresh := by
  unfold noted
  split_ifs
  · exact ⟨rfl, rfl, rfl, rfl⟩
  · exact ⟨rfl, rfl, rfl, rfl⟩

/-- **A call that has not noted a change has the same entries before and after.** -/
theorem entries_of_unchanged {own before after : Text} {c : Call} (hphase : c.phase ≠ .new)
    (hothers : ¬SameHost keygen c.name own →
      entries keygen after c.name = entries keygen before c.name)
    (h : (noted keygen own before after c).changed = false) :
    c.changed = false ∧ entries keygen after c.name = entries keygen before c.name := by
  by_cases hsame : SameHost keygen c.name own
  · by_cases heq : entries keygen after c.name = entries keygen before c.name
    · rw [noted, if_neg fun hnoted => hnoted.2.2 heq] at h
      exact ⟨h, heq⟩
    · rw [noted, if_pos ⟨hsame, hphase, heq⟩] at h
      exact absurd h (by simp)
  · rw [noted, if_neg fun hnoted => hsame hnoted.1] at h
    exact ⟨h, hothers hsame⟩

/-- A step of some host keeps the other calls undisturbed. -/
theorem Undisturbed.noted {own before after : Text} {c : Call} (h : Undisturbed keygen before c)
    (hothers : ¬SameHost keygen c.name own →
      entries keygen after c.name = entries keygen before c.name) :
    Undisturbed keygen after (noted keygen own before after c) := by
  have hfields := noted_fields keygen own before after c
  intro hphase hchanged
  rw [hfields.2.1] at hphase
  rcases entries_of_unchanged hphase hothers hchanged with ⟨hold, heq⟩
  rw [hfields.1, hfields.2.2.1, heq]
  exact h hphase hold

/-- Every call is undisturbed. -/
def AllUndisturbed (keygen : SshKeygen) (s : Hosts) : Prop :=
  ∀ c ∈ s.calls, Undisturbed keygen s.text c

/-- The call that takes the step stays undisturbed, too. -/
theorem undisturbed_moved {answer : Answer} {c : Call} {phase : Phase}
    (htext : s'.text = (fileAfter s.file c answer).getD [])
    (h : Undisturbed keygen s.text c) :
    Undisturbed keygen s'.text
      ((noted keygen c.name s.text s'.text c).moved keygen s.text phase) := by
  have hfields := noted_fields keygen c.name s.text s'.text c
  by_cases hnew : c.phase = .new
  · -- it has just looked at the file, and begins without changing it
    have hsame : s'.text = s.text := by
      rcases fileAfter_cases s.file c answer with ⟨text, result, hphase, _, _⟩ | hfile
      · rw [hnew] at hphase
        exact nomatch hphase
      · rw [htext, hfile]
        rfl
    intro _ _
    simp only [Call.moved, hfields.2.1, hnew, if_true]
    rw [hsame]
    rfl
  · have hothers : ¬SameHost keygen c.name c.name →
        entries keygen s'.text c.name = entries keygen s.text c.name := fun hne => absurd rfl hne
    have hnoted := h.noted hothers
    intro _ hchanged
    simp only [Call.moved, hfields.2.1, hnew, if_false]
    refine hnoted ?_ hchanged
    rw [hfields.2.1]
    exact hnew

/-- **A step that does no harm keeps every call undisturbed.** -/
theorem undisturbed_step (hkeep : KeepsKeys keygen s e) (h : AllUndisturbed keygen s)
    (hstep : step keygen autoAdd s e = some s') : AllUndisturbed keygen s' := by
  intro c' hmem
  rcases List.mem_iff_getElem?.mp hmem with ⟨j, hj⟩
  cases e with
  | call i answer =>
      rcases step_call hstep with ⟨c, phase, hc, _, htext, hcalls⟩
      rw [hcalls, List.getElem?_modify, List.getElem?_map] at hj
      rcases Option.map_eq_some_iff.mp hj with ⟨c₁, hc₁, hmoved⟩
      rcases Option.map_eq_some_iff.mp hc₁ with ⟨c₀, hc₀, rfl⟩
      by_cases hij : i = j
      · subst hij
        have hsame : c₀ = c := Option.some.inj (hc₀.symm.trans hc)
        rw [if_pos rfl] at hmoved
        rw [← hmoved, hsame]
        exact undisturbed_moved htext (h c (List.mem_of_getElem? hc))
      · rw [if_neg hij] at hmoved
        rw [← hmoved]
        refine (h c₀ (List.mem_of_getElem? hc₀)).noted ?_
        intro hother
        refine entries_others hkeep hstep ?_
        intro a ha
        have hname : c.name = a := by simpa [actor, hc] using ha
        rwa [← hname]
  | removal i what =>
      rcases step_removal hstep with ⟨r, text, rfl, hr, hread, htext, hcalls⟩ | ⟨htext, hcalls⟩
      · rw [hcalls, List.getElem?_map] at hj
        rcases Option.map_eq_some_iff.mp hj with ⟨c₀, hc₀, rfl⟩
        refine (h c₀ (List.mem_of_getElem? hc₀)).noted ?_
        intro hother
        refine entries_others hkeep hstep ?_
        intro a ha
        have hname : r.name = a := by simpa [actor, hr] using ha
        rwa [← hname]
      · rw [hcalls] at hj
        rw [htext]
        exact h c' (List.mem_of_getElem? hj)

theorem undisturbed_of_reach
    (hs : (hostKeySystem keygen autoAdd).Reach (KeepsKeys keygen) s) : AllUndisturbed keygen s := by
  refine hs.invariant ?_ ?_
  · intro s hinit c hc hphase
    exact absurd (hinit.2.2 c hc).1 hphase
  · intro s e s' h hkeep hstep
    exact undisturbed_step hkeep h hstep

/-- A refresh that a harmless step makes fail has changed nothing. -/
theorem text_of_failed {i : Nat} {answer : Answer} {c : Call} {failure : FetchFailure}
    (hkeep : KeepsKeys keygen s (.call i answer)) (hc : s.calls[i]? = some c)
    (hrefresh : c.refresh = true)
    (hphase : callStep keygen autoAdd s.file s.lock.isNone c answer = some (.failed failure)) :
    c.phase ≠ .new ∧ c.changed = false ∧ (fileAfter s.file c answer).getD [] = s.text := by
  rcases callStep_failed hphase with ⟨hfailure, hnew⟩
  rcases (hkeep c hc).2 hrefresh hfailure with ⟨hchanged, hpart⟩
  refine ⟨hnew, hchanged, ?_⟩
  rcases fileAfter_cases s.file c answer with ⟨text, result, happending, hanswer, hfile⟩ | hfile
  · rw [hfile, hpart text result happending hanswer, List.append_nil]
    rfl
  · exact hfile

/-- **When no host key is lost**: in every run whose steps do no harm, each step keeps the entries
of the other hosts, and a refresh that fails leaves the entries of its host as they were. -/
theorem host_keys_kept (keygen : SshKeygen) (autoAdd : Bool) {s s' : Hosts} {e : Event}
    (hs : (hostKeySystem keygen autoAdd).Reach (KeepsKeys keygen) s) (hkeep : KeepsKeys keygen s e)
    (hstep : step keygen autoAdd s e = some s') : KeysKept keygen s e s' where
  others := by
    intro name hother
    rw [entries_others hkeep hstep hother]
  failed := by
    intro j c c' failure hc hc' hrefresh hunder hfailed
    cases e with
    | call i answer =>
        rcases step_call hstep with ⟨c₀, phase, hc₀, hphase, htext, hcalls⟩
        rw [hcalls, List.getElem?_modify, List.getElem?_map, hc] at hc'
        rcases Option.map_eq_some_iff.mp hc' with ⟨c₁, hc₁, hmoved⟩
        have hnoted : noted keygen c₀.name s.text s'.text c = c₁ := Option.some.inj hc₁
        have hfields := noted_fields keygen c₀.name s.text s'.text c
        by_cases hij : i = j
        · subst hij
          have hsame : c₀ = c := Option.some.inj (hc₀.symm.trans hc)
          rw [if_pos rfl, ← hnoted] at hmoved
          rw [hsame] at hphase htext hfields hmoved
          rw [← hmoved] at hfailed ⊢
          have hfailure : phase = .failed failure := hfailed
          rw [hfailure] at hphase
          rcases text_of_failed hkeep hc hrefresh hphase with ⟨hnew, hchanged, hfile⟩
          rw [hfile] at htext
          have hbefore := undisturbed_of_reach hs c (List.mem_of_getElem? hc) hnew hchanged
          show entries keygen s'.text (noted keygen c.name s.text s'.text c).name = _
          rw [hfields.1, htext, hbefore]
          simp only [Call.moved, (noted_fields keygen c.name s.text s.text c).2.1, hnew, if_false]
          exact (noted_fields keygen c.name s.text s.text c).2.2.1.symm
        · rw [if_neg hij] at hmoved
          have hphase' : c'.phase = c.phase := by
            rw [← hmoved, ← hnoted]
            exact hfields.2.1
          rw [← hphase', hfailed] at hunder
          exact nomatch hunder
    | removal i what =>
        have hphase' : c'.phase = c.phase := by
          rcases step_removal hstep with ⟨r, text, _, _, _, _, hcalls⟩ | ⟨_, hcalls⟩
          · rw [hcalls, List.getElem?_map, hc] at hc'
            rw [← Option.some.inj hc']
            exact (noted_fields keygen r.name s.text s'.text c).2.1
          · rw [hcalls, hc] at hc'
            rw [Option.some.inj hc']
        rw [← hphase', hfailed] at hunder
        exact nomatch hunder

/-! ## Two refreshes that fail -/

/-- A file with one line and a call that has not begun. -/
def oneCall (line : String) (call : Call) : Hosts := ⟨some (line.toList ++ ['\n']), none, [call], []⟩

/-- A refresh up to its wait for `ssh-keygen -R`, which has read the file. -/
def untilRead : List Event :=
  [.call 0 .go, .call 0 (.directory none), .call 0 (.launch .started), .removal 0 .read]

/-- A refresh from the end of `ssh-keygen -R` to its fetch. -/
def untilFetch : List Event :=
  [.call 0 .awaited, .call 0 (.keyscan true), .call 0 .lock]

/-- An answer that neither fails nor writes does no harm. -/
theorem keepsKeys_of_quiet {answer : Answer} (i : Nat) (hfailure : answer.failure = none)
    (hwrite : ∀ result, answer ≠ .write result) : KeepsKeys keygen s (.call i answer) := by
  intro c _
  refine ⟨?_, ?_⟩
  · intro text result _ hanswer
    exact absurd hanswer (hwrite result)
  · intro _ hne
    exact absurd hfailure hne

theorem keepsKeys_untilRead : ∀ e ∈ untilRead, ∀ s, KeepsKeys keygen s e := by
  intro e he s
  simp only [untilRead, List.mem_cons, List.not_mem_nil, or_false] at he
  rcases he with rfl | rfl | rfl | rfl
  · exact keepsKeys_of_quiet 0 rfl (by simp)
  · exact keepsKeys_of_quiet 0 rfl (by simp)
  · exact keepsKeys_of_quiet 0 rfl (by simp)
  · trivial

theorem keepsKeys_untilFetch : ∀ e ∈ untilFetch, ∀ s, KeepsKeys keygen s e := by
  intro e he s
  simp only [untilFetch, List.mem_cons, List.not_mem_nil, or_false] at he
  rcases he with rfl | rfl | rfl
  · exact keepsKeys_of_quiet 0 rfl (by simp)
  · exact keepsKeys_of_quiet 0 rfl (by simp)
  · exact keepsKeys_of_quiet 0 rfl (by simp)

/-- A refresh of `a`, over a file with an entry of some host. -/
def refreshOver (line : String) : Hosts :=
  oneCall line { host := "a", port := 22, refresh := true }

theorem init_refreshOver (line : String) :
    (hostKeySystem plainKeygen true).init (refreshOver line) := by
  refine ⟨rfl, rfl, ?_⟩
  intro c hc
  rw [List.mem_singleton.mp hc]
  exact ⟨rfl, rfl⟩

/-- The file has an entry of another host, and `ssh-keygen -R` has read it. -/
def otherRead : Hosts :=
  ((hostKeySystem plainKeygen true).exec (refreshOver "b ssh-ed25519 AAAA") untilRead).get
    (by decide)

/-- It has found nothing to drop. -/
def otherReplaced : Hosts :=
  (step plainKeygen true otherRead (.removal 0 .replace)).get (by decide)

/-- The refresh fetches. -/
def otherFetching : Hosts :=
  ((hostKeySystem plainKeygen true).exec otherReplaced untilFetch).get (by decide)

/-- The fetch times out. -/
def otherFailed : Hosts :=
  (step plainKeygen true otherFetching (.call 0 (.scan .timeout))).get (by decide)

theorem reach_otherFetching :
    (hostKeySystem plainKeygen true).Reach (KeepsKeys plainKeygen) otherFetching := by
  have hread : (hostKeySystem plainKeygen true).Reach (KeepsKeys plainKeygen) otherRead :=
    System.Reach.exec_of (.start (init_refreshOver "b ssh-ed25519 AAAA")) keepsKeys_untilRead
      (Option.some_get _).symm
  have hreplace : KeepsKeys plainKeygen otherRead (.removal 0 .replace) := by
    intro r text hr htext
    have hremoval : otherRead.removals[0]?.bind Removal.read = some otherRead.text := by
      decide
    have hname : otherRead.removals[0]?.map Removal.name = some ['a'] := by decide
    rw [hr] at hremoval hname
    have hsame : text = otherRead.text := Option.some.inj (htext.symm.trans hremoval)
    have hown : r.name = ['a'] := Option.some.inj hname
    rw [hsame, hown]
    refine ⟨rfl, ?_⟩
    intro line hline hfinds
    have hnone : ∀ line ∈ lines '\n' otherRead.text, plainKeygen.finds ['a'] line = false := by
      decide
    rw [hnone line hline] at hfinds
    exact absurd hfinds (by simp)
  have hreplaced : (hostKeySystem plainKeygen true).Reach (KeepsKeys plainKeygen) otherReplaced :=
    .next hread hreplace (Option.some_get _).symm
  exact hreplaced.exec_of keepsKeys_untilFetch (Option.some_get _).symm

theorem host_keys_kept_other :
    KeysKept plainKeygen otherFetching (.call 0 (.scan .timeout)) otherFailed := by
  refine host_keys_kept plainKeygen true reach_otherFetching ?_ (Option.some_get _).symm
  intro c hc
  have hchanged : otherFetching.calls[0]?.map Call.changed = some false := by decide
  rw [hc] at hchanged
  refine ⟨?_, ?_⟩
  · intro text result _ hanswer
    exact nomatch hanswer
  · intro _ _
    refine ⟨Option.some.inj hchanged, ?_⟩
    intro text result _ hanswer
    exact nomatch hanswer

/-- The file has an entry of the host itself, and the refresh waits for its fetch. -/
def ownFetching : Hosts :=
  ((hostKeySystem plainKeygen true).exec (refreshOver "a ssh-ed25519 AAAA")
    (untilRead ++ .removal 0 .replace :: untilFetch)).get (by decide)

/-- The fetch times out. -/
def ownFailed : Hosts :=
  (step plainKeygen true ownFetching (.call 0 (.scan .timeout))).get (by decide)

/-- **A refresh whose fetch fails has lost the old key.** -/
theorem not_hostKeysNeverLost : ¬HostKeysNeverLost plainKeygen true := by
  intro h
  have hreach : (hostKeySystem plainKeygen true).Reachable ownFetching :=
    System.reachable_of_exec (init_refreshOver "a ssh-ed25519 AAAA") (Option.some_get _).symm
  have hkept := h ownFetching hreach (.call 0 (.scan .timeout)) ownFailed (Option.some_get _).symm
  have hlost := hkept.failed 0 (ownFetching.calls[0]?.get (by decide))
    (ownFailed.calls[0]?.get (by decide)) .keyscanTimeout (Option.some_get _).symm
    (Option.some_get _).symm (by decide) (by decide) (by decide)
  revert hlost
  decide

end KnownHosts
end NodeNexus
