import Mathlib.Data.List.TakeWhile
import NodeNexus.Docker.CommandLines

/-!
# Compose projects

The line by which `ComposeService` writes a compose file on a node and runs docker compose on
it, and what a shell makes of it.

* `runComposeLine` — `_run_compose`.
* `runLine_runCompose` — the file is written, and one command is started, whatever the
  environment of the project is.
* `runsProject_iff` — the command is docker compose with the environment of the project
  exactly when its keys are names of variables.
-/

namespace NodeNexus
namespace Docker

open Content Node Config Shell
open NodeNexus.Core

/-! ## Projects -/

/-- `_validate_project_name` lets the name pass. -/
def validProjectName (name : String) : Bool :=
  name ≠ "" && referenceRe name && name.length ≤ 100

/-- A project as `ComposeCreate` and `create_project` accept it. -/
structure ComposeProject where
  projectName : String
  compose : String
  env : List (String × String)
  name_ok : safeNameIn 1 100 projectName = true ∧ validProjectName projectName = true
  compose_ok : 1 ≤ compose.length ∧ compose.length ≤ 1048576
  /-- It is a dict. -/
  env_ok : (env.map Prod.fst).Nodup

/-- `_compose_file_path`, in the directory for temporary files; `suffix` is drawn for each
call. -/
def composeFilePath (isAlnum : Char → Bool) (tempDir suffix projectName : String) : String :=
  tempDir ++ "/" ++ "nn-compose-" ++
    String.ofList (projectName.toList.map fun c => if isAlnum c then c else '_') ++ "-" ++
    suffix ++ ".yml"

/-- `_env_prefix`. -/
def envPrefix (env : List (String × String)) : String :=
  if env = [] then ""
  else " ".intercalate (env.map fun kv => shlexQuote kv.1 ++ "=" ++ shlexQuote kv.2) ++ " "

/-- The calls of `_run_compose`.  The texts that may be left out are left out when they are
empty, too. -/
inductive ComposeCall where
  | up (pull build : Bool) (service : Option String)
  | down (volumes removeOrphans : Bool) (images : Option String) (timeout : Option Int)
  /-- One of `_ALLOWED_COMPOSE_VERBS`, with the options that its handler has. -/
  | verb (name : String) (options : List String) (service : Option String)
  /-- The signal is not quoted: here it is one that needs no quotes. -/
  | kill (signal : String) (signal_safe : Safe signal.toList) (service : Option String)
  | ps (all : Bool)
  | logs (tail : Int) (since services : Option String)
  | config
  | images
  | configImages
  | top (service : Option String)
  | port (service privatePort : String)
  | version
  | exec (service command : String)
  | run (detached : Bool) (service : String) (command : Option String)

namespace ComposeCall

/-- A text that is not left out. -/
def present (text : Option String) : List String := (text.filter (· ≠ "")).toList

/-- The words that follow the file. -/
def words : ComposeCall → List String
  | up pull build service =>
      ["up", "-d"] ++ (if pull then ["--pull", "always"] else []) ++
        (if build then ["--build"] else []) ++ service.toList
  | down volumes removeOrphans rmi timeout =>
      ["down"] ++ (if volumes then ["-v"] else []) ++
        (if removeOrphans then ["--remove-orphans"] else []) ++
        (present rmi).flatMap (fun rmi => ["--rmi", rmi]) ++
        timeout.toList.flatMap (fun timeout => ["-t", toString timeout])
  | verb name options service => [name] ++ options ++ service.toList
  | kill signal _ service => ["kill", "-s", signal] ++ service.toList
  | ps all => ["ps", "--format", "json"] ++ if all then ["-a"] else []
  | logs tail since services =>
      ["logs", "--tail", toString tail] ++
        (present since).flatMap (fun since => ["--since", since]) ++ present services
  | config => ["config"]
  | images => ["images", "--format", "json"]
  | configImages => ["config", "--images"]
  | top service => ["top"] ++ present service
  | port service privatePort => ["port", service, privatePort]
  | version => ["version", "--short"]
  | exec service command => ["exec", "-T", service, "sh", "-c", command]
  | run detached service command =>
      ["run", if detached then "-d" else "--rm", service] ++ present command

/-- `compose_args`.  The words that the source writes out need no quotes: each is its own
quoted text.  Two callers begin with a blank. -/
def args (call : ComposeCall) : String :=
  match call with
  | up .. | down .. => " " ++ joinQuoted call.words
  | _ => joinQuoted call.words

theorem reads_args (call : ComposeCall) :
    Reads (symbols call.args) (Docker.words call.words) := by
  have hlead : Reads (symbols (" " ++ joinQuoted call.words)) (Docker.words call.words) := by
    have hblank := Reads.blank (s := "") Reads.nil (reads_words call.words)
    simpa using hblank
  cases call with
  | up pull build service => exact hlead
  | down volumes removeOrphans rmi timeout => exact hlead
  | _ => exact reads_words _

end ComposeCall

/-- The line of `_run_compose`. -/
def runComposeLine (dockerHost : Option String) (filePath : String) (project : ComposeProject)
    (composeArgs : String) : String :=
  let b64 := String.ofList (Base64.encode (Utf8.encode project.compose.toList))
  let writeCmd := "printf %s " ++ shlexQuote b64 ++ " | base64 -d > " ++ shlexQuote filePath
  let dockerArgs := "compose -p " ++ shlexQuote project.projectName ++ " -f " ++
    shlexQuote filePath ++ " " ++ composeArgs
  let dockerCmd := buildDockerCommand dockerHost dockerArgs
  writeCmd ++ " && " ++ envPrefix project.env ++ dockerCmd

/-! ## How the line is read -/

/-- The assignments of an environment are one word each. -/
theorem reads_envPrefix (env : List (String × String)) {rest : String}
    {tokens : List (Token Empty)} (h : Reads (symbols rest) tokens) :
    Reads (symbols (envPrefix env ++ rest))
      (env.map (fun kv => .word (assignmentParts kv)) ++ tokens) := by
  induction env with
  | nil => simpa [envPrefix] using h
  | cons kv env ih =>
      have hword := (piece_assignment kv).reads
      have htext : envPrefix (kv :: env) ++ rest =
          shlexQuote kv.1 ++ "=" ++ shlexQuote kv.2 ++ " " ++ (envPrefix env ++ rest) := by
        cases env with
        | nil => simp [envPrefix]
        | cons kv' env =>
            simp [envPrefix, String.intercalate_cons_cons, String.append_assoc]
      have hline := Reads.blank hword ih
      rw [htext]
      exact hline

/-- The words of the docker compose command. -/
def composeWords (filePath : String) (project : ComposeProject) (args : List String) :
    List String :=
  ["docker", "compose", "-p", project.projectName, "-f", filePath] ++ args

theorem composeWords_cons (filePath : String) (project : ComposeProject) (args : List String) :
    composeWords filePath project args =
      "docker" :: (["compose", "-p", project.projectName, "-f", filePath] ++ args) :=
  rfl

/-- The tokens of the line. -/
def composeTokens (dockerHost : Option String) (filePath : String) (project : ComposeProject)
    (args : List String) : List (Token Empty) :=
  words ["printf", "%s",
    String.ofList (Base64.encode (Utf8.encode project.compose.toList))] ++
    [.operator ['|']] ++ words ["base64", "-d"] ++ [.operator ['>']] ++ words [filePath] ++
    [.operator ['&', '&']] ++
    ((project.env ++ hostAssignment dockerHost).map fun kv => .word (assignmentParts kv)) ++
    words (composeWords filePath project args)

theorem reads_runComposeLine (dockerHost : Option String) (filePath : String)
    (project : ComposeProject) {composeArgs : String} {args : List String}
    (hargs : Reads (symbols composeArgs) (words args)) :
    Reads (symbols (runComposeLine dockerHost filePath project composeArgs))
      (composeTokens dockerHost filePath project args) := by
  obtain ⟨hpipe, hto, hand⟩ := reads_operators
  have hbase64 : joinQuoted ["base64", "-d"] = "base64 -d" := by decide
  have hpath : joinQuoted [filePath] = shlexQuote filePath := by simp [joinQuoted]
  have hcompose : joinQuoted ["compose", "-p", project.projectName, "-f", filePath] =
      "compose -p " ++ shlexQuote project.projectName ++ " -f " ++ shlexQuote filePath := by
    have h : shlexQuote "compose" = "compose" ∧ shlexQuote "-p" = "-p" ∧
      shlexQuote "-f" = "-f" := by decide
    rw [← String.toList_inj]
    simp [joinQuoted, h, String.intercalate_cons_cons]
  have hdocker := reads_buildDockerCommand dockerHost
    (Reads.blank (reads_words ["compose", "-p", project.projectName, "-f", filePath]) hargs)
  have hwrite := Reads.blank (Reads.blank (Reads.blank (Reads.blank (reads_words ["printf", "%s",
    String.ofList (Base64.encode (Utf8.encode project.compose.toList))]) hpipe)
    (reads_words ["base64", "-d"])) hto) (reads_words [filePath])
  have hline := Reads.blank (Reads.blank hwrite hand) (reads_envPrefix project.env hdocker)
  unfold runComposeLine
  rw [joinQuoted_printf, hbase64, hpath, hcompose] at hline
  have htext : ∀ b p e d : String, "printf %s " ++ b ++ " " ++ "|" ++ " " ++ "base64 -d" ++ " " ++
      ">" ++ " " ++ p ++ " " ++ "&&" ++ " " ++ (e ++ d) =
      "printf %s " ++ b ++ " | base64 -d > " ++ p ++ " && " ++ e ++ d := by
    intro b p e d
    rw [← String.toList_inj]
    simp
  rw [htext] at hline
  unfold composeTokens composeWords
  simpa [words, List.append_assoc] using hline

/-! ## How the line is parsed -/

/-- The command that is started. -/
def composeCommand (dockerHost : Option String) (filePath : String) (project : ComposeProject)
    (args : List String) : Command where
  words := (project.env ++ hostAssignment dockerHost).map wordOfPair ++
    (composeWords filePath project args).map wordOf
  target := none

theorem parse_composeTokens (dockerHost : Option String) (filePath : String)
    (project : ComposeProject) (args : List String) :
    parse (composeTokens dockerHost filePath project args) =
      some [[⟨["printf", "%s",
          String.ofList (Base64.encode (Utf8.encode project.compose.toList))].map wordOf, none⟩,
        ⟨["base64", "-d"].map wordOf, some filePath.toList⟩],
        [composeCommand dockerHost filePath project args]] := by
  have hlast : parse (words (composeWords filePath project args)) =
      some [[⟨(composeWords filePath project args).map wordOf, none⟩]] := by
    have h := parse_words (composeWords filePath project args) []
    rw [List.append_nil] at h
    rw [h]
    simp [parse, foldr_addWord]
  unfold composeTokens
  simp only [List.append_assoc]
  rw [parse_words]
  simp only [List.singleton_append, parse]
  rw [parse_words]
  simp only [words, List.map_cons, List.map_nil, List.cons_append, List.nil_append, parse,
    wordText_quotedParts]
  have hpairs := parse_pairs (project.env ++ hostAssignment dockerHost)
    (words (composeWords filePath project args))
  rw [hlast] at hpairs
  simp only [words] at hpairs
  rw [hpairs]
  simp [foldr_addWord, addStage, addWord, setTarget, composeCommand]

/-! ## What the line does -/

/-- A long command is not one of the utilities. -/
theorem utility_long (input : List UInt8) {argv : List (List Char)} (h : 3 < argv.length) :
    utility input argv = none := by
  match argv, h with
  | _ :: _ :: _ :: _ :: _, _ => rfl

theorem dropWhile_length (p : Word → Bool) (ws ws' : List Word) (w : Word) (h : p w = false) :
    ws'.length < ((ws ++ w :: ws').dropWhile p).length := by
  rw [List.dropWhile_append]
  split
  · simp [h]
  · simp
    omega

/-- The file is written, and one command is started. -/
theorem runLine_runCompose (env : Env) (dockerHost : Option String) (filePath : String)
    (project : ComposeProject) {composeArgs : String} {args : List String}
    (hargs : Reads (symbols composeArgs) (words args)) :
    runLine env (runComposeLine dockerHost filePath project composeArgs).toList =
      some [.write filePath.toList (Utf8.encode project.compose.toList),
        .start (env.update (composeCommand dockerHost filePath project args).assignments)
          (composeCommand dockerHost filePath project args).argv] := by
  have hread := (reads_runComposeLine dockerHost filePath project hargs).readQuotes
  have hprintf := argv_words ["%s",
    String.ofList (Base64.encode (Utf8.encode project.compose.toList))] none
    (show (assignment (quotedParts "printf")).isSome = false by decide)
  have hbase64 := argv_words ["-d"] (some filePath.toList)
    (show (assignment (quotedParts "base64")).isSome = false by decide)
  have hdocker : (wordOf "docker").assigns.isSome = false := by decide
  have hlong : 3 < (composeCommand dockerHost filePath project args).argv.length := by
    have hlength := dropWhile_length (fun w => w.assigns.isSome)
      ((project.env ++ hostAssignment dockerHost).map wordOfPair)
      ((["compose", "-p", project.projectName, "-f", filePath] ++ args).map wordOf) _ hdocker
    simp only [composeCommand, composeWords, Command.argv, List.length_map, List.cons_append,
      List.nil_append, List.map_cons, List.length_cons] at hlength ⊢
    omega
  have hwrite : utility [] (["printf", "%s", String.ofList
      (Base64.encode (Utf8.encode project.compose.toList))].map String.toList) =
      some (Utf8.encode (Base64.encode (Utf8.encode project.compose.toList))) := by
    simp [utility]
  have hdecode : utility (Utf8.encode (Base64.encode (Utf8.encode project.compose.toList)))
      (["base64", "-d"].map String.toList) = some (Utf8.encode project.compose.toList) := by
    simp [utility, Utf8.decode_encode, Base64.decode_encode]
  unfold runLine
  change (parse (readQuotes (symbols (runComposeLine dockerHost filePath project
    composeArgs)))).map _ = _
  rw [hread, parse_composeTokens]
  simp only [Option.map_some, List.flatMap_cons, List.flatMap_nil, runPipeline, hprintf.1,
    hbase64.1, hwrite, hdecode, utility_long _ hlong, List.append_nil, List.singleton_append]

/-- The environment of the command: the one of the shell with the variables of the project,
and with the docker host of the node. -/
def expectedEnv (env : Env) (dockerHost : Option String) (project : ComposeProject) : Env :=
  (env.update (project.env.map fun kv => (kv.1.toList, kv.2.toList))).update
    ((hostAssignment dockerHost).map fun kv => (kv.1.toList, kv.2.toList))

/-- The line writes the compose file, and starts one command: docker compose with the name of
the project, the file and the arguments, in the environment of the project. -/
def RunsProject (dockerHost : Option String) (filePath : String) (project : ComposeProject)
    (composeArgs : String) (args : List String) : Prop :=
  ∀ env : Env, runLine env (runComposeLine dockerHost filePath project composeArgs).toList =
    some [.write filePath.toList (Utf8.encode project.compose.toList),
      .start (expectedEnv env dockerHost project)
        ((composeWords filePath project args).map String.toList)]

/-- Pairs whose keys are names are all assigned. -/
theorem composeCommand_names (dockerHost : Option String) (filePath : String)
    {project : ComposeProject} (args : List String)
    (h : ∀ kv ∈ project.env, isName kv.1.toList = true) :
    (composeCommand dockerHost filePath project args).assignments =
        (project.env ++ hostAssignment dockerHost).map (fun kv =>
          (kv.1.toList, kv.2.toList)) ∧
      (composeCommand dockerHost filePath project args).argv =
        (composeWords filePath project args).map String.toList := by
  have hnames : ∀ kv ∈ project.env ++ hostAssignment dockerHost, isName kv.1.toList = true := by
    intro kv hkv
    rcases List.mem_append.1 hkv with hkv | hkv
    · exact h kv hkv
    · exact isName_dockerHost kv hkv
  obtain ⟨hassignments, hargv⟩ := dockerCommand_reads hnames
    ((["compose", "-p", project.projectName, "-f", filePath] ++ args).map wordOf)
  refine ⟨hassignments, ?_⟩
  rw [composeWords_cons, List.map_cons]
  rw [List.map_map] at hargv
  exact hargv

/-- A key that is no name either is executed as a command, or is not set. -/
theorem not_runsProject {dockerHost : Option String} {filePath : String}
    {project : ComposeProject} {composeArgs : String} {args : List String}
    (hargs : Reads (symbols composeArgs) (words args)) {kv : String × String}
    (hkv : kv ∈ project.env) (hname : isName kv.1.toList = false) :
    ¬ RunsProject dockerHost filePath project composeArgs args := by
  intro hruns
  have hline := hruns fun _ => none
  rw [runLine_runCompose _ dockerHost filePath project hargs] at hline
  simp only [Option.some.injEq, List.cons.injEq, Effect.start.injEq, true_and, and_true] at hline
  obtain ⟨henv, hargv⟩ := hline
  by_cases hall : ∀ w ∈ project.env.map wordOfPair, w.assigns.isSome = true
  · -- every key is an assignment, but to a name: this key is set to nothing
    have hset : (expectedEnv (fun _ => none) dockerHost project kv.1.toList).isSome = true := by
      unfold expectedEnv
      rw [Env.update_notMem]
      · exact Env.update_mem _ (List.mem_map.2 ⟨(kv.1.toList, kv.2.toList),
          List.mem_map.2 ⟨kv, hkv, rfl⟩, rfl⟩)
      · intro hmem
        obtain ⟨pair, hpair, heq⟩ := List.mem_map.1 hmem
        obtain ⟨kv', hkv', rfl⟩ := List.mem_map.1 hpair
        have hhost := isName_dockerHost kv' hkv'
        rw [show kv'.1.toList = kv.1.toList from heq, hname] at hhost
        cases hhost
    have hunset : Env.update (fun _ => none)
        (composeCommand dockerHost filePath project args).assignments kv.1.toList = none := by
      refine Env.update_notMem _ fun hmem => ?_
      obtain ⟨pair, hpair, heq⟩ := List.mem_map.1 hmem
      obtain ⟨w, hw, hassigns⟩ := List.mem_filterMap.1 hpair
      have hwords := (List.takeWhile_subset _ hw :
        w ∈ (composeCommand dockerHost filePath project args).words)
      have hisName : isName pair.1 = true := by
        rcases List.mem_append.1 hwords with hw' | hw'
        · obtain ⟨kv', -, rfl⟩ := List.mem_map.1 hw'
          exact wordOfPair_isName hassigns
        · obtain ⟨s, -, rfl⟩ := List.mem_map.1 hw'
          exact wordOf_isName hassigns
      rw [heq, hname] at hisName
      cases hisName
    rw [henv, Option.eq_none_iff_forall_ne_some] at hunset
    obtain ⟨value, hvalue⟩ := Option.isSome_iff_exists.1 hset
    exact hunset value hvalue
  · -- the first key that is no assignment is the command
    have hne : (project.env.map wordOfPair).dropWhile (fun w => w.assigns.isSome) ≠ [] := by
      intro hnil
      exact hall (List.dropWhile_eq_nil_iff.1 hnil)
    obtain ⟨w, ws, hdrop⟩ := List.exists_cons_of_ne_nil hne
    have hw : w ∈ project.env.map wordOfPair := by
      apply List.dropWhile_subset (fun w : Word => w.assigns.isSome)
      rw [hdrop]
      exact List.mem_cons_self
    obtain ⟨kv', -, rfl⟩ := List.mem_map.1 hw
    rw [composeWords_cons] at hargv
    simp only [Command.argv, composeCommand, List.map_append, List.append_assoc,
      List.dropWhile_append, hdrop, List.isEmpty_cons, Bool.false_eq_true, if_false,
      List.cons_append, List.map_cons, List.cons.injEq] at hargv
    have hequals : '=' ∈ "docker".toList := by
      rw [← hargv.1]
      simp [wordOfPair]
    exact absurd hequals (by decide)

/-- **The line runs docker compose on the project exactly when each key of its environment is
the name of a variable.** -/
theorem runsProject_iff (isAlnum : Char → Bool) (tempDir suffix : String)
    (dockerHost : Option String) (project : ComposeProject) (call : ComposeCall) :
    RunsProject dockerHost (composeFilePath isAlnum tempDir suffix project.projectName) project
        call.args call.words ↔
      ∀ kv ∈ project.env, isName kv.1.toList = true := by
  have hargs := call.reads_args
  constructor
  · intro hruns kv hkv
    by_contra hname
    exact not_runsProject hargs hkv (by simpa using hname) hruns
  · intro hnames env
    obtain ⟨hassignments, hargv⟩ := composeCommand_names dockerHost
      (composeFilePath isAlnum tempDir suffix project.projectName) call.words hnames
    rw [runLine_runCompose env dockerHost _ project hargs, hassignments, hargv,
      List.map_append, Env.update_append]
    rfl

/-- A project whose environment has a key with a blank. -/
def blankKeyProject : ComposeProject where
  projectName := "shop"
  compose := "services: \x7b\x7d"
  env := [("my key", "1")]
  name_ok := by decide
  compose_ok := by decide
  env_ok := by decide

/-- A key with a blank is executed as a command. -/
theorem key_is_executed :
    ¬ RunsProject none "/tmp/nn-compose-shop-0a1b2c3d.yml" blankKeyProject
      (ComposeCall.config).args (ComposeCall.config).words :=
  not_runsProject (ComposeCall.config).reads_args List.mem_cons_self (by decide)

end Docker
end NodeNexus
