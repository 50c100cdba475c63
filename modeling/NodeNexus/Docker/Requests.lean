import NodeNexus.Docker.Bulk
import NodeNexus.Docker.CommandLines

/-!
# Docker requests as command lines

The lines that `create_container`, `rename_container`, `get_port`, `pull_image`,
`build_image` and `create_network` hand to the runtime, and what a shell and docker read in
them.

* `shlexSplit` — `shlex.split`.
* `DockerRequest.line` — the line of a request that its validators accept.
* `DockerRequest.Carried` — the line is the request and nothing else.
* `carried_iff` — it is so exactly for the requests whose operands do not begin with a dash,
  whose volumes have no colons, and whose image to pull has no line feed.
-/

namespace NodeNexus
namespace Docker

open Content Node Config Shell
open NodeNexus.Core

/-! ## Splitting a command -/

/-- The states of `shlex`, in and out of words. -/
inductive SplitState where
  | plain
  | quoted (quote : Char)
  /-- Behind a backslash, possibly between double quotes. -/
  | escaped (quote : Option Char)

/-- The tokens that `shlex` reads; `token` is the one under way.  An error is the text of a
`ValueError`. -/
def shlexSplitFrom (state : SplitState) (token : Option (List Char)) :
    List Char → Except String (List String)
  | [] => match state with
    | .plain => .ok (token.toList.map String.ofList)
    | .quoted _ => .error "No closing quotation"
    | .escaped _ => .error "No escaped character"
  | c :: cs => match state with
    | .plain =>
        if c = ' ' ∨ c = '\t' ∨ c = '\r' ∨ c = '\n' then
          (shlexSplitFrom .plain none cs).map (token.toList.map String.ofList ++ ·)
        else if c = '\'' ∨ c = '"' then shlexSplitFrom (.quoted c) (some (token.getD [])) cs
        else if c = '\\' then shlexSplitFrom (.escaped none) (some (token.getD [])) cs
        else shlexSplitFrom .plain (some (token.getD [] ++ [c])) cs
    | .quoted quote =>
        if c = quote then shlexSplitFrom .plain (some (token.getD [])) cs
        else if c = '\\' ∧ quote = '"' then shlexSplitFrom (.escaped (some quote)) token cs
        else shlexSplitFrom state (some (token.getD [] ++ [c])) cs
    | .escaped none => shlexSplitFrom .plain (some (token.getD [] ++ [c])) cs
    | .escaped (some quote) =>
        if c = '\\' ∨ c = quote then
          shlexSplitFrom (.quoted quote) (some (token.getD [] ++ [c])) cs
        else shlexSplitFrom (.quoted quote) (some (token.getD [] ++ ['\\', c])) cs

/-- `shlex.split`. -/
def shlexSplit (s : String) : Except String (List String) := shlexSplitFrom .plain none s.toList

example : (shlexSplit "sh -c 'echo \"a b\"' x\\ y").toOption =
    some ["sh", "-c", "echo \"a b\"", "x y"] := by
  decide

/-! ## Validators of mappings and lists -/

/-- Each entry is checked in turn. -/
def checkEach {α : Type} (check : α → Except NodeFailure Unit) :
    List α → Except NodeFailure (List α)
  | [] => .ok []
  | x :: xs => do
      check x
      let rest ← checkEach check xs
      .ok (x :: rest)

theorem checkEach_ok {α : Type} {check : α → Except NodeFailure Unit} {xs ys : List α}
    (h : checkEach check xs = .ok ys) : ys = xs ∧ ∀ x ∈ xs, check x = .ok () := by
  induction xs generalizing ys with
  | nil =>
      cases h
      exact ⟨rfl, by simp⟩
  | cons x xs ih =>
      simp only [checkEach] at h
      cases hx : check x with
      | error e =>
          rw [hx] at h
          cases h
      | ok u =>
          rw [hx] at h
          cases hxs : checkEach check xs with
          | error e =>
              rw [hxs] at h
              cases h
          | ok rest =>
              rw [hxs] at h
              cases h
              obtain ⟨rfl, hall⟩ := ih hxs
              exact ⟨rfl, List.forall_mem_cons.2 ⟨hx, hall⟩⟩

/-- `raise` if the check fails. -/
def require (ok : Bool) (message : String) : Except NodeFailure Unit :=
  if ok then .ok () else refuse message

theorem require_ok {ok : Bool} {message : String} (h : require ok message = .ok ()) :
    ok = true := by
  unfold require refuse at h
  split at h
  · assumption
  · cases h

/-- A check that does not raise is passed. -/
theorem require_bind_ok {α : Type} {ok : Bool} {message : String}
    {rest : Except NodeFailure α} {x : α}
    (h : (do require ok message; rest) = .ok x) : ok = true ∧ rest = .ok x := by
  cases ok with
  | false => cases h
  | true => exact ⟨rfl, h⟩

/-- `_HOST_PORT_RE`: `^\d+(?:-\d+)?$`, the whole text. -/
def hostPortRe (isDecimal : IsDecimal) (s : String) : Bool :=
  allOf isDecimal (s.toList.takeWhile (· ≠ '-')) &&
    (match s.toList.dropWhile (· ≠ '-') with
      | [] => true
      | _ :: port => allOf isDecimal port)

/-- `_PORT_SPEC_RE`: `^\d+(?:-\d+)?(?:/tcp|/udp)?$`, the whole text. -/
def portSpecRe (isDecimal : IsDecimal) (s : String) : Bool :=
  hostPortRe isDecimal (String.ofList (s.toList.takeWhile (· ≠ '/'))) &&
    (s.toList.dropWhile (· ≠ '/') ∈ [[], "/tcp".toList, "/udp".toList])

/-- `_ENV_VAR_RE`: `^[A-Za-z_][A-Za-z0-9_]*=.+$`, the whole text. -/
def envVarRe (s : String) : Bool :=
  isName (s.toList.takeWhile (· ≠ '=')) &&
    (match s.toList.dropWhile (· ≠ '=') with
      | [] => false
      | _ :: value => allOf (· ≠ '\n') value)

/-- `_LABEL_KEY_RE`, the whole text: letters, digits, underscores, dots, dashes and slashes, a
letter or a digit at either end. -/
def labelKeyRe (s : String) : Bool :=
  s.toList.head?.any Char.isAlphanum && s.toList.getLast?.any Char.isAlphanum &&
    s.toList.all fun c => isReferenceChar c || c = '/'

/-- `_VOLUME_PATH_RE`: `^[A-Za-z0-9_./~\-:]+$`, the whole text. -/
def volumePathRe (s : String) : Bool :=
  allOf (fun c => isImageChar c || c = '~') s.toList

namespace DockerServices

variable (env : DockerServices) (isDecimal : IsDecimal)

/-- `validate_restart_policy`. -/
def validateRestartPolicy (policy : String) : Except NodeFailure String :=
  if policy ∈ ["no", "always", "on-failure", "unless-stopped"] then .ok policy
  else refuse ("Invalid restart policy: " ++ Json.reprStr env.isPrintable policy ++ ". " ++
    "Allowed values: always, no, on-failure, unless-stopped.")

/-- `validate_port_mappings`, of the port of the container and the port of the host. -/
def validatePortMappings (ports : List (String × String)) :
    Except NodeFailure (List (String × String)) :=
  checkEach (fun port => do
    require (hostPortRe isDecimal port.2) ("Invalid host port mapping for " ++
      Json.reprStr env.isPrintable port.1 ++ ": " ++ Json.reprStr env.isPrintable port.2)
    require (portSpecRe isDecimal port.1) ("Invalid container port spec: " ++
      Json.reprStr env.isPrintable port.1)) ports

/-- `validate_env_vars`. -/
def validateEnvVars (entries : List String) : Except NodeFailure (List String) :=
  checkEach (fun entry => require (envVarRe entry) ("Invalid environment variable entry: " ++
    Json.reprStr env.isPrintable entry ++ ". " ++
    "Expected 'KEY=value' with KEY starting with a letter/underscore.")) entries

/-- `validate_labels`. -/
def validateLabels (labels : List (String × String)) :
    Except NodeFailure (List (String × String)) :=
  checkEach (fun label => require (labelKeyRe label.1) ("Invalid label key: " ++
    Json.reprStr env.isPrintable label.1)) labels

/-- `validate_volume_mounts`, of the path on the host, the path in the container and the
mode. -/
def validateVolumeMounts (volumes : List (String × String × String)) :
    Except NodeFailure (List (String × String × String)) :=
  checkEach (fun volume => do
    require (volumePathRe volume.1) ("Invalid volume host path: " ++
      Json.reprStr env.isPrintable volume.1)
    require (volumePathRe volume.2.1) ("Invalid volume bind path for " ++
      Json.reprStr env.isPrintable volume.1 ++ ": " ++ Json.reprStr env.isPrintable volume.2.1)
    require (volume.2.2 ∈ ["rw", "ro"]) ("Invalid volume mode for " ++
      Json.reprStr env.isPrintable volume.1 ++ ": " ++ Json.reprStr env.isPrintable volume.2.2 ++
      ". Allowed: rw, ro.")) volumes

/-- `validate_network_driver`. -/
def validateNetworkDriver (driver : String) : Except NodeFailure String :=
  validated referenceRe ("Invalid network driver: " ++ Json.reprStr env.isPrintable driver ++ ".")
    driver

end DockerServices

/-! ## Requests -/

/-- `ContainerCreateRequestDTO`, without the node. -/
structure ContainerCreateRequestDTO where
  image : String
  name : Option String
  command : Option String
  /-- The port of the container, and the one of the host; a dict. -/
  ports : List (String × String)
  /-- The path on the host, the one in the container, and the mode; a dict. -/
  volumes : List (String × String × String)
  env : List String
  labels : List (String × String)
  network : Option String
  restartPolicy : Option String
  ports_nodup : (ports.map Prod.fst).Nodup
  volumes_nodup : (volumes.map Prod.fst).Nodup
  labels_nodup : (labels.map Prod.fst).Nodup

/-- A text that is not empty. -/
def truthy (text : Option String) : Option String := text.filter (· ≠ "")

/-- The parts of `_build_create_args` behind `create`, without the command. -/
def createParts (request : ContainerCreateRequestDTO) : List String :=
  request.name.toList.map (fun name => "--name " ++ shlexQuote name) ++
    (truthy request.restartPolicy).toList.map (fun policy => "--restart " ++ shlexQuote policy) ++
    request.ports.map (fun port => "-p " ++ shlexQuote port.2 ++ ":" ++ shlexQuote port.1) ++
    request.volumes.map (fun volume => "-v " ++ shlexQuote volume.1 ++ ":" ++
      shlexQuote volume.2.1 ++ ":" ++ shlexQuote volume.2.2) ++
    request.env.map (fun entry => "-e " ++ shlexQuote entry) ++
    request.labels.map (fun label => "--label " ++ shlexQuote (label.1 ++ "=" ++ label.2)) ++
    (truthy request.network).toList.map (fun network => "--network " ++ shlexQuote network) ++
    [shlexQuote request.image]

/-- `_build_create_args`, of a request that is normalised; the tokens are the ones of the
command. -/
def buildCreateArgs (request : ContainerCreateRequestDTO) (tokens : List String) : String :=
  "create " ++ " ".intercalate (createParts request ++ tokens.map shlexQuote)

/-- `shlex.split(request.command)`, where there is a command. -/
def commandTokens (command : Option String) : Except NodeFailure (List String) :=
  match truthy command with
  | none => .ok []
  | some command => match shlexSplit command with
    | .ok tokens => .ok tokens
    | .error text => .error ⟨.other, text⟩

/-- `_build_build_command_args`. -/
def buildBuildCommandArgs (tag : String) (buildArgs : List (String × String)) (noCache : Bool) :
    String :=
  " ".intercalate (["build", "--tag " ++ shlexQuote tag] ++
    buildArgs.map (fun e => "--build-arg " ++ shlexQuote (e.1 ++ "=" ++ e.2)) ++
    (if noCache then ["--no-cache"] else []) ++ ["-"])

/-- The requests. -/
inductive DockerRequest where
  | create (request : ContainerCreateRequestDTO)
  | rename (containerId newName : String)
  | port (containerId : String) (privatePort : Option String)
  | pull (image : String)
  | build (dockerfile tag : String) (buildArgs : List (String × String)) (noCache : Bool)
  | network (name driver : String) (subnet gateway : Option String)

namespace DockerRequest

/-- The line that is handed to the runtime of a node, if the validators accept the request. -/
def line (env : DockerServices) (isDecimal : IsDecimal) (dockerHost : Option String) :
    DockerRequest → Except NodeFailure String
  | create request => do
      let _ ← validateImageName env.isPrintable request.image
      let _ ← request.name.toList.mapM (validateContainerName env.isPrintable)
      let _ ← env.validatePortMappings isDecimal request.ports
      let _ ← env.validateVolumeMounts request.volumes
      let _ ← env.validateEnvVars request.env
      let _ ← env.validateLabels request.labels
      let _ ← (truthy request.network).toList.mapM (validateNetworkName env.isPrintable)
      let _ ← (truthy request.restartPolicy).toList.mapM env.validateRestartPolicy
      let tokens ← commandTokens request.command
      .ok (buildDockerCommand dockerHost (buildCreateArgs request tokens))
  | rename containerId newName => do
      let validatedId ← validateContainerId env.isPrintable containerId
      .ok (buildDockerCommand dockerHost ("rename " ++ validatedId ++ " " ++ shlexQuote newName))
  | port containerId privatePort => do
      let validatedId ← validateContainerId env.isPrintable containerId
      let portArg := match truthy privatePort with
        | some privatePort => " " ++ shlexQuote privatePort
        | none => ""
      .ok (buildDockerCommand dockerHost ("port " ++ validatedId ++ portArg))
  | pull image => do
      -- the name is not quoted
      let image ← validateImageName env.isPrintable image
      .ok (buildDockerCommand dockerHost ("pull " ++ image))
  | build dockerfile tag buildArgs noCache => do
      let tag ← validateImageTag env.isPrintable tag
      let _ ← checkEach (fun e : String × String => do
        let _ ← env.validateBuildArgKey e.1
        .ok ()) buildArgs
      let baseCmd := buildDockerCommand dockerHost (buildBuildCommandArgs tag buildArgs noCache)
      .ok ("printf %s " ++ shlexQuote dockerfile ++ " | " ++ baseCmd)
  | network name driver subnet gateway => do
      let _ ← env.validateNetworkDriver driver
      .ok (buildDockerCommand dockerHost (" ".intercalate
        (["network create", "--driver", shlexQuote driver] ++
          (truthy subnet).toList.map (fun subnet => "--subnet " ++ shlexQuote subnet) ++
          (truthy gateway).toList.map (fun gateway => "--gateway " ++ shlexQuote gateway) ++
          [shlexQuote name])))

/-! ## What a line should carry -/

/-- The fields that docker finds between the colons of the `-p` and `-v` arguments. -/
def mappings : DockerRequest → List (List String)
  | create request =>
      request.ports.map (fun port => [port.2, port.1]) ++
        request.volumes.map fun volume => [volume.1, volume.2.1, volume.2.2]
  | _ => []

/-- The words of the docker command: the verb, the options with their values, and the
operands. -/
def argv (tokens : List String) : DockerRequest → List String
  | create request =>
      ["docker", "create"] ++
        request.name.toList.flatMap (fun name => ["--name", name]) ++
        (truthy request.restartPolicy).toList.flatMap (fun policy => ["--restart", policy]) ++
        request.ports.flatMap (fun port => ["-p", ":".intercalate [port.2, port.1]]) ++
        request.volumes.flatMap (fun volume =>
          ["-v", ":".intercalate [volume.1, volume.2.1, volume.2.2]]) ++
        request.env.flatMap (fun entry => ["-e", entry]) ++
        request.labels.flatMap (fun label => ["--label", label.1 ++ "=" ++ label.2]) ++
        (truthy request.network).toList.flatMap (fun network => ["--network", network]) ++
        [request.image] ++ tokens
  | rename containerId newName => ["docker", "rename", containerId, newName]
  | port containerId privatePort =>
      ["docker", "port", containerId] ++ (truthy privatePort).toList
  | pull image => ["docker", "pull", image]
  | build _ tag buildArgs noCache =>
      ["docker", "build", "--tag", tag] ++
        buildArgs.flatMap (fun e => ["--build-arg", e.1 ++ "=" ++ e.2]) ++
        (if noCache then ["--no-cache"] else []) ++ ["-"]
  | network name driver subnet gateway =>
      ["docker", "network", "create", "--driver", driver] ++
        (truthy subnet).toList.flatMap (fun subnet => ["--subnet", subnet]) ++
        (truthy gateway).toList.flatMap (fun gateway => ["--gateway", gateway]) ++ [name]

/-- The user values that stand as words of their own where docker reads options: behind the
image of a container it reads none. -/
def operands : DockerRequest → List String
  | create request => [request.image]
  | rename containerId newName => [containerId, newName]
  | port containerId privatePort => containerId :: (truthy privatePort).toList
  | pull image => [image]
  | build .. => []
  | network name .. => [name]

/-- The text that is piped into the command. -/
def stdin : DockerRequest → Option String
  | build dockerfile .. => some dockerfile
  | _ => none

/-- The words behind the image of a container. -/
def tokens : DockerRequest → Except NodeFailure (List String)
  | create request => commandTokens request.command
  | _ => .ok []

end DockerRequest

/-- One docker command, with the docker host of the node, whose input may be printed. -/
def OneCommand (dockerHost : Option String) (stdin : Option String) (line : String)
    (argv : List String) : Prop :=
  ∃ c : Command, c.target = none ∧
    c.assignments = (hostAssignment dockerHost).map (fun kv => (kv.1.toList, kv.2.toList)) ∧
    c.argv = argv.map String.toList ∧
    parse (readQuotes (symbols line)) = some [stdin.toList.map
      (fun text => ⟨["printf", "%s", text].map wordOf, none⟩) ++ [c]]

/-- A line carries a request and nothing else. -/
structure DockerRequest.Carried (dockerHost : Option String) (request : DockerRequest)
    (line : String) : Prop where
  /-- One command with its words, each with its exact characters. -/
  command : ∃ tokens, request.tokens = .ok tokens ∧
    OneCommand dockerHost request.stdin line (request.argv tokens)
  /-- No operand is read as an option. -/
  operands : ∀ operand ∈ request.operands, operand.toList.head? ≠ some '-'
  /-- Docker splits the mappings into the fields that were asked for. -/
  mappings : ∀ fields ∈ request.mappings,
    (":".intercalate fields).toList.splitOn ':' = fields.map String.toList

/-! ## Texts that are read as words -/

/-- A text that is read as some words. -/
def ReadsWords (s : String) (ws : List String) : Prop :=
  ∃ pss : List (List (WordPart Empty)), Reads (symbols s) (pss.map .word) ∧
    pss.map wordText = ws.map fun w => some w.toList

/-- A text that is a piece of a word. -/
def Spells (raw text : String) : Prop :=
  ∃ ps, Piece (H := Empty) raw.toList ps ∧ wordText ps = some text.toList

theorem spells_quote (s : String) : Spells (shlexQuote s) s :=
  ⟨_, piece_shlexQuote s, wordText_quotedParts s⟩

theorem Spells.colon {raw text raw' text' : String} (h : Spells raw text)
    (h' : Spells raw' text') : Spells (raw ++ ":" ++ raw') (text ++ ":" ++ text') := by
  obtain ⟨ps, hpiece, htext⟩ := h
  obtain ⟨ps', hpiece', htext'⟩ := h'
  obtain ⟨colon, hcolon, hcolonText⟩ := spells_quote ":"
  have hquote : shlexQuote ":" = ":" := by decide
  rw [hquote] at hcolon
  refine ⟨ps ++ colon ++ ps', ?_, ?_⟩
  · simpa using (hpiece.append hcolon).append hpiece'
  · simp [wordText_append, htext, htext', hcolonText]

theorem Spells.readsWords {raw text : String} (h : Spells raw text) : ReadsWords raw [text] := by
  obtain ⟨ps, hpiece, htext⟩ := h
  exact ⟨[ps], hpiece.reads, by simp [htext]⟩

theorem readsWords_quoted (ws : List String) : ReadsWords (joinQuoted ws) ws := by
  refine ⟨ws.map quotedParts, ?_, ?_⟩
  · have hwords := reads_words ws
    unfold words at hwords
    rwa [List.map_map]
  · simp [wordText_quotedParts, Function.comp_def]

theorem ReadsWords.blank {s t : String} {ws vs : List String} (h : ReadsWords s ws)
    (h' : ReadsWords t vs) : ReadsWords (s ++ " " ++ t) (ws ++ vs) := by
  obtain ⟨pss, hreads, htexts⟩ := h
  obtain ⟨qss, hreads', htexts'⟩ := h'
  refine ⟨pss ++ qss, ?_, ?_⟩
  · rw [List.map_append]
    exact Reads.blank hreads hreads'
  · rw [List.map_append, List.map_append, htexts, htexts']

/-- Parts of a line, and the words that they are read as. -/
inductive ReadsParts : List String → List String → Prop where
  | nil : ReadsParts [] []
  | cons {part : String} {ws : List String} {parts vs : List String}
      (head : ReadsWords part ws) (tail : ReadsParts parts vs) : ReadsParts (part :: parts) (ws ++ vs)

theorem ReadsParts.append {parts parts' ws ws' : List String} (h : ReadsParts parts ws)
    (h' : ReadsParts parts' ws') : ReadsParts (parts ++ parts') (ws ++ ws') := by
  induction h with
  | nil => exact h'
  | cons head tail ih =>
      rw [List.append_assoc]
      exact .cons head ih

theorem readsParts_map {α : Type} {f : α → String} {g : α → List String}
    (h : ∀ x, ReadsWords (f x) (g x)) (xs : List α) : ReadsParts (xs.map f) (xs.flatMap g) := by
  induction xs with
  | nil => exact .nil
  | cons x xs ih => exact .cons (h x) ih

theorem readsParts_single {part : String} {ws : List String} (h : ReadsWords part ws) :
    ReadsParts [part] ws := by
  have hone := ReadsParts.cons h .nil
  rwa [List.append_nil] at hone

/-- Parts with blanks between them are read one after the other. -/
theorem ReadsParts.join {parts ws : List String} (h : ReadsParts parts ws) :
    ReadsWords (" ".intercalate parts) ws := by
  induction h with
  | nil => exact readsWords_quoted []
  | @cons part ws parts vs head tail ih =>
      cases parts with
      | nil =>
          cases tail
          simpa using head
      | cons part' parts =>
          rw [String.intercalate_cons_cons]
          exact head.blank ih

/-- An option that needs no quotes, and its value. -/
theorem readsWords_option {option raw value : String} (hoption : shlexQuote option = option)
    (h : Spells raw value) : ReadsWords (option ++ " " ++ raw) [option, value] := by
  have hone := (spells_quote option).readsWords
  rw [hoption] at hone
  exact hone.blank h.readsWords

/-! ## One command -/

/-- Words that are read are words of a command. -/
theorem exists_words {pss : List (List (WordPart Empty))} {ws : List String}
    (h : pss.map wordText = ws.map fun w => some w.toList) :
    ∃ vs : List Word, pss.map Word.ofParts = vs.map some ∧
      vs.map Word.text = ws.map String.toList := by
  induction pss generalizing ws with
  | nil =>
      cases ws with
      | nil => exact ⟨[], rfl, rfl⟩
      | cons w ws => cases h
  | cons ps pss ih =>
      cases ws with
      | nil => cases h
      | cons w ws =>
          simp only [List.map_cons, List.cons.injEq] at h
          obtain ⟨vs, hvs, htexts⟩ := ih h.2
          refine ⟨⟨w.toList, assignment ps⟩ :: vs, ?_, ?_⟩
          · simp [Word.ofParts, h.1, hvs]
          · simp [htexts]

/-- **Words behind `docker` are the arguments of one docker command.** -/
theorem oneCommand_of_readsWords (dockerHost : Option String) {args : String} {ws : List String}
    (h : ReadsWords args ws) :
    OneCommand dockerHost none (buildDockerCommand dockerHost args) ("docker" :: ws) := by
  obtain ⟨pss, hreads, htexts⟩ := h
  obtain ⟨vs, hvs, hvsTexts⟩ := exists_words htexts
  have hnames : ∀ kv ∈ hostAssignment dockerHost, isName kv.1.toList = true := isName_dockerHost
  obtain ⟨hassignments, hargv⟩ := dockerCommand_reads hnames vs
  refine ⟨⟨(hostAssignment dockerHost).map wordOfPair ++ wordOf "docker" :: vs, none⟩, rfl,
    hassignments, ?_, ?_⟩
  · rw [hargv, hvsTexts]
    rfl
  · rw [(reads_buildDockerCommand dockerHost hreads).readQuotes, List.append_assoc, parse_pairs,
      parse_words]
    have hrest := parse_parts hvs []
    rw [List.append_nil] at hrest
    rw [hrest]
    simp [parse, foldr_addWord, addWord]

/-- What is printed is piped into the command. -/
theorem oneCommand_printed {dockerHost : Option String} {line : String} {argv : List String}
    (text : String) (h : OneCommand dockerHost none line argv) {tokens : List (Token Empty)}
    (hreads : Reads (symbols line) tokens) :
    OneCommand dockerHost (some text) ("printf %s " ++ shlexQuote text ++ " | " ++ line)
      argv := by
  obtain ⟨c, htarget, hassignments, hargv, hparse⟩ := h
  rw [hreads.readQuotes] at hparse
  refine ⟨c, htarget, hassignments, hargv, ?_⟩
  have hline := Reads.blank
    (Reads.blank (reads_words ["printf", "%s", text]) reads_operators.1) hreads
  have htext : joinQuoted ["printf", "%s", text] ++ " " ++ "|" ++ " " ++ line =
      "printf %s " ++ shlexQuote text ++ " | " ++ line := by
    rw [joinQuoted_printf, ← String.toList_inj]
    simp
  rw [htext] at hline
  rw [hline.readQuotes, List.append_assoc, parse_words]
  simp only [List.singleton_append, parse, hparse]
  simp [addStage, addWord]

/-! ## The lines of requests -/

theorem isReferenceChar_safe {c : Char} (h : isReferenceChar c = true) :
    isShellSafe c = true := by
  simp only [isReferenceChar, Bool.or_eq_true, decide_eq_true_eq] at h
  simp only [isShellSafe, Bool.or_eq_true, decide_eq_true_eq]
  rcases h with ((h | h) | h) | h <;> simp [h]

theorem isImageChar_safe {c : Char} (h : isImageChar c = true) : isShellSafe c = true := by
  simp only [isImageChar, Bool.or_eq_true, decide_eq_true_eq] at h
  rcases h with (h | h) | h
  · exact isReferenceChar_safe h
  · rw [h]
    decide
  · rw [h]
    decide

theorem safe_of_allOf {p : Char → Bool} {cs : List Char} (h : allOf p cs = true)
    (hp : ∀ c, p c = true → isShellSafe c = true) : Safe cs := by
  simp only [allOf, Bool.and_eq_true, Bool.not_eq_true', List.all_eq_true] at h
  refine ⟨by simpa using h.1, fun c hc => hp c (h.2 c hc)⟩

/-- A reference of a container needs no quotes. -/
theorem shlexQuote_reference {s : String} (h : referenceRe s = true) : shlexQuote s = s := by
  unfold referenceRe at h
  split at h
  · cases h
  · rename_i c cs hcs
    rw [Bool.and_eq_true, List.all_eq_true] at h
    apply shlexQuote_safe
    rw [hcs]
    refine ⟨by simp, List.forall_mem_cons.2 ⟨?_, fun d hd => isReferenceChar_safe (h.2 d hd)⟩⟩
    simp [isShellSafe, h.1]

/-- An option and its quoted value. -/
theorem readsWords_value {option : String} (hoption : shlexQuote option = option)
    (value : String) : ReadsWords (option ++ " " ++ shlexQuote value) [option, value] :=
  readsWords_option hoption (spells_quote value)

theorem readsWords_literal {w : String} (h : shlexQuote w = w) : ReadsWords w [w] := by
  have hone := (spells_quote w).readsWords
  rwa [h] at hone

/-- The arguments of `docker create` are read as the words of the request. -/
theorem oneCommand_create (dockerHost : Option String) (request : ContainerCreateRequestDTO)
    (tokens : List String) :
    OneCommand dockerHost none (buildDockerCommand dockerHost (buildCreateArgs request tokens))
      ((DockerRequest.create request).argv tokens) := by
  have hname : shlexQuote "--name" = "--name" := by decide
  have hrestart : shlexQuote "--restart" = "--restart" := by decide
  have hp : shlexQuote "-p" = "-p" := by decide
  have hv : shlexQuote "-v" = "-v" := by decide
  have he : shlexQuote "-e" = "-e" := by decide
  have hlabel : shlexQuote "--label" = "--label" := by decide
  have hnetwork : shlexQuote "--network" = "--network" := by decide
  have hport : ∀ port : String × String,
      ReadsWords ("-p " ++ shlexQuote port.2 ++ ":" ++ shlexQuote port.1)
        ["-p", ":".intercalate [port.2, port.1]] := by
    intro port
    have h := readsWords_option hp ((spells_quote port.2).colon (spells_quote port.1))
    have htext : "-p" ++ " " ++ (shlexQuote port.2 ++ ":" ++ shlexQuote port.1) =
        "-p " ++ shlexQuote port.2 ++ ":" ++ shlexQuote port.1 := by
      rw [← String.toList_inj]
      simp
    rw [htext] at h
    simpa [String.intercalate_cons_cons] using h
  have hvolume : ∀ volume : String × String × String,
      ReadsWords ("-v " ++ shlexQuote volume.1 ++ ":" ++ shlexQuote volume.2.1 ++ ":" ++
        shlexQuote volume.2.2) ["-v", ":".intercalate [volume.1, volume.2.1, volume.2.2]] := by
    intro volume
    have h := readsWords_option hv (((spells_quote volume.1).colon
      (spells_quote volume.2.1)).colon (spells_quote volume.2.2))
    have htext : "-v" ++ " " ++ (shlexQuote volume.1 ++ ":" ++ shlexQuote volume.2.1 ++ ":" ++
        shlexQuote volume.2.2) = "-v " ++ shlexQuote volume.1 ++ ":" ++ shlexQuote volume.2.1 ++
          ":" ++ shlexQuote volume.2.2 := by
      rw [← String.toList_inj]
      simp
    rw [htext] at h
    simpa [String.intercalate_cons_cons, String.append_assoc] using h
  have hparts := ((((((((readsParts_map (readsWords_value hname) request.name.toList).append
    (readsParts_map (readsWords_value hrestart) (truthy request.restartPolicy).toList)).append
    (readsParts_map hport request.ports)).append
    (readsParts_map hvolume request.volumes)).append
    (readsParts_map (readsWords_value he) request.env)).append
    (readsParts_map (fun label : String × String =>
      readsWords_value hlabel (label.1 ++ "=" ++ label.2)) request.labels)).append
    (readsParts_map (readsWords_value hnetwork) (truthy request.network).toList)).append
    (readsParts_single (spells_quote request.image).readsWords)).append
    (readsParts_map (fun token => (spells_quote token).readsWords) tokens)
  have hline := (readsWords_literal (show shlexQuote "create" = "create" by decide)).blank
    hparts.join
  have hcommand := oneCommand_of_readsWords dockerHost hline
  unfold buildCreateArgs createParts DockerRequest.argv
  have htokens : tokens.flatMap (fun token => [token]) = tokens := by simp
  rw [htokens] at hcommand
  simpa using hcommand

/-- The arguments of `docker network create`. -/
theorem oneCommand_network (dockerHost : Option String) (name driver : String)
    (subnet gateway : Option String) (tokens : List String) :
    OneCommand dockerHost none (buildDockerCommand dockerHost (" ".intercalate
        (["network create", "--driver", shlexQuote driver] ++
          (truthy subnet).toList.map (fun subnet => "--subnet " ++ shlexQuote subnet) ++
          (truthy gateway).toList.map (fun gateway => "--gateway " ++ shlexQuote gateway) ++
          [shlexQuote name])))
      ((DockerRequest.network name driver subnet gateway).argv tokens) := by
  have hsubnet : shlexQuote "--subnet" = "--subnet" := by decide
  have hgateway : shlexQuote "--gateway" = "--gateway" := by decide
  have hnetwork : ReadsWords "network create" ["network", "create"] :=
    (readsWords_literal (show shlexQuote "network" = "network" by decide)).blank
      (readsWords_literal (show shlexQuote "create" = "create" by decide))
  have hparts := (((((readsParts_single hnetwork).append (readsParts_single
    (readsWords_literal (show shlexQuote "--driver" = "--driver" by decide)))).append
    (readsParts_single (spells_quote driver).readsWords)).append
    (readsParts_map (readsWords_value hsubnet) (truthy subnet).toList)).append
    (readsParts_map (readsWords_value hgateway) (truthy gateway).toList)).append
    (readsParts_single (spells_quote name).readsWords)
  have hcommand := oneCommand_of_readsWords dockerHost hparts.join
  unfold DockerRequest.argv
  simpa using hcommand

/-- The arguments of `docker build`. -/
theorem readsWords_build (tag : String) (buildArgs : List (String × String)) (noCache : Bool) :
    ReadsWords (buildBuildCommandArgs tag buildArgs noCache)
      (["build", "--tag", tag] ++
        buildArgs.flatMap (fun e => ["--build-arg", e.1 ++ "=" ++ e.2]) ++
        (if noCache then ["--no-cache"] else []) ++ ["-"]) := by
  have htag : shlexQuote "--tag" = "--tag" := by decide
  have harg : shlexQuote "--build-arg" = "--build-arg" := by decide
  have hnoCache : ReadsParts (if noCache then ["--no-cache"] else [])
      (if noCache then ["--no-cache"] else []) := by
    cases noCache with
    | false => exact .nil
    | true =>
        exact readsParts_single
          (readsWords_literal (show shlexQuote "--no-cache" = "--no-cache" by decide))
  have hparts := ((((readsParts_single
    (readsWords_literal (show shlexQuote "build" = "build" by decide))).append
    (readsParts_single (readsWords_value htag tag))).append
    (readsParts_map (fun e : String × String =>
      readsWords_value harg (e.1 ++ "=" ++ e.2)) buildArgs)).append hnoCache).append
    (readsParts_single (readsWords_literal (show shlexQuote "-" = "-" by decide)))
  unfold buildBuildCommandArgs
  simpa using hparts.join

/-- A line feed ends the line of a command: it is an operator. -/
theorem Reads.lineFeed {text : List (Symbol Empty)} {tokens : List (Token Empty)}
    (h : Reads text tokens) : Reads (text ++ [.char '\n']) (tokens ++ [.operator ['\n']]) := by
  obtain ⟨fresh, hk⟩ : ∃ fresh, after start text = ⟨[], fresh⟩ :=
    ⟨(after start text).fresh, by rw [← h.ends]⟩
  have hfeed : nextSym (H := Empty) ⟨[], fresh⟩ (.char '\n') =
      (start, [.operator '\n']) := rfl
  refine ⟨?_, fun ts => ?_⟩
  · rw [after_append, hk, after, hfeed]
    rfl
  · rw [outputs_append, hk, outputs, hfeed, List.map_append, Assembler.takeAll_append]
    have hlong : ∀ cs : List Char, cs ++ ['\n'] ∉ longOperators := by
      intro cs hmem
      have hlast : ∀ o ∈ longOperators, o.getLast? ≠ some '\n' := by decide
      exact hlast _ hmem (by simp)
    have htake : ∀ a : Assembler Empty, a.takeAll (([Output.operator '\n'] ++
        outputs start []).map keepQuote) = { a.endOperator.endWord with operator := ['\n'] } := by
      intro a
      show a.takeOperator '\n' = _
      unfold Assembler.takeOperator
      rw [if_neg (hlong a.operator)]
    rw [htake, h.tokens]
    simp [Assembler.endOperator, Assembler.endWord]

/-- The image to pull is not quoted: a line feed at its end is an operator. -/
theorem not_oneCommand_lineFeed (dockerHost : Option String) {args : String} {ws : List String}
    (h : ReadsWords args ws) (argv : List String) :
    ¬ OneCommand dockerHost none (buildDockerCommand dockerHost (args ++ "\n")) argv := by
  rintro ⟨c, -, -, -, hparse⟩
  obtain ⟨pss, hreads, htexts⟩ := h
  obtain ⟨vs, hvs, -⟩ := exists_words htexts
  have hfeed : Reads (symbols (args ++ "\n")) (pss.map .word ++ [.operator ['\n']]) := by
    have h := Reads.lineFeed hreads
    simpa [symbols] using h
  rw [(reads_buildDockerCommand dockerHost hfeed).readQuotes, List.append_assoc, parse_pairs,
    parse_words, parse_parts hvs] at hparse
  cases hparse

/-! ## Mappings -/

/-- A field between separators holds none. -/
theorem notMem_of_mem_splitOn {cs field : List Char} {c : Char} (h : field ∈ cs.splitOn c) :
    c ∉ field := by
  induction cs generalizing field with
  | nil =>
      rw [List.splitOn_nil, List.mem_singleton] at h
      simp [h]
  | cons d ds ih =>
      rw [List.splitOn_cons_eq_if_modifyHead] at h
      split at h
      · rcases List.mem_cons.1 h with rfl | h
        · simp
        · exact ih h
      · rename_i hd
        obtain ⟨first, rest, hrest⟩ := List.exists_cons_of_ne_nil (List.splitOn_ne_nil c ds)
        rw [hrest, List.modifyHead_cons] at h
        rcases List.mem_cons.1 h with rfl | h
        · have hfirst : c ∉ first := ih (by rw [hrest]; exact List.mem_cons_self)
          rw [List.mem_cons, not_or]
          exact ⟨fun heq => hd (by simp [heq]), hfirst⟩
        · exact ih (by rw [hrest]; exact List.mem_cons_of_mem _ h)

/-- Fields are found again between colons exactly when there is no colon in them. -/
theorem splitOn_colon {fields : List String} (hne : fields ≠ []) :
    (":".intercalate fields).toList.splitOn ':' = fields.map String.toList ↔
      ∀ field ∈ fields, ':' ∉ field.toList := by
  have htext : (":".intercalate fields).toList = [':'].intercalate (fields.map String.toList) := by
    simp [String.toList_intercalate]
  rw [htext]
  constructor
  · intro hsplit field hfield hcolon
    have hlist : field.toList ∈ ([':'].intercalate (fields.map String.toList)).splitOn ':' := by
      rw [hsplit]
      exact List.mem_map_of_mem hfield
    exact notMem_of_mem_splitOn hlist hcolon
  · intro h
    refine List.splitOn_intercalate ':' ?_ (by simpa using hne)
    intro cs hcs
    obtain ⟨field, hfield, rfl⟩ := List.mem_map.1 hcs
    exact h field hfield

theorem allOf_notMem {p : Char → Bool} {cs : List Char} {c : Char} (h : allOf p cs = true)
    (hc : p c = false) : c ∉ cs := by
  simp only [allOf, Bool.and_eq_true, List.all_eq_true] at h
  intro hmem
  rw [h.2 c hmem] at hc
  cases hc

/-- A port has no colon. -/
theorem hostPortRe_colon {isDecimal : IsDecimal} (hcolon : isDecimal ':' = false) {s : String}
    (h : hostPortRe isDecimal s = true) : ':' ∉ s.toList := by
  unfold hostPortRe at h
  rw [Bool.and_eq_true] at h
  rw [← List.takeWhile_append_dropWhile (p := (· ≠ '-')) (l := s.toList), List.mem_append, not_or]
  refine ⟨allOf_notMem h.1 hcolon, ?_⟩
  have hrest := h.2
  cases hdrop : s.toList.dropWhile (· ≠ '-') with
  | nil => simp
  | cons c port =>
      have hne : s.toList.dropWhile (fun c => decide (c ≠ '-')) ≠ [] := by
        rw [hdrop]
        exact List.cons_ne_nil _ _
      have hhead := List.head_dropWhile_not (fun c => decide (c ≠ '-')) hne
      simp only [hdrop, List.head_cons, decide_eq_false_iff_not, not_not] at hhead
      rw [hdrop] at hrest
      rw [List.mem_cons, not_or]
      refine ⟨?_, allOf_notMem hrest hcolon⟩
      rw [hhead]
      decide

theorem portSpecRe_colon {isDecimal : IsDecimal} (hcolon : isDecimal ':' = false) {s : String}
    (h : portSpecRe isDecimal s = true) : ':' ∉ s.toList := by
  unfold portSpecRe at h
  rw [Bool.and_eq_true, decide_eq_true_eq] at h
  rw [← List.takeWhile_append_dropWhile (p := (· ≠ '/')) (l := s.toList), List.mem_append, not_or]
  refine ⟨by simpa using hostPortRe_colon hcolon h.1, ?_⟩
  have hsuffix : ∀ cs ∈ [[], "/tcp".toList, "/udp".toList], ':' ∉ cs := by decide
  exact hsuffix _ h.2

/-- The ports of an accepted request have no colons. -/
theorem validatePortMappings_colon {env : DockerServices} {isDecimal : IsDecimal}
    (hcolon : isDecimal ':' = false) {ports result : List (String × String)}
    (h : env.validatePortMappings isDecimal ports = .ok result) :
    ∀ port ∈ ports, ':' ∉ port.1.toList ∧ ':' ∉ port.2.toList := by
  intro port hport
  obtain ⟨hhost, hspec⟩ := require_bind_ok ((checkEach_ok h).2 port hport)
  exact ⟨portSpecRe_colon hcolon (require_ok hspec), hostPortRe_colon hcolon hhost⟩

theorem validateVolumeMounts_mode {env : DockerServices}
    {volumes result : List (String × String × String)}
    (h : env.validateVolumeMounts volumes = .ok result) :
    ∀ volume ∈ volumes, ':' ∉ volume.2.2.toList := by
  intro volume hvolume
  obtain ⟨-, hrest⟩ := require_bind_ok ((checkEach_ok h).2 volume hvolume)
  obtain ⟨-, hlast⟩ := require_bind_ok hrest
  have hmode : volume.2.2 ∈ ["rw", "ro"] := by simpa using require_ok hlast
  have hmodes : ∀ mode ∈ ["rw", "ro"], ':' ∉ mode.toList := by decide
  exact hmodes _ hmode

/-! ## What lines carry -/

namespace DockerRequest

/-- No operand begins with a dash, no path of a volume has a colon, and the image to pull does
not end with a line feed. -/
def Unambiguous (request : DockerRequest) : Prop :=
  (∀ operand ∈ request.operands, operand.toList.head? ≠ some '-') ∧
    match request with
    | create request =>
        ∀ volume ∈ request.volumes, ':' ∉ volume.1.toList ∧ ':' ∉ volume.2.1.toList
    | pull image => image.toList.getLast? ≠ some '\n'
    | _ => True

/-- The line of a pull is one command, unless a line feed ends the name of the image. -/
theorem oneCommand_pull_iff (dockerHost : Option String) {image : String}
    (hre : imageNameMatch image = true) :
    OneCommand dockerHost none (buildDockerCommand dockerHost ("pull " ++ image))
      ["docker", "pull", image] ↔ image.toList.getLast? ≠ some '\n' := by
  have hpull := readsWords_literal (show shlexQuote "pull" = "pull" by decide)
  simp only [imageNameMatch, Bool.or_eq_true, Bool.and_eq_true] at hre
  constructor
  · intro hcommand hfeed
    have hbody : allOf isImageChar image.toList.dropLast = true := by
      rcases hre with hre | hre
      · have hsafe := safe_of_allOf hre fun c => isImageChar_safe
        have hmem := hsafe.2 '\n' (List.mem_of_getLast? hfeed)
        exact absurd hmem (by decide)
      · exact hre.2
    have hsafe := safe_of_allOf hbody fun c => isImageChar_safe
    have himage : image = String.ofList image.toList.dropLast ++ "\n" := by
      rw [← String.toList_inj]
      have hlast := List.dropLast_append_getLast? _ hfeed
      simpa using hlast.symm
    have hread := readsWords_literal (shlexQuote_safe
      (s := String.ofList image.toList.dropLast) (by simpa using hsafe))
    have hnone := not_oneCommand_lineFeed dockerHost (hpull.blank hread) ["docker", "pull", image]
    have htext : "pull" ++ " " ++ String.ofList image.toList.dropLast ++ "\n" =
        "pull " ++ image := by
      conv_rhs => rw [himage]
      rw [← String.toList_inj]
      simp
    rw [htext] at hnone
    exact hnone hcommand
  · intro hfeed
    have hall : imageNameRe image = true := by
      rcases hre with hre | hre
      · exact hre
      · exact absurd (by simpa using hre.1) hfeed
    have hread := readsWords_literal (shlexQuote_safe
      (safe_of_allOf hall fun c => isImageChar_safe))
    exact oneCommand_of_readsWords dockerHost (hpull.blank hread)

/-- A line that is built is one docker command, but for a line feed of the image to pull. -/
theorem line_command {env : DockerServices} {isDecimal : IsDecimal} {dockerHost : Option String}
    {request : DockerRequest} {line : String}
    (h : request.line env isDecimal dockerHost = .ok line) :
    (∃ tokens, request.tokens = .ok tokens ∧
      OneCommand dockerHost request.stdin line (request.argv tokens)) ↔
    ∀ image, request = pull image → image.toList.getLast? ≠ some '\n' := by
  cases request with
  | create request =>
      obtain ⟨tokens, htokens, rfl⟩ : ∃ tokens, commandTokens request.command = .ok tokens ∧
          line = buildDockerCommand dockerHost (buildCreateArgs request tokens) := by
        simp only [DockerRequest.line, bind, Except.bind] at h
        repeat' split at h
        all_goals first
          | exact ⟨_, by assumption, (Except.ok.inj h).symm⟩
          | cases h
      refine ⟨fun _ image himage => (by cases himage), fun _ => ⟨tokens, htokens, ?_⟩⟩
      exact oneCommand_create dockerHost request tokens
  | rename containerId newName =>
      simp only [DockerRequest.line, bind, Except.bind] at h
      split at h
      · cases h
      · rename_i validatedId hid
        obtain ⟨rfl, -, hre⟩ := validated_ok hid
        cases h
        refine ⟨fun _ image himage => (by cases himage), fun _ => ⟨[], rfl, ?_⟩⟩
        have hwords := ((readsWords_literal (show shlexQuote "rename" = "rename" by
          decide)).blank (readsWords_literal (shlexQuote_reference hre))).blank
          (spells_quote newName).readsWords
        have hcommand := oneCommand_of_readsWords dockerHost hwords
        exact hcommand
  | port containerId privatePort =>
      simp only [DockerRequest.line, bind, Except.bind] at h
      split at h
      · cases h
      · rename_i validatedId hid
        obtain ⟨heq, -, hre⟩ := validated_ok hid
        rw [heq] at h
        cases h
        refine ⟨fun _ image himage => (by cases himage), fun _ => ⟨[], rfl, ?_⟩⟩
        have hid := (readsWords_literal (show shlexQuote "port" = "port" by
          decide)).blank (readsWords_literal (shlexQuote_reference hre))
        change OneCommand _ none _ (["docker", "port", containerId] ++ (truthy privatePort).toList)
        cases truthy privatePort with
        | none =>
            have hcommand := oneCommand_of_readsWords dockerHost hid
            simpa using hcommand
        | some port =>
            have hcommand := oneCommand_of_readsWords dockerHost
              (hid.blank (spells_quote port).readsWords)
            simpa [String.append_assoc] using hcommand
  | pull image =>
      simp only [DockerRequest.line, bind, Except.bind] at h
      split at h
      · cases h
      · rename_i validatedImage himage
        obtain ⟨heq, -, hre⟩ := validated_ok himage
        rw [heq] at h
        cases h
        have hiff := oneCommand_pull_iff dockerHost hre
        constructor
        · rintro ⟨tokens, htokens, hcommand⟩ image' himage'
          cases himage'
          cases htokens
          exact hiff.1 hcommand
        · exact fun hfeed => ⟨[], rfl, hiff.2 (hfeed image rfl)⟩
  | build dockerfile tag buildArgs noCache =>
      obtain rfl : line = "printf %s " ++ shlexQuote dockerfile ++ " | " ++
          buildDockerCommand dockerHost (buildBuildCommandArgs tag buildArgs noCache) := by
        simp only [DockerRequest.line, bind, Except.bind] at h
        split at h
        · cases h
        · rename_i validatedTag htag
          rw [(validated_ok htag).1] at h
          split at h
          · cases h
          · exact (Except.ok.inj h).symm
      refine ⟨fun _ image himage => (by cases himage), fun _ => ⟨[], rfl, ?_⟩⟩
      have hwords := readsWords_build tag buildArgs noCache
      have ⟨pss, hreads, _⟩ := hwords
      have hprinted := oneCommand_printed dockerfile
        (oneCommand_of_readsWords dockerHost hwords) (reads_buildDockerCommand dockerHost hreads)
      simpa [DockerRequest.argv, DockerRequest.stdin] using hprinted
  | network name driver subnet gateway =>
      simp only [DockerRequest.line, bind, Except.bind] at h
      split at h
      · cases h
      · cases h
        refine ⟨fun _ image himage => (by cases himage), fun _ => ⟨[], rfl, ?_⟩⟩
        exact oneCommand_network dockerHost name driver subnet gateway []

end DockerRequest

/-- The mappings of an accepted request are split into their fields exactly when no path of a
volume has a colon. -/
theorem mappings_iff {env : DockerServices} {isDecimal : IsDecimal}
    (hcolon : isDecimal ':' = false) {dockerHost : Option String}
    {request : ContainerCreateRequestDTO} {line : String}
    (h : (DockerRequest.create request).line env isDecimal dockerHost = .ok line) :
    (∀ fields ∈ (DockerRequest.create request).mappings,
      (":".intercalate fields).toList.splitOn ':' = fields.map String.toList) ↔
    ∀ volume ∈ request.volumes, ':' ∉ volume.1.toList ∧ ':' ∉ volume.2.1.toList := by
  obtain ⟨ports, hports⟩ : ∃ ports, env.validatePortMappings isDecimal request.ports =
      .ok ports := by
    simp only [DockerRequest.line, bind, Except.bind] at h
    repeat' split at h
    all_goals first
      | exact ⟨_, by assumption⟩
      | cases h
  obtain ⟨volumes, hvolumes⟩ : ∃ volumes, env.validateVolumeMounts request.volumes =
      .ok volumes := by
    simp only [DockerRequest.line, bind, Except.bind] at h
    repeat' split at h
    all_goals first
      | exact ⟨_, by assumption⟩
      | cases h
  constructor
  · intro hsplit volume hvolume
    have hfields := (splitOn_colon (by simp)).1 (hsplit [volume.1, volume.2.1, volume.2.2]
      (List.mem_append_right _ (List.mem_map.2 ⟨volume, hvolume, rfl⟩)))
    exact ⟨hfields _ (by simp), hfields _ (by simp)⟩
  · intro hpaths fields hfields
    rcases List.mem_append.1 hfields with hfields | hfields
    · obtain ⟨port, hport, rfl⟩ := List.mem_map.1 hfields
      have hnone := validatePortMappings_colon hcolon hports port hport
      refine (splitOn_colon (by simp)).2 ?_
      simpa using ⟨hnone.2, hnone.1⟩
    · obtain ⟨volume, hvolume, rfl⟩ := List.mem_map.1 hfields
      have hpath := hpaths volume hvolume
      have hmode := validateVolumeMounts_mode hvolumes volume hvolume
      refine (splitOn_colon (by simp)).2 ?_
      simpa using ⟨hpath.1, hpath.2, hmode⟩

/-- **The line of an accepted request is the request and nothing else exactly when no operand
begins with a dash, no path of a volume has a colon, and the image to pull does not end with a
line feed.** -/
theorem carried_iff (env : DockerServices) (isDecimal : IsDecimal)
    (hcolon : isDecimal ':' = false) (dockerHost : Option String) (request : DockerRequest)
    (line : String) (h : request.line env isDecimal dockerHost = .ok line) :
    request.Carried dockerHost line ↔ request.Unambiguous := by
  have hcommand := DockerRequest.line_command h
  constructor
  · rintro ⟨hone, hoperands, hmappings⟩
    refine ⟨hoperands, ?_⟩
    cases request with
    | create request => exact (mappings_iff hcolon h).1 hmappings
    | pull image => exact hcommand.1 hone image rfl
    | _ => trivial
  · rintro ⟨hoperands, hcond⟩
    refine ⟨hcommand.2 ?_, hoperands, ?_⟩
    · rintro image rfl
      exact hcond
    · cases request with
      | create request => exact (mappings_iff hcolon h).2 hcond
      | _ =>
          intro fields hfields
          cases hfields

/-- Services for examples. -/
def plainServices : DockerServices where
  lowercase := asciiLowercase
  isPrintable := fun c => c.isAlphanum
  printUuid := fun _ => ""
  getConnection := fun _ => none
  connectionsByTags := fun _ => .ok []
  execute := fun _ => .ok ⟨"", "", 0⟩

/-- A container with a port, a directory, a variable, and a command of two words. -/
def redisContainer : ContainerCreateRequestDTO where
  image := "redis:7"
  name := some "cache"
  command := some "sh -c 'echo $HOME; id'"
  ports := [("6379", "16379")]
  volumes := [("/srv/redis", "/data", "rw")]
  env := ["GREETING=it's $5"]
  labels := [("tier", "cache")]
  network := none
  restartPolicy := some "always"
  ports_nodup := by decide
  volumes_nodup := by decide
  labels_nodup := by decide

/-- The values of the container are quoted where a shell would read more in them. -/
theorem carried_create_redis :
    (DockerRequest.create redisContainer).Carried none
      ("docker create --name cache --restart always -p 16379:6379 " ++
        "-v /srv/redis:/data:rw -e 'GREETING=it'\"'\"'s $5' --label tier=cache redis:7 " ++
        "sh -c 'echo $HOME; id'") := by
  refine (carried_iff plainServices Char.isDigit (by decide) _ (.create redisContainer) _
    (by decide +kernel)).2 ⟨?_, ?_⟩
  · intro operand hoperand
    rw [List.mem_singleton.1 hoperand]
    decide
  · intro volume hvolume
    rw [List.mem_singleton.1 hvolume]
    decide

/-- An image whose name begins with a dash is read as an option. -/
theorem option_pulled :
    ¬ ∀ line, (DockerRequest.pull "--all-tags").line plainServices Char.isDigit none = .ok line →
      (DockerRequest.pull "--all-tags").Carried none line := by
  intro h
  have hcarried := h "docker pull --all-tags" (by decide)
  exact hcarried.operands "--all-tags" List.mem_cons_self (by decide)

end Docker
end NodeNexus
