import NodeNexus.Content.RoundTrip
import NodeNexus.Core.Template
import NodeNexus.Config.Import

/-!
# Exporting a configuration

`export_config` of the gateway and of the endpoint, and what the import endpoint
makes of an exported entry.

* `NodeExport` carries the checks of its pydantic model; `exportNode` makes it of
  a row.  Commands and scripts have theirs in `Content`.
* `exportConfig` reads the three tables, `importRequest` is the payload that
  the endpoint of the import hands on.
-/

namespace NodeNexus
namespace Config

open Content Node
open NodeNexus.Core

/-! ## Docker hosts -/

/-- The character class `\d`. -/
abbrev IsDecimal : Type := Char → Bool

/-- One or more characters of a class, up to the end. -/
def allOf (p : Char → Bool) (cs : List Char) : Bool :=
  !cs.isEmpty && cs.all p

/-- The text behind a prefix. -/
def dropPrefix? : List Char → List Char → Option (List Char)
  | [], cs => some cs
  | _ :: _, [] => none
  | p :: ps, c :: cs => if p = c then dropPrefix? ps cs else none

/-- `_DOCKER_HOST_RE`: `^(unix:///[\w./\-]+|tcp://[\w.\-]+:\d+)$`. -/
def dockerHostRe (uni : Unicode) (isDecimal : IsDecimal) (host : String) : Bool :=
  match dropPrefix? "unix:///".toList host.toList with
  | some path => allOf (fun c => uni.isWord c || c ∈ ['.', '/', '-']) path
  | none => match dropPrefix? "tcp://".toList host.toList with
    | none => false
    | some rest =>
        -- the host has no colon, so it ends at the first one
        allOf (fun c => uni.isWord c || c ∈ ['.', '-']) (rest.takeWhile (· ≠ ':')) &&
          (match rest.dropWhile (· ≠ ':') with
            | [] => false
            | _ :: port => allOf isDecimal port)

/-- `validate_docker_host` accepts the value. -/
def validDockerHost (uni : Unicode) (isDecimal : IsDecimal) (host : String) : Bool :=
  host ≠ "" && dockerHostRe uni isDecimal host

/-- The check `check_docker_fields`. -/
def dockerFields (uni : Unicode) (isDecimal : IsDecimal) (dockerHost : Option String)
    (hasDocker : Bool) : Bool :=
  dockerHost.all fun host => hasDocker && validDockerHost uni isDecimal host

/-! ## Nodes -/

/-- `NodeExport`. -/
structure NodeExport (uni : Unicode) (isDecimal : IsDecimal) where
  name : String
  host : String
  port : Int
  connectionType : ConnectionType
  username : Option String
  dockerHost : Option String
  hasDocker : Bool
  tags : List String
  name_ok : safeName name = true
  docker_ok : dockerFields uni isDecimal dockerHost hasDocker = true

/-- An entry of `ConfigExport.nodes`; a node's description is not among its
fields. -/
def exportNode (uni : Unicode) (isDecimal : IsDecimal) (row : NodeRow) :
    Except Failure (NodeExport uni isDecimal) := do
  let tags ← readTags (row.tags.getD [])
  if h : safeName row.name = true ∧
      dockerFields uni isDecimal row.dockerHost row.hasDocker = true then
    .ok
      { name := row.name
        host := row.host
        port := row.port
        connectionType := row.connectionType
        username := row.username
        dockerHost := row.dockerHost
        hasDocker := row.hasDocker
        tags := tags
        name_ok := h.1
        docker_ok := h.2 }
  else .error .validationError

/-- The transfer object that the import endpoint makes of a node. -/
def NodeExport.dto {uni : Unicode} {isDecimal : IsDecimal} (node : NodeExport uni isDecimal) :
    NodeConfigDTO where
  name := node.name
  host := node.host
  port := node.port
  connectionType := node.connectionType
  dockerHost := node.dockerHost
  hasDocker := node.hasDocker
  username := node.username
  tags := node.tags

/-! ## Commands and scripts -/

/-- The transfer object that the import endpoint makes of a command. -/
def commandDto (data : CommandExport) : CommandConfigDTO where
  name := data.name
  command := data.command
  description := data.description
  parameters := (data.parameters.getD []).map fun p =>
    .dict (parameterToDict p.toCommandParameterDTO)
  tags := data.tags

/-- The transfer object that the import endpoint makes of a script; a
`command_id` is taken over as it is. -/
def scriptDto (fmt : Formats) (data : ScriptExport) : ScriptConfigDTO where
  name := data.name
  description := data.description
  steps := data.steps.map fun step => .dict (scriptStepObject fmt step)
  tags := data.tags

/-- The values are those that an import of commands and scripts gives to the models. -/
theorem commandDto_values (data : CommandExport) : (commandDto data).values = data.values := by
  unfold CommandConfigDTO.values commandDto CommandExport.values storedParameters
  rw [List.map_map]
  rfl

theorem scriptDto_values (fmt : Formats) (data : ScriptExport) :
    (scriptDto fmt data).values = data.values fmt :=
  rfl

/-! ## The endpoints -/

/-- What the export has around it, besides what the import has. -/
structure ExportEnv extends ConfigEnv where
  fmt : Formats
  uni : Unicode
  isDecimal : IsDecimal

/-- `ConfigExport`, its entries. -/
structure ConfigExport (env : ExportEnv) where
  nodes : List (NodeExport env.uni env.isDecimal)
  commands : List CommandExport
  scripts : List ScriptExport

/-- `export_config`. -/
def exportConfig (env : ExportEnv) (orders : Orders) : Except Failure (ConfigExport env) := do
  let nodes ← (load nodeGetAll env.batchSize orders.nodes).mapM (exportNode env.uni env.isDecimal)
  let commands ← (load (commandGetAll env.ilike) env.batchSize orders.commands).mapM
    (exportCommand env.fmt)
  let scripts ← (load (scriptGetAll env.ilike) env.batchSize orders.scripts).mapM
    (exportScript env.fmt)
  .ok ⟨nodes, commands, scripts⟩

/-- The payload that the import endpoint makes of an export. -/
def importRequest {env : ExportEnv} (data : ConfigExport env) : ConfigTransferDTO where
  nodes := data.nodes.map (·.dto)
  commands := data.commands.map commandDto
  scripts := data.scripts.map (scriptDto env.fmt)

/-! ## Where entries come from -/

theorem exportNode_eq_ok {uni : Unicode} {isDecimal : IsDecimal} {row : NodeRow}
    {data : NodeExport uni isDecimal} (h : exportNode uni isDecimal row = .ok data) :
    row.tags.getD [] = data.tags.map some ∧ data.name = row.name ∧ data.host = row.host ∧
      data.port = row.port ∧ data.connectionType = row.connectionType ∧
      data.username = row.username ∧ data.dockerHost = row.dockerHost ∧
      data.hasDocker = row.hasDocker := by
  simp only [exportNode, bind_eq_ok] at h
  obtain ⟨tags, htags, h⟩ := h
  split at h
  · cases h
    exact ⟨readTags_eq htags, rfl, rfl, rfl, rfl, rfl, rfl, rfl⟩
  · cases h

theorem returns_exportNode {uni : Unicode} {isDecimal : IsDecimal} {row : NodeRow} :
    Returns (exportNode uni isDecimal row) ↔ (∀ tag ∈ row.tags.getD [], tag.isSome = true) ∧
      safeName row.name = true ∧ dockerFields uni isDecimal row.dockerHost row.hasDocker = true := by
  rw [← returns_readTags]
  unfold exportNode
  constructor
  · rintro ⟨data, h⟩
    obtain ⟨tags, htags, h⟩ := bind_eq_ok.1 h
    split at h
    · rename_i hok
      exact ⟨⟨tags, htags⟩, hok⟩
    · cases h
  · rintro ⟨⟨tags, htags⟩, hok⟩
    rw [htags]
    show Returns (dite _ _ _)
    rw [dif_pos hok]
    exact returns_ok _

theorem name_of_exportCommand {fmt : Formats} {row : CommandRow} {data : CommandExport}
    (h : exportCommand fmt row = .ok data) : data.name = row.name := by
  simp only [exportCommand, bind_eq_ok] at h
  obtain ⟨items, -, made, -, tags, -, h⟩ := h
  split at h
  · cases h
    rfl
  · cases h

theorem name_of_exportScript {fmt : Formats} {row : ScriptRow} {data : ScriptExport}
    (h : exportScript fmt row = .ok data) : data.name = row.name := by
  simp only [exportScript, bind_eq_ok] at h
  obtain ⟨items, -, made, -, tags, -, h⟩ := h
  split at h
  · cases h
    rfl
  · cases h

end Config
end NodeNexus
