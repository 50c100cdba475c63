import NodeNexus.Core.Template
import NodeNexus.Node.Remote

/-!
# What the command API awaits

The use cases behind the command API ask the gateways of nodes and some more: commands,
scripts, and fresh UUIDs.

* `CommandRequest` — one await of such a use case; where an endpoint gathers use cases, the
  request says which of them asks.
* `ofService` — a use case of nodes as a part of an endpoint; the records of its history get
  the batch that it has drawn.
-/

namespace NodeNexus
namespace Command

open Content Node
open NodeNexus.Core

/-- `CommandTemplateDTO`. -/
structure CommandTemplateDTO where
  id : Uuid
  command : String
  parameters : List CommandParameterDTO
  timeout : Int

/-- What an endpoint awaits. -/
inductive CommandRequest where
  /-- A request of a service of nodes. -/
  | service (item : Nat) (r : Request)
  /-- `CommandHistoryWriter.save` of a record with its batch. -/
  | saveRecord (item : Nat) (batch : Option Uuid) (task : Nat) (record : CommandHistoryCreateDTO)
  /-- `uuid4`, called by a service or by the endpoint itself. -/
  | uuid4 (item : Option Nat)
  /-- `CommandTemplateReader.get_template`. -/
  | getTemplate (id : Uuid)
  /-- `CommandReader.get_command`. -/
  | getCommand (item : Nat) (id : Uuid)
  /-- `CommandWriter.create_command`. -/
  | createCommand (item : Nat) (data : CommandCreateDTO)
  /-- `ScriptWriter.create_script`. -/
  | createScript (item : Nat) (data : ScriptCreateDTO)
  /-- The query of `NodeBulkOperator.bulk_check`. -/
  | existingIds (nodeIds : List String)

/-- What it is answered with. -/
abbrev CommandAnswer : CommandRequest → Type
  | .service _ r => Answer r
  | .saveRecord .. => Unit
  | .uuid4 .. => Uuid
  | .getTemplate .. => Option CommandTemplateDTO
  | .getCommand .. => Option CommandView
  | .createCommand .. => CommandView
  | .createScript .. => ScriptView
  | .existingIds .. => List Uuid

/-- A use case or an endpoint that asks these requests. -/
abbrev Endpoint (α : Type) : Type := Program CommandAnswer NodeFailure α

/-- One request of an endpoint. -/
abbrev ask (r : CommandRequest) : Endpoint (CommandAnswer r) := Program.call r

/-- A computation that may raise. -/
def raised {α : Type} : Except NodeFailure α → Endpoint α
  | .ok a => pure a
  | .error e => Program.raise e

/-! ## Services of nodes -/

variable {α : Type}

/-- A request of a service; a record gets the batch. -/
def askFor (item : Nat) (batch : Option Uuid) :
    (r : Request) → (Except NodeFailure (Answer r) → Endpoint α) → Endpoint α
  | .saveHistory task record, k => .ask (.saveRecord item batch task record) k
  | r, k => .ask (.service item r) k

/-- A service of nodes as a part of an endpoint. -/
def ofService (item : Nat) (batch : Option Uuid) : Service α → Endpoint α
  | .done a => .done a
  | .raise e => .raise e
  | .ask r k => askFor item batch r fun x => ofService item batch (k x)

/-! ## Rendering -/

/-- The exceptions of `render_command`. -/
def renderFailure : Failure → NodeFailure
  | .templateRenderError message => ⟨.domain .templateRenderError, message⟩
  | _ => ⟨.other, ""⟩

/-- `render_command` as a part of a use case. -/
def render (unicode : Unicode) (template : String) (parameters : List CommandParameterDTO)
    (params : Json.Fields) : Except NodeFailure String :=
  (renderCommand unicode template parameters params).mapError renderFailure

/-! ## `NodeBulkCommandService.execute` -/

/-- `execute` with the batch that it draws for its records. -/
def executeBatch (cfg : Setting) (item : Nat) (data : BulkCommandRequestDTO) :
    Endpoint BulkCommandResultDTO := do
  let nodes : List NodeConnectionDTO ← ask (.service item (.targets data.nodeIds data.tags))
  match nodes with
  | [] => Program.raise ⟨.nodeNotFoundError, "No nodes matched the given criteria"⟩
  | node :: nodes => do
      let batch : Uuid ← ask (.uuid4 (some item))
      ofService item (some batch) (executeOn cfg data (node :: nodes))

end Command
end NodeNexus
