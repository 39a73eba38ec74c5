import Flowgraph.Document.NodeType
import Flowgraph.Json.Finite
import Flowgraph.Json.Outgoing

/-!
# Workflow documents

A document holds a workflow: a graph whose nodes have input and output ports and whose edges lead
from an output port to an input port, with a name, a description and other matter for people.

## Main definitions

* `Document`, `Workflow`, `Node`, `Edge`: the parts of a document.
* `Document.toJson`: the document as data.
* `Document.serialize`: the document as data that leaves the library, within its limits.
-/

namespace Flowgraph

/-- A port of a node. -/
structure Port where
  /-- The name by which edges refer to the port. -/
  id : String
  /-- The name for people. -/
  label : String
  /-- A tag that describes the data. -/
  schema : String
deriving DecidableEq, Repr, Inhabited

/-- A coordinate, which keeps whether it was written as an integer. -/
inductive Coordinate where
  /-- An integer. -/
  | whole (value : Int)
  /-- A number of double precision. -/
  | real (value : Double)
deriving DecidableEq, Inhabited

/-- A place on the canvas. -/
structure Position where
  /-- The distance from the left. -/
  x : Coordinate
  /-- The distance from the top. -/
  y : Coordinate
deriving DecidableEq, Inhabited

/-- How a node is drawn. -/
structure Appearance where
  /-- The name of the icon. -/
  icon : String
  /-- The name of the colour. -/
  color : String
deriving DecidableEq, Repr, Inhabited

/-- A node of the graph. -/
structure Node where
  /-- The name by which edges refer to the node. -/
  id : String
  /-- The kind of the node. -/
  type : NodeType
  /-- The name for people. -/
  name : String
  /-- The place on the canvas. -/
  position : Position
  /-- The input ports. -/
  inputs : List Port
  /-- The output ports. -/
  outputs : List Port
  /-- The configuration as it was written. -/
  config : Fields
  /-- How the node is drawn. -/
  ui : Appearance
deriving Inhabited

/-- One end of an edge. -/
structure Endpoint where
  /-- The node. -/
  nodeId : String
  /-- The port of the node. -/
  portId : String
deriving DecidableEq, Repr, Inhabited

/-- An edge from an output port to an input port. -/
structure Edge where
  /-- The name of the edge. -/
  id : String
  /-- Where the edge starts. -/
  source : Endpoint
  /-- Where the edge ends. -/
  target : Endpoint
  /-- A label for people. -/
  label : Option String
  /-- A remark on when the edge is taken; it decides nothing. -/
  condition : Option String
deriving DecidableEq, Repr, Inhabited

/-- A workflow. -/
structure Workflow where
  /-- The name of the workflow in the store. -/
  id : String
  /-- The name for people. -/
  name : String
  /-- What the workflow is for. -/
  description : String
  /-- Tags for people. -/
  tags : List String
  /-- The node at which a run begins. -/
  entryNodeId : String
  /-- Free data. -/
  freeData : Fields
  /-- The nodes. -/
  nodes : List Node
  /-- The edges. -/
  edges : List Edge
deriving Inhabited

/-- A document of the present version. -/
structure Document where
  /-- The workflow. -/
  workflow : Workflow
deriving Inhabited

/-- The version of the document format. -/
def schemaVersion : String := "1.0"

namespace Node

/-- Whether the node starts a run. -/
def isTrigger (node : Node) : Bool :=
  node.type.isTrigger

/-- The names of the input ports. -/
def inputIds (node : Node) : List String :=
  node.inputs.map Port.id

/-- The names of the output ports. -/
def outputIds (node : Node) : List String :=
  node.outputs.map Port.id

end Node

namespace Workflow

/-- The names of the nodes. -/
def nodeIds (w : Workflow) : List String :=
  w.nodes.map Node.id

/-- The first node of a name. -/
def node? (w : Workflow) (id : String) : Option Node :=
  w.nodes.find? fun node => node.id == id

/-- The last node of a name, which is the one edges mean when a name occurs twice. -/
def lastNode? (w : Workflow) (id : String) : Option Node :=
  w.nodes.findRev? fun node => node.id == id

end Workflow

/-! ### Documents as data

In configurations and free data `null` stands for a number that is not finite; coordinates are kept
as they are.
-/

/-- A port as data. -/
def Port.toJson (p : Port) : Json :=
  .obj [("id", .str p.id), ("label", .str p.label), ("schema", .str p.schema)]

/-- A coordinate as data. -/
def Coordinate.toJson : Coordinate → Json
  | whole n => .int n
  | real x => .float x

/-- A place as data. -/
def Position.toJson (p : Position) : Json :=
  .obj [("x", p.x.toJson), ("y", p.y.toJson)]

/-- A drawing as data. -/
def Appearance.toJson (a : Appearance) : Json :=
  .obj [("icon", .str a.icon), ("color", .str a.color)]

/-- A node as data. -/
def Node.toJson (n : Node) : Json :=
  .obj [
    ("id", .str n.id),
    ("type", .str n.type.name),
    ("name", .str n.name),
    ("position", n.position.toJson),
    ("inputs", .arr (n.inputs.map Port.toJson)),
    ("outputs", .arr (n.outputs.map Port.toJson)),
    ("config", (Json.obj n.config).finite),
    ("ui", n.ui.toJson)]

/-- An end of an edge as data. -/
def Endpoint.toJson (e : Endpoint) : Json :=
  .obj [("node_id", .str e.nodeId), ("port_id", .str e.portId)]

/-- An edge as data. -/
def Edge.toJson (e : Edge) : Json :=
  .obj [
    ("id", .str e.id),
    ("source", e.source.toJson),
    ("target", e.target.toJson),
    ("label", .ofOption e.label),
    ("condition", .ofOption e.condition)]

/-- A workflow as data. -/
def Workflow.toJson (w : Workflow) : Json :=
  .obj [
    ("id", .str w.id),
    ("name", .str w.name),
    ("description", .str w.description),
    ("tags", .strs w.tags),
    ("entry_node_id", .str w.entryNodeId),
    ("variables", (Json.obj w.freeData).finite),
    ("nodes", .arr (w.nodes.map Node.toJson)),
    ("edges", .arr (w.edges.map Edge.toJson))]

/-- A document as data. -/
def Document.toJson (d : Document) : Json :=
  .obj [("schema_version", .str schemaVersion), ("workflow", d.workflow.toJson)]

/-! ### Documents that leave

Where a document leaves as data, its free data and its configurations keep the limits of outgoing
data.
-/

/-- The first fault of some configurations. -/
def checkConfigs : List Node → Except DataError Unit
  | [] => .ok ()
  | node :: nodes => do
    Json.checkFreeFields false Json.maxLevels node.config
    checkConfigs nodes

/-- A document as data that leaves, or the first fault of the free data in it. -/
def Document.serialize (d : Document) : Except DataError Json := do
  Json.checkFreeFields false Json.maxLevels d.workflow.freeData
  checkConfigs d.workflow.nodes
  pure d.toJson

end Flowgraph
