import Flowgraph.Document.Basic

/-!
# Schedules

The nodes of a workflow are put into an order in which every edge points forward. Nodes without
incoming edges come first, in the order of the node list. The edges into every other node are
counted, and counted down as their sources are done; a node whose count comes down to zero is
released, and nodes wait in the order of their release. Edges to or from unknown nodes do not count,
and of several nodes of one name only the last one does.

During a run a set of active nodes is kept: a node is active once an edge that leads to it has
been followed.

## Main definitions

* `Schedule.countDown`: what a node releases that is done.
* `Schedule.order`: the order; it is shorter than the node list if there is a cycle.
* `Schedule.plan?`: the order of a workflow whose nodes can all be ordered.
* `Schedule.follow`: the nodes that the edges leaving a node lead to.
-/

namespace Flowgraph.Schedule

/-! ### The graph -/

/-- A list without the later occurrences of its items. -/
def distinct (names : List String) : List String :=
  names.foldl (fun seen name => if seen.contains name then seen else seen ++ [name]) []

/-- The names of the nodes, each once. -/
def names (w : Workflow) : List String :=
  distinct w.nodeIds

/-- The edges between nodes of the workflow, each as source and target. -/
def arcs (w : Workflow) : List (String × String) :=
  let known := names w
  (w.edges.map fun e => (e.source.nodeId, e.target.nodeId)).filter fun arc =>
    known.contains arc.1 && known.contains arc.2

/-- The targets of the arcs that leave a node. -/
def successors (arcs : List (String × String)) (name : String) : List String :=
  (arcs.filter fun arc => arc.1 == name).map Prod.snd

/-! ### The order -/

/-- How many arcs lead to each node, of those whose sources are not done. -/
abbrev Degrees := List (String × Int)

namespace Degrees

/-- The count of a node. -/
def count (table : Degrees) (name : String) : Int :=
  (table.lookup name).getD 0

/-- The counts with an amount added to that of one node. -/
def add (table : Degrees) (name : String) (amount : Int) : Degrees :=
  table.map fun entry => (entry.1, if entry.1 = name then entry.2 + amount else entry.2)

end Degrees

/-- The counts before any node is done. -/
def degrees (names : List String) (arcs : List (String × String)) : Degrees :=
  arcs.foldl (fun table arc => table.add arc.2 1) (names.map fun name => (name, 0))

/-- Counts down the targets of arcs, one arc after the other. The nodes whose counts come down to
zero are released, in this order. -/
def countDown : Degrees → List String → Degrees × List String
  | table, [] => (table, [])
  | table, next :: rest =>
    let lowered := table.add next (-1)
    let (final, released) := countDown lowered rest
    (final, if lowered.count next = 0 then next :: released else released)

/-- The order of the nodes waiting and of those they release, behind the nodes done. The fuel is
the number of nodes that are not done. -/
def orderFrom (arcs : List (String × String)) :
    Nat → Degrees → List String → List String → List String
  | 0, _, _, done => done
  | _ + 1, _, [], done => done
  | fuel + 1, table, name :: waiting, done =>
    let (table, released) := countDown table (successors arcs name)
    orderFrom arcs fuel table (waiting ++ released) (done ++ [name])

/-- The nodes without incoming arcs, in the order of the node list. -/
def sources (w : Workflow) : List String :=
  let table := degrees (names w) (arcs w)
  (names w).filter fun name => table.count name == 0

/-- The names of the nodes in an order in which every arc points forward. -/
def orderNames (w : Workflow) : List String :=
  orderFrom (arcs w) (names w).length (degrees (names w) (arcs w)) (sources w) []

/-- The nodes in an order in which every arc points forward. -/
def order (w : Workflow) : List Node :=
  (orderNames w).filterMap w.lastNode?

/-- Whether all nodes can be ordered. -/
def isAcyclic (w : Workflow) : Bool :=
  (order w).length == w.nodes.length

/-- The order of a workflow whose nodes can all be ordered. -/
def plan? (w : Workflow) : Option (List Node) :=
  if isAcyclic w then some (order w) else none

/-! ### Following edges -/

/-- The targets of the edges that leave a node, or one port of it. -/
def follow (w : Workflow) (nodeId : String) (port : Option String) : List String :=
  let leaving := w.edges.filter fun e => e.source.nodeId == nodeId
  let taken := match port with
    | none => leaving
    | some p => leaving.filter fun e => e.source.portId == p
  taken.map fun e => e.target.nodeId

end Flowgraph.Schedule
