import Flowgraph.Activity.Dispatch

/-!
# Runs

A run of a workflow is told by its steps, one for every node that acted, and by its events, which
a listener hears while the run goes on.

## Main definitions

* `Step`: what one node did.
* `RunEvent`: what a listener hears.
* `Run`: a finished run.
* `RunError`: why there is no finished run.
-/

namespace Flowgraph

/-- How a step ended. -/
inductive StepEnd where
  /-- The node gave an outcome, and these nodes come next. -/
  | success (outcome : Outcome) (next : List String)
  /-- The node failed. -/
  | failed (fault : Fault)
deriving Inhabited

/-- What one node did. -/
structure Step where
  /-- The node. -/
  node : Node
  /-- The context that the node was given. -/
  input : Fields
  /-- How the step ended. -/
  result : StepEnd
deriving Inhabited

namespace Step

/-- The fault of a failed step. -/
def fault? (step : Step) : Option Fault :=
  match step.result with
  | .success _ _ => none
  | .failed fault => some fault

/-- Whether the step failed. -/
def isFailed (step : Step) : Bool :=
  step.fault?.isSome

/-- The wording of the fault of a failed step. -/
def error? (step : Step) : Option String :=
  step.fault?.map Fault.report

/-- The new context, or the fault where there is none. -/
def output (step : Step) : Fields :=
  match step.result with
  | .success outcome _ => outcome.context
  | .failed fault => [("error", .str fault.report)]

/-- The output that a branch took. -/
def selectedPort (step : Step) : Option String :=
  match step.result with
  | .success outcome _ => outcome.selectedPort
  | .failed _ => none

/-- The nodes that come next. -/
def next (step : Step) : List String :=
  match step.result with
  | .success _ next => next
  | .failed _ => []

/-- Whether a live node had to fall back on an answer of its own. -/
def fallbackUsed (step : Step) : Bool :=
  match step.result with
  | .success outcome _ => outcome.fallbackUsed
  | .failed _ => false

/-- Whether a step can be kept, which takes copies of the contexts around it. -/
def isCopied (copies : Json → Bool) (step : Step) : Bool :=
  copies (.obj step.input) && copies (.obj step.output)

end Step

/-- The name of the way a run or a step ended. -/
def statusName (failed : Bool) : String :=
  if failed then "failed" else "success"

/-- A step as data. -/
def Step.toFields (step : Step) : Fields :=
  [("node_id", .str step.node.id),
    ("node_name", .str step.node.name),
    ("node_type", .str step.node.type.name),
    ("status", .str (statusName step.isFailed)),
    ("selected_output_port", .ofOption step.selectedPort),
    ("next_node_ids", .strs step.next),
    ("input", .obj step.input),
    ("output", .obj step.output),
    ("fallback_used", .bool step.fallbackUsed)]
    ++ (match step.error? with
      | some message => [("error", .str message)]
      | none => [])

/-! ### Events -/

/-- How many nodes are done, and how many the workflow has. -/
structure Tally where
  /-- The nodes that are done. -/
  completed : Nat
  /-- All nodes of the workflow. -/
  total : Nat
deriving DecidableEq, Repr

/-- What a listener hears. -/
inductive RunEvent where
  /-- The run begins. -/
  | runStarted (tally : Tally)
  /-- A node's turn comes. -/
  | nodeStarted (node : Node) (tally : Tally)
  /-- A node is done. -/
  | nodeCompleted (node : Node) (tally : Tally)
  /-- A node failed. -/
  | nodeFailed (node : Node) (error : String)
  /-- The run is over, and no node failed. -/
  | runCompleted (tally : Tally)
  /-- The run is over because a node failed. -/
  | runFailed (error : String)
deriving Inhabited

namespace RunEvent

/-- The name of an event. -/
def name : RunEvent → String
  | runStarted _ => "execution:start"
  | nodeStarted _ _ => "node:start"
  | nodeCompleted _ _ => "node:complete"
  | nodeFailed _ _ => "node:error"
  | runCompleted _ => "execution:complete"
  | runFailed _ => "execution:error"

/-- The node that an event is about. -/
def node? : RunEvent → Option Node
  | nodeStarted node _ => some node
  | nodeCompleted node _ => some node
  | nodeFailed node _ => some node
  | _ => none

/-- The wording of the fault that an event tells of. -/
def error? : RunEvent → Option String
  | nodeFailed _ error => some error
  | runFailed error => some error
  | _ => none

/-- The progress that an event tells of. -/
def tally? : RunEvent → Option Tally
  | runStarted tally => some tally
  | nodeStarted _ tally => some tally
  | nodeCompleted _ tally => some tally
  | runCompleted tally => some tally
  | _ => none

/-- A tally as data. -/
def tallyJson (t : Tally) : Json :=
  .obj [("completed", .int t.completed), ("total", .int t.total)]

/-- An event as data. -/
def toJson (e : RunEvent) : Json :=
  .obj [
    ("type", .str e.name),
    ("node_id", .ofOption (e.node?.map Node.id)),
    ("node_type", .ofOption (e.node?.map fun node => node.type.name)),
    ("error", .ofOption e.error?),
    ("progress", (e.tally?.map tallyJson).getD .null)]

end RunEvent

/-- Someone who hears the events of a run. What a listener changes stays, but a listener that
fails does not disturb the run. -/
abbrev Listener (σ : Type) := RunEvent → Effect σ Unit

/-- The listener that does nothing. -/
def Listener.silent {σ : Type} : Listener σ :=
  fun _ => pure ()

/-! ### Runs -/

/-- A finished run. -/
structure Run where
  /-- The name of the run. -/
  id : String
  /-- The workflow. -/
  workflowId : String
  /-- The name of the mode. -/
  mode : String
  /-- The input that the run began with. -/
  initialInput : Json
  /-- The context behind the last node that succeeded. -/
  output : Fields
  /-- The steps, in order. -/
  steps : List Step
  /-- The fault that ended the run early. -/
  fault : Option Fault
  /-- The events that the listener was told, in order. -/
  events : List RunEvent
deriving Inhabited

namespace Run

/-- The name of the way the run ended. -/
def status (run : Run) : String :=
  statusName run.fault.isSome

/-- The wording of the fault that ended the run early. -/
def error? (run : Run) : Option String :=
  run.fault.map Fault.report

/-- The step that failed. -/
def failedStep? (run : Run) : Option Step :=
  run.steps.find? Step.isFailed

/-- Whether everything that a run keeps can be copied: its input and the contexts around each of
its steps. -/
def isCopied (copies : Json → Bool) (run : Run) : Bool :=
  copies run.initialInput && run.steps.all (Step.isCopied copies)

end Run

/-- Why there is no finished run: it cannot begin, or it is broken off. -/
inductive RunError where
  /-- The nodes cannot be ordered. -/
  | cyclic (workflowId : String)
  /-- No input is given, and the entry node, with settings of this title, is no trigger that has
  one to offer. -/
  | noPayload (title : String)
  /-- No input is given, and the entry node is no trigger but has a field of this kind where the
  payload is asked for. -/
  | payloadField (kind : String)
  /-- A value that is to be kept cannot be copied. -/
  | uncopied
deriving DecidableEq, Repr

/-- The wording of a reason. -/
def RunError.message : RunError → String
  | cyclic _ => "Workflow graph is not a DAG"
  | noPayload title => s!"'{title}' object has no attribute 'initial_payload'"
  | payloadField kind => s!"'{kind}' object is not callable"
  | uncopied => DataError.copyTooDeep.message

end Flowgraph
