import Flowgraph.Json.Spelled
import Flowgraph.Run.Basic
import Flowgraph.Schedule

/-!
# Running a workflow

The nodes take their turns in the order of the schedule. A node acts only if an edge that was
followed leads to it; the first node that fails ends the run.

A run keeps copies of its input and of the contexts around each step. How deeply a value may be
nested to be copied depends on who starts the run, so that it is left open which values can be. A
run that comes to one that cannot is broken off: it has no result, the listener hears no more of
it, and what the effects of its nodes have changed stays.

## Main definitions

* `Walk.visit`: the turn of an active node.
* `Walk.through`: the turns of the nodes of a schedule.
* `Workflow.run`: a whole run.
-/

namespace Flowgraph

/-- How far a run has come. -/
structure Progress where
  /-- The present context. -/
  context : Fields
  /-- The nodes that the edges followed so far lead to. -/
  active : List String
  /-- The steps so far. -/
  steps : List Step
  /-- The fault that ended the run. -/
  fault : Option Fault
  /-- The events so far. -/
  events : List RunEvent
  /-- Whether the run is broken off, as a step could not be kept. -/
  broken : Bool
deriving Inhabited

namespace Progress

/-- The progress of a run that has not begun. -/
def start (workflow : Workflow) (input : Json) : Progress where
  context := [("input", input)]
  active := [workflow.entryNodeId]
  steps := []
  fault := none
  events := []
  broken := false

/-- The progress behind a node that failed. -/
def fail (p : Progress) (node : Node) (fault : Fault) : Progress :=
  { p with
    steps := p.steps ++ [⟨node, p.context, .failed fault⟩]
    fault := some fault }

/-- The progress behind a node that gave an outcome. -/
def advance (p : Progress) (node : Node) (outcome : Outcome) (next : List String) :
    Progress :=
  { p with
    context := outcome.context
    active := p.active ++ next
    steps := p.steps ++ [⟨node, p.context, .success outcome next⟩] }

/-- The progress of a run that is broken off. -/
def breakOff (p : Progress) : Progress :=
  { p with broken := true }

/-- Whether no further node takes its turn. -/
def isOver (p : Progress) : Bool :=
  p.fault.isSome || p.broken

end Progress

namespace Walk

variable {σ : Type}

/-- What stays the same during a run. -/
structure Setting (σ : Type) where
  /-- The workflow. -/
  workflow : Workflow
  /-- The kinds of nodes that may act. -/
  registry : List NodeType
  /-- The effects that nodes may have. -/
  backend : Backend σ
  /-- Who hears the events. -/
  listener : Listener σ
  /-- The values that can be copied. -/
  copies : Json → Bool

namespace Setting

/-- The progress of a run with some nodes done. -/
def tally (setting : Setting σ) (completed : Nat) : Tally :=
  ⟨completed, setting.workflow.nodes.length⟩

end Setting

/-- Tells the listener of an event. -/
def tell (setting : Setting σ) (event : RunEvent) (state : Progress × σ) : Progress × σ :=
  ({ state.1 with events := state.1.events ++ [event] }, (setting.listener event state.2).2)

/-- What a node leaves behind when it has acted, if the step can be kept. -/
def settle (setting : Setting σ) (node : Node) (p : Progress) :
    Except Fault Outcome × σ → Progress × σ
  | (.error fault, s) =>
    if Step.isCopied setting.copies ⟨node, p.context, .failed fault⟩ then
      tell setting (.nodeFailed node fault.report) (p.fail node fault, s)
    else (p.breakOff, s)
  | (.ok outcome, s) =>
    let next := Schedule.follow setting.workflow node.id outcome.selectedPort
    if Step.isCopied setting.copies ⟨node, p.context, .success outcome next⟩ then
      let advanced := p.advance node outcome next
      tell setting (.nodeCompleted node (setting.tally advanced.steps.length)) (advanced, s)
    else (p.breakOff, s)

/-- The turn of an active node. -/
def visit (setting : Setting σ) (node : Node) (state : Progress × σ) : Progress × σ :=
  let started := tell setting (.nodeStarted node (setting.tally state.1.steps.length)) state
  settle setting node started.1
    (node.execute setting.registry setting.backend started.1.context started.2)

/-- The turns of nodes, up to the first that fails or breaks the run off. -/
def through (setting : Setting σ) : List Node → Progress × σ → Progress × σ
  | [], state => state
  | node :: rest, state =>
    if state.1.active.contains node.id then
      let visited := visit setting node state
      if visited.1.isOver then visited else through setting rest visited
    else through setting rest state

/-- The last event of a run. -/
def closing (setting : Setting σ) (p : Progress) : RunEvent :=
  match p.fault with
  | some fault => .runFailed fault.report
  | none => .runCompleted (setting.tally p.steps.length)

/-- All turns of a run, with the events around them; one that is broken off has no last event. -/
def whole (setting : Setting σ) (order : List Node) (input : Json) (s : σ) : Progress × σ :=
  let begun :=
    tell setting (.runStarted (setting.tally 0)) (Progress.start setting.workflow input, s)
  let ended := through setting order begun
  if ended.1.broken then ended else tell setting (closing setting ended.1) ended

end Walk

namespace Workflow

variable {σ : Type}

/-- The input that the entry node has to offer. -/
def offeredInput (w : Workflow) : Except RunError Json :=
  match w.node? w.entryNodeId with
  | none => .ok (.obj [])
  | some node =>
    match node.settings with
    | .trigger s => .ok s.initialPayload
    | _ =>
      match node.config.get? "initial_payload" with
      | some field => .error (.payloadField field.kindName)
      | none => .error (.noPayload (Settings.title (some node.type)))

/-- The input of a run: the one given, unless that is `null`, else the one offered. -/
def initialInput (w : Workflow) : Json → Except RunError Json
  | .null => w.offeredInput
  | given => .ok given

/-- A whole run under a name, where some values can be copied. -/
def run (w : Workflow) (registry : List NodeType) (backend : Backend σ) (listener : Listener σ)
    (copies : Json → Bool) (id : String) (given : Json) : σ → Except RunError Run × σ :=
  fun s =>
    match Schedule.plan? w with
    | none => (.error (.cyclic w.id), s)
    | some order =>
      match w.initialInput given with
      | .error e => (.error e, s)
      | .ok input =>
        if copies input then
          let (p, s') := Walk.whole ⟨w, registry, backend, listener, copies⟩ order input s
          let finished : Run := {
            id := id
            workflowId := w.id
            mode := backend.mode
            initialInput := input
            output := p.context
            steps := p.steps
            fault := p.fault
            events := p.events }
          (if p.broken then .error .uncopied else .ok finished, s')
        else (.error .uncopied, s)

end Workflow
end Flowgraph
