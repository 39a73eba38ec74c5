import Flowgraph.Proofs.Events
import Flowgraph.Proofs.Fallback

/-!
# What runs do not look at

Much of a document is there for people: names, places on the canvas, icons, labels, tags, free data,
and remarks on edges that look as if they decided something.  No run looks at any of it.

To show this, all of it is taken away.  What is left of a workflow is run turn by turn as the
workflow itself, and what is left of the steps and the events is the same.  So two workflows of
which the same is left have the same runs.

## Main definitions

* `Workflow.bare` and the like — a workflow, or a part of one, without what is there for people.
* `Run.bare` — what is left of a run when the nodes in it are bare.
* `Run.SameBesideNames` — two runs tell of the same, but for the names of nodes.

## Main results

* `Node.execute_bare` — a bare node does what the node does.
* `Workflow.run_bare` — **the run of a bare workflow is what is left of the run.**
* `Document.run_of_bare_eq` — documents of which the same is left have the same runs.
-/

namespace Flowgraph

/-! ### Taking away -/

/-- A port without its label and its tag. -/
def Port.bare (p : Port) : Port :=
  { p with label := "", schema := "" }

/-- A node without its name, its place and its looks, and with bare ports. -/
def Node.bare (n : Node) : Node :=
  { n with
    name := ""
    position := ⟨.whole 0, .whole 0⟩
    inputs := n.inputs.map Port.bare
    outputs := n.outputs.map Port.bare
    ui := ⟨"", ""⟩ }

/-- An edge without its name, its label and its remark. -/
def Edge.bare (e : Edge) : Edge :=
  { e with id := "", label := none, condition := none }

/-- A workflow without its name, its description, its tags and its free data, and with bare nodes and
edges. -/
def Workflow.bare (w : Workflow) : Workflow :=
  { w with
    name := ""
    description := ""
    tags := []
    freeData := []
    nodes := w.nodes.map Node.bare
    edges := w.edges.map Edge.bare }

/-- A step of a bare node. -/
def Step.bare (step : Step) : Step :=
  { step with node := step.node.bare }

/-- An event about a bare node. -/
def RunEvent.bare : RunEvent → RunEvent
  | runStarted tally => runStarted tally
  | nodeStarted node tally => nodeStarted node.bare tally
  | nodeCompleted node tally => nodeCompleted node.bare tally
  | nodeFailed node error => nodeFailed node.bare error
  | runCompleted tally => runCompleted tally
  | runFailed error => runFailed error

/-- A run of bare nodes. -/
def Run.bare (r : Run) : Run :=
  { r with steps := r.steps.map Step.bare, events := r.events.map RunEvent.bare }

/-- An event does not tell more of a node than is left of it. -/
@[simp] theorem RunEvent.toJson_bare (e : RunEvent) : e.bare.toJson = e.toJson := by
  cases e <;> rfl

/-! ### Nodes -/

namespace Node

variable (n : Node)

@[simp] theorem id_bare : n.bare.id = n.id := rfl

@[simp] theorem outputIds_bare : n.bare.outputIds = n.outputIds :=
  List.map_map

/-- A bare node does what the node does. -/
theorem execute_bare {σ : Type} (registry : List NodeType) (backend : Backend σ) :
    n.bare.execute registry backend = n.execute registry backend := by
  funext context
  -- of the ports only the names of the outputs are looked at, by a branch
  have hact : n.bare.act backend context = n.act backend context := by
    unfold act
    rw [outputIds_bare]
    rfl
  rw [execute, execute, hact]
  rfl

end Node

/-! ### Schedules -/

namespace Workflow

variable (w : Workflow)

@[simp] theorem nodeIds_bare : w.bare.nodeIds = w.nodeIds :=
  List.map_map

theorem node?_bare (id : String) : w.bare.node? id = (w.node? id).map Node.bare :=
  List.find?_map ..

theorem lastNode?_bare (id : String) : w.bare.lastNode? id = (w.lastNode? id).map Node.bare := by
  rw [lastNode?, lastNode?, List.findRev?_eq_find?_reverse, List.findRev?_eq_find?_reverse, bare,
    ← List.map_reverse, List.find?_map]
  rfl

/-- The input that a workflow has to offer is there without what is for people. -/
theorem initialInput_bare (given : Json) : w.bare.initialInput given = w.initialInput given := by
  have hentry : w.bare.node? w.bare.entryNodeId = (w.node? w.entryNodeId).map Node.bare :=
    w.node?_bare w.entryNodeId
  have hoffered : w.bare.offeredInput = w.offeredInput := by
    rw [offeredInput, offeredInput, hentry]
    cases w.node? w.entryNodeId <;> rfl
  cases given with
  | null => exact hoffered
  | _ => rfl

end Workflow

namespace Schedule

variable (w : Workflow)

@[simp] theorem arcs_bare : arcs w.bare = arcs w := by
  have hedges : w.bare.edges.map (fun e => (e.source.nodeId, e.target.nodeId)) =
      w.edges.map fun e => (e.source.nodeId, e.target.nodeId) := List.map_map
  rw [arcs, arcs, hedges, names, names, Workflow.nodeIds_bare]

@[simp] theorem orderNames_bare : orderNames w.bare = orderNames w := by
  simp only [orderNames, sources, names, arcs_bare, Workflow.nodeIds_bare]

theorem order_bare : order w.bare = (order w).map Node.bare := by
  rw [order, order, orderNames_bare, List.map_filterMap]
  congr 1
  funext name
  exact w.lastNode?_bare name

theorem plan?_bare : plan? w.bare = (plan? w).map (List.map Node.bare) := by
  have hlength : w.bare.nodes.length = w.nodes.length := List.length_map _
  have hacyclic : isAcyclic w.bare = isAcyclic w := by
    rw [isAcyclic, isAcyclic, order_bare, List.length_map, hlength]
  rw [plan?, plan?, hacyclic, order_bare]
  split <;> rfl

/-- Edges are followed by their ends alone. -/
theorem follow_bare (nodeId : String) (port : Option String) :
    follow w.bare nodeId port = follow w nodeId port := by
  cases port <;> simp [follow, Workflow.bare, Edge.bare, List.filter_map, Function.comp_def]

end Schedule

/-! ### Turns -/

/-- The progress of a run of bare nodes. -/
def Progress.bare (p : Progress) : Progress :=
  { p with steps := p.steps.map Step.bare, events := p.events.map RunEvent.bare }

namespace Progress

variable (p : Progress) (node : Node)

@[simp] theorem length_steps_bare : p.bare.steps.length = p.steps.length :=
  List.length_map _

theorem fail_bare (fault : Fault) : (p.fail node fault).bare = p.bare.fail node.bare fault := by
  simp [bare, fail, Step.bare]

theorem advance_bare (outcome : Outcome) (next : List String) :
    (p.advance node outcome next).bare = p.bare.advance node.bare outcome next := by
  simp [bare, advance, Step.bare]

@[simp] theorem length_steps_advance (outcome : Outcome) (next : List String) :
    (p.advance node outcome next).steps.length = p.steps.length + 1 :=
  List.length_append

end Progress

namespace Walk

variable {σ : Type} (setting : Setting σ)

/-- The same run of what is left of the workflow. -/
def Setting.bare : Setting σ :=
  { setting with workflow := setting.workflow.bare }

/-- The state of a run of bare nodes; the state of the collaborators is the same. -/
def bareState (state : Progress × σ) : Progress × σ :=
  (state.1.bare, state.2)

@[simp] theorem tally_bare (completed : Nat) : setting.bare.tally completed =
    setting.tally completed := by
  rw [Setting.tally, Setting.tally, Setting.bare, Workflow.bare, List.length_map]

theorem closing_bare (p : Progress) : closing setting.bare p.bare = (closing setting p).bare := by
  have hfault : p.bare.fault = p.fault := rfl
  unfold closing
  rw [Progress.length_steps_bare, tally_bare, hfault]
  cases p.fault <;> rfl

variable {setting}

/-- What is left of the choice between two states. -/
theorem settle_bare_ite {kept : Bool} {bare bare' state state' : Progress × σ}
    (h : bare = bareState state) (h' : bare' = bareState state') :
    (if kept then bare else bare') = bareState (if kept then state else state') := by
  rw [h, h', apply_ite bareState]

variable (hlistener : ∀ event, setting.listener event.bare = setting.listener event)

include hlistener

theorem tell_bare (event : RunEvent) (state : Progress × σ) :
    tell setting.bare event.bare (bareState state) = bareState (tell setting event state) := by
  have hhear : setting.bare.listener event.bare = setting.listener event := hlistener event
  simp [tell, bareState, Progress.bare, hhear]

theorem settle_bare (node : Node) (p : Progress) (result : Except Fault Outcome) (s : σ) :
    settle setting.bare node.bare p.bare (result, s) =
      bareState (settle setting node p (result, s)) := by
  cases result with
  | error fault =>
    have htell := tell_bare hlistener (.nodeFailed node fault.report) (p.fail node fault, s)
    rw [bareState, Progress.fail_bare] at htell
    exact settle_bare_ite htell rfl
  | ok outcome =>
    have hnext : Schedule.follow setting.bare.workflow node.bare.id outcome.selectedPort =
        Schedule.follow setting.workflow node.id outcome.selectedPort :=
      Schedule.follow_bare setting.workflow node.id outcome.selectedPort
    have htell := tell_bare hlistener
      (.nodeCompleted node (setting.tally (p.steps.length + 1)))
      (p.advance node outcome (Schedule.follow setting.workflow node.id outcome.selectedPort), s)
    rw [bareState, Progress.advance_bare] at htell
    simp only [settle, hnext, tally_bare, Progress.length_steps_advance, Progress.length_steps_bare]
    exact settle_bare_ite htell rfl

/-- **A turn of a bare node** is what is left of the turn. -/
theorem visit_bare (node : Node) (state : Progress × σ) :
    visit setting.bare node.bare (bareState state) = bareState (visit setting node state) := by
  let event := RunEvent.nodeStarted node (setting.tally state.1.steps.length)
  have hevent : RunEvent.nodeStarted node.bare
      (setting.bare.tally (bareState state).1.steps.length) = event.bare := by
    simp [event, RunEvent.bare, bareState, Progress.bare]
  have hstarted := tell_bare hlistener event state
  unfold visit
  rw [hevent, hstarted, Node.execute_bare]
  exact settle_bare hlistener node _ _ _

/-- A run goes on side by side with that of the bare nodes. -/
theorem lockstep_bare (order : List Node) :
    Lockstep setting setting.bare Node.bare (fun state state' => state' = bareState state)
      order where
  id _ := rfl
  active h := h ▸ rfl
  fault h := h ▸ rfl
  broken h := h ▸ rfl
  turn node _ _ _ h := h ▸ visit_bare hlistener node _

theorem whole_bare (order : List Node) (input : Json) (s : σ) :
    whole setting.bare (order.map Node.bare) input s =
      bareState (whole setting order input s) := by
  have hbegun : begun setting.bare input s = bareState (begun setting input s) := by
    have htell := tell_bare hlistener (.runStarted (setting.tally 0))
      (Progress.start setting.workflow input, s)
    rw [begun, tally_bare]
    exact htell
  have hclosing : ∀ state, tell setting.bare (closing setting.bare (bareState state).1)
      (bareState state) = bareState (tell setting (closing setting state.1) state) := by
    intro state
    rw [bareState, closing_bare]
    exact tell_bare hlistener _ state
  exact (lockstep_bare hlistener order).whole (fun h => h ▸ hclosing _) hbegun

end Walk

/-! ### Runs -/

section

variable {σ : Type}

/-- **The run of a bare workflow is what is left of the run**, for a listener that hears no more of
an event than is left of it. -/
theorem Workflow.run_bare (w : Workflow) (registry : List NodeType) (backend : Backend σ)
    {listener : Listener σ} (hlistener : ∀ event, listener event.bare = listener event)
    (copies : Json → Bool) (id : String) (given : Json) (s : σ) :
    w.bare.run registry backend listener copies id given s =
      ((w.run registry backend listener copies id given s).1.map Run.bare,
        (w.run registry backend listener copies id given s).2) := by
  unfold run
  rw [Schedule.plan?_bare, initialInput_bare]
  cases Schedule.plan? w with
  | none => rfl
  | some order =>
    cases w.initialInput given with
    | error e => rfl
    | ok input =>
      let setting : Walk.Setting σ := ⟨w, registry, backend, listener, copies⟩
      have hheard : ∀ event, setting.listener event.bare = setting.listener event := hlistener
      have hwhole : Walk.whole ⟨w.bare, registry, backend, listener, copies⟩
          (order.map Node.bare) input s = Walk.bareState (Walk.whole setting order input s) :=
        Walk.whole_bare hheard order input s
      simp only [Option.map_some]
      rw [hwhole]
      have hbroken : (Walk.bareState (Walk.whole setting order input s)).1.broken =
          (Walk.whole setting order input s).1.broken := rfl
      cases copies input with
      | false => rfl
      | true =>
        -- the bare run is broken off exactly if the other one is
        simp only [if_true, hbroken]
        cases (Walk.whole setting order input s).1.broken <;> rfl

/-- What is left of a run can be copied if the run can be. -/
@[simp] theorem Run.isCopied_bare (r : Run) (copies : Json → Bool) :
    r.bare.isCopied copies = r.isCopied copies := by
  rw [isCopied, isCopied, bare, List.all_map]
  rfl

/-- A step as data, without the name of its node. -/
def Step.nameless (step : Step) : Fields :=
  step.toFields.filter fun field => field.1 != "node_name"

/-- Two runs tell of the same, but for the names of nodes. -/
structure Run.SameBesideNames (r r' : Run) : Prop where
  /-- The runs have one name. -/
  id : r.id = r'.id
  /-- They are runs of the workflow of one name. -/
  workflowId : r.workflowId = r'.workflowId
  /-- They go on in the same mode. -/
  mode : r.mode = r'.mode
  /-- They begin with the same input. -/
  initialInput : r.initialInput = r'.initialInput
  /-- Both succeed or both fail. -/
  status : r.status = r'.status
  /-- Both fail for the same reason. -/
  error : r.error? = r'.error?
  /-- Both give the same context. -/
  output : r.output = r'.output
  /-- The listener is told of the same events. -/
  events : r.events.map RunEvent.toJson = r'.events.map RunEvent.toJson
  /-- The steps are the same but for the names of their nodes. -/
  steps : r.steps.map Step.nameless = r'.steps.map Step.nameless

/-- Of what a step tells nothing is taken away but the name of its node. -/
theorem Step.nameless_bare (step : Step) : step.bare.nameless = step.nameless := by
  obtain ⟨rest, hbare, hstep⟩ : ∃ rest,
      step.bare.toFields = ("node_id", .str step.node.id) :: ("node_name", .str "") :: rest ∧
      step.toFields =
        ("node_id", .str step.node.id) :: ("node_name", .str step.node.name) :: rest :=
    ⟨_, rfl, rfl⟩
  rw [nameless, nameless, hbare, hstep]
  rfl

/-- Runs of which the same is left tell of the same. -/
theorem Run.SameBesideNames.of_bare_eq {r r' : Run} (h : r.bare = r'.bare) :
    r.SameBesideNames r' := by
  simp only [bare, Run.mk.injEq] at h
  obtain ⟨hid, hworkflow, hmode, hinput, houtput, hsteps, hfault, hevents⟩ := h
  have hstatus : r.status = r'.status := by rw [Run.status, Run.status, hfault]
  have herror : r.error? = r'.error? := by rw [Run.error?, Run.error?, hfault]
  have htold := congrArg (List.map RunEvent.toJson) hevents
  have hnameless := congrArg (List.map Step.nameless) hsteps
  simp only [List.map_map, Function.comp_def, RunEvent.toJson_bare] at htold
  simp only [List.map_map, Function.comp_def, Step.nameless_bare] at hnameless
  exact ⟨hid, hworkflow, hmode, hinput, hstatus, herror, houtput, htold, hnameless⟩

/-- **Documents of which the same is left have the same runs.**  Let two accepted documents differ
in what is there for people only.  Then with the same input, the same name for the run and the same
backend, live or simulated, both give a run, or both are broken off as not all of it can be copied.
The runs tell of the same, but for the names of nodes; and in any case the backend and the listener
are left in the same state, so that they were asked for the same answers, were given the same rows to
store and were told of the same events. -/
theorem Document.run_of_bare_eq {σ : Type} {v v' : Json} {d d' : Document} (h : check v = .ok d)
    (h' : check v' = .ok d') (hbare : d.workflow.bare = d'.workflow.bare) (backend : Backend σ)
    (hear : Json → Effect σ Unit) (id : String) (given : Json) (s : σ) :
    ∃ r r' : Run, r.SameBesideNames r' ∧ ∀ copies : Json → Bool, ∃ s',
      d.workflow.run NodeType.all backend (fun event => hear event.toJson) copies id given s =
        (if r.isCopied copies then .ok r else .error .uncopied, s') ∧
      d'.workflow.run NodeType.all backend (fun event => hear event.toJson) copies id given s =
        (if r.isCopied copies then .ok r' else .error .uncopied, s') := by
  let listener : Listener σ := fun event => hear event.toJson
  have hlistener : ∀ event, listener event.bare = listener event := fun event =>
    congrArg hear event.toJson_bare
  obtain ⟨r, hr⟩ := (check_eq_ok_iff.mp h).2.exists_run backend listener id given s
  obtain ⟨r', hr'⟩ := (check_eq_ok_iff.mp h').2.exists_run backend listener id given s
  -- the bare workflow is one, and so is its run
  have hleft (copies : Json → Bool) :
      ((d.workflow.run NodeType.all backend listener copies id given s).1.map Run.bare =
        (d'.workflow.run NodeType.all backend listener copies id given s).1.map Run.bare) ∧
      (d.workflow.run NodeType.all backend listener copies id given s).2 =
        (d'.workflow.run NodeType.all backend listener copies id given s).2 := by
    have hrun := d.workflow.run_bare NodeType.all backend hlistener copies id given s
    rw [hbare, d'.workflow.run_bare NodeType.all backend hlistener copies id given s] at hrun
    exact Prod.mk.inj hrun.symm
  have hsame : r.bare = r'.bare := by
    obtain ⟨hruns, -⟩ := hleft fun _ => true
    rw [hr, hr', r.isCopied_true, r'.isCopied_true] at hruns
    exact Except.ok.inj hruns
  refine ⟨r, r', .of_bare_eq hsame, fun copies => ⟨_, Prod.ext (hr copies) rfl, ?_⟩⟩
  have hcopied : r'.isCopied copies = r.isCopied copies := by
    rw [← r.isCopied_bare, ← r'.isCopied_bare, hsame]
  refine Prod.ext ?_ (hleft copies).2.symm
  rw [← hcopied]
  exact hr' copies

end

/-- The triage, named and drawn otherwise, and with a remark on every edge that it is never to be
taken. -/
def Workflow.triageRedrawn : Workflow :=
  { triage with
    name := "Second opinion"
    description := "Looks the same to a run."
    tags := ["copy"]
    freeData := [("label", .str "high")]
    nodes := triage.nodes.map fun node =>
      { node with
        name := "New " ++ node.name
        position := ⟨.whole (-1), .whole 7⟩
        inputs := node.inputs.map fun port => { port with label := "Into", schema := "Text" }
        outputs := node.outputs.map fun port => { port with label := "Out of", schema := "Text" }
        ui := ⟨"star", "red"⟩ }
    edges := triage.edges.map fun edge =>
      { edge with
        id := "new_" ++ edge.id
        label := some "next"
        condition := some "1 == 2" } }

/-- A language model that only talks, and remembers what it was asked. -/
def Collaborators.listening : Collaborators (List Prompt) where
  saveTable := "va_items"
  complete prompt := fun asked => (.ok "Of course!", asked ++ [prompt])
  insert _ _ := Effect.fail (.foreign "OSError" "disk full")

namespace Document

theorem check_triageRedrawn :
    check (toJson ⟨Workflow.triageRedrawn⟩) = .ok ⟨Workflow.triageRedrawn⟩ := by
  have hshape : Shape.document (toJson ⟨Workflow.triageRedrawn⟩) = .ok ⟨Workflow.triageRedrawn⟩ :=
    rfl
  have hread : read (toJson ⟨Workflow.triageRedrawn⟩) = .ok ⟨Workflow.triageRedrawn⟩ := by
    change ofJson _ = _
    rw [ofJson, hshape]
    rfl
  exact check_eq_ok_iff.mpr ⟨hread, Workflow.breaches_eq_nil_iff.mp (by decide +kernel)⟩

/-- The triage and the one that is drawn otherwise ask the same two questions. -/
theorem run_of_bare_eq_triage : ∃ r r' asked,
    Workflow.triage.run NodeType.all (.live .listening "wf_triage") (fun _ => pure ())
      (Json.isWithin 490) "run" (.str "high fever") [] = (.ok r, asked) ∧
    Workflow.triageRedrawn.run NodeType.all (.live .listening "wf_triage") (fun _ => pure ())
      (Json.isWithin 490) "run" (.str "high fever") [] = (.ok r', asked) ∧
    asked.length = 2 ∧ r.SameBesideNames r' := by
  obtain ⟨r, r', hsame, hruns⟩ := run_of_bare_eq check_triage check_triageRedrawn rfl
    (.live .listening "wf_triage") (fun _ => pure ()) "run" (.str "high fever") []
  obtain ⟨asked, hr, hr'⟩ := hruns (Json.isWithin 490)
  have hgives : (Workflow.triage.run NodeType.all (.live .listening "wf_triage")
      (fun _ => pure ()) (Json.isWithin 490) "run" (.str "high fever") []).1.isOk = true := by
    decide +kernel
  have hasked : (Workflow.triage.run NodeType.all (.live .listening "wf_triage")
      (fun _ => pure ()) (Json.isWithin 490) "run" (.str "high fever") []).2.length = 2 := by
    decide +kernel
  rw [hr] at hgives hasked
  split_ifs at hr hr' hgives with hcopied
  · exact ⟨r, r', asked, hr, hr', hasked, hsame⟩
  · cases hgives

end Document
end Flowgraph
