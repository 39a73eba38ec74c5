import Flowgraph.Proofs.Lockstep
import Flowgraph.Proofs.Safety
import Mathlib.Data.List.Forall2

/-!
# Falling back

A node that asks a model for an object and gets none goes on with an answer of its own, and that is
the very answer that a simulated node gives.  So a live run whose model never answers with an object
is the simulated run over again, turn by turn, as long as no node stores anything or asks for a
text.  The two runs tell themselves apart by their mode and by the marks on the steps that fell
back.

Each computation of the one run is compared with the same computation of the other, on states that
have nothing to do with each other.

## Main definitions

* `Effect.Agrees` — two computations on different states fail alike or give related values.
* `Collaborators.GivesNoObject` — a model whose answers hold no object.
* `Node.Copes`, `Node.asks` — nodes that can do without a model, and those of them that ask it.
* `Run.FellBack` — what a live and a simulated run have in common.

## Main results

* `Node.execute_agrees` — a node that copes does live what it does when it is simulated.
* `Walk.Turn.keepsStep` — two runs in step stay in step for a turn.
* `Document.fellBack_of_check` — **a live run that gets no object is the simulated run.**
-/

namespace Flowgraph

/-! ### Two computations side by side -/

namespace Effect

variable {σ τ α β γ δ : Type}

/-- Whatever the two states are, both computations fail with one fault, or both give a value and the
values are related. -/
def Agrees (m : Effect σ α) (m' : Effect τ β) (rel : α → β → Prop) : Prop :=
  ∀ s t, match (m s).1, (m' t).1 with
    | .ok a, .ok b => rel a b
    | .error fault, .error fault' => fault = fault'
    | _, _ => False

variable {m : Effect σ α} {m' : Effect τ β} {rel : α → β → Prop}

namespace Agrees

variable {s s' : σ} {t t' : τ} {a : α} {b : β} {fault fault' : Fault}

theorem of_ok (h : m.Agrees m' rel) (hm : m s = (.ok a, s')) (hm' : m' t = (.ok b, t')) :
    rel a b := by
  have hst := h s t
  rwa [hm, hm'] at hst

theorem of_error (h : m.Agrees m' rel) (hm : m s = (.error fault, s'))
    (hm' : m' t = (.error fault', t')) : fault = fault' := by
  have hst := h s t
  rwa [hm, hm'] at hst

theorem not_ok_error (h : m.Agrees m' rel) (hm : m s = (.ok a, s'))
    (hm' : m' t = (.error fault', t')) : False := by
  have hst := h s t
  rwa [hm, hm'] at hst

theorem not_error_ok (h : m.Agrees m' rel) (hm : m s = (.error fault, s'))
    (hm' : m' t = (.ok b, t')) : False := by
  have hst := h s t
  rwa [hm, hm'] at hst

end Agrees

theorem agrees_pure {a : α} {b : β} (h : rel a b) :
    (pure a : Effect σ α).Agrees (pure b : Effect τ β) rel :=
  fun _ _ => h

theorem agrees_fail (fault : Fault) :
    (fail fault : Effect σ α).Agrees (fail fault : Effect τ β) rel :=
  fun _ _ => rfl

/-- Data serves both sides alike. -/
theorem agrees_ofData (r : Except DataError α) :
    (ofData r : Effect σ α).Agrees (ofData r : Effect τ α) Eq := by
  cases r with
  | ok a => exact agrees_pure rfl
  | error e => exact agrees_fail (.data e)

theorem Agrees.bind {f : α → Effect σ γ} {f' : β → Effect τ δ} {rel' : γ → δ → Prop}
    (hm : m.Agrees m' rel) (hf : ∀ a b, rel a b → (f a).Agrees (f' b) rel') :
    (m >>= f).Agrees (m' >>= f') rel' := by
  intro s t
  have hst := hm s t
  rw [bind_apply, bind_apply]
  rcases hrun : m s with ⟨fault | a, s'⟩ <;> rcases hrun' : m' t with ⟨fault' | b, t'⟩ <;>
    rw [hrun, hrun'] at hst
  · exact hst
  · exact hst.elim
  · exact hst.elim
  · exact hf a b hst s' t'

/-- Where both sides use one value, the relation to keep is the equality of values. -/
theorem Agrees.bind_eq {m' : Effect τ α} {f : α → Effect σ γ} {f' : α → Effect τ δ}
    {rel' : γ → δ → Prop} (hm : m.Agrees m' Eq) (hf : ∀ a, (f a).Agrees (f' a) rel') :
    (m >>= f).Agrees (m' >>= f') rel' :=
  hm.bind fun a _ hab => hab ▸ hf a

end Effect

/-! ### Models without objects -/

/-- The model answers every question, and no answer holds an object. -/
def Collaborators.GivesNoObject {σ : Type} (c : Collaborators σ) : Prop :=
  ∀ prompt s, ∃ answer s', c.complete prompt s = (.ok answer, s') ∧
    Json.embeddedObject? answer = .ok none

theorem Collaborators.GivesNoObject.agrees {σ τ : Type} {c : Collaborators σ} (h : c.GivesNoObject)
    (prompt : Prompt) :
    (c.complete prompt >>= fun answer => Effect.ofData (Json.embeddedObject? answer)).Agrees
      (pure none : Effect τ (Option Fields))
      fun answer? answer?' => answer? = none ∧ answer?' = none := by
  intro s t
  obtain ⟨answer, s', hanswer, hnone⟩ := h prompt s
  rw [Effect.bind_apply, hanswer]
  dsimp only
  rw [hnone]
  exact ⟨rfl, rfl⟩

/-- A live backend whose model gives no object has none, just as a simulated one. -/
theorem Backend.completeObject_agrees {σ τ : Type} {c : Collaborators σ} (h : c.GivesNoObject)
    (workflowId text : String) (system : Option String) :
    ((live c workflowId).completeObject text system).Agrees
      ((simulated : Backend τ).completeObject text system)
      fun answer? answer?' => answer? = none ∧ answer?' = none :=
  h.agrees _

/-! ### Nodes -/

/-- Nodes that neither store a row nor ask a model for a text. -/
def Node.Copes (node : Node) : Prop :=
  node.isTrigger = true ∨ node.type ∈ [.condition, .delay, .classify, .extract]

/-- Whether a node asks a model for an object: a classification that has labels to choose from does,
and an extraction that has fields to look for. -/
def Node.asks (node : Node) : Bool :=
  match node.settings with
  | .classify s => !s.labels.isEmpty
  | .extract s => !s.fields.isEmpty
  | _ => false

/-- The outcome of a live node is the one of a simulated node, with a mark if there was a question
to fall back from. -/
def Outcome.FellBack (asked : Bool) (live sim : Outcome) : Prop :=
  sim.fallbackUsed = false ∧ live = { sim with fallbackUsed := asked }

namespace Activity

variable {σ τ : Type} {c : Collaborators σ} (h : c.GivesNoObject) (workflowId : String)
  (context : Fields)

theorem resolve_agrees (path : String) :
    (resolve context path : Effect σ Json).Agrees (resolve context path : Effect τ Json) Eq :=
  (Effect.agrees_ofData _).bind_eq fun _ => Effect.agrees_pure rfl

include h in
theorem Classification.run_agrees (s : ClassifySettings) :
    (Classification.run (.live c workflowId) s context).Agrees
      (Classification.run (.simulated : Backend τ) s context)
      (Outcome.FellBack (!s.labels.isEmpty)) := by
  refine (resolve_agrees context _).bind_eq fun source => ?_
  cases hlabels : s.labels.isEmpty with
  | true => exact Effect.agrees_pure ⟨rfl, rfl⟩
  | false =>
    refine (Backend.completeObject_agrees h workflowId _ _).bind ?_
    rintro answer? answer?' ⟨rfl, rfl⟩
    exact Effect.agrees_pure ⟨rfl, rfl⟩

include h in
theorem Extraction.run_agrees (s : ExtractSettings) :
    (Extraction.run (.live c workflowId) s context).Agrees
      (Extraction.run (.simulated : Backend τ) s context)
      (Outcome.FellBack (!s.fields.isEmpty)) := by
  refine (resolve_agrees context _).bind_eq fun source => ?_
  cases hfields : s.fields.isEmpty with
  | true => exact Effect.agrees_pure ⟨rfl, rfl⟩
  | false =>
    refine (Backend.completeObject_agrees h workflowId _ _).bind ?_
    rintro answer? answer?' ⟨rfl, rfl⟩
    exact Effect.agrees_pure ⟨rfl, rfl⟩

end Activity

namespace Node

variable {σ τ : Type} {node : Node}

theorem settings_of_delay (h : node.type = .delay) :
    node.settings = .delay (Settings.delayOf node.config) := by
  rw [settings, h]
  rfl

theorem settings_of_classify (h : node.type = .classify) :
    node.settings = .classify (Settings.classifyOf node.config) := by
  rw [settings, h]
  rfl

theorem settings_of_extract (h : node.type = .extract) :
    node.settings = .extract (Settings.extractOf node.config) := by
  rw [settings, h]
  rfl

theorem act_agrees (hcopes : node.Copes) {c : Collaborators σ} (hc : c.GivesNoObject)
    (workflowId : String) (context : Fields) :
    (node.act (.live c workflowId) context).Agrees
      (node.act (.simulated : Backend τ) context) (Outcome.FellBack node.asks) := by
  unfold act asks
  rcases hcopes with htrigger | htype
  · obtain ⟨s, hs⟩ := settings_of_trigger htrigger
    rw [hs]
    exact Effect.agrees_pure ⟨rfl, rfl⟩
  · simp only [List.mem_cons, List.not_mem_nil, or_false] at htype
    rcases htype with htype | htype | htype | htype
    · rw [settings_of_condition htype]
      exact (Effect.agrees_ofData _).bind_eq fun _ => Effect.agrees_pure ⟨rfl, rfl⟩
    · rw [settings_of_delay htype]
      exact Effect.agrees_pure ⟨rfl, rfl⟩
    · rw [settings_of_classify htype]
      exact Activity.Classification.run_agrees hc workflowId context _
    · rw [settings_of_extract htype]
      exact Activity.Extraction.run_agrees hc workflowId context _

/-- **A node that copes does live what it does when it is simulated**, and marks that it asked. -/
theorem execute_agrees (hcopes : node.Copes) {c : Collaborators σ} (hc : c.GivesNoObject)
    (registry : List NodeType) (workflowId : String) (context : Fields) :
    (node.execute registry (.live c workflowId) context).Agrees
      (node.execute registry (.simulated : Backend τ) context) (Outcome.FellBack node.asks) := by
  unfold execute
  split
  · exact act_agrees hcopes hc workflowId context
  · exact Effect.agrees_fail _

end Node

/-! ### Turns -/

/-- A live step is the simulated one, but for the mark that its node asked and fell back. -/
structure Step.FellBack (live sim : Step) : Prop where
  /-- The node is the same. -/
  node : live.node = sim.node
  /-- Both steps succeed or both fail. -/
  isFailed : live.isFailed = sim.isFailed
  /-- Both fail for the same reason. -/
  error : live.error? = sim.error?
  /-- The context that the node is given is the same. -/
  input : live.input = sim.input
  /-- So is the context that it gives. -/
  output : live.output = sim.output
  /-- A branch takes the same output. -/
  selectedPort : live.selectedPort = sim.selectedPort
  /-- The same nodes come next. -/
  next : live.next = sim.next
  /-- The live step is marked exactly if its node asks and succeeds. -/
  marked : live.fallbackUsed = (live.node.asks && !live.isFailed)
  /-- The simulated step is not marked. -/
  unmarked : sim.fallbackUsed = false

theorem Step.FellBack.of_outcome {node : Node} {input : Fields} {live sim : Outcome}
    {next : List String} (h : Outcome.FellBack node.asks live sim) :
    FellBack ⟨node, input, .success live next⟩ ⟨node, input, .success sim next⟩ := by
  obtain ⟨hunmarked, rfl⟩ := h
  exact ⟨rfl, rfl, rfl, rfl, rfl, rfl, rfl, (Bool.and_true _).symm, hunmarked⟩

theorem Step.FellBack.of_fault (node : Node) (input : Fields) (fault : Fault) :
    FellBack ⟨node, input, .failed fault⟩ ⟨node, input, .failed fault⟩ :=
  ⟨rfl, rfl, rfl, rfl, rfl, rfl, rfl, (Bool.and_false _).symm, rfl⟩

namespace Walk

variable {σ τ : Type} {live : Setting σ} {sim : Setting τ} {node : Node}

/-- Two runs have come equally far. -/
def InStep (p q : Progress) : Prop :=
  ∃ steps, p = { q with steps := steps } ∧ List.Forall₂ Step.FellBack steps q.steps

theorem inStep_begun (live : Setting σ) (sim : Setting τ)
    (hworkflow : live.workflow = sim.workflow) (input : Json) (s : σ) (t : τ) :
    InStep (begun live input s).1 (begun sim input t).1 := by
  refine ⟨[], ?_, .nil⟩
  simp only [begun, tell, Progress.start, Setting.tally, hworkflow]

/-- Two runs in step stay in step for a turn. -/
theorem Turn.keepsStep {state state' : Progress × σ} {other other' : Progress × τ}
    (h : InStep state.1 other.1) (hworkflow : live.workflow = sim.workflow)
    (hagrees : ∀ context, (node.execute live.registry live.backend context).Agrees
      (node.execute sim.registry sim.backend context) (Outcome.FellBack node.asks))
    (hlive : Turn live node state state') (hsim : Turn sim node other other') :
    InStep state'.1 other'.1 := by
  cases hlive with
  | succeeded p s s' outcome hrun =>
    obtain ⟨steps, rfl, hsteps⟩ := h
    cases hsim with
    | succeeded q t t' outcome' hrun' =>
      have hout := (hagrees q.context).of_ok hrun hrun'
      refine ⟨steps ++ [_], ?_, List.rel_append hsteps (.cons (.of_outcome hout) .nil)⟩
      simp only [Progress.advance, Setting.tally, hworkflow, hsteps.length_eq, hout.2]
    | failed q t t' fault hrun' => exact ((hagrees q.context).not_ok_error hrun hrun').elim
  | failed p s s' fault hrun =>
    obtain ⟨steps, rfl, hsteps⟩ := h
    cases hsim with
    | succeeded q t t' outcome' hrun' => exact ((hagrees q.context).not_error_ok hrun hrun').elim
    | failed q t t' fault' hrun' =>
      obtain rfl := (hagrees q.context).of_error hrun hrun'
      refine ⟨steps ++ [_], ?_, List.rel_append hsteps (.cons (.of_fault node _ fault) .nil)⟩
      simp only [Progress.fail, Setting.tally, hworkflow, hsteps.length_eq]

/-- Two runs in step stay in step to their end. -/
theorem inStep_through (live : Setting σ) (sim : Setting τ)
    (hworkflow : live.workflow = sim.workflow) {order : List Node}
    (hagrees : ∀ node ∈ order, ∀ context,
      (node.execute live.registry live.backend context).Agrees
        (node.execute sim.registry sim.backend context) (Outcome.FellBack node.asks))
    {state : Progress × σ} {other : Progress × τ} (h : InStep state.1 other.1) :
    InStep (through live.unbroken order state).1 (through sim.unbroken order other).1 := by
  have hlock : Lockstep live.unbroken sim.unbroken id
      (fun state other => InStep state.1 other.1) order := {
    id := fun _ => rfl
    active := fun ⟨_, heq, _⟩ => heq ▸ rfl
    fault := fun ⟨_, heq, _⟩ => heq ▸ rfl
    broken := fun ⟨_, heq, _⟩ => heq ▸ rfl
    turn := fun node hnode _ _ hstep => Turn.keepsStep hstep hworkflow (hagrees node hnode)
      (visit_turn live node _) (visit_turn sim node _) }
  have hthrough := hlock.through h
  rwa [List.map_id] at hthrough

end Walk

/-! ### Runs -/

/-- A live run is the simulated one, but for its mode and the marks on its steps. -/
structure Run.FellBack (live sim : Run) : Prop where
  /-- Both runs succeed or both fail. -/
  status : live.status = sim.status
  /-- Both fail for the same reason. -/
  error : live.error? = sim.error?
  /-- Both give the same context. -/
  output : live.output = sim.output
  /-- The steps are the same, but for the marks. -/
  steps : List.Forall₂ Step.FellBack live.steps sim.steps
  /-- The one run was live. -/
  mode_live : live.mode = "live"
  /-- The other one was simulated. -/
  mode_sim : sim.mode = "simulate"
  /-- Nothing else tells the runs apart. -/
  rest : live = { sim with mode := live.mode, steps := live.steps }

/-- Where every node does in one run what it does in the other, the one run is the other. -/
theorem Walk.fellBack {σ τ : Type} (live : Setting σ) (sim : Setting τ)
    (hworkflow : live.workflow = sim.workflow) (hlive : live.backend.mode = "live")
    (hsim : sim.backend.mode = "simulate") {order : List Node}
    (hagrees : ∀ node ∈ order, ∀ context,
      (node.execute live.registry live.backend context).Agrees
        (node.execute sim.registry sim.backend context) (Outcome.FellBack node.asks))
    (id : String) (input : Json) (s : σ) (t : τ) :
    (finished live id input (through live.unbroken order (begun live input s)).1).FellBack
      (finished sim id input (through sim.unbroken order (begun sim input t)).1) := by
  obtain ⟨steps, hprogress, hsteps⟩ :=
    inStep_through live sim hworkflow hagrees (inStep_begun live sim hworkflow input s t)
  rw [hprogress]
  refine ⟨rfl, rfl, rfl, hsteps, hlive, hsim, ?_⟩
  simp only [finished, closing, Setting.tally, hworkflow, hsteps.length_eq]

theorem Step.FellBack.isCopied_eq {live sim : Step} (h : live.FellBack sim) (copies : Json → Bool) :
    live.isCopied copies = sim.isCopied copies := by
  rw [isCopied, isCopied, h.input, h.output]

/-- What the one run keeps can be copied exactly if what the other one keeps can be. -/
theorem Run.FellBack.isCopied_eq {live sim : Run} (h : live.FellBack sim) (copies : Json → Bool) :
    live.isCopied copies = sim.isCopied copies := by
  have hinput : live.initialInput = sim.initialInput := by rw [h.rest]
  have hsteps : ∀ {steps others : List Step}, List.Forall₂ Step.FellBack steps others →
      steps.all (Step.isCopied copies) = others.all (Step.isCopied copies) := by
    intro steps others hall
    induction hall with
    | nil => rfl
    | cons hstep _ ih => rw [List.all_cons, List.all_cons, hstep.isCopied_eq, ih]
  rw [isCopied, isCopied, hinput, hsteps h.steps]

/-- **A live run that gets no object is the simulated run.**  Where all nodes of an accepted
document can do without a model, and the model never answers with an object, the live run and the
simulated run of every input are one, but for the mode and for the marks: in the live run they stand
on the steps whose node asked and succeeded, and in the simulated run there are none.  If what they
keep can be copied both of them are given, and else both of them are broken off. -/
theorem Document.fellBack_of_check {σ τ : Type} {v : Json} {d : Document} (h : check v = .ok d)
    (hcopes : ∀ node ∈ d.workflow.nodes, node.Copes) {c : Collaborators σ} (hc : c.GivesNoObject)
    (workflowId : String) (listener : Listener σ) (listener' : Listener τ) (id : String)
    (given : Json) (s : σ) (t : τ) :
    ∃ live sim : Run, live.FellBack sim ∧ ∀ copies : Json → Bool,
      (d.workflow.run NodeType.all (.live c workflowId) listener copies id given s).1 =
        (if sim.isCopied copies then .ok live else .error .uncopied) ∧
      (d.workflow.run NodeType.all .simulated listener' copies id given t).1 =
        (if sim.isCopied copies then .ok sim else .error .uncopied) := by
  have hcoherent := (check_eq_ok_iff.mp h).2
  obtain ⟨live, hlive⟩ := hcoherent.exists_run (.live c workflowId) listener id given s
  obtain ⟨sim, hsim⟩ := hcoherent.exists_run .simulated listener' id given t
  have hfell : live.FellBack sim := by
    have hlive' := hlive fun _ => true
    have hsim' := hsim fun _ => true
    rw [if_pos (Run.isCopied_true _)] at hlive' hsim'
    -- both runs follow the same plan and begin with the same input
    obtain ⟨order, input, hplan, hinput, rfl⟩ := Workflow.run_eq_ok hlive'
    obtain ⟨order', input', hplan', hinput', rfl⟩ := Workflow.run_eq_ok hsim'
    obtain rfl : order = order' := Option.some.inj (hplan.symm.trans hplan')
    obtain rfl : input = input' := Except.ok.inj (hinput.symm.trans hinput')
    refine Walk.fellBack ⟨d.workflow, NodeType.all, .live c workflowId, listener, fun _ => true⟩
      ⟨d.workflow, NodeType.all, .simulated, listener', fun _ => true⟩ rfl rfl rfl
      (fun node hnode => ?_) id input s t
    have hmem : node ∈ d.workflow.nodes := (Schedule.perm_of_plan hplan).mem_iff.mp hnode
    exact Node.execute_agrees (hcopes node hmem) hc NodeType.all workflowId
  refine ⟨live, sim, hfell, fun copies => ⟨?_, hsim copies⟩⟩
  rw [hlive copies, hfell.isCopied_eq copies]

/-- A text is rated; where it is rated high a record is read out of it, and otherwise there is a
delay. -/
def Workflow.triage : Workflow where
  id := "wf_triage"
  name := "Triage"
  description := "Reads what cannot wait."
  tags := []
  entryNodeId := "start"
  freeData := []
  nodes := [
    NodeType.manual.fresh "start" ⟨.whole 0, .whole 0⟩,
    NodeType.classify.fresh "rate" ⟨.whole 240, .whole 0⟩,
    { NodeType.condition.fresh "check" ⟨.whole 480, .whole 0⟩ with
      config := [("expression", .str "$.label == \"high\""), ("default_output", .str "false")] },
    NodeType.extract.fresh "read" ⟨.whole 720, .whole 0⟩,
    NodeType.delay.fresh "wait" ⟨.whole 720, .whole 240⟩]
  edges := [
    ⟨"e1", ⟨"start", "out"⟩, ⟨"rate", "in"⟩, none, none⟩,
    ⟨"e2", ⟨"rate", "out"⟩, ⟨"check", "in"⟩, none, none⟩,
    ⟨"e3", ⟨"check", "true"⟩, ⟨"read", "in"⟩, none, none⟩,
    ⟨"e4", ⟨"check", "false"⟩, ⟨"wait", "in"⟩, none, none⟩]

/-- A language model that only talks, without a store. -/
def Collaborators.talker : Collaborators Unit where
  saveTable := "va_items"
  complete _ := pure "Of course!"
  insert _ _ := Effect.fail (.foreign "OSError" "disk full")

theorem Collaborators.givesNoObject_talker : talker.GivesNoObject :=
  fun _ _ => ⟨"Of course!", (), rfl, rfl⟩

namespace Document

theorem check_triage : check (toJson ⟨Workflow.triage⟩) = .ok ⟨Workflow.triage⟩ := by
  have hshape : Shape.document (toJson ⟨Workflow.triage⟩) = .ok ⟨Workflow.triage⟩ := rfl
  have hread : read (toJson ⟨Workflow.triage⟩) = .ok ⟨Workflow.triage⟩ := by
    change ofJson _ = _
    rw [ofJson, hshape]
    rfl
  exact check_eq_ok_iff.mpr ⟨hread, Workflow.breaches_eq_nil_iff.mp (by decide +kernel)⟩

/-- A live triage that is told "Of course!" rates and reads as a simulated one does, and marks both
steps. -/
theorem fellBack_of_check_triage :
    ∃ live sim : Run,
      (Workflow.triage.run NodeType.all (.live .talker "wf_triage") Listener.silent
        (Json.isWithin 490) "run" (.str "high fever") ()).1 = .ok live ∧
      (Workflow.triage.run NodeType.all .simulated Listener.silent (Json.isWithin 490) "run"
        (.str "high fever") ()).1 = .ok sim ∧
      live.steps.map Step.fallbackUsed = [false, true, false, true] ∧ live.FellBack sim := by
  have hcopes : ∀ node ∈ Workflow.triage.nodes, node.Copes := by
    simp [Workflow.triage, Node.Copes, NodeType.fresh, Node.isTrigger, NodeType.isTrigger]
  obtain ⟨live, sim, hfell, hruns⟩ := fellBack_of_check check_triage hcopes
    Collaborators.givesNoObject_talker "wf_triage" Listener.silent Listener.silent "run"
    (.str "high fever") () ()
  have hmarks : (Workflow.triage.run NodeType.all (.live .talker "wf_triage") Listener.silent
      (Json.isWithin 490) "run" (.str "high fever") ()).1.toOption.map
        (fun r => r.steps.map Step.fallbackUsed) = some [false, true, false, true] := by
    decide +kernel
  obtain ⟨hlive, hsim⟩ := hruns (Json.isWithin 490)
  obtain ⟨r, hrun, hr⟩ := Except.exists_ok_of_map hmarks
  split_ifs at hlive hsim with hcopied
  · obtain rfl := Except.ok.inj (hrun.symm.trans hlive)
    exact ⟨r, sim, hlive, hsim, hr, hfell⟩
  · rw [hrun] at hlive
    cases hlive

end Document
end Flowgraph
