import Flowgraph.Proofs.Activity
import Flowgraph.Proofs.Order

/-!
# Turns and runs

A run is a row of turns.  What a turn can do is said once, by `Turn`, and every invariant of a run
is derived from that: it has to hold at the beginning, to survive the turns of nodes that act and to
survive the passing over of nodes that do not.  A run that gives something is not broken off, so that
it is enough to look at the turns of an unbroken one.

## Main definitions

* `Walk.Turn` — what the turn of an active node makes of a run.
* `Step.Taken` — a step tells what its node did on its input.
* `Walk.finished` — the run that has come to its end.

## Main results

* `Walk.visit_turn` — a visit is a turn.
* `Walk.Turn.adds` — every turn adds one step, and the nodes that the step calls become active.
* `Walk.through_invariant` — **the invariants of a run.**
* `Workflow.run_ended`, `Workflow.run_invariant` — the same for whole runs.
* `Workflow.taken_of_run` — all steps of a run were taken.
-/

namespace Flowgraph

variable {σ : Type}

namespace Walk

variable {setting : Setting σ}

/-! ### Turns -/

/-- The state of the collaborators after the listener has heard of an event. -/
def Setting.hear (setting : Setting σ) (event : RunEvent) (s : σ) : σ :=
  (setting.listener event s).2

/-- What the turn of an active node makes of a run. -/
inductive Turn (setting : Setting σ) (node : Node) : Progress × σ → Progress × σ → Prop where
  /-- The node gave an outcome. -/
  | succeeded (p : Progress) (s s' : σ) (outcome : Outcome)
      (h : node.execute setting.registry setting.backend p.context
        (setting.hear (.nodeStarted node (setting.tally p.steps.length)) s) = (.ok outcome, s')) :
      Turn setting node (p, s)
        ({ p.advance node outcome
            (Schedule.follow setting.workflow node.id outcome.selectedPort) with
            events := p.events ++ [.nodeStarted node (setting.tally p.steps.length),
              .nodeCompleted node (setting.tally (p.steps.length + 1))] },
          setting.hear (.nodeCompleted node (setting.tally (p.steps.length + 1))) s')
  /-- The node failed. -/
  | failed (p : Progress) (s s' : σ) (fault : Fault)
      (h : node.execute setting.registry setting.backend p.context
        (setting.hear (.nodeStarted node (setting.tally p.steps.length)) s) = (.error fault, s')) :
      Turn setting node (p, s)
        ({ p.fail node fault with
            events := p.events ++ [.nodeStarted node (setting.tally p.steps.length),
              .nodeFailed node fault.report] },
          setting.hear (.nodeFailed node fault.report) s')

theorem visit_turn (setting : Setting σ) (node : Node) (state : Progress × σ) :
    Turn setting node state (visit setting.unbroken node state) := by
  obtain ⟨p, s⟩ := state
  rcases hrun : node.execute setting.registry setting.backend p.context
    (setting.hear (.nodeStarted node (setting.tally p.steps.length)) s) with ⟨fault | outcome, s'⟩
  · have hvisit := Turn.failed p s s' fault hrun
    simp only [Setting.hear, Setting.tally] at hrun
    simpa [visit, settle, tell, hrun, Progress.fail, Setting.hear, Setting.unbroken,
      Setting.tally, Step.isCopied] using hvisit
  · have hvisit := Turn.succeeded p s s' outcome hrun
    simp only [Setting.hear, Setting.tally] at hrun
    simpa [visit, settle, tell, hrun, Progress.advance, Setting.hear, Setting.unbroken,
      Setting.tally, Step.isCopied] using hvisit

end Walk

/-- A step tells what its node did on its input, in some state of the collaborators, and which nodes
the edges that were followed lead to. -/
def Step.Taken (setting : Walk.Setting σ) (step : Step) : Prop :=
  ∃ s s', match step.result with
    | .success outcome next =>
      step.node.execute setting.registry setting.backend step.input s = (.ok outcome, s') ∧
        next = Schedule.follow setting.workflow step.node.id outcome.selectedPort
    | .failed fault =>
      step.node.execute setting.registry setting.backend step.input s = (.error fault, s')

namespace Step.Taken

variable {setting : Walk.Setting σ} {step : Step}

/-- A step without a fault has an outcome of its node, and calls the nodes that the edges followed
lead to. -/
theorem outcome (h : step.Taken setting) (hfault : step.fault? = none) :
    ∃ outcome : Outcome, outcome.Of step.node step.input ∧ step.result = .success outcome
      (Schedule.follow setting.workflow step.node.id outcome.selectedPort) := by
  obtain ⟨s, s', h⟩ := h
  cases hresult : step.result with
  | failed fault => simp [fault?, hresult] at hfault
  | success outcome next =>
    rw [hresult] at h
    obtain ⟨hrun, rfl⟩ := h
    exact ⟨outcome, (Node.execute_gives _ _ _).of_ok hrun, rfl⟩

/-- The fault of a step is one that its node may have. -/
theorem fails (h : step.Taken setting) {fault : Fault} (hfault : step.fault? = some fault)
    (hregistry : step.node.type ∈ setting.registry) : setting.backend.Fails fault := by
  obtain ⟨s, s', h⟩ := h
  cases hresult : step.result with
  | success outcome next => simp [fault?, hresult] at hfault
  | failed fault' =>
    rw [hresult] at h
    obtain rfl : fault' = fault := by simpa [fault?, hresult] using hfault
    exact (Node.execute_gives _ _ _).of_error h hregistry

end Step.Taken

namespace Walk

variable {setting : Setting σ} {node : Node} {state state' : Progress × σ}

/-- **Every turn adds one step**, which was taken, and the nodes that the step calls become
active. -/
theorem Turn.adds (h : Turn setting node state state') (hfault : state.1.fault = none) :
    ∃ step : Step, step.Taken setting ∧ step.node = node ∧ step.input = state.1.context ∧
      state'.1.steps = state.1.steps ++ [step] ∧ state'.1.active = state.1.active ++ step.next ∧
      state'.1.fault = step.fault? := by
  cases h with
  | succeeded p s s' outcome h =>
    exact ⟨⟨node, p.context, .success outcome _⟩, ⟨_, s', h, rfl⟩, rfl, rfl, rfl, rfl, hfault⟩
  | failed p s s' fault h =>
    exact ⟨⟨node, p.context, .failed fault⟩, ⟨_, s', h⟩, rfl, rfl, rfl,
      (List.append_nil p.active).symm, rfl⟩

/-- The steps of a run were taken, and one that failed gave the run its fault. -/
def Told (setting : Setting σ) (p : Progress) : Prop :=
  ∀ step ∈ p.steps, step.Taken setting ∧ ∀ fault, step.fault? = some fault → p.fault = some fault

theorem Told.turn (h : Told setting state.1) (hfault : state.1.fault = none)
    (hturn : Turn setting node state state') : Told setting state'.1 := by
  obtain ⟨step, htaken, -, -, hsteps, -, hfault'⟩ := hturn.adds hfault
  intro other hmem
  rw [hsteps, List.mem_append, List.mem_singleton] at hmem
  rcases hmem with hmem | rfl
  · -- the steps before a turn have no fault, since there is a turn
    obtain ⟨hother, hgave⟩ := h other hmem
    refine ⟨hother, fun fault hsome => ?_⟩
    rw [hgave fault hsome] at hfault
    exact absurd hfault (Option.some_ne_none fault)
  · exact ⟨htaken, fun fault hsome => hfault'.trans hsome⟩

/-! ### Runs -/

/-- The turn of an unbroken run ends it only by a fault. -/
theorem isOver_visit (setting : Setting σ) (node : Node) (hbroken : state.1.broken = false) :
    (visit setting.unbroken node state).1.broken = false ∧
      (visit setting.unbroken node state).1.isOver =
        (visit setting.unbroken node state).1.fault.isSome := by
  obtain ⟨-, -, hsame, -, -⟩ := visit_cases setting node state
  rw [Progress.isOver, hsame, hbroken, Bool.or_false]
  exact ⟨rfl, rfl⟩

/-- The nodes in front that are not active have no part in a run. -/
theorem through_skips {before rest : List Node} (h : ∀ n ∈ before, n.id ∉ state.1.active) :
    through setting (before ++ rest) state = through setting rest state := by
  induction before with
  | nil => rfl
  | cons n before ih =>
    rw [List.cons_append, through_skip (h n List.mem_cons_self)]
    exact ih fun m hm => h m (List.mem_cons_of_mem n hm)

/-- An invariant of the nodes done and the state survives the turns of the nodes that are left. -/
theorem through_invariant_from {order : List Node} {inv : List Node → Progress × σ → Prop}
    (hskip : ∀ done node rest state, order = done ++ node :: rest → inv done state →
      node.id ∉ state.1.active → inv (done ++ [node]) state)
    (hturn : ∀ done node rest state state', order = done ++ node :: rest → inv done state →
      state.1.fault = none → node.id ∈ state.1.active → Turn setting node state state' →
      inv (done ++ [node]) state') :
    ∀ (rest done : List Node) (state : Progress × σ), order = done ++ rest → inv done state →
      state.1.fault = none → state.1.broken = false →
      ∃ ran left, order = ran ++ left ∧ inv ran (through setting.unbroken rest state) ∧
        ((through setting.unbroken rest state).1.fault = none → left = []) := by
  intro rest
  induction rest with
  | nil =>
    intro done state horder hinv _ _
    exact ⟨done, [], horder, hinv, fun _ => rfl⟩
  | cons node rest ih =>
    intro done state horder hinv hfault hbroken
    have horder' : order = done ++ [node] ++ rest := by rw [horder, List.append_assoc]; rfl
    by_cases hactive : node.id ∈ state.1.active
    · have hturned := hturn done node rest state _ horder hinv hfault hactive
        (visit_turn setting node state)
      obtain ⟨hbroken', hover⟩ := isOver_visit setting node hbroken
      cases hfaulty : (visit setting.unbroken node state).1.fault with
      | none =>
        rw [through_step hactive (by rw [hover, hfaulty]; rfl)]
        exact ih _ _ horder' hturned hfaulty hbroken'
      | some fault =>
        rw [through_over hactive (by rw [hover, hfaulty]; rfl)]
        refine ⟨done ++ [node], rest, horder', hturned, fun hnone => ?_⟩
        exact absurd (hfaulty.symm.trans hnone) (Option.some_ne_none fault)
    · rw [through_skip hactive]
      exact ih _ _ horder' (hskip done node rest state horder hinv hactive) hfault hbroken

/-- **The invariants of a run.**  What holds of the nodes that are done and the state survives to
the end of the run if the passing over of a node that is not active and the turn of a node that is
both keep it.  A run that meets no fault goes through the whole order. -/
theorem through_invariant (setting : Setting σ) (inv : List Node → Progress × σ → Prop)
    {order : List Node} {state : Progress × σ} (hstart : inv [] state)
    (hfault : state.1.fault = none) (hbroken : state.1.broken = false)
    (hskip : ∀ done node rest state, order = done ++ node :: rest → inv done state →
      node.id ∉ state.1.active → inv (done ++ [node]) state)
    (hturn : ∀ done node rest state state', order = done ++ node :: rest → inv done state →
      state.1.fault = none → node.id ∈ state.1.active → Turn setting node state state' →
      inv (done ++ [node]) state') :
    ∃ ran left, order = ran ++ left ∧ inv ran (through setting.unbroken order state) ∧
      ((through setting.unbroken order state).1.fault = none → left = []) :=
  through_invariant_from hskip hturn order [] state rfl hstart hfault hbroken

/-- No step is ever taken back. -/
theorem steps_prefix_through (setting : Setting σ) {state : Progress × σ} (rest : List Node) :
    state.1.steps <+: (through setting.unbroken rest state).1.steps := by
  obtain ⟨steps, hsteps, -⟩ := through_cases setting rest state
  exact ⟨steps, hsteps.symm⟩

/-- The run that has come to its end with a progress. -/
def finished (setting : Setting σ) (id : String) (input : Json) (p : Progress) : Run where
  id := id
  workflowId := setting.workflow.id
  mode := setting.backend.mode
  initialInput := input
  output := p.context
  steps := p.steps
  fault := p.fault
  events := p.events ++ [closing setting p]

end Walk

namespace Workflow

variable {w : Workflow} {registry : List NodeType} {backend : Backend σ} {listener : Listener σ}
  {copies : Json → Bool} {id : String} {given : Json} {s s' : σ} {r : Run}

/-- A run with the state behind it: an input, the turns of the nodes of a plan, and the last
event. -/
theorem run_eq_finished (h : w.run registry backend listener copies id given s = (.ok r, s')) :
    ∃ order input ended, Schedule.plan? w = some order ∧ w.initialInput given = .ok input ∧
      ended = Walk.through (Walk.Setting.unbroken ⟨w, registry, backend, listener, copies⟩) order
        (Walk.begun ⟨w, registry, backend, listener, copies⟩ input s) ∧
      r = Walk.finished ⟨w, registry, backend, listener, copies⟩ id input ended.1 ∧
      s' = Walk.Setting.hear ⟨w, registry, backend, listener, copies⟩
        (Walk.closing ⟨w, registry, backend, listener, copies⟩ ended.1) ended.2 := by
  have hrun := (run_eq_unbroken h).1
  unfold run at hrun
  cases hplan : Schedule.plan? w with
  | none => simp [hplan] at hrun
  | some order =>
    cases hinput : w.initialInput given with
    | error e => simp [hplan, hinput] at hrun
    | ok input =>
      let setting : Walk.Setting σ := ⟨w, registry, backend, listener, copies⟩
      have hkept : (Walk.whole setting.unbroken order input s).1.broken = false :=
        (Walk.whole_cases setting order input s).1
      obtain ⟨-, -, hbroken, -, -⟩ := Walk.through_cases setting order (Walk.begun setting input s)
      have hwhole : Walk.whole setting.unbroken order input s = _ :=
        Walk.whole_of_unbroken hbroken
      simp only [setting, Walk.Setting.unbroken] at hkept hwhole
      simp only [hplan, hinput, if_true, hkept, Bool.false_eq_true, if_false, Prod.mk.injEq,
        Except.ok.injEq] at hrun
      obtain ⟨rfl, rfl⟩ := hrun
      rw [hwhole]
      exact ⟨order, input, _, rfl, rfl, rfl, rfl, rfl⟩

/-- What there is to a run that begins: a plan, an input, and the turns of the nodes of the plan. -/
theorem run_eq_ok (h : (w.run registry backend listener copies id given s).1 = .ok r) :
    ∃ order input, Schedule.plan? w = some order ∧ w.initialInput given = .ok input ∧
      r = Walk.finished ⟨w, registry, backend, listener, copies⟩ id input
        (Walk.through (Walk.Setting.unbroken ⟨w, registry, backend, listener, copies⟩) order
          (Walk.begun ⟨w, registry, backend, listener, copies⟩ input s)).1 := by
  obtain ⟨order, input, _, hplan, hinput, rfl, hr, -⟩ := run_eq_finished (Prod.ext h rfl)
  exact ⟨order, input, hplan, hinput, hr⟩

/-- What holds of the state in which the turns of a run begin and survives every turn holds of the
state in which they end.  Behind that state there is only the last event. -/
theorem run_ended (inv : Json → Progress × σ → Prop)
    (h : w.run registry backend listener copies id given s = (.ok r, s'))
    (hstart : ∀ input, inv input (Walk.begun ⟨w, registry, backend, listener, copies⟩ input s))
    (hturn : ∀ input node state state', inv input state → state.1.fault = none →
      Walk.Turn ⟨w, registry, backend, listener, copies⟩ node state state' → inv input state') :
    ∃ ended, inv r.initialInput ended ∧
      r = Walk.finished ⟨w, registry, backend, listener, copies⟩ id r.initialInput ended.1 ∧
      s' = Walk.Setting.hear ⟨w, registry, backend, listener, copies⟩
        (Walk.closing ⟨w, registry, backend, listener, copies⟩ ended.1) ended.2 := by
  obtain ⟨order, input, ended, -, -, rfl, rfl, hs'⟩ := run_eq_finished h
  obtain ⟨-, -, -, hended, -⟩ := Walk.through_invariant ⟨w, registry, backend, listener, copies⟩
    (fun _ => inv input) (hstart input) rfl rfl (fun _ _ _ _ _ hinv _ => hinv)
    (fun _ node _ state state' _ hinv hfault _ => hturn input node state state' hinv hfault)
  exact ⟨_, hended, rfl, hs'⟩

/-- The invariants of a run, from its beginning to its end.  The nodes that are done are a first
part of the plan, and all of it if the run meets no fault. -/
theorem run_invariant (inv : List Node → Progress × σ → Prop)
    (h : (w.run registry backend listener copies id given s).1 = .ok r)
    (hstart : ∀ input, w.initialInput given = .ok input →
      inv [] (Walk.begun ⟨w, registry, backend, listener, copies⟩ input s))
    (hskip : ∀ done node rest state, Schedule.plan? w = some (done ++ node :: rest) →
      inv done state → node.id ∉ state.1.active → inv (done ++ [node]) state)
    (hturn : ∀ done node rest state state', Schedule.plan? w = some (done ++ node :: rest) →
      inv done state → state.1.fault = none → node.id ∈ state.1.active →
      Walk.Turn ⟨w, registry, backend, listener, copies⟩ node state state' →
      inv (done ++ [node]) state') :
    ∃ input ran left ended, w.initialInput given = .ok input ∧
      Schedule.plan? w = some (ran ++ left) ∧ inv ran ended ∧
      r = Walk.finished ⟨w, registry, backend, listener, copies⟩ id input ended.1 ∧
      (r.fault = none → left = []) := by
  obtain ⟨order, input, hplan, hinput, rfl⟩ := run_eq_ok h
  obtain ⟨ran, left, rfl, hended, hleft⟩ := Walk.through_invariant
    ⟨w, registry, backend, listener, copies⟩ inv (hstart input hinput) rfl rfl
    (fun done node rest state horder => hskip done node rest state (horder ▸ hplan))
    (fun done node rest state state' horder => hturn done node rest state state' (horder ▸ hplan))
  exact ⟨input, ran, left, _, hinput, hplan, hended, rfl, hleft⟩

/-- **All steps of a run were taken**, and a step that failed gave the run its fault. -/
theorem taken_of_run (h : (w.run registry backend listener copies id given s).1 = .ok r) :
    ∀ step ∈ r.steps, step.Taken ⟨w, registry, backend, listener, copies⟩ ∧
      ∀ fault, step.fault? = some fault → r.fault = some fault := by
  obtain ⟨input, ran, left, ended, -, -, hinv, rfl, -⟩ := run_invariant
    (fun _ state => Walk.Told ⟨w, registry, backend, listener, copies⟩ state.1) h
    (fun _ _ _ hstep => absurd hstep List.not_mem_nil) (fun _ _ _ _ _ hinv _ => hinv)
    (fun _ _ _ _ _ _ hinv hfault _ hturn => hinv.turn hfault hturn)
  exact hinv

end Workflow

theorem Run.fault_of_status {r : Run} (h : r.status = "success") : r.fault = none := by
  unfold status statusName at h
  cases hfault : r.fault with
  | none => rfl
  | some fault => simp [hfault] at h

end Flowgraph
