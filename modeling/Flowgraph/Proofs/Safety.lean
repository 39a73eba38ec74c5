import Flowgraph.Proofs.Reach

/-!
# Accepted documents run

The rules of documents are what a run relies on.  Each of them is traced here to the turn that needs
it: names and edges to the plan, the trigger to the input and the first step, the ends of edges to
the nodes called, and the outputs of a branch to the output that it selects.

## Main results

* `Workflow.Coherent.exists_run` — a coherent workflow runs.
* `Workflow.Coherent.first_step` — the first step is the trigger's, and it succeeds.
* `Workflow.Coherent.selects` — a branch selects one of its outputs.
* `Document.run_of_check` — **a document that is accepted cannot go wrong**, whatever the backend
  does.
-/

namespace Flowgraph

/-! ### Triggers -/

namespace Node

variable {σ : Type} {n : Node}

theorem settings_of_trigger (h : n.isTrigger = true) : ∃ s, n.settings = .trigger s := by
  unfold isTrigger NodeType.isTrigger at h
  unfold settings Settings.ofFields
  cases htype : n.type <;> simp_all

/-- A trigger that is registered succeeds, and leaves everything as it is. -/
theorem execute_of_trigger (h : n.isTrigger = true) {registry : List NodeType}
    (hregistry : n.type ∈ registry) (backend : Backend σ) (context : Fields) (s : σ) :
    n.execute registry backend context s = (.ok { context := context }, s) := by
  obtain ⟨settings, hsettings⟩ := settings_of_trigger h
  rw [execute, if_pos (List.contains_iff_mem.mpr hregistry), act, hsettings]
  rfl

end Node

theorem Step.Taken.fault?_of_trigger {σ : Type} {setting : Walk.Setting σ} {step : Step}
    (h : step.Taken setting) (htrigger : step.node.isTrigger = true)
    (hregistry : step.node.type ∈ setting.registry) : step.fault? = none := by
  obtain ⟨s, s', h⟩ := h
  cases hresult : step.result with
  | success outcome next => rw [fault?, hresult]
  | failed fault =>
    rw [hresult] at h
    simp [Node.execute_of_trigger htrigger hregistry] at h

/-! ### Branches -/

/-- Among several names without repetitions there is one that differs from a given one. -/
theorem exists_ne_of_nodup {names : List String} (h : names.Nodup) (htwo : 2 ≤ names.length)
    (name : String) : ∃ other ∈ names, other ≠ name := by
  by_contra hnone
  have hall : ∀ other ∈ names, other = name := by
    intro other hother
    by_contra hne
    exact hnone ⟨other, hother, hne⟩
  rw [List.eq_replicate_of_mem hall, List.nodup_replicate] at h
  omega

/-- Where an output differs from the default, the main output is the first of these. -/
theorem Activity.Branch.mainPort?_of_ne {outputs : List String} {default : String}
    (h : ∃ port ∈ outputs, port ≠ default) :
    ∃ port ∈ outputs, outputs.find? (· != default) = some port ∧
      mainPort? outputs (some default) = some port := by
  have hsome : (outputs.find? (· != default)).isSome := by simpa using h
  obtain ⟨port, hport⟩ := Option.isSome_iff_exists.mp hsome
  refine ⟨port, List.mem_of_find?_eq_some hport, hport, ?_⟩
  have hsame : (fun port => some port != some default) = fun port : String => port != default := by
    funext port
    simp [bne]
  rw [mainPort?, hsame, hport]

/-! ### Coherent workflows -/

namespace Workflow.Coherent

variable {σ : Type} {w : Workflow} {backend : Backend σ} {listener : Listener σ}
  {copies : Json → Bool} {id : String} {given : Json} {s : σ} {r : Run}

theorem entry (h : w.Coherent) : ∃ t ∈ w.nodes, t.isTrigger = true ∧ t.id = w.entryNodeId := by
  obtain ⟨t, htriggers, hentry⟩ := h.trigger
  obtain ⟨ht, htrigger⟩ := List.mem_filter.mp (htriggers ▸ List.mem_singleton_self t)
  exact ⟨t, ht, htrigger, hentry.symm⟩

/-- The entry node has an input to offer. -/
theorem exists_initialInput (h : w.Coherent) (given : Json) :
    ∃ input, w.initialInput given = .ok input := by
  cases given with
  | null =>
    obtain ⟨t, ht, htrigger, hid⟩ := h.entry
    obtain ⟨settings, hsettings⟩ := Node.settings_of_trigger htrigger
    rw [initialInput, offeredInput, ← hid, node?_of_mem h.nodeIds ht]
    simp only [hsettings]
    exact ⟨_, rfl⟩
  | _ => exact ⟨_, rfl⟩

/-- A coherent workflow runs: there is one run that it gives if all that is kept can be copied, and
that is broken off otherwise. -/
theorem exists_run (h : w.Coherent) (backend : Backend σ) (listener : Listener σ) (id : String)
    (given : Json) (s : σ) :
    ∃ r, ∀ copies, (w.run NodeType.all backend listener copies id given s).1 =
      if r.isCopied copies then .ok r else .error .uncopied := by
  obtain ⟨order, hplan⟩ := Option.isSome_iff_exists.mp
    (Schedule.plan?_isSome_iff.mpr ⟨h.nodeIds, h.acyclic⟩)
  obtain ⟨input, hinput⟩ := h.exists_initialInput given
  obtain ⟨r, hr⟩ : ∃ r,
      (w.run NodeType.all backend listener (fun _ => true) id given s).1 = .ok r := by
    have hkept :
        (Walk.whole ⟨w, NodeType.all, backend, listener, fun _ => true⟩ order input s).1.broken =
          false :=
      (Walk.whole_cases ⟨w, NodeType.all, backend, listener, fun _ => true⟩ order input s).1
    unfold run
    simp only [hplan, hinput, if_true, hkept, Bool.false_eq_true, if_false]
    exact ⟨_, rfl⟩
  refine ⟨r, fun copies => ?_⟩
  rcases run_cases w NodeType.all backend listener copies id given s with
    ⟨e, -, herror, -⟩ | ⟨r', hr', hsame, hlost⟩
  · rw [herror] at hr
    cases hr
  · obtain rfl := Except.ok.inj (hr.symm.trans hr')
    split_ifs with hcopied
    · rw [hsame hcopied, hr]
    · exact hlost (Bool.eq_false_iff.mpr hcopied)

/-- The first step is the trigger's, and it succeeds. -/
theorem first_step (h : w.Coherent)
    (hrun : (w.run NodeType.all backend listener copies id given s).1 = .ok r) :
    ∃ first rest, r.steps = first :: rest ∧ first.node ∈ w.nodes ∧ first.node.isTrigger = true ∧
      first.node.id = w.entryNodeId ∧ first.fault? = none := by
  obtain ⟨order, input, hplan, -, rfl⟩ := run_eq_ok hrun
  obtain ⟨t, ht, htrigger, hid⟩ := h.entry
  obtain ⟨before, after, rfl⟩ := List.append_of_mem ((Schedule.perm_of_plan hplan).mem_iff.mpr ht)
  -- nobody in front of the trigger is active
  have hbefore : ∀ n ∈ before, n.id ∉ [w.entryNodeId] := by
    intro n hn hmem
    have hnodup := Schedule.nodup_of_plan hplan
    rw [List.map_append, List.map_cons] at hnodup
    exact (List.nodup_append.mp hnodup).2.2 _ (List.mem_map_of_mem hn) _ List.mem_cons_self
      ((List.mem_singleton.mp hmem).trans hid.symm)
  rw [Walk.through_skips hbefore]
  -- the turn of the trigger adds the first step, and later turns only add more
  obtain ⟨first, htaken, hfirst, -, hsteps, -, hfault⟩ := (Walk.visit_turn
    ⟨w, NodeType.all, backend, listener, copies⟩ t
    (Walk.begun ⟨w, NodeType.all, backend, listener, copies⟩ input s)).adds rfl
  have hfine : first.fault? = none :=
    Step.Taken.fault?_of_trigger htaken (hfirst ▸ htrigger) (NodeType.mem_all _)
  rw [hfine] at hfault
  have hentry : t.id ∈ [w.entryNodeId] := List.mem_singleton.mpr hid
  have hunbroken : (Walk.begun ⟨w, NodeType.all, backend, listener, copies⟩ input s).1.broken =
      false := rfl
  have hopen :=
    (Walk.isOver_visit ⟨w, NodeType.all, backend, listener, copies⟩ t hunbroken).2
  rw [hfault] at hopen
  rw [Walk.through_step hentry hopen]
  obtain ⟨rest, hrest⟩ :=
    Walk.steps_prefix_through ⟨w, NodeType.all, backend, listener, copies⟩ after
  refine ⟨first, rest, ?_, hfirst ▸ ht, hfirst ▸ htrigger, hfirst ▸ hid, hfine⟩
  rw [hsteps] at hrest
  exact hrest.symm

/-- Only nodes of the workflow are called. -/
theorem mem_nodeIds_of_next (h : w.Coherent)
    (hrun : (w.run NodeType.all backend listener copies id given s).1 = .ok r) :
    ∀ step ∈ r.steps, ∀ a ∈ step.next, a ∈ w.nodeIds := by
  intro step hstep a ha
  obtain ⟨e, he, -, rfl⟩ := Step.Taken.exists_edge (taken_of_run hrun step hstep).1 ha
  obtain ⟨n, hn, hid, -⟩ := (h.edges e he).target
  exact hid ▸ mem_nodeIds_of_mem hn

/-- A branch selects one of its outputs: the first that is not the default if its condition holds,
and the default if it does not. -/
theorem selects (h : w.Coherent) {step : Step} (hnode : step.node ∈ w.nodes)
    (htaken : step.Taken ⟨w, NodeType.all, backend, listener, copies⟩)
    (hcondition : step.node.type = .condition) (hfault : step.fault? = none) :
    ∃ settings holds default port, step.node.settings = .condition settings ∧
      Condition.holds (.obj step.input) settings.expression = .ok holds ∧
      settings.defaultOutput = some default ∧ default ∈ step.node.outputIds ∧
      step.selectedPort = some port ∧ port ∈ step.node.outputIds ∧
      if holds then step.node.outputIds.find? (· != default) = some port else port = default := by
  have hfits := h.nodes _ hnode
  obtain ⟨htwo, default, hdefault, hconfig⟩ := hfits.branch hcondition
  have hsettings := Node.settings_of_condition hcondition
  have hdefaultOutput : (Settings.conditionOf step.node.config).defaultOutput = some default := by
    simp [Settings.conditionOf, Settings.optionalText, hconfig, Json.str?]
  obtain ⟨main, hmain, hfind, hmain?⟩ := Activity.Branch.mainPort?_of_ne
    (exists_ne_of_nodup hfits.outputIds (by simpa [Node.outputIds] using htwo) default)
  obtain ⟨outcome, hof, hresult⟩ := Step.Taken.outcome htaken hfault
  obtain ⟨holds, hholds, hport⟩ :=
    Activity.Branch.selectPort_eq_ok_iff.mp (hof.branch _ hsettings)
  rw [hdefaultOutput, hmain?] at hport
  have hselected : step.selectedPort = outcome.selectedPort := by rw [Step.selectedPort, hresult]
  cases holds with
  | true =>
    exact ⟨_, true, default, main, hsettings, hholds, hdefaultOutput, hdefault,
      hselected.trans hport, hmain, hfind⟩
  | false =>
    exact ⟨_, false, default, default, hsettings, hholds, hdefaultOutput, hdefault,
      hselected.trans hport, hdefault, rfl⟩

end Workflow.Coherent

/-! ### Accepted documents -/

/-- What the rules of documents promise for a run. -/
structure Run.Sound {σ : Type} (r : Run) (w : Workflow) (backend : Backend σ) : Prop where
  /-- No kind of node is unknown: a fault that says so is the backend's own. -/
  known : ∀ step ∈ r.steps, ∀ type, step.fault? = some (.unknownType type) →
    backend.Raises (.unknownType type)
  /-- The first step is the trigger's, and it succeeds. -/
  first : ∃ first rest, r.steps = first :: rest ∧ first.node ∈ w.nodes ∧
    first.node.isTrigger = true ∧ first.node.id = w.entryNodeId ∧ first.fault? = none
  /-- Only nodes of the workflow are called. -/
  next : ∀ step ∈ r.steps, ∀ a ∈ step.next, a ∈ w.nodeIds
  /-- A branch selects one of its outputs: the first that is not the default if its condition holds,
  and the default if it does not. -/
  selects : ∀ step ∈ r.steps, step.node.type = .condition → step.fault? = none →
    ∃ settings holds default port, step.node.settings = .condition settings ∧
      Condition.holds (.obj step.input) settings.expression = .ok holds ∧
      settings.defaultOutput = some default ∧ default ∈ step.node.outputIds ∧
      step.selectedPort = some port ∧ port ∈ step.node.outputIds ∧
      if holds then step.node.outputIds.find? (· != default) = some port else port = default

namespace Run.Sound

variable {σ : Type} {r : Run} {w : Workflow} {step : Step} {type : Json}

/-- A simulated run never says that a kind of node is unknown. -/
theorem known_of_simulated (h : r.Sound w (Backend.simulated : Backend σ)) (hstep : step ∈ r.steps) :
    step.fault? ≠ some (.unknownType type) :=
  fun hfault => Backend.not_raises_simulated _ (h.known step hstep type hfault)

/-- A live run says that a kind of node is unknown only in the words of its language model. -/
theorem known_of_live {c : Collaborators σ} {workflowId : String}
    (h : r.Sound w (Backend.live c workflowId)) (hstep : step ∈ r.steps)
    (hfault : step.fault? = some (.unknownType type)) : c.Raises (.unknownType type) := by
  rcases Backend.raises_live (h.known step hstep type hfault) with ⟨e, hdata⟩ | hraises
  · simp at hdata
  · exact hraises

end Run.Sound

/-- Every run of a coherent workflow is sound. -/
theorem Workflow.Coherent.sound {σ : Type} {w : Workflow} (h : w.Coherent) {backend : Backend σ}
    {listener : Listener σ} {copies : Json → Bool} {id : String} {given : Json} {s : σ} {r : Run}
    (hrun : (w.run NodeType.all backend listener copies id given s).1 = .ok r) :
    r.Sound w backend where
  known := by
    intro step hstep type hfault
    cases Step.Taken.fails (taken_of_run hrun step hstep).1 hfault (NodeType.mem_all _) with
    | raised fault hraised => exact hraised
  first := h.first_step hrun
  next := h.mem_nodeIds_of_next hrun
  selects := by
    intro step hstep hcondition hfault
    exact h.selects (node_mem_of_run hrun step hstep) (taken_of_run hrun step hstep).1 hcondition
      hfault

/-- Lists in one another, with nothing in the innermost one. -/
def Json.nested : Nat → Json
  | 0 => .arr []
  | n + 1 => .arr [nested n]

namespace Document

/-- **A document that is accepted cannot go wrong**, unless what it works on is nested too deeply to
be copied.  Whatever its input is and whatever the backend and the listener do, there is one run of
it, and that keeps to what the rules promise.  A run gives it if all that is kept can be copied, and
else it is broken off. -/
theorem run_of_check (v : Json) (d : Document) (h : check v = .ok d) {σ : Type}
    (backend : Backend σ) (listener : Listener σ) (id : String) (given : Json) (s : σ) :
    ∃ r : Run, r.Sound d.workflow backend ∧ ∀ copies : Json → Bool,
      (d.workflow.run NodeType.all backend listener copies id given s).1 =
        if r.isCopied copies then .ok r else .error .uncopied := by
  have hcoherent := (check_eq_ok_iff.mp h).2
  obtain ⟨r, hrun⟩ := hcoherent.exists_run backend listener id given s
  have hall :
      (d.workflow.run NodeType.all backend listener (fun _ => true) id given s).1 = .ok r := by
    rw [hrun, if_pos r.isCopied_true]
  exact ⟨r, hcoherent.sound hall, hrun⟩

/-- The fork is accepted, so it runs. -/
theorem run_of_check_fork :
    check (toJson ⟨Workflow.fork⟩) = .ok ⟨Workflow.fork⟩ ∧
    ∃ r, (Workflow.fork.run NodeType.all .simulated Listener.silent (Json.isWithin 490) "run" .null
        ()).1 = .ok r ∧
      r.Sound Workflow.fork (Backend.simulated : Backend Unit) := by
  have hcheck : check (toJson ⟨Workflow.fork⟩) = .ok ⟨Workflow.fork⟩ :=
    check_eq_ok_iff.mpr ⟨read_fork, coherent_fork⟩
  obtain ⟨r, hsound, hrun⟩ :=
    run_of_check _ _ hcheck .simulated Listener.silent "run" .null ()
  have hgives : (Workflow.fork.run NodeType.all .simulated Listener.silent (Json.isWithin 490) "run"
      .null ()).1.isOk = true := by
    decide +kernel
  refine ⟨hcheck, r, ?_, hsound⟩
  rw [hrun] at hgives ⊢
  split_ifs at hgives ⊢ with hcopied
  · rfl
  · cases hgives

/-- **A document that is accepted and goes wrong**: its input is a list in a list and so on, and there
are more levels than can be copied. -/
theorem run_broken_off :
    check (toJson ⟨Workflow.fork⟩) = .ok ⟨Workflow.fork⟩ ∧
    Workflow.fork.run NodeType.all .simulated Listener.silent (Json.isWithin 490) "run"
      (Json.nested 600) () = (.error .uncopied, ()) := by
  have hcheck : check (toJson ⟨Workflow.fork⟩) = .ok ⟨Workflow.fork⟩ :=
    check_eq_ok_iff.mpr ⟨read_fork, coherent_fork⟩
  have hdeep : Json.isWithin 490 (Json.nested 600) = false := by decide +kernel
  obtain ⟨order, hplan⟩ := Option.isSome_iff_exists.mp
    (Schedule.plan?_isSome_iff.mpr ⟨coherent_fork.nodeIds, coherent_fork.acyclic⟩)
  exact ⟨hcheck, Workflow.run_of_uncopied hplan rfl hdeep⟩

end Document
end Flowgraph
