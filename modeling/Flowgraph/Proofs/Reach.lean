import Flowgraph.Proofs.Shape
import Flowgraph.Proofs.Walk

/-!
# Which nodes act

A run goes through the nodes in the order of the plan and lets those act that are active.  A node
can become active only before its turn comes, since every edge leads forward in the plan.  So the
nodes that act in a run without a fault are those that the followed edges reach from the entry node.

## Main definitions

* `Step.Follows` — the edges that are followed after a step.
* `Workflow.Followed` — a followed edge leads from one node to another.
* `Walk.Visited` — the invariant of a run.

## Main results

* `Step.Taken.mem_next_iff` — the nodes that a step calls are the targets of the edges it follows.
* `Walk.Visited.turn` — a turn keeps the invariant.
* `Workflow.steps_iff_reachable` — **the nodes that act are those that followed edges reach**, each
  acts once, and every followed edge leads to a later step.
-/

namespace Flowgraph

/-! ### Followed edges -/

/-- After a step the edges that leave its node are followed, and after a branch only those that
leave the output selected. -/
def Step.Follows (step : Step) (e : Edge) : Prop :=
  e.source.nodeId = step.node.id ∧
    (step.node.type = .condition → step.selectedPort = some e.source.portId)

/-- After one of the steps an edge from the node `a` to the node `b` is followed, and both of them
are nodes of the workflow. -/
def Workflow.Followed (w : Workflow) (steps : List Step) (a b : String) : Prop :=
  ∃ e ∈ w.edges, e.source.nodeId = a ∧ e.target.nodeId = b ∧ a ∈ w.nodeIds ∧ b ∈ w.nodeIds ∧
    ∃ step ∈ steps, step.Follows e

theorem Workflow.Followed.leads {w : Workflow} {steps : List Step} {a b : String}
    (h : w.Followed steps a b) : w.Leads a b := by
  obtain ⟨e, he, hsource, htarget, ha, hb, -⟩ := h
  exact ⟨e, he, hsource, htarget, ha, hb⟩

theorem Schedule.mem_follow {w : Workflow} {a b : String} {port? : Option String} :
    b ∈ follow w a port? ↔ ∃ e ∈ w.edges, e.source.nodeId = a ∧
      (∀ port, port? = some port → e.source.portId = port) ∧ e.target.nodeId = b := by
  cases port? <;> simp [follow, and_assoc, and_left_comm]

section Steps

variable {σ : Type} {setting : Walk.Setting σ} {step : Step} {b : String}

/-- Only targets of edges that leave its node are called by a step. -/
theorem Step.Taken.exists_edge (h : step.Taken setting) (hb : b ∈ step.next) :
    ∃ e ∈ setting.workflow.edges, e.source.nodeId = step.node.id ∧ e.target.nodeId = b := by
  cases hfault : step.fault? with
  | some fault => cases hresult : step.result <;> simp [next, fault?, hresult] at hb hfault
  | none =>
    obtain ⟨outcome, -, hresult⟩ := h.outcome hfault
    rw [next, hresult] at hb
    obtain ⟨e, he, hsource, -, htarget⟩ := Schedule.mem_follow.mp hb
    exact ⟨e, he, hsource, htarget⟩

/-- The nodes that a step calls are the targets of the edges that it follows. -/
theorem Step.Taken.mem_next_iff (h : step.Taken setting) (hfault : step.fault? = none)
    (houtputs : step.node.outputs ≠ []) :
    b ∈ step.next ↔ ∃ e ∈ setting.workflow.edges, step.Follows e ∧ e.target.nodeId = b := by
  obtain ⟨outcome, hof, hresult⟩ := h.outcome hfault
  simp only [next, Follows, selectedPort, hresult, Schedule.mem_follow]
  by_cases hcondition : step.node.type = .condition
  · -- a branch has an output, so it selects one
    have hids : step.node.outputIds ≠ [] := fun hnil =>
      houtputs (List.map_eq_nil_iff.mp hnil)
    obtain ⟨port, hport⟩ := Option.isSome_iff_exists.mp
      (Activity.Branch.isSome_of_selectPort hids
        (hof.branch _ (Node.settings_of_condition hcondition)))
    simp [hcondition, hport, and_assoc, eq_comm]
  · simp [hcondition, hof.other hcondition]

end Steps

/-! ### The invariant of a run -/

namespace Walk

variable {σ : Type} {setting : Setting σ} {node : Node} {done : List Node}
  {state state' : Progress × σ}

/-- One of the steps is of the node `a` and calls the node `b` of the workflow. -/
def Calls (w : Workflow) (steps : List Step) (a b : String) : Prop :=
  b ∈ w.nodeIds ∧ ∃ step ∈ steps, step.node.id = a ∧ b ∈ step.next

/-- What calls reach is still reached when there are more steps. -/
theorem reached_mono {w : Workflow} {steps later : List Step} {a b : String}
    (h : Relation.ReflTransGen (Calls w steps) a b) :
    Relation.ReflTransGen (Calls w (steps ++ later)) a b := by
  refine Relation.ReflTransGen.mono ?_ _ _ h
  rintro a b ⟨hb, step, hstep, hnode, hnext⟩
  exact ⟨hb, step, List.mem_append_left _ hstep, hnode, hnext⟩

/-- How far a run has come when the nodes `done` have had their turn. -/
structure Visited (w : Workflow) (done : List Node) (p : Progress) : Prop where
  /-- The steps are in the order of the nodes. -/
  sublist : (p.steps.map Step.node).Sublist done
  /-- A node that is active when its turn is over has a step: none became active too late. -/
  acted : ∀ n ∈ done, n.id ∈ p.active → ∃ step ∈ p.steps, step.node = n
  /-- Active are the entry node and the nodes that steps call. -/
  active : ∀ a, a ∈ p.active ↔ a = w.entryNodeId ∨ ∃ step ∈ p.steps, a ∈ step.next
  /-- The nodes that have a step are reached by calls. -/
  reached : ∀ step ∈ p.steps, Relation.ReflTransGen (Calls w p.steps) w.entryNodeId step.node.id

theorem visited_start {w : Workflow} {p : Progress} (hactive : p.active = [w.entryNodeId])
    (hsteps : p.steps = []) : Visited w [] p where
  sublist := by rw [hsteps]; exact List.Sublist.refl []
  acted := fun _ hn => absurd hn List.not_mem_nil
  active := by simp [hactive, hsteps]
  reached := by simp [hsteps]

theorem Visited.skip {w : Workflow} {p : Progress} (h : Visited w done p)
    (hidle : node.id ∉ p.active) : Visited w (done ++ [node]) p where
  sublist := h.sublist.trans (List.sublist_append_left done [node])
  acted := by
    intro n hn hactive
    rcases List.mem_append.mp hn with hdone | hnode
    · exact h.acted n hdone hactive
    · rw [List.mem_singleton.mp hnode] at hactive
      exact absurd hactive hidle
  active := h.active
  reached := h.reached

/-- A turn keeps the invariant, as long as the nodes take their turns as planned. -/
theorem Visited.turn (h : Visited setting.workflow done state.1) {rest : List Node}
    (hplan : Schedule.plan? setting.workflow = some (done ++ node :: rest))
    (hfault : state.1.fault = none) (hactive : node.id ∈ state.1.active)
    (hturn : Turn setting node state state') :
    Visited setting.workflow (done ++ [node]) state'.1 := by
  have hnode : node ∈ setting.workflow.nodes :=
    (Schedule.perm_of_plan hplan).mem_iff.mp (by simp)
  obtain ⟨step, htaken, rfl, -, hsteps, hcalled, -⟩ := hturn.adds hfault
  constructor
  case sublist =>
    rw [hsteps, List.map_append]
    exact h.sublist.append (List.Sublist.refl _)
  case acted =>
    intro n hn hnow
    rw [hsteps]
    rw [hcalled, List.mem_append] at hnow
    rcases List.mem_append.mp hn with hbefore | hself
    · rcases hnow with hold | hnew
      · obtain ⟨other, hother, heq⟩ := h.acted n hbefore hold
        exact ⟨other, List.mem_append_left _ hother, heq⟩
      · -- an edge would lead back to a node that is done
        obtain ⟨e, he, hsource, htarget⟩ := htaken.exists_edge hnew
        have hknown : n ∈ setting.workflow.nodes :=
          (Schedule.perm_of_plan hplan).mem_iff.mp (List.mem_append_left _ hbefore)
        have hpair := List.pairwise_map.mp (Schedule.pairwise_of_plan hplan)
        exact absurd ⟨e, he, hsource, htarget, Workflow.mem_nodeIds_of_mem hnode,
          Workflow.mem_nodeIds_of_mem hknown⟩
          ((List.pairwise_append.mp hpair).2.2 n hbefore _ List.mem_cons_self)
    · exact ⟨step, by simp, (List.mem_singleton.mp hself).symm⟩
  case active =>
    intro a
    rw [hsteps, hcalled, List.mem_append, h.active]
    simp [or_and_right, exists_or, or_assoc]
  case reached =>
    rw [hsteps]
    intro other hother
    rw [List.mem_append, List.mem_singleton] at hother
    rcases hother with hold | rfl
    · exact reached_mono (h.reached other hold)
    · -- the new step is of the entry node or of a node that an earlier step calls
      rcases (h.active _).mp hactive with hentry | ⟨caller, hcaller, hnext⟩
      · rw [hentry]
      · refine (reached_mono (h.reached caller hcaller)).tail ⟨Workflow.mem_nodeIds_of_mem hnode, ?_⟩
        exact ⟨caller, List.mem_append_left _ hcaller, rfl, hnext⟩

end Walk

/-! ### Runs -/

namespace Workflow

variable {σ : Type} {w : Workflow} {registry : List NodeType} {backend : Backend σ}
  {listener : Listener σ} {copies : Json → Bool} {id : String} {given : Json} {s : σ} {r : Run}

/-- A run goes through the plan, or a part of it that ends with a fault. -/
theorem visited_of_run (h : (w.run registry backend listener copies id given s).1 = .ok r) :
    ∃ ran left p, Schedule.plan? w = some (ran ++ left) ∧ Walk.Visited w ran p ∧
      p.steps = r.steps ∧ (r.fault = none → left = []) := by
  obtain ⟨input, ran, left, ended, -, hplan, hvisited, rfl, hleft⟩ := run_invariant
    (fun done state => Walk.Visited w done state.1) h (fun _ _ => Walk.visited_start rfl rfl)
    (fun _ _ _ _ _ hinv hidle => hinv.skip hidle)
    (fun _ _ _ _ _ hplan hinv hfault hactive hturn => hinv.turn hplan hfault hactive hturn)
  exact ⟨ran, left, ended.1, hplan, hvisited, rfl, hleft⟩

/-- The steps are in the order of the plan. -/
theorem sublist_of_run (h : (w.run registry backend listener copies id given s).1 = .ok r) :
    ∃ order, Schedule.plan? w = some order ∧ (r.steps.map Step.node).Sublist order := by
  obtain ⟨ran, left, p, hplan, hvisited, hsteps, -⟩ := visited_of_run h
  exact ⟨_, hplan, (hsteps ▸ hvisited.sublist).trans (List.sublist_append_left ran left)⟩

theorem node_mem_of_run (h : (w.run registry backend listener copies id given s).1 = .ok r) :
    ∀ step ∈ r.steps, step.node ∈ w.nodes := by
  obtain ⟨order, hplan, hsublist⟩ := sublist_of_run h
  intro step hstep
  exact (Schedule.perm_of_plan hplan).mem_iff.mp (hsublist.subset (List.mem_map_of_mem hstep))

/-- In a run without a fault a node calls another exactly if a followed edge leads there. -/
theorem calls_iff_followed (houtputs : ∀ n ∈ w.nodes, n.outputs ≠ [])
    (h : (w.run registry backend listener copies id given s).1 = .ok r) (hfault : r.fault = none)
    {a b : String} : Walk.Calls w r.steps a b ↔ w.Followed r.steps a b := by
  have hnodes := node_mem_of_run h
  have hnext : ∀ step ∈ r.steps,
      (b ∈ step.next ↔ ∃ e ∈ w.edges, step.Follows e ∧ e.target.nodeId = b) := by
    intro step hstep
    obtain ⟨htaken, hfine⟩ := taken_of_run h step hstep
    refine htaken.mem_next_iff ?_ (houtputs _ (hnodes step hstep))
    refine Option.eq_none_iff_forall_ne_some.mpr fun fault hsome => ?_
    exact absurd (hfault.symm.trans (hfine fault hsome)) (Option.some_ne_none fault).symm
  constructor
  · rintro ⟨hb, step, hstep, rfl, hcalled⟩
    obtain ⟨e, he, hfollows, htarget⟩ := (hnext step hstep).mp hcalled
    exact ⟨e, he, hfollows.1, htarget, mem_nodeIds_of_mem (hnodes step hstep), hb, step, hstep,
      hfollows⟩
  · rintro ⟨e, he, hsource, htarget, -, hb, step, hstep, hfollows⟩
    exact ⟨hb, step, hstep, hfollows.1.symm.trans hsource,
      (hnext step hstep).mpr ⟨e, he, hfollows, htarget⟩⟩

/-- In a run without a fault the nodes that act are those that calls reach. -/
theorem step_iff_called (h : (w.run registry backend listener copies id given s).1 = .ok r)
    (hfault : r.fault = none) {a : String} :
    (∃ step ∈ r.steps, step.node.id = a) ↔ a ∈ w.nodeIds ∧
      Relation.ReflTransGen (Walk.Calls w r.steps) w.entryNodeId a := by
  obtain ⟨order, left, p, hplan, ⟨-, acted, active, reached⟩, hsteps, hleft⟩ := visited_of_run h
  rw [hleft hfault, List.append_nil] at hplan
  rw [hsteps] at acted active reached
  constructor
  · rintro ⟨step, hstep, rfl⟩
    exact ⟨mem_nodeIds_of_mem (node_mem_of_run h step hstep), reached step hstep⟩
  · rintro ⟨ha, hreach⟩
    obtain ⟨n, hn, rfl⟩ := mem_nodeIds.mp ha
    have hactive : n.id ∈ p.active := by
      rw [active]
      rcases hreach.cases_tail with hentry | ⟨b, -, -, step, hstep, -, hnext⟩
      · exact Or.inl hentry
      · exact Or.inr ⟨step, hstep, hnext⟩
    obtain ⟨step, hstep, hnode⟩ := acted n ((Schedule.perm_of_plan hplan).mem_iff.mpr hn) hactive
    exact ⟨step, hstep, hnode ▸ rfl⟩

/-- **The nodes that act are those that followed edges reach.**  In a run without a fault of a
workflow of the right shape, a node has a step exactly if followed edges lead to it from the entry
node.  No node has two steps, and a followed edge leads from its node to one with a later step. -/
theorem steps_iff_reachable (v : Json) (d : Document) (hread : Document.read v = .ok d)
    {σ : Type} (registry : List NodeType) (backend : Backend σ) (listener : Listener σ)
    (copies : Json → Bool) (id : String) (given : Json) (s : σ) (r : Run)
    (hrun : (d.workflow.run registry backend listener copies id given s).1 = .ok r)
    (hstatus : r.status = "success") :
    (∀ step ∈ r.steps, step.node ∈ d.workflow.nodes) ∧
    (∀ a, (∃ step ∈ r.steps, step.node.id = a) ↔ a ∈ d.workflow.nodeIds ∧
      Relation.ReflTransGen (d.workflow.Followed r.steps) d.workflow.entryNodeId a) ∧
    (r.steps.map fun step => step.node.id).Nodup ∧
    ∀ a b, d.workflow.Followed r.steps a b →
      (r.steps.map fun step => step.node.id).idxOf a <
        (r.steps.map fun step => step.node.id).idxOf b := by
  have hfault := Run.fault_of_status hstatus
  have hcalls : Walk.Calls d.workflow r.steps = d.workflow.Followed r.steps :=
    funext₂ fun a b => propext
      (calls_iff_followed (Document.outputs_ne_nil hread) hrun hfault)
  have hreachable : ∀ a, (∃ step ∈ r.steps, step.node.id = a) ↔ a ∈ d.workflow.nodeIds ∧
      Relation.ReflTransGen (d.workflow.Followed r.steps) d.workflow.entryNodeId a :=
    fun a => hcalls ▸ step_iff_called hrun hfault
  obtain ⟨order, hplan, hsublist⟩ := sublist_of_run hrun
  have hids : (r.steps.map fun step => step.node.id).Sublist (order.map Node.id) := by
    have hmap := hsublist.map Node.id
    rw [List.map_map] at hmap
    exact hmap
  refine ⟨node_mem_of_run hrun, hreachable, hids.nodup (Schedule.nodup_of_plan hplan),
    fun a b hab => ?_⟩
  -- both ends of a followed edge have a step
  have ha : ∃ step ∈ r.steps, step.node.id = a := by
    obtain ⟨e, -, hsource, -, -, -, step, hstep, hfollows⟩ := hab
    exact ⟨step, hstep, hfollows.1.symm.trans hsource⟩
  have hb : ∃ step ∈ r.steps, step.node.id = b :=
    (hreachable b).mpr ⟨hab.leads.target_mem, ((hreachable a).mp ha).2.tail hab⟩
  have hne : a ≠ b := by
    rintro rfl
    exact (Schedule.plan?_eq_some hplan).2.2.irrefl a hab.leads
  exact Schedule.idxOf_lt_of_pairwise ((Schedule.pairwise_of_plan hplan).sublist hids)
    (List.mem_map.mpr ha) (List.mem_map.mpr hb) hne hab.leads

/-- In the fork the followed edges reach the last node, behind one of the two ways to it. -/
theorem steps_iff_reachable_fork :
    ∃ r, (fork.run NodeType.all .simulated Listener.silent (Json.isWithin 490) "run" .null ()).1 =
        .ok r ∧
      r.status = "success" ∧ Relation.ReflTransGen (fork.Followed r.steps) "start" "wait" := by
  have hfork : (fork.run NodeType.all .simulated Listener.silent (Json.isWithin 490) "run" .null
      ()).1.toOption.map (fun r => (r.status, r.steps.map fun step => step.node.id)) =
        some ("success", ["start", "check", "wait"]) := by
    decide +kernel
  obtain ⟨r, hrun, hr⟩ := Except.exists_ok_of_map hfork
  obtain ⟨hstatus, hsteps⟩ := Prod.mk.inj hr
  have hreach := steps_iff_reachable _ _ Document.read_fork NodeType.all .simulated Listener.silent
    (Json.isWithin 490) "run" .null () r hrun hstatus
  have hwait : "wait" ∈ r.steps.map fun step => step.node.id := by
    rw [hsteps]
    simp
  exact ⟨r, hrun, hstatus, ((hreach.2.1 "wait").mp (List.mem_map.mp hwait)).2⟩

end Workflow
end Flowgraph
