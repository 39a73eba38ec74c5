import Flowgraph.Proofs.Copies
import Flowgraph.Proofs.Degrees
import Mathlib.Order.WellFoundedSet

/-!
# The order of the nodes

The scheduler releases a node when the last of its predecessors is done, which it finds out by its
counts.  What else holds between two turns of that loop is the invariant `Sorting`: the nodes done
and waiting are exactly the nodes all of whose predecessors are done, and nobody is done before its
predecessors.  When no node waits any more, the nodes that are left over each have a predecessor
that is left over too, so that a graph without cycles leaves none.

## Main definitions

* `Schedule.Grounded` — the predecessors of every name of a list stand before it.
* `Schedule.Sorting` — the invariant of the loop.

## Main results

* `Schedule.sorting_orderNames` — what holds when the loop is over.
* `Schedule.exists_last_of_acyclic` — a graph without cycles has an end.
* `Schedule.isAcyclic_iff` — which workflows can be ordered.
* `Schedule.perm_of_plan`, `Schedule.idxOf_lt_of_plan` — what the order of such a workflow is.
-/

namespace Flowgraph.Schedule

/-! ### Predecessors first -/

/-- The predecessors of every name of the list stand before it. -/
def Grounded (arcs : List (String × String)) (order : List String) : Prop :=
  ∀ before a after, order = before ++ a :: after → ∀ p, (p, a) ∈ arcs → p ∈ before

theorem grounded_nil (arcs : List (String × String)) : Grounded arcs [] := by
  intro before a after h
  simp at h

theorem Grounded.snoc {arcs : List (String × String)} {order : List String} {a : String}
    (h : Grounded arcs order) (ha : ∀ p, (p, a) ∈ arcs → p ∈ order) :
    Grounded arcs (order ++ [a]) := by
  intro before b after heq p hp
  rcases List.eq_nil_or_concat after with rfl | ⟨after, z, rfl⟩
  · -- the name asked for is the last one
    obtain ⟨rfl, hab⟩ := List.append_inj' heq rfl
    obtain rfl : a = b := by simpa using hab
    exact ha p hp
  · have heq' : order ++ [a] = (before ++ b :: after) ++ [z] := by simpa using heq
    obtain ⟨hinit, -⟩ := List.append_inj' heq' rfl
    exact h before b after hinit p hp

/-- In a grounded list arcs lead forward. -/
theorem Grounded.idxOf_lt {arcs : List (String × String)} {order : List String} {p a : String}
    (h : Grounded arcs order) (ha : a ∈ order) (hp : (p, a) ∈ arcs) :
    order.idxOf p < order.idxOf a := by
  obtain ⟨before, after, rfl, hnot⟩ := List.eq_append_cons_of_mem ha
  have hmem : p ∈ before := h before a after rfl p hp
  have hlt := List.idxOf_lt_length_of_mem hmem
  rw [List.idxOf_append, if_pos hmem, List.idxOf_append, if_neg hnot]
  omega

/-! ### The loop -/

/-- What holds between two turns of the loop that orders the nodes. -/
structure Sorting (w : Workflow) (waiting done : List String) : Prop where
  /-- No node is listed twice. -/
  nodup : (done ++ waiting).Nodup
  /-- No node is done before its predecessors. -/
  grounded : Grounded (arcs w) done
  /-- A node is done or waits exactly if all its predecessors are done. -/
  mem_iff : ∀ a, a ∈ done ++ waiting ↔ a ∈ w.nodeIds ∧ ∀ p, (p, a) ∈ arcs w → p ∈ done

/-- Arcs lead to nodes. -/
theorem target_mem_names (w : Workflow) : ∀ arc ∈ arcs w, arc.2 ∈ names w :=
  fun _ harc => mem_names.mpr (mem_arcs.mp harc).target_mem

/-- The nodes whose counts are zero from the beginning are those without predecessors. -/
theorem sources_eq_filter (w : Workflow) :
    sources w = (names w).filter fun name => (predecessors (arcs w) name).isEmpty := by
  obtain ⟨hcounts, hnames⟩ := counts_degrees (target_mem_names w)
  refine List.filter_congr fun a ha => ?_
  rw [Bool.eq_iff_iff, beq_iff_eq, hcounts.count a (hnames.symm ▸ ha), Int.natCast_eq_zero,
    pending_eq_zero_iff, List.isEmpty_iff, List.eq_nil_iff_forall_not_mem]
  simp

theorem mem_sources {w : Workflow} {a : String} :
    a ∈ sources w ↔ a ∈ w.nodeIds ∧ ∀ p, (p, a) ∉ arcs w := by
  rw [sources_eq_filter, List.mem_filter, mem_names, List.isEmpty_iff,
    List.eq_nil_iff_forall_not_mem]
  simp

theorem mem_released {arcs : List (String × String)} {done : List String} {name a : String} :
    a ∈ released arcs done name ↔ (name, a) ∈ arcs ∧ ∀ p, (p, a) ∈ arcs → p ∈ done := by
  unfold released
  rw [List.mem_filter, mem_lastOccurrences, mem_successors]
  simp

theorem nodup_released (arcs : List (String × String)) (done : List String) (name : String) :
    (released arcs done name).Nodup :=
  (nodup_lastOccurrences _).filter _

theorem sorting_start (w : Workflow) : Sorting w (sources w) [] where
  nodup := by
    rw [List.nil_append]
    exact (nodup_names w).filter _
  grounded := grounded_nil _
  mem_iff a := by
    rw [List.nil_append, mem_sources]
    simp

/-- The first of the nodes waiting is done, and the nodes it releases wait behind the others. -/
theorem Sorting.step {w : Workflow} {name : String} {waiting done : List String}
    (h : Sorting w (name :: waiting) done) :
    Sorting w (waiting ++ released (arcs w) (done ++ [name]) name) (done ++ [name]) := by
  have hready := (h.mem_iff name).mp (by simp)
  have hname : name ∉ done := fun hmem =>
    (List.nodup_append.mp h.nodup).2.2 name hmem name (List.mem_cons_self ..) rfl
  have hassoc : done ++ name :: waiting = (done ++ [name]) ++ waiting := by simp
  refine ⟨?_, h.grounded.snoc hready.2, fun a => ?_⟩
  · -- a released node has `name` for a predecessor, so it was not ready before
    have hold : ((done ++ [name]) ++ waiting).Nodup := hassoc ▸ h.nodup
    rw [← List.append_assoc]
    refine List.nodup_append.mpr ⟨hold, nodup_released _ _ _, ?_⟩
    rintro a ha b hb rfl
    have hdone := ((h.mem_iff a).mp (hassoc ▸ ha)).2 name (mem_released.mp hb).1
    exact hname hdone
  · rw [← List.append_assoc, List.mem_append, ← hassoc, h.mem_iff, mem_released]
    constructor
    · rintro (⟨hid, hp⟩ | ⟨harc, hp⟩)
      · exact ⟨hid, fun p hpa => List.mem_append_left _ (hp p hpa)⟩
      · exact ⟨(mem_arcs.mp harc).target_mem, hp⟩
    · rintro ⟨hid, hp⟩
      -- the predecessors were done already, or `name` is the last of them
      by_cases harc : (name, a) ∈ arcs w
      · exact Or.inr ⟨harc, hp⟩
      · refine Or.inl ⟨hid, fun p hpa => ?_⟩
        rcases List.mem_append.mp (hp p hpa) with hdone | hlast
        · exact hdone
        · rw [List.mem_singleton.mp hlast] at hpa
          exact absurd hpa harc

theorem Sorting.length_le {w : Workflow} {waiting done : List String} (h : Sorting w waiting done) :
    done.length + waiting.length ≤ (names w).length := by
  rw [← List.length_append]
  refine (List.subperm_of_subset h.nodup fun a ha => ?_).length_le
  exact mem_names.mpr ((h.mem_iff a).mp ha).1

/-- What every turn keeps holds when the loop is over.  With fuel for all nodes that are not done, it
ends because nobody waits. -/
theorem orderFrom_invariant {w : Workflow} {P : List String → List String → Prop}
    (hstep : ∀ {name waiting done}, P (name :: waiting) done →
      P (waiting ++ released (arcs w) (done ++ [name]) name) (done ++ [name]))
    (hsorting : ∀ {waiting done}, P waiting done → Sorting w waiting done) :
    ∀ (fuel : ℕ) {table : Degrees} {waiting done : List String}, P waiting done →
      Counts (arcs w) done table → (names w).length ≤ fuel + done.length →
        P [] (orderFrom (arcs w) fuel table waiting done) := by
  intro fuel
  induction fuel with
  | zero =>
    intro table waiting done h _ hfuel
    have hlength := (hsorting h).length_le
    have hempty : waiting = [] := List.length_eq_zero_iff.mp (by omega)
    subst hempty
    exact h
  | succ fuel ih =>
    intro table waiting done h hcounts hfuel
    cases waiting with
    | nil => exact h
    | cons name waiting =>
      have hname : name ∉ done := fun hmem =>
        (List.nodup_append.mp (hsorting h).nodup).2.2 name hmem name List.mem_cons_self rfl
      obtain ⟨hreleased, hcounts⟩ := hcounts.countDown hname
      have hlength : (done ++ [name]).length = done.length + 1 := by simp
      change P [] (orderFrom (arcs w) fuel (countDown table (successors (arcs w) name)).1
        (waiting ++ (countDown table (successors (arcs w) name)).2) (done ++ [name]))
      rw [hreleased]
      exact ih (hstep h) hcounts (by omega)

/-- What every turn keeps holds of the whole order, if it holds at the beginning. -/
theorem orderNames_invariant {w : Workflow} {P : List String → List String → Prop}
    (hstart : P (sources w) [])
    (hstep : ∀ {name waiting done}, P (name :: waiting) done →
      P (waiting ++ released (arcs w) (done ++ [name]) name) (done ++ [name]))
    (hsorting : ∀ {waiting done}, P waiting done → Sorting w waiting done) :
    P [] (orderNames w) :=
  orderFrom_invariant hstep hsorting _ hstart (counts_degrees (target_mem_names w)).1 (by simp)

/-- **What holds when all turns are over**: no node waits. -/
theorem sorting_orderNames (w : Workflow) : Sorting w [] (orderNames w) :=
  orderNames_invariant (sorting_start w) Sorting.step id

theorem nodup_orderNames (w : Workflow) : (orderNames w).Nodup := by
  simpa using (sorting_orderNames w).nodup

/-- A node is ordered exactly if all its predecessors are. -/
theorem mem_orderNames {w : Workflow} {a : String} :
    a ∈ orderNames w ↔ a ∈ w.nodeIds ∧ ∀ p, w.Leads p a → p ∈ orderNames w := by
  have h := (sorting_orderNames w).mem_iff a
  rw [List.append_nil] at h
  simpa only [mem_arcs] using h

theorem orderNames_idxOf_lt {w : Workflow} {a b : String} (hb : b ∈ orderNames w)
    (h : w.Leads a b) : (orderNames w).idxOf a < (orderNames w).idxOf b :=
  (sorting_orderNames w).grounded.idxOf_lt hb (mem_arcs.mpr h)

/-! ### Cycles -/

/-- **A graph without cycles leaves no node over.**  A node that is left over has a predecessor that
is left over too, and among finitely many nodes that goes back for ever only on a cycle. -/
theorem mem_orderNames_of_acyclic {w : Workflow} (h : w.Acyclic) {a : String}
    (ha : a ∈ w.nodeIds) : a ∈ orderNames w := by
  have : IsTrans String (Relation.TransGen w.Leads) := ⟨fun _ _ _ => Relation.TransGen.trans⟩
  have : Std.Irrefl (Relation.TransGen w.Leads) := ⟨h⟩
  have : IsStrictOrder String (Relation.TransGen w.Leads) := {}
  have hwf : {b | b ∈ w.nodeIds}.WellFoundedOn (Relation.TransGen w.Leads) :=
    w.nodeIds.finite_toSet.wellFoundedOn
  exact hwf.induction ha fun b hb ih =>
    mem_orderNames.mpr ⟨hb, fun p hp => ih p hp.source_mem (.single hp)⟩

/-- A graph without cycles has a node from which no edge leads on: the last one in the order. -/
theorem exists_last_of_acyclic {w : Workflow} (h : w.Acyclic) (hne : w.nodeIds ≠ []) :
    ∃ a ∈ w.nodeIds, ∀ b, ¬ w.Leads a b := by
  obtain ⟨first, hfirst⟩ := List.exists_mem_of_ne_nil _ hne
  have hne' : orderNames w ≠ [] := List.ne_nil_of_mem (mem_orderNames_of_acyclic h hfirst)
  have hlast := List.getLast_mem hne'
  refine ⟨(orderNames w).getLast hne', (mem_orderNames.mp hlast).1, fun b hleads => ?_⟩
  have hb := mem_orderNames_of_acyclic h hleads.target_mem
  have hlt := orderNames_idxOf_lt hb hleads
  have hend := List.idxOf_lt_length_of_mem hb
  rw [List.getLast_eq_getElem, (nodup_orderNames w).idxOf_getElem] at hlt
  omega

/-- Where all nodes are ordered, the place in the order grows along every way through the graph. -/
theorem acyclic_of_mem_orderNames {w : Workflow} (h : ∀ a ∈ w.nodeIds, a ∈ orderNames w) :
    w.Acyclic := by
  have hlt : ∀ {a b : String}, Relation.TransGen w.Leads a b →
      (orderNames w).idxOf a < (orderNames w).idxOf b := by
    intro a b hab
    induction hab with
    | single hab => exact orderNames_idxOf_lt (h _ hab.target_mem) hab
    | tail _ hbc ih => exact ih.trans (orderNames_idxOf_lt (h _ hbc.target_mem) hbc)
  exact fun a ha => lt_irrefl _ (hlt ha)

/-! ### Plans -/

theorem map_id_filterMap_lastNode? {w : Workflow} : ∀ {ids : List String},
    (∀ a ∈ ids, a ∈ w.nodeIds) → (ids.filterMap w.lastNode?).map Node.id = ids := by
  intro ids
  induction ids with
  | nil => exact fun _ => rfl
  | cons a ids ih =>
    intro h
    have ha := Workflow.lastNode?_isSome.mpr (h a (List.mem_cons_self ..))
    obtain ⟨n, hn⟩ := Option.isSome_iff_exists.mp ha
    rw [List.filterMap_cons_some hn, List.map_cons, (Workflow.lastNode?_eq_some hn).2,
      ih fun b hb => h b (List.mem_cons_of_mem _ hb)]

/-- The nodes of the order, by name. -/
theorem map_id_order (w : Workflow) : (order w).map Node.id = orderNames w :=
  map_id_filterMap_lastNode? fun _ ha => (mem_orderNames.mp ha).1

theorem length_order (w : Workflow) : (order w).length = (orderNames w).length := by
  rw [← map_id_order, List.length_map]

theorem orderNames_subperm (w : Workflow) : (orderNames w).Subperm (names w) :=
  List.subperm_of_subset (nodup_orderNames w) fun _ ha => mem_names.mpr (mem_orderNames.mp ha).1

/-- **Which workflows can be ordered**: those whose nodes have names of their own and whose graph
has no cycle. -/
theorem isAcyclic_iff {w : Workflow} : isAcyclic w = true ↔ w.nodeIds.Nodup ∧ w.Acyclic := by
  rw [isAcyclic, beq_iff_eq, length_order]
  have hle := (orderNames_subperm w).length_le
  have hle' := names_length_le w
  constructor
  · intro hlen
    have hperm := (orderNames_subperm w).perm_of_length_le (by omega)
    refine ⟨names_length_eq_iff.mp (by omega), acyclic_of_mem_orderNames fun a ha => ?_⟩
    exact hperm.mem_iff.mpr (mem_names.mpr ha)
  · rintro ⟨hnodup, hacyclic⟩
    have hback : (names w).Subperm (orderNames w) :=
      List.subperm_of_subset (nodup_names w) fun a ha =>
        mem_orderNames_of_acyclic hacyclic (mem_names.mp ha)
    have hnames := names_length_eq_iff.mpr hnodup
    have hge := hback.length_le
    omega

theorem plan?_isSome_iff {w : Workflow} : (plan? w).isSome ↔ w.nodeIds.Nodup ∧ w.Acyclic := by
  rw [← isAcyclic_iff, plan?]
  split <;> simp_all

theorem plan?_eq_some {w : Workflow} {nodes : List Node} (h : plan? w = some nodes) :
    nodes = order w ∧ w.nodeIds.Nodup ∧ w.Acyclic := by
  have hgood := plan?_isSome_iff.mp (Option.isSome_of_eq_some h)
  rw [plan?, if_pos (isAcyclic_iff.mpr hgood)] at h
  exact ⟨(Option.some.inj h).symm, hgood⟩

/-- A plan holds every node of the workflow once. -/
theorem perm_of_plan {w : Workflow} {nodes : List Node} (h : plan? w = some nodes) :
    nodes.Perm w.nodes := by
  obtain ⟨rfl, hnodup, hacyclic⟩ := plan?_eq_some h
  have hperm : (orderNames w).Perm w.nodeIds :=
    (List.perm_ext_iff_of_nodup (nodup_orderNames w) hnodup).mpr fun a =>
      ⟨fun ha => (mem_orderNames.mp ha).1, mem_orderNames_of_acyclic hacyclic⟩
  have hback : w.nodeIds.filterMap w.lastNode? = w.nodes := by
    rw [Workflow.nodeIds, List.filterMap_map]
    conv_rhs => rw [← List.filterMap_some (l := w.nodes)]
    exact List.filterMap_congr fun n hn => Workflow.lastNode?_of_mem hnodup hn
  rw [order, ← hback]
  exact hperm.filterMap w.lastNode?

/-- In a plan edges lead forward. -/
theorem idxOf_lt_of_plan {w : Workflow} {nodes : List Node} (h : plan? w = some nodes)
    {a b : String} (hab : w.Leads a b) :
    (nodes.map Node.id).idxOf a < (nodes.map Node.id).idxOf b := by
  obtain ⟨rfl, -, hacyclic⟩ := plan?_eq_some h
  rw [map_id_order]
  exact orderNames_idxOf_lt (mem_orderNames_of_acyclic hacyclic hab.target_mem) hab

theorem nodup_of_plan {w : Workflow} {order : List Node} (h : plan? w = some order) :
    (order.map Node.id).Nodup := by
  obtain ⟨rfl, -, -⟩ := plan?_eq_some h
  exact map_id_order w ▸ nodup_orderNames w

/-- No node of a plan leads to an earlier one. -/
theorem pairwise_of_plan {w : Workflow} {order : List Node} (h : plan? w = some order) :
    (order.map Node.id).Pairwise fun a b => ¬ w.Leads b a := by
  have hnodup := nodup_of_plan h
  rw [List.pairwise_iff_getElem]
  intro i j hi hj hij hleads
  have hlt := idxOf_lt_of_plan h hleads
  rw [hnodup.idxOf_getElem, hnodup.idxOf_getElem] at hlt
  omega

theorem idxOf_lt_of_pairwise {ids : List String} {R : String → String → Prop}
    (h : ids.Pairwise fun a b => ¬ R b a) {a b : String} (ha : a ∈ ids) (hb : b ∈ ids)
    (hne : a ≠ b) (hab : R a b) : ids.idxOf a < ids.idxOf b := by
  by_contra hnot
  have hidx : ids.idxOf a ≠ ids.idxOf b := fun heq => hne ((List.idxOf_inj ha).mp heq)
  have hlt : ids.idxOf b < ids.idxOf a := by omega
  have hback := List.pairwise_iff_getElem.mp h _ _ (List.idxOf_lt_length_of_mem hb)
    (List.idxOf_lt_length_of_mem ha) hlt
  rw [List.getElem_idxOf, List.getElem_idxOf] at hback
  exact hback hab

/-! ### Refusals -/

/-- A run without a plan stops before anything has happened. -/
theorem run_of_plan_none {w : Workflow} (h : plan? w = none) {σ : Type} (registry : List NodeType)
    (backend : Backend σ) (listener : Listener σ) (copies : Json → Bool) (id : String)
    (given : Json) (s : σ) :
    w.run registry backend listener copies id given s = (.error (.cyclic w.id), s) := by
  rw [Workflow.run, h]

theorem run_ne_cyclic_of_plan {w : Workflow} {nodes : List Node} (h : plan? w = some nodes)
    {σ : Type} (registry : List NodeType) (backend : Backend σ) (listener : Listener σ)
    (copies : Json → Bool) (id : String) (given : Json) (s : σ) :
    (w.run registry backend listener copies id given s).1 ≠ .error (.cyclic w.id) := by
  rw [Workflow.run, h]
  cases hin : w.initialInput given with
  | ok input =>
    -- what cannot be copied breaks a run off for another reason
    simp only
    split_ifs
    · simp
    · simp
    · simp
  | error e =>
    -- without an input the run is refused too, but for another reason
    rcases Workflow.initialInput_eq_error hin with ⟨_, rfl⟩ | ⟨_, rfl⟩ <;> simp

/-- **Scheduling is sound and complete.**  A workflow has a plan exactly if its nodes have names of
their own and no way along its edges leads back to where it began.  A plan holds every node once and
every edge leads forward in it.  A run without a plan, and no other, is refused as cyclic, and leaves
the collaborators and the listener as they were. -/
theorem plan_iff_acyclic (w : Workflow) :
    ((plan? w).isSome ↔ w.nodeIds.Nodup ∧ w.Acyclic) ∧
    (∀ nodes, plan? w = some nodes → nodes.Perm w.nodes ∧
      ∀ a b, w.Leads a b → (nodes.map Node.id).idxOf a < (nodes.map Node.id).idxOf b) ∧
    (∀ (σ : Type) (registry : List NodeType) (backend : Backend σ) (listener : Listener σ)
      (copies : Json → Bool) (id : String) (given : Json) (s : σ),
      plan? w = none ↔
        w.run registry backend listener copies id given s = (.error (.cyclic w.id), s)) := by
  refine ⟨plan?_isSome_iff, fun nodes h => ?_,
    fun σ registry backend listener copies id given s => ?_⟩
  · exact ⟨perm_of_plan h, fun a b hab => idxOf_lt_of_plan h hab⟩
  · constructor
    · exact fun h => run_of_plan_none h registry backend listener copies id given s
    · intro hrun
      by_contra hplan
      obtain ⟨nodes, hsome⟩ := Option.ne_none_iff_exists'.mp hplan
      exact run_ne_cyclic_of_plan hsome registry backend listener copies id given s (by rw [hrun])

/-- The fork has a plan; with an edge that leads back it is refused. -/
theorem plan_iff_acyclic_fork :
    Workflow.fork.Acyclic ∧
    (∃ nodes, plan? Workflow.fork = some nodes ∧ nodes.Perm Workflow.fork.nodes) ∧
    Workflow.loop.run NodeType.all .simulated Listener.silent (Json.isWithin 490) "run" .null ()
      = (.error (.cyclic "wf_fork"), ()) := by
  refine ⟨((plan_iff_acyclic Workflow.fork).1.mp (by decide)).2, ⟨_, rfl, ?_⟩, ?_⟩
  · exact ((plan_iff_acyclic Workflow.fork).2.1 _ rfl).1
  · exact ((plan_iff_acyclic Workflow.loop).2.2 Unit NodeType.all .simulated Listener.silent
      (Json.isWithin 490) "run" .null ()).mp rfl

end Flowgraph.Schedule
