import Flowgraph.Document.Rules
import Flowgraph.Proofs.Order

/-!
# What the rules of documents say

The rules are checked by a pass over the nodes and a pass over the edges which collect breaches and
remember the names they have met.  Here the same rules are said without any pass: a workflow is
`Coherent` if its trigger, its nodes and its edges are in order, names are unique, and no way along
its edges leads back to where it began.

A cycle is looked for only where node names are unique, so the breach that tells of one is found
exactly in that case, whatever other rules are broken.

## Main definitions

* `Node.Fits` — the rules for one node.
* `Workflow.Joins` — the rules for one edge.
* `Workflow.Coherent` — all rules.
* `Document.read` — the document that data holds, before any rule is looked at.

## Main results

* `Workflow.breaches_eq_nil_iff` — the two passes find nothing exactly in coherent workflows.
* `Workflow.cycle_mem_breaches_iff` — when the breach that tells of a cycle is found.
* `Document.check_iff_coherent` — which documents are accepted, and when a cycle is reported.
-/

namespace Flowgraph

/-! ### The rules -/

/-- The rules for one node. -/
structure Node.Fits (n : Node) : Prop where
  /-- Triggers have no inputs, and all other nodes have one. -/
  inputs : n.isTrigger = true ↔ n.inputs = []
  /-- No two inputs have one name. -/
  inputIds : n.inputIds.Nodup
  /-- No two outputs have one name. -/
  outputIds : n.outputIds.Nodup
  /-- A branch has two outputs or more, and its configuration names one of them as the default. -/
  branch : n.type = .condition → 2 ≤ n.outputs.length ∧
    ∃ port ∈ n.outputIds, n.config.get? "default_output" = some (.str port)

/-- The rules for one edge: it leads from an output of a node to an input of a node. -/
structure Workflow.Joins (w : Workflow) (e : Edge) : Prop where
  /-- The edge starts at an output of a node. -/
  source : ∃ n ∈ w.nodes, n.id = e.source.nodeId ∧ e.source.portId ∈ n.outputIds
  /-- The edge ends at an input of a node. -/
  target : ∃ n ∈ w.nodes, n.id = e.target.nodeId ∧ e.target.portId ∈ n.inputIds

/-- All rules. -/
structure Workflow.Coherent (w : Workflow) : Prop where
  /-- There is one trigger, and there the run begins. -/
  trigger : ∃ t, w.triggers = [t] ∧ w.entryNodeId = t.id
  /-- Every node keeps its rules. -/
  nodes : ∀ n ∈ w.nodes, n.Fits
  /-- No two nodes have one name. -/
  nodeIds : w.nodeIds.Nodup
  /-- Every edge keeps its rules. -/
  edges : ∀ e ∈ w.edges, w.Joins e
  /-- No two edges have one name. -/
  edgeIds : (w.edges.map Edge.id).Nodup
  /-- There is no cycle. -/
  acyclic : w.Acyclic

/-! ### Repeated names -/

theorem repeated_eq_nil_iff {names : List String} : repeated names = [] ↔ names.Nodup := by
  rw [repeated, ← List.length_eq_zero_iff, List.length_mergeSort, List.length_eq_zero_iff,
    List.filter_eq_nil_iff, List.nodup_iff_count_le_one]
  constructor
  · intro h a
    by_cases ha : a ∈ names
    · simpa using h a (Schedule.mem_distinct.mpr ha)
    · rw [List.count_eq_zero_of_not_mem ha]
      omega
  · intro h a _
    simpa using h a

/-! ### Passes -/

section Passes

variable {α : Type} (name : α → String) (good : α → Prop)
  {breaches : ℕ → List String → α → List Breach}
  {pass : ℕ → List String → List α → List Breach}

/-- A pass that remembers the names it has met finds nothing exactly if every item keeps its rules
and no name occurs twice or earlier. -/
theorem pass_eq_nil_iff (hnil : ∀ index earlier, pass index earlier [] = [])
    (hcons : ∀ index earlier a items, pass index earlier (a :: items) =
      breaches index earlier a ++ pass (index + 1) (name a :: earlier) items)
    (hitem : ∀ index earlier a, breaches index earlier a = [] ↔ name a ∉ earlier ∧ good a) :
    ∀ (items : List α) (index : ℕ) (earlier : List String), pass index earlier items = [] ↔
      (∀ a ∈ items, good a) ∧ (items.map name).Nodup ∧ ∀ a ∈ items, name a ∉ earlier := by
  intro items
  induction items with
  | nil => simp [hnil]
  | cons a items ih =>
    intro index earlier
    rw [hcons, List.append_eq_nil_iff, hitem, ih]
    simp only [List.mem_cons, forall_eq_or_imp, List.map_cons, List.nodup_cons, List.mem_map,
      not_or, not_exists, not_and]
    constructor
    · rintro ⟨⟨hnew, hgood⟩, hall, hnodup, hlater⟩
      exact ⟨⟨hgood, hall⟩, ⟨fun b hb => (hlater b hb).1, hnodup⟩, hnew, fun b hb => (hlater b hb).2⟩
    · rintro ⟨⟨hgood, hall⟩, ⟨hdiff, hnodup⟩, hnew, hlater⟩
      exact ⟨⟨hnew, hgood⟩, hall, hnodup, fun b hb => ⟨hdiff b hb, hlater b hb⟩⟩

/-- A pass finds no breach that none of its items has. -/
theorem notMem_pass {breach : Breach} (hnil : ∀ index earlier, pass index earlier [] = [])
    (hcons : ∀ index earlier a items, pass index earlier (a :: items) =
      breaches index earlier a ++ pass (index + 1) (name a :: earlier) items)
    (hitem : ∀ index earlier a, breach ∉ breaches index earlier a) :
    ∀ (items : List α) (index : ℕ) (earlier : List String),
      breach ∉ pass index earlier items := by
  intro items
  induction items with
  | nil => simp [hnil]
  | cons a items ih =>
    intro index earlier hmem
    rw [hcons] at hmem
    rcases List.mem_append.mp hmem with h | h
    · exact hitem index earlier a h
    · exact ih _ _ h

end Passes

/-! ### The pass over the nodes -/

theorem when_eq_nil_iff {p : Prop} [Decidable p] {b : Breach} :
    (if p then [b] else []) = [] ↔ ¬p := by
  split <;> simp_all

theorem unless_eq_nil_iff {p : Prop} [Decidable p] {b : Breach} :
    (if p then [] else [b]) = [] ↔ p := by
  split <;> simp_all

namespace Node

theorem hasDefaultOutput_iff {n : Node} : n.hasDefaultOutput = true ↔
    ∃ port ∈ n.outputIds, n.config.get? "default_output" = some (.str port) := by
  unfold hasDefaultOutput defaultOutput?
  cases hget : n.config.get? "default_output" with
  | none => simp
  | some v => cases v <;> simp [Json.str?]

/-- A node breaks no rule exactly if it keeps its own rules and its name is new. -/
theorem breaches_eq_nil_iff {index : ℕ} {earlier : List String} {n : Node} :
    n.breaches index earlier = [] ↔ n.id ∉ earlier ∧ n.Fits := by
  unfold breaches
  rw [List.append_eq_nil_iff, List.append_eq_nil_iff, List.append_eq_nil_iff,
    List.append_eq_nil_iff, List.map_eq_nil_iff, List.map_eq_nil_iff, repeated_eq_nil_iff,
    repeated_eq_nil_iff, when_eq_nil_iff, List.contains_iff_mem]
  have hinputs : (if n.isTrigger then
        if n.inputs.isEmpty then [] else [Breach.triggerInputs index n.id]
      else if n.inputs.isEmpty then [.noInputs index n.id] else []) = [] ↔
      (n.isTrigger = true ↔ n.inputs = []) := by
    cases n.isTrigger <;> cases n.inputs <;> simp
  have hbranch : (if n.type = .condition then
      (if n.outputs.length < 2 then [Breach.fewOutputs index n.id] else [])
        ++ (if n.hasDefaultOutput then [] else [.defaultOutput index n.id])
      else []) = [] ↔ (n.type = .condition → 2 ≤ n.outputs.length ∧ n.hasDefaultOutput = true) := by
    by_cases h : n.type = .condition
    · rw [if_pos h, List.append_eq_nil_iff, when_eq_nil_iff, unless_eq_nil_iff, not_lt]
      exact ⟨fun hrest _ => hrest, fun hrest => hrest h⟩
    · rw [if_neg h]
      exact ⟨fun _ hcond => absurd hcond h, fun _ => rfl⟩
  rw [hinputs, hbranch, hasDefaultOutput_iff]
  constructor
  · rintro ⟨⟨⟨⟨hnew, hin⟩, hins⟩, houts⟩, hbr⟩
    exact ⟨hnew, hin, hins, houts, hbr⟩
  · rintro ⟨hnew, hfits⟩
    exact ⟨⟨⟨⟨hnew, hfits.inputs⟩, hfits.inputIds⟩, hfits.outputIds⟩, hfits.branch⟩

/-- New nodes of every kind keep their rules. -/
theorem fits_fresh (type : NodeType) (id : String) (position : Position) :
    (type.fresh id position).Fits where
  inputs := by
    rw [← List.isEmpty_iff]
    exact type.entry_inputs_isEmpty ▸ Iff.rfl
  inputIds := by
    change (type.entry.inputs.map Port.id).Nodup
    cases type <;> decide
  outputIds := by
    change (type.entry.outputs.map Port.id).Nodup
    cases type <;> decide
  branch := by
    rintro rfl
    exact ⟨le_refl 2, "false", .tail _ (.head _), rfl⟩

theorem cycle_notMem_breaches {index : ℕ} {earlier : List String} {n : Node} :
    Breach.cycle ∉ n.breaches index earlier := by
  unfold breaches
  simp only [List.mem_append, List.mem_map, not_or]
  refine ⟨⟨⟨⟨?_, ?_⟩, ?_⟩, ?_⟩, ?_⟩
  · split <;> simp
  · split <;> split <;> simp
  · simp
  · simp
  · split
    · split <;> split <;> simp
    · simp

end Node

/-- The pass over the nodes finds nothing exactly if every node keeps its rules and no name occurs
twice or earlier. -/
theorem nodeBreaches_eq_nil_iff (nodes : List Node) (index : ℕ) (earlier : List String) :
    nodeBreaches index earlier nodes = [] ↔
      (∀ n ∈ nodes, n.Fits) ∧ (nodes.map Node.id).Nodup ∧ ∀ n ∈ nodes, n.id ∉ earlier :=
  pass_eq_nil_iff Node.id Node.Fits (fun _ _ => rfl) (fun _ _ _ _ => rfl)
    (fun _ _ _ => Node.breaches_eq_nil_iff) nodes index earlier

theorem cycle_notMem_nodeBreaches (nodes : List Node) (index : ℕ) (earlier : List String) :
    Breach.cycle ∉ nodeBreaches index earlier nodes :=
  notMem_pass Node.id (fun _ _ => rfl) (fun _ _ _ _ => rfl)
    (fun _ _ _ => Node.cycle_notMem_breaches) nodes index earlier

/-! ### The pass over the edges -/

namespace Workflow

/-- An end of an edge breaks no rule exactly if there is a node of its name with a port of its
name. -/
theorem endBreaches_eq_nil_iff {w : Workflow} (h : w.nodeIds.Nodup) (e : Endpoint)
    (ports : Node → List String) (absent wrong : Breach) :
    (match w.lastNode? e.nodeId with
      | none => [absent]
      | some n => if (ports n).contains e.portId then [] else [wrong]) = [] ↔
      ∃ n ∈ w.nodes, n.id = e.nodeId ∧ e.portId ∈ ports n := by
  cases hlast : w.lastNode? e.nodeId with
  | none =>
    refine ⟨fun hnil => absurd hnil (List.cons_ne_nil _ _), ?_⟩
    rintro ⟨n, hn, hid, -⟩
    rw [← hid, lastNode?_of_mem h hn] at hlast
    exact absurd hlast (Option.some_ne_none n)
  | some n =>
    obtain ⟨hn, hid⟩ := lastNode?_eq_some hlast
    rw [unless_eq_nil_iff, List.contains_iff_mem]
    constructor
    · exact fun hport => ⟨n, hn, hid, hport⟩
    · rintro ⟨m, hm, hid', hport⟩
      rw [eq_of_id_eq h hn hm (hid.trans hid'.symm)]
      exact hport

end Workflow

namespace Edge

/-- An edge breaks no rule exactly if it joins two nodes and its name is new. -/
theorem breaches_eq_nil_iff {w : Workflow} (h : w.nodeIds.Nodup) {index : ℕ}
    {earlier : List String} {e : Edge} :
    e.breaches w index earlier = [] ↔ e.id ∉ earlier ∧ w.Joins e := by
  have hsource := Workflow.endBreaches_eq_nil_iff h e.source Node.outputIds
    (.sourceNode index e.id) (.sourcePort index e.id)
  have htarget := Workflow.endBreaches_eq_nil_iff h e.target Node.inputIds
    (.targetNode index e.id) (.targetPort index e.id)
  unfold breaches
  rw [List.append_eq_nil_iff, List.append_eq_nil_iff, when_eq_nil_iff, List.contains_iff_mem]
  constructor
  · rintro ⟨⟨hnew, hs⟩, ht⟩
    exact ⟨hnew, hsource.mp hs, htarget.mp ht⟩
  · rintro ⟨hnew, hjoins⟩
    exact ⟨⟨hnew, hsource.mpr hjoins.source⟩, htarget.mpr hjoins.target⟩

theorem cycle_notMem_breaches {w : Workflow} {index : ℕ} {earlier : List String} {e : Edge} :
    Breach.cycle ∉ e.breaches w index earlier := by
  unfold breaches
  simp only [List.mem_append, not_or]
  refine ⟨⟨?_, ?_⟩, ?_⟩
  · split <;> simp
  · split
    · simp
    · split <;> simp
  · split
    · simp
    · split <;> simp

end Edge

/-- The pass over the edges finds nothing exactly if every edge joins two nodes and no name occurs
twice or earlier. -/
theorem edgeBreaches_eq_nil_iff {w : Workflow} (h : w.nodeIds.Nodup) (edges : List Edge)
    (index : ℕ) (earlier : List String) :
    edgeBreaches w index earlier edges = [] ↔
      (∀ e ∈ edges, w.Joins e) ∧ (edges.map Edge.id).Nodup ∧ ∀ e ∈ edges, e.id ∉ earlier :=
  pass_eq_nil_iff Edge.id w.Joins (fun _ _ => rfl) (fun _ _ _ _ => rfl)
    (fun _ _ _ => Edge.breaches_eq_nil_iff h) edges index earlier

theorem cycle_notMem_edgeBreaches {w : Workflow} (edges : List Edge) (index : ℕ)
    (earlier : List String) : Breach.cycle ∉ edgeBreaches w index earlier edges :=
  notMem_pass Edge.id (fun _ _ => rfl) (fun _ _ _ _ => rfl)
    (fun _ _ _ => Edge.cycle_notMem_breaches) edges index earlier

/-! ### Workflows -/

namespace Workflow

theorem triggerBreaches_eq_nil_iff {w : Workflow} :
    w.triggerBreaches = [] ↔ ∃ t, w.triggers = [t] ∧ w.entryNodeId = t.id := by
  unfold triggerBreaches
  rw [List.append_eq_nil_iff, unless_eq_nil_iff]
  constructor
  · rintro ⟨hone, hentry⟩
    obtain ⟨t, ht⟩ := List.length_eq_one_iff.mp hone
    rw [ht] at hentry
    exact ⟨t, ht, unless_eq_nil_iff.mp hentry⟩
  · rintro ⟨t, ht, hentry⟩
    rw [ht]
    exact ⟨rfl, unless_eq_nil_iff.mpr hentry⟩

theorem cycle_notMem_triggerBreaches {w : Workflow} : Breach.cycle ∉ w.triggerBreaches := by
  unfold triggerBreaches
  rw [List.mem_append, not_or]
  constructor
  · split <;> simp
  · split
    · simp
    · split <;> simp

/-- When a cycle is looked for and found. -/
theorem cycle_looked_for_iff {w : Workflow} :
    ((repeated w.nodeIds).isEmpty && !Schedule.isAcyclic w) = true ↔
      w.nodeIds.Nodup ∧ ¬w.Acyclic := by
  rw [Bool.and_eq_true, List.isEmpty_iff, repeated_eq_nil_iff, Bool.not_eq_true',
    ← Bool.not_eq_true, Schedule.isAcyclic_iff]
  constructor
  · rintro ⟨hnodup, hnot⟩
    exact ⟨hnodup, fun hacyclic => hnot ⟨hnodup, hacyclic⟩⟩
  · rintro ⟨hnodup, hnot⟩
    exact ⟨hnodup, fun hgood => hnot hgood.2⟩

/-- **The two passes find nothing exactly in coherent workflows.** -/
theorem breaches_eq_nil_iff {w : Workflow} : w.breaches = [] ↔ w.Coherent := by
  unfold breaches
  rw [List.append_eq_nil_iff, List.append_eq_nil_iff, List.append_eq_nil_iff, when_eq_nil_iff,
    cycle_looked_for_iff, triggerBreaches_eq_nil_iff, nodeBreaches_eq_nil_iff]
  constructor
  · rintro ⟨⟨⟨htrigger, hfits, hids, -⟩, hedges⟩, hcycle⟩
    -- the edges are judged by the node names, which are known to be unique by now
    obtain ⟨hjoins, hedgeIds, -⟩ := (edgeBreaches_eq_nil_iff hids _ _ _).mp hedges
    exact ⟨htrigger, hfits, hids, hjoins, hedgeIds, by
      by_contra hnot
      exact hcycle ⟨hids, hnot⟩⟩
  · intro h
    refine ⟨⟨⟨h.trigger, h.nodes, h.nodeIds, by simp⟩, ?_⟩, fun hbad => hbad.2 h.acyclic⟩
    exact (edgeBreaches_eq_nil_iff h.nodeIds _ _ _).mpr ⟨h.edges, h.edgeIds, by simp⟩

/-- **When a cycle is reported**: the names of the nodes are unique and there is one, whatever other
rules are broken. -/
theorem cycle_mem_breaches_iff {w : Workflow} :
    Breach.cycle ∈ w.breaches ↔ w.nodeIds.Nodup ∧ ¬w.Acyclic := by
  unfold breaches
  rw [← cycle_looked_for_iff, List.mem_append, List.mem_append, List.mem_append]
  constructor
  · rintro (((h | h) | h) | h)
    · exact absurd h cycle_notMem_triggerBreaches
    · exact absurd h (cycle_notMem_nodeBreaches _ _ _)
    · exact absurd h (cycle_notMem_edgeBreaches _ _ _)
    · by_contra hnot
      rw [if_neg hnot] at h
      exact absurd h List.not_mem_nil
  · intro h
    rw [if_pos h]
    exact Or.inr (List.mem_singleton.mpr rfl)

end Workflow

/-! ### Documents -/

-- `delta` stands for `unfold` here, since the equations of `message` take long to make.

/-- The first letters of the wording of a cycle, which no other breach begins with. -/
theorem Breach.take_message_cycle : cycle.message.toList.take 15 = "workflow.edges:".toList := by
  delta message
  simp

theorem Breach.eq_cycle_of_message {b : Breach} (h : b.message = cycle.message) : b = cycle := by
  have hbegin := take_message_cycle
  rw [← h] at hbegin
  delta message at hbegin
  have htext : ∀ s : String, toString s = s := fun _ => rfl
  have hfirst : ∀ {first rest : String}, 15 ≤ first.toList.length →
      (first ++ rest).toList.take 15 = first.toList.take 15 := by
    intro first rest hlong
    rw [String.toList_append, List.take_append_of_le_length hlong]
  cases b with
  | cycle => rfl
  | triggerCount => exact absurd hbegin (by decide +kernel)
  | entryNode => exact absurd hbegin (by decide +kernel)
  | _ =>
    -- the first part of every other wording is long enough to tell
    simp only [htext, String.append_assoc] at hbegin
    rw [hfirst (by decide +kernel)] at hbegin
    exact absurd hbegin (by decide +kernel)

namespace Document

/-- The document that data holds, before any rule is looked at; data that is a text is read first. -/
def read (v : Json) : Except (List String) Document :=
  match v with
  | .str text => ofText text
  | v => ofJson v

theorem check_eq_read_bind (v : Json) : check v = (read v).bind obeying := by
  cases v <;> rfl

theorem obeying_eq_ok_iff {d d' : Document} :
    d.obeying = .ok d' ↔ d' = d ∧ d.workflow.Coherent := by
  rw [← Workflow.breaches_eq_nil_iff]
  unfold obeying
  cases d.workflow.breaches with
  | nil => simp [eq_comm]
  | cons b bs => simp

theorem obeying_eq_error_iff {d : Document} {errors : List String} :
    d.obeying = .error errors ↔
      d.workflow.breaches ≠ [] ∧ errors = d.workflow.breaches.map Breach.message := by
  unfold obeying
  cases d.workflow.breaches with
  | nil => simp
  | cons b bs => simp [eq_comm]

/-- What is accepted was read, and is coherent. -/
theorem check_eq_ok_iff {v : Json} {d : Document} :
    check v = .ok d ↔ read v = .ok d ∧ d.workflow.Coherent := by
  rw [check_eq_read_bind]
  cases hread : read v with
  | error errors => simp [Except.bind]
  | ok d' =>
    rw [Except.bind, obeying_eq_ok_iff, Except.ok.injEq]
    constructor
    · rintro ⟨rfl, h⟩
      exact ⟨rfl, h⟩
    · rintro ⟨rfl, h⟩
      exact ⟨rfl, h⟩

/-- **Which documents are accepted.**  A document of the right shape is accepted exactly if it is
coherent.  If it is not, a cycle is among the problems exactly if the names of the nodes are unique
and the edges between nodes close one, whatever other rules are broken. -/
theorem check_iff_coherent (v : Json) (d : Document) (h : read v = .ok d) :
    (check v = .ok d ↔ d.workflow.Coherent) ∧
    ((∃ errors, check v = .error errors ∧ Breach.cycle.message ∈ errors) ↔
      d.workflow.nodeIds.Nodup ∧ ¬d.workflow.Acyclic) := by
  constructor
  · rw [check_eq_ok_iff]
    exact ⟨fun hok => hok.2, fun hcoherent => ⟨h, hcoherent⟩⟩
  · rw [← Workflow.cycle_mem_breaches_iff, check_eq_read_bind, h]
    constructor
    · rintro ⟨errors, herrors, hmem⟩
      obtain ⟨-, rfl⟩ := obeying_eq_error_iff.mp herrors
      obtain ⟨b, hb, hmessage⟩ := List.mem_map.mp hmem
      exact Breach.eq_cycle_of_message hmessage ▸ hb
    · intro hmem
      refine ⟨_, obeying_eq_error_iff.mpr ⟨List.ne_nil_of_mem hmem, rfl⟩, ?_⟩
      exact List.mem_map.mpr ⟨_, hmem, rfl⟩

theorem coherent_fork : Workflow.fork.Coherent := by
  have hids : Workflow.fork.nodeIds.Nodup := by decide
  obtain ⟨hjoins, hedgeIds, -⟩ :=
    (edgeBreaches_eq_nil_iff hids Workflow.fork.edges 0 []).mp rfl
  refine ⟨⟨_, rfl, rfl⟩, ?_, hids, hjoins, hedgeIds, ?_⟩
  · simp only [Workflow.fork, List.forall_mem_cons]
    exact ⟨Node.fits_fresh .., Node.fits_fresh .., Node.fits_fresh .., by simp⟩
  · exact (Schedule.isAcyclic_iff.mp (by decide)).2

theorem read_fork : read (toJson ⟨Workflow.fork⟩) = .ok ⟨Workflow.fork⟩ := by
  have hshape : Shape.document (toJson ⟨Workflow.fork⟩) = .ok ⟨Workflow.fork⟩ := rfl
  change ofJson _ = _
  rw [ofJson, hshape]
  rfl

theorem read_loop : read (toJson ⟨Workflow.loop⟩) = .ok ⟨Workflow.loop⟩ := by
  have hshape : Shape.document (toJson ⟨Workflow.loop⟩) = .ok ⟨Workflow.loop⟩ := rfl
  change ofJson _ = _
  rw [ofJson, hshape]
  rfl

/-- The fork with an edge that leads back is read, and refused for its cycle alone. -/
theorem check_iff_coherent_loop :
    ∃ errors, check (toJson ⟨Workflow.loop⟩) = .error errors ∧ Breach.cycle.message ∈ errors := by
  have hcyclic : ¬Workflow.loop.Acyclic := fun h =>
    absurd (Schedule.isAcyclic_iff.mpr ⟨by decide, h⟩) (by decide)
  exact (check_iff_coherent _ _ read_loop).2.mpr ⟨by decide, hcyclic⟩

end Document
end Flowgraph
