import Flowgraph.Catalog
import Flowgraph.Schedule
import Mathlib.Data.List.Nodup
import Mathlib.Data.List.Perm.Subperm
import Mathlib.Logic.Relation

/-!
# The graph of a workflow

A workflow is read as a directed graph on the names of its nodes.  An edge takes part if both of its
ends are names of nodes; parallel edges count once and an edge from a node to itself is a cycle.
The scheduler works on lists instead: the names without repetitions, and the arcs as pairs of names.
This module says which graph those lists stand for.

## Main definitions

* `Workflow.Leads` — an edge leads from one node of the workflow to another.
* `Workflow.Acyclic` — no node leads back to itself, over any number of edges.

## Main results

* `Schedule.mem_arcs` — the arcs are the pairs that edges lead between.
* `Schedule.names_length_eq_iff` — no name is dropped exactly if no two nodes have one name.
* `Workflow.lastNode?_of_mem` — where names are unique, a name finds its node.
-/

namespace Flowgraph

/-! ### The graph -/

namespace Workflow

/-- An edge leads from the node `a` to the node `b`, and both of them are nodes of the workflow. -/
def Leads (w : Workflow) (a b : String) : Prop :=
  ∃ e ∈ w.edges, e.source.nodeId = a ∧ e.target.nodeId = b ∧ a ∈ w.nodeIds ∧ b ∈ w.nodeIds

/-- No node leads back to itself, directly or over other nodes. -/
def Acyclic (w : Workflow) : Prop :=
  ∀ a, ¬ Relation.TransGen w.Leads a a

theorem Leads.source_mem {w : Workflow} {a b : String} (h : w.Leads a b) : a ∈ w.nodeIds := by
  obtain ⟨-, -, -, -, ha, -⟩ := h
  exact ha

theorem Leads.target_mem {w : Workflow} {a b : String} (h : w.Leads a b) : b ∈ w.nodeIds := by
  obtain ⟨-, -, -, -, -, hb⟩ := h
  exact hb

theorem Acyclic.irrefl {w : Workflow} (h : w.Acyclic) (a : String) : ¬ w.Leads a a :=
  fun ha => h a (.single ha)

end Workflow

namespace Schedule

/-! ### Lists without repetitions -/

/-- A list without the earlier occurrences of its items. -/
def lastOccurrences : List String → List String
  | [] => []
  | name :: rest =>
    if rest.contains name then lastOccurrences rest else name :: lastOccurrences rest

/-- A list with an item added behind it, unless the item is in it. -/
def withItem (seen : List String) (item : String) : List String :=
  if seen.contains item then seen else seen ++ [item]

theorem distinct_eq_foldl (items : List String) : distinct items = items.foldl withItem [] := rfl

theorem mem_withItem {seen : List String} {item x : String} :
    x ∈ withItem seen item ↔ x ∈ seen ∨ x = item := by
  unfold withItem
  split
  · next h =>
    have hmem : item ∈ seen := by simpa using h
    constructor
    · exact Or.inl
    · rintro (hx | rfl)
      · exact hx
      · exact hmem
  · simp

theorem nodup_withItem {seen : List String} (item : String) (h : seen.Nodup) :
    (withItem seen item).Nodup := by
  unfold withItem
  split
  · exact h
  · next hitem =>
    have hnot : item ∉ seen := by simpa using hitem
    exact List.nodup_append.mpr ⟨h, List.nodup_singleton item, by
      intro a ha b hb
      rw [List.mem_singleton.mp hb]
      rintro rfl
      exact hnot ha⟩

theorem mem_foldl_withItem {x : String} : ∀ (items seen : List String),
    x ∈ items.foldl withItem seen ↔ x ∈ seen ∨ x ∈ items := by
  intro items
  induction items with
  | nil => simp
  | cons item items ih =>
    intro seen
    rw [List.foldl_cons, ih, mem_withItem, List.mem_cons, or_assoc]

theorem nodup_foldl_withItem : ∀ (items : List String) {seen : List String}, seen.Nodup →
    (items.foldl withItem seen).Nodup := by
  intro items
  induction items with
  | nil => exact fun h => h
  | cons item items ih => exact fun h => ih (nodup_withItem item h)

@[simp] theorem mem_distinct {items : List String} {x : String} :
    x ∈ distinct items ↔ x ∈ items := by
  simp [distinct_eq_foldl, mem_foldl_withItem]

theorem nodup_distinct (items : List String) : (distinct items).Nodup :=
  nodup_foldl_withItem items List.nodup_nil

theorem foldl_withItem_of_nodup : ∀ (items seen : List String), (seen ++ items).Nodup →
    items.foldl withItem seen = seen ++ items := by
  intro items
  induction items with
  | nil => simp
  | cons item items ih =>
    intro seen h
    have hnot : item ∉ seen := fun hmem =>
      (List.nodup_append.mp h).2.2 item hmem item (List.mem_cons_self ..) rfl
    have hstep : withItem seen item = seen ++ [item] := by
      unfold withItem
      rw [if_neg (by simpa using hnot)]
    rw [List.foldl_cons, hstep, ih (seen ++ [item]) (by simpa using h)]
    simp

theorem distinct_of_nodup {items : List String} (h : items.Nodup) : distinct items = items := by
  rw [distinct_eq_foldl, foldl_withItem_of_nodup items [] h, List.nil_append]

/-- A list loses nothing to `distinct` exactly if it repeats nothing. -/
theorem length_distinct_eq_iff {items : List String} :
    (distinct items).length = items.length ↔ items.Nodup := by
  constructor
  · intro hlen
    have hsub : (distinct items).Subperm items :=
      List.subperm_of_subset (nodup_distinct items) fun x hx => mem_distinct.mp hx
    have hperm := hsub.perm_of_length_le (Nat.le_of_eq hlen.symm)
    exact hperm.nodup_iff.mp (nodup_distinct items)
  · intro h
    rw [distinct_of_nodup h]

theorem length_distinct_le (items : List String) : (distinct items).length ≤ items.length :=
  (List.subperm_of_subset (nodup_distinct items) fun _ hx => mem_distinct.mp hx).length_le

@[simp] theorem mem_lastOccurrences {x : String} : ∀ {items : List String},
    x ∈ lastOccurrences items ↔ x ∈ items := by
  intro items
  induction items with
  | nil => rfl
  | cons item items ih =>
    unfold lastOccurrences
    split
    · next h =>
      have hmem : item ∈ items := by simpa using h
      rw [ih, List.mem_cons]
      constructor
      · exact Or.inr
      · rintro (rfl | hx)
        · exact hmem
        · exact hx
    · rw [List.mem_cons, List.mem_cons, ih]

theorem nodup_lastOccurrences : ∀ items : List String, (lastOccurrences items).Nodup := by
  intro items
  induction items with
  | nil => exact List.nodup_nil
  | cons item items ih =>
    unfold lastOccurrences
    split
    · exact ih
    · next h => exact List.nodup_cons.mpr ⟨by simpa using h, ih⟩

/-! ### Names and arcs -/

/-- The sources of the arcs that enter a node. -/
def predecessors (arcs : List (String × String)) (name : String) : List String :=
  (arcs.filter fun arc => arc.2 == name).map Prod.fst

@[simp] theorem mem_names {w : Workflow} {a : String} : a ∈ names w ↔ a ∈ w.nodeIds :=
  mem_distinct

theorem nodup_names (w : Workflow) : (names w).Nodup :=
  nodup_distinct w.nodeIds

@[simp] theorem length_nodeIds (w : Workflow) : w.nodeIds.length = w.nodes.length :=
  List.length_map ..

theorem names_length_le (w : Workflow) : (names w).length ≤ w.nodes.length := by
  rw [← length_nodeIds]
  exact length_distinct_le w.nodeIds

theorem names_length_eq_iff {w : Workflow} :
    (names w).length = w.nodes.length ↔ w.nodeIds.Nodup := by
  rw [← length_nodeIds]
  exact length_distinct_eq_iff

/-- The arcs are the pairs of names that edges lead between. -/
theorem mem_arcs {w : Workflow} {a b : String} : (a, b) ∈ arcs w ↔ w.Leads a b := by
  unfold arcs Workflow.Leads
  simp only [List.mem_filter, List.mem_map, Prod.mk.injEq, Bool.and_eq_true, List.contains_iff_mem,
    mem_names]
  constructor
  · rintro ⟨⟨e, he, hs, ht⟩, ha, hb⟩
    exact ⟨e, he, hs, ht, ha, hb⟩
  · rintro ⟨e, he, hs, ht, ha, hb⟩
    exact ⟨⟨e, he, hs, ht⟩, ha, hb⟩

@[simp] theorem mem_predecessors {arcs : List (String × String)} {a b : String} :
    a ∈ predecessors arcs b ↔ (a, b) ∈ arcs := by
  unfold predecessors
  simp only [List.mem_map, List.mem_filter, beq_iff_eq]
  constructor
  · rintro ⟨⟨x, y⟩, ⟨hmem, rfl⟩, rfl⟩
    exact hmem
  · exact fun h => ⟨(a, b), ⟨h, rfl⟩, rfl⟩

@[simp] theorem mem_successors {arcs : List (String × String)} {a b : String} :
    b ∈ successors arcs a ↔ (a, b) ∈ arcs := by
  unfold successors
  simp only [List.mem_map, List.mem_filter, beq_iff_eq]
  constructor
  · rintro ⟨⟨x, y⟩, ⟨hmem, rfl⟩, rfl⟩
    exact hmem
  · exact fun h => ⟨(a, b), ⟨h, rfl⟩, rfl⟩

end Schedule

/-! ### Nodes by name -/

namespace Workflow

theorem mem_nodeIds {w : Workflow} {a : String} : a ∈ w.nodeIds ↔ ∃ n ∈ w.nodes, n.id = a :=
  List.mem_map

theorem mem_nodeIds_of_mem {w : Workflow} {n : Node} (h : n ∈ w.nodes) : n.id ∈ w.nodeIds :=
  mem_nodeIds.mpr ⟨n, h, rfl⟩

/-- Where names are unique, two nodes of one name are one node. -/
theorem eq_of_id_eq {w : Workflow} (h : w.nodeIds.Nodup) {m n : Node} (hm : m ∈ w.nodes)
    (hn : n ∈ w.nodes) (hid : m.id = n.id) : m = n :=
  List.inj_on_of_nodup_map h hm hn hid

theorem lastNode?_eq_some {w : Workflow} {a : String} {n : Node} (h : w.lastNode? a = some n) :
    n ∈ w.nodes ∧ n.id = a := by
  rw [lastNode?, List.findRev?_eq_findRev?TR, List.findRev?TR] at h
  exact ⟨List.mem_reverse.mp (List.mem_of_find?_eq_some h), by simpa using List.find?_some h⟩

/-- A name is the name of a node exactly if there is a last node of that name. -/
theorem lastNode?_isSome {w : Workflow} {a : String} :
    (w.lastNode? a).isSome ↔ a ∈ w.nodeIds := by
  rw [lastNode?, List.findRev?_eq_findRev?TR, List.findRev?TR, List.find?_isSome, mem_nodeIds]
  simp

theorem lastNode?_of_mem {w : Workflow} (h : w.nodeIds.Nodup) {n : Node} (hn : n ∈ w.nodes) :
    w.lastNode? n.id = some n := by
  obtain ⟨m, hm⟩ := Option.isSome_iff_exists.mp (lastNode?_isSome.mpr (mem_nodeIds_of_mem hn))
  obtain ⟨hmem, hid⟩ := lastNode?_eq_some hm
  rw [hm, eq_of_id_eq h hmem hn hid]

theorem node?_of_mem {w : Workflow} (h : w.nodeIds.Nodup) {n : Node} (hn : n ∈ w.nodes) :
    w.node? n.id = some n := by
  cases hfound : w.node? n.id with
  | none =>
    have hnone := List.find?_eq_none.mp hfound n hn
    simp at hnone
  | some m =>
    have hid : m.id = n.id := by simpa using List.find?_some hfound
    rw [eq_of_id_eq h (List.mem_of_find?_eq_some hfound) hn hid]

/-- A branch whose two ways meet again in one node. -/
def fork : Workflow where
  id := "wf_fork"
  name := "Fork"
  description := "Waits, whatever the score is."
  tags := []
  entryNodeId := "start"
  freeData := []
  nodes := [
    NodeType.manual.fresh "start" ⟨.whole 0, .whole 0⟩,
    NodeType.condition.fresh "check" ⟨.whole 240, .whole 0⟩,
    NodeType.delay.fresh "wait" ⟨.whole 480, .whole 0⟩]
  edges := [
    ⟨"e1", ⟨"start", "out"⟩, ⟨"check", "in"⟩, none, none⟩,
    ⟨"e2", ⟨"check", "true"⟩, ⟨"wait", "in"⟩, none, none⟩,
    ⟨"e3", ⟨"check", "false"⟩, ⟨"wait", "in"⟩, none, none⟩]

/-- The branch again, with an edge that leads back. -/
def loop : Workflow :=
  { fork with edges := fork.edges ++ [⟨"e4", ⟨"wait", "out"⟩, ⟨"check", "in"⟩, none, none⟩] }

end Workflow

end Flowgraph
