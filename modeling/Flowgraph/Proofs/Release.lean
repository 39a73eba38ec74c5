import Flowgraph.Proofs.Order
import Mathlib.Data.Prod.Lex
import Mathlib.Data.Finset.Max

/-!
# In which order nodes are released

The scheduler keeps the nodes that are ready in a queue.  A node joins it when the last of its
predecessors is done, and of several nodes that one predecessor releases the one that its edges
mention last comes last.  So the order can be told without the queue: the nodes without incoming
edges come first, as they are listed, and every other node has a key, which is the place of its
latest predecessor in the order and the place of the last edge from there among the edges that leave
the predecessor.  The keys grow along the order, and no other order of the nodes has this property.

How the edges of different nodes are mixed in the edge list does not enter the keys, nor does the
place in the node list of a node with incoming edges.

## Main definitions

* `Workflow.HasKey` — the key of a node in an order.
* `Workflow.InTurn` — an order in which the keys grow.
* `Schedule.Ranked` — the invariant of the loop: the keys grow over the nodes done and waiting.

## Main results

* `Schedule.lastOccurrences_pairwise` — the nodes that one node releases are in the order of their
  last edges.
* `Schedule.Ranked.step` — a node that is released has a greater key than all nodes before it.
* `Workflow.InTurn.eq_of_inTurn` — there is one order only in which the keys grow.
* `Schedule.inTurn_iff_eq_order` — **the scheduler finds the order in which the keys grow**, and so
  does not depend on how edges are mixed or nodes with incoming edges are listed.
-/

namespace Flowgraph

/-! ### Last places -/

/-- The last place of an item in a list. -/
def LastAt (items : List String) (x : String) (i : ℕ) : Prop :=
  items[i]? = some x ∧ ∀ j, items[j]? = some x → j ≤ i

namespace LastAt

variable {items : List String} {x y : String} {i j : ℕ}

theorem unique (hi : LastAt items x i) (hj : LastAt items x j) : i = j :=
  Nat.le_antisymm (hj.2 i hi.1) (hi.2 j hj.1)

theorem cons (h : LastAt items x i) (y : String) : LastAt (y :: items) x (i + 1) := by
  refine ⟨by simpa using h.1, fun j hj => ?_⟩
  cases j with
  | zero => omega
  | succ j => exact Nat.succ_le_succ (h.2 j (by simpa using hj))

/-- An item that does not come again has its last place in front. -/
theorem head (h : x ∉ items) : LastAt (x :: items) x 0 := by
  refine ⟨rfl, fun j hj => ?_⟩
  cases j with
  | zero => exact Nat.le_refl 0
  | succ j => exact absurd (List.mem_of_getElem? (by simpa using hj)) h

end LastAt

theorem exists_lastAt {items : List String} {x : String} (h : x ∈ items) :
    ∃ i, LastAt items x i := by
  induction items with
  | nil => cases h
  | cons y items ih =>
    by_cases hmem : x ∈ items
    · obtain ⟨i, hi⟩ := ih hmem
      exact ⟨i + 1, hi.cons y⟩
    · obtain rfl : x = y := (List.mem_cons.mp h).resolve_right hmem
      exact ⟨0, .head hmem⟩

namespace Schedule

/-- What is left of a list without its earlier occurrences is in the order of the last places. -/
theorem lastOccurrences_pairwise : ∀ items : List String, (lastOccurrences items).Pairwise
    fun x y => ∃ i j, LastAt items x i ∧ LastAt items y j ∧ i < j := by
  intro items
  induction items with
  | nil => exact .nil
  | cons x items ih =>
    have hlater : (lastOccurrences items).Pairwise fun y z =>
        ∃ i j, LastAt (x :: items) y i ∧ LastAt (x :: items) z j ∧ i < j :=
      ih.imp fun ⟨i, j, hi, hj, hlt⟩ => ⟨i + 1, j + 1, hi.cons x, hj.cons x, by omega⟩
    by_cases hmem : x ∈ items
    · rwa [lastOccurrences, if_pos (by simpa using hmem)]
    · rw [lastOccurrences, if_neg (by simpa using hmem)]
      refine List.pairwise_cons.mpr ⟨fun y hy => ?_, hlater⟩
      obtain ⟨j, hj⟩ := exists_lastAt (mem_lastOccurrences.mp hy)
      exact ⟨0, j + 1, .head hmem, hj.cons x, by omega⟩

theorem lastOccurrences_filter (p : String → Bool) : ∀ items : List String,
    lastOccurrences (items.filter p) = (lastOccurrences items).filter p := by
  intro items
  induction items with
  | nil => rfl
  | cons x items ih =>
    by_cases hp : p x = true
    · have hcontains : (items.filter p).contains x = items.contains x := by
        rw [Bool.eq_iff_iff, List.contains_iff_mem, List.contains_iff_mem, List.mem_filter]
        exact and_iff_left hp
      rw [List.filter_cons_of_pos hp, lastOccurrences, lastOccurrences, hcontains, ih]
      split
      · rfl
      · rw [List.filter_cons_of_pos hp]
    · rw [List.filter_cons_of_neg hp, ih, lastOccurrences]
      split
      · rfl
      · rw [List.filter_cons_of_neg hp]

end Schedule

/-! ### Keys -/

namespace Workflow

/-- The edges that leave a node, in the order of the edge list. -/
def leaving (w : Workflow) (a : String) : List Edge :=
  w.edges.filter fun e => e.source.nodeId == a

/-- The targets of the edges that leave a node. -/
def targets (w : Workflow) (a : String) : List String :=
  (w.leaving a).map fun e => e.target.nodeId

/-- Whether no edge from a node of the workflow leads to a name. -/
def isStart (w : Workflow) (a : String) : Bool :=
  !w.edges.any fun e => e.target.nodeId == a && w.nodeIds.contains e.source.nodeId

/-- The nodes without incoming edges, in the order of the node list. -/
def starts (w : Workflow) : List Node :=
  w.nodes.filter fun n => w.isStart n.id

/-- The key of a node in an order: the place of its latest predecessor, and the place of the last
edge from there among the edges that leave the predecessor. -/
def HasKey (w : Workflow) (order : List String) (a : String) (key : ℕ ×ₗ ℕ) : Prop :=
  ∃ p, w.Leads p a ∧ (∀ q, w.Leads q a → order.idxOf q ≤ order.idxOf p) ∧
    (ofLex key).1 = order.idxOf p ∧ LastAt (w.targets p) a (ofLex key).2

/-- The key of one node is less than that of another. -/
def Before (w : Workflow) (order : List String) (a b : String) : Prop :=
  ∃ k l, w.HasKey order a k ∧ w.HasKey order b l ∧ k < l

/-- An order of all nodes in which the nodes without incoming edges come first, as they are listed,
and the keys of the others grow. -/
structure InTurn (w : Workflow) (order : List Node) : Prop where
  /-- Every node is in the order once. -/
  perm : order.Perm w.nodes
  /-- The nodes without incoming edges come first, and the keys of the others grow. -/
  exists_others : ∃ others, order = w.starts ++ others ∧
    (others.map Node.id).Pairwise (w.Before (order.map Node.id))

variable {w : Workflow} {order other : List String} {a b p : String} {k l : ℕ ×ₗ ℕ}

theorem mem_targets : b ∈ w.targets a ↔
    ∃ e ∈ w.edges, e.source.nodeId = a ∧ e.target.nodeId = b := by
  simp [targets, leaving, and_assoc]

theorem leads_iff : w.Leads a b ↔ b ∈ w.targets a ∧ a ∈ w.nodeIds ∧ b ∈ w.nodeIds := by
  rw [mem_targets, Leads]
  constructor
  · rintro ⟨e, he, hs, ht, ha, hb⟩
    exact ⟨⟨e, he, hs, ht⟩, ha, hb⟩
  · rintro ⟨⟨e, he, hs, ht⟩, ha, hb⟩
    exact ⟨e, he, hs, ht, ha, hb⟩

theorem isStart_iff (ha : a ∈ w.nodeIds) : w.isStart a = true ↔ ∀ p, ¬ w.Leads p a := by
  rw [isStart, Bool.not_eq_true', List.any_eq_false]
  simp only [Bool.and_eq_true, beq_iff_eq, List.contains_iff_mem, not_and]
  constructor
  · rintro h p ⟨e, he, rfl, ht, hp, -⟩
    exact h e he ht hp
  · intro h e he ht hp
    exact h _ ⟨e, he, rfl, ht, hp, ha⟩

/-- A node with a predecessor has a key in every order. -/
theorem exists_hasKey (h : w.Leads p a) (order : List String) : ∃ k, w.HasKey order a k := by
  have hne : (Schedule.predecessors (Schedule.arcs w) a).toFinset.Nonempty :=
    ⟨p, by simpa [Schedule.mem_arcs] using h⟩
  obtain ⟨q, hq, hmax⟩ := Finset.exists_max_image _ order.idxOf hne
  simp only [List.mem_toFinset, Schedule.mem_predecessors, Schedule.mem_arcs] at hq hmax
  obtain ⟨i, hi⟩ := exists_lastAt (leads_iff.mp hq).1
  exact ⟨toLex (order.idxOf q, i), q, hq, hmax, rfl, hi⟩

/-- In an order of all nodes no node has two keys. -/
theorem HasKey.unique (hall : ∀ q ∈ w.nodeIds, q ∈ order) (hk : w.HasKey order a k)
    (hl : w.HasKey order a l) : k = l := by
  obtain ⟨p, hp, hmaxp, hplace, hedge⟩ := hk
  obtain ⟨q, hq, hmaxq, hplace', hedge'⟩ := hl
  have hidx : order.idxOf p = order.idxOf q := Nat.le_antisymm (hmaxq p hp) (hmaxp q hq)
  obtain rfl : p = q := (List.idxOf_inj (hall p hp.source_mem)).mp hidx
  exact congrArg toLex (Prod.ext (hplace.trans hplace'.symm) (hedge.unique hedge'))

/-- A key only depends on where the predecessors are. -/
theorem HasKey.congr (h : w.HasKey order a k)
    (hsame : ∀ q, w.Leads q a → other.idxOf q = order.idxOf q) : w.HasKey other a k := by
  obtain ⟨p, hp, hmax, hplace, hedge⟩ := h
  refine ⟨p, hp, fun q hq => ?_, hplace.trans (hsame p hp).symm, hedge⟩
  rw [hsame q hq, hsame p hp]
  exact hmax q hq

theorem Before.congr (h : w.Before order a b)
    (ha : ∀ q, w.Leads q a → other.idxOf q = order.idxOf q)
    (hb : ∀ q, w.Leads q b → other.idxOf q = order.idxOf q) : w.Before other a b := by
  obtain ⟨k, l, hk, hl, hlt⟩ := h
  exact ⟨k, l, hk.congr ha, hl.congr hb, hlt⟩

theorem Before.asymm (hall : ∀ q ∈ w.nodeIds, q ∈ order) (hab : w.Before order a b) :
    ¬ w.Before order b a := by
  rintro ⟨l', k', hl', hk', hlt'⟩
  obtain ⟨k, l, hk, hl, hlt⟩ := hab
  obtain rfl := hk.unique hall hk'
  obtain rfl := hl.unique hall hl'
  exact lt_asymm hlt hlt'

end Workflow

/-! ### The loop -/

namespace Schedule

variable {w : Workflow} {waiting done : List String} {name a : String}

theorem successors_arcs (ha : a ∈ w.nodeIds) :
    successors (arcs w) a = (w.targets a).filter (names w).contains := by
  unfold successors arcs Workflow.targets Workflow.leaving
  induction w.edges with
  | nil => rfl
  | cons e edges ih =>
    by_cases hsource : e.source.nodeId = a
    · have hknown : (names w).contains e.source.nodeId = true := by
        rw [hsource, List.contains_iff_mem, mem_names]
        exact ha
      by_cases htarget : (names w).contains e.target.nodeId = true
      · simp_all
      · simp_all
    · by_cases hkept : ((names w).contains e.source.nodeId && (names w).contains e.target.nodeId)
      · simp_all
      · simp_all

/-- The nodes that a node releases are in the order of its last edges to them. -/
theorem released_pairwise (ha : a ∈ w.nodeIds) (done : List String) :
    (released (arcs w) done a).Pairwise
      fun b c => ∃ i j, LastAt (w.targets a) b i ∧ LastAt (w.targets a) c j ∧ i < j := by
  unfold released
  rw [successors_arcs ha, lastOccurrences_filter]
  exact ((lastOccurrences_pairwise _).filter _).filter _

/-- What holds of the keys between two turns of the loop: behind the nodes without incoming edges
they grow over the nodes done and waiting. -/
structure Ranked (w : Workflow) (waiting done : List String) : Prop where
  /-- What else holds between two turns. -/
  sorting : Sorting w waiting done
  /-- The keys grow. -/
  exists_others : ∃ others, done ++ waiting = sources w ++ others ∧
    others.Pairwise (w.Before (done ++ waiting))

theorem ranked_start (w : Workflow) : Ranked w (sources w) [] where
  sorting := sorting_start w
  exists_others := ⟨[], by simp, .nil⟩

/-- The key of a node that is released: its latest predecessor is the node done last. -/
theorem Sorting.hasKey_released {i : ℕ} (h : Sorting w (name :: waiting) done)
    (ha : a ∈ released (arcs w) (done ++ [name]) name) (hi : LastAt (w.targets name) a i)
    (rest : List String) :
    w.HasKey (done ++ name :: rest) a (toLex (done.length, i)) := by
  have hname : name ∉ done := fun hmem =>
    (List.nodup_append.mp h.nodup).2.2 name hmem name List.mem_cons_self rfl
  have hplace : (done ++ name :: rest).idxOf name = done.length := by
    rw [List.idxOf_append_of_notMem hname, List.idxOf_cons_self, Nat.add_zero]
  obtain ⟨harc, hready⟩ := mem_released.mp ha
  refine ⟨name, mem_arcs.mp harc, fun q hq => ?_, hplace.symm, hi⟩
  rw [hplace]
  rcases List.mem_append.mp (hready q (mem_arcs.mpr hq)) with hdone | hlast
  · rw [List.idxOf_append_of_mem hdone]
    exact (List.idxOf_lt_length_of_mem hdone).le
  · rw [List.mem_singleton.mp hlast, hplace]

/-- A node that is done or waits has its predecessors among the nodes done. -/
theorem Sorting.idxOf_append (h : Sorting w waiting done) (ha : a ∈ done ++ waiting)
    (more : List String) (q : String) (hq : w.Leads q a) :
    ((done ++ waiting) ++ more).idxOf q = (done ++ waiting).idxOf q := by
  have hdone := ((h.mem_iff a).mp ha).2 q (mem_arcs.mpr hq)
  rw [List.idxOf_append_of_mem (List.mem_append_left _ hdone)]

/-- The key of an older node: its latest predecessor is done. -/
theorem Sorting.exists_hasKey (h : Sorting w waiting done) (ha : a ∈ done ++ waiting)
    (hstart : a ∉ sources w) (more : List String) :
    ∃ k, w.HasKey ((done ++ waiting) ++ more) a k ∧ (ofLex k).1 < done.length := by
  obtain ⟨hid, hdone⟩ := (h.mem_iff a).mp ha
  obtain ⟨q, hq⟩ : ∃ q, (q, a) ∈ arcs w := by
    by_contra hnone
    exact hstart (mem_sources.mpr ⟨hid, not_exists.mp hnone⟩)
  obtain ⟨k, p, hp, hmax, hplace, hedge⟩ :=
    Workflow.exists_hasKey (mem_arcs.mp hq) ((done ++ waiting) ++ more)
  have hmem : p ∈ done := hdone p (mem_arcs.mpr hp)
  refine ⟨k, ⟨p, hp, hmax, hplace, hedge⟩, ?_⟩
  rw [hplace, List.append_assoc, List.idxOf_append_of_mem hmem]
  exact List.idxOf_lt_length_of_mem hmem

/-- **A node that is released has a greater key than all nodes before it.** -/
theorem Ranked.step (h : Ranked w (name :: waiting) done) :
    Ranked w (waiting ++ released (arcs w) (done ++ [name]) name) (done ++ [name]) := by
  obtain ⟨others, hsplit, hothers⟩ := h.exists_others
  have hname : name ∈ w.nodeIds := ((h.sorting.mem_iff name).mp (by simp)).1
  have hall : (done ++ [name]) ++ (waiting ++ released (arcs w) (done ++ [name]) name) =
      (done ++ name :: waiting) ++ released (arcs w) (done ++ [name]) name := by simp
  have hkey : ∀ {b i}, b ∈ released (arcs w) (done ++ [name]) name →
      LastAt (w.targets name) b i →
      w.HasKey ((done ++ name :: waiting) ++ released (arcs w) (done ++ [name]) name) b
        (toLex (done.length, i)) := fun hb hi => by
    rw [List.append_assoc, List.cons_append]
    exact h.sorting.hasKey_released hb hi _
  have hold : ∀ b ∈ others, b ∈ done ++ name :: waiting := fun b hb => by
    rw [hsplit]
    exact List.mem_append_right _ hb
  refine ⟨h.sorting.step, others ++ released (arcs w) (done ++ [name]) name, ?_, ?_⟩
  · rw [hall, hsplit, List.append_assoc]
  · rw [hall, List.pairwise_append]
    refine ⟨?_, ?_, fun b hb c hc => ?_⟩
    · exact hothers.imp_of_mem fun hb hc hbc => hbc.congr
        (h.sorting.idxOf_append (hold _ hb) _) (h.sorting.idxOf_append (hold _ hc) _)
    · refine (released_pairwise hname _).imp_of_mem fun hb hc hbc => ?_
      obtain ⟨i, j, hi, hj, hlt⟩ := hbc
      exact ⟨_, _, hkey hb hi, hkey hc hj, Prod.Lex.toLex_lt_toLex.mpr (.inr ⟨rfl, hlt⟩)⟩
    · -- the predecessors of an older node are all done before `name`
      have hstart : b ∉ sources w := fun hmem =>
        (List.nodup_append.mp (hsplit ▸ h.sorting.nodup)).2.2 b hmem b hb rfl
      obtain ⟨k, hk, hless⟩ := h.sorting.exists_hasKey (hold b hb) hstart
        (released (arcs w) (done ++ [name]) name)
      obtain ⟨j, hj⟩ := exists_lastAt (Workflow.leads_iff.mp (mem_arcs.mp (mem_released.mp hc).1)).1
      exact ⟨k, _, hk, hkey hc hj, Prod.Lex.lt_iff.mpr (.inl hless)⟩

/-- **What holds when all turns are over.** -/
theorem ranked_orderNames (w : Workflow) : Ranked w [] (orderNames w) :=
  orderNames_invariant (ranked_start w) Ranked.step Ranked.sorting

end Schedule

/-! ### There is one such order -/

/-- Places before a point are the same in lists that agree up to there. -/
theorem idxOf_eq_of_take_eq {l m : List String} {n : ℕ} {x : String} (h : l.take n = m.take n)
    (hx : l.idxOf x < n) (hmem : x ∈ l) : m.idxOf x = l.idxOf x := by
  have hidx := List.idxOf_lt_length_of_mem hmem
  have htake : x ∈ l.take n := by
    rw [List.mem_take_iff_getElem]
    exact ⟨l.idxOf x, by omega, List.getElem_idxOf hidx⟩
  have hl : l.idxOf x = (l.take n).idxOf x := by
    conv_lhs => rw [← List.take_append_drop n l]
    exact List.idxOf_append_of_mem htake
  have hm : m.idxOf x = (m.take n).idxOf x := by
    conv_lhs => rw [← List.take_append_drop n m]
    exact List.idxOf_append_of_mem (h ▸ htake)
  rw [hl, hm, h]

namespace Workflow

variable {w : Workflow} {l m : List String} {a b p : String}

/-- The names of nodes in an order in which the keys grow. -/
structure NamesInTurn (w : Workflow) (l : List String) : Prop where
  /-- Every name is in the order once. -/
  perm : l.Perm w.nodeIds
  /-- The nodes without incoming edges come first, and the keys of the others grow. -/
  exists_others : ∃ others, l = w.starts.map Node.id ++ others ∧ others.Pairwise (w.Before l)

theorem InTurn.names {order : List Node} (h : w.InTurn order) :
    w.NamesInTurn (order.map Node.id) := by
  obtain ⟨others, hsplit, hothers⟩ := h.exists_others
  refine ⟨h.perm.map _, others.map Node.id, ?_, hothers⟩
  conv_lhs => rw [hsplit, List.map_append]

theorem notMem_starts (h : w.Leads p a) : a ∉ w.starts.map Node.id := by
  intro hmem
  obtain ⟨n, hn, rfl⟩ := List.mem_map.mp hmem
  exact (isStart_iff h.target_mem).mp (List.mem_filter.mp hn).2 p h

namespace NamesInTurn

theorem idxOf_lt_of_start (h : w.NamesInTurn l) (ha : a ∈ w.starts.map Node.id) :
    l.idxOf a < (w.starts.map Node.id).length := by
  obtain ⟨others, hsplit, -⟩ := h.exists_others
  rw [hsplit, List.idxOf_append_of_mem ha]
  exact List.idxOf_lt_length_of_mem ha

/-- Of two nodes with a predecessor the earlier one has the lesser key. -/
theorem before_of_idxOf_lt (h : w.NamesInTurn l) (ha : w.Leads p a) (hb : b ∈ l)
    (hlt : l.idxOf a < l.idxOf b) : w.Before l a b := by
  obtain ⟨others, hsplit, hothers⟩ := h.exists_others
  have hnot : a ∉ w.starts.map Node.id := notMem_starts ha
  have hal : a ∈ l := h.perm.mem_iff.mpr ha.target_mem
  have haother : a ∈ others := (List.mem_append.mp (hsplit ▸ hal)).resolve_left hnot
  have hplace : l.idxOf a = (w.starts.map Node.id).length + others.idxOf a := by
    rw [hsplit, List.idxOf_append_of_notMem hnot]
  have hnotb : b ∉ w.starts.map Node.id := by
    intro hmem
    have hidx := h.idxOf_lt_of_start hmem
    omega
  have hbother : b ∈ others := (List.mem_append.mp (hsplit ▸ hb)).resolve_left hnotb
  have hplaceb : l.idxOf b = (w.starts.map Node.id).length + others.idxOf b := by
    rw [hsplit, List.idxOf_append_of_notMem hnotb]
  have hpair := List.pairwise_iff_getElem.mp hothers _ _ (List.idxOf_lt_length_of_mem haother)
    (List.idxOf_lt_length_of_mem hbother) (by omega)
  rwa [List.getElem_idxOf, List.getElem_idxOf] at hpair

/-- Where the keys grow, edges lead forward.  A latest predecessor that came later would have a
greater key, and so a predecessor that came later still, and so on without end. -/
theorem idxOf_lt (h : w.NamesInTurn l) (hirrefl : ∀ a, ¬ w.Leads a a) (hp : w.Leads p a) :
    l.idxOf p < l.idxOf a := by
  have hmem : ∀ q ∈ w.nodeIds, q ∈ l := fun q hq => h.perm.mem_iff.mpr hq
  -- the induction is on how many places are left behind the node
  induction hleft : l.length - l.idxOf a using Nat.strong_induction_on generalizing p a with
  | _ left ih =>
    by_contra hnot
    obtain ⟨k, q, hq, hmax, hplace, hedge⟩ := exists_hasKey hp l
    have hle : l.idxOf p ≤ l.idxOf q := hmax p hp
    have hne : l.idxOf a ≠ l.idxOf q := fun heq =>
      hirrefl a ((List.idxOf_inj (hmem a hp.target_mem)).mp heq ▸ hq)
    obtain ⟨k', l', hk', hl', hless⟩ :=
      h.before_of_idxOf_lt hp (hmem q hq.source_mem) (by omega : l.idxOf a < l.idxOf q)
    obtain rfl := hk'.unique hmem ⟨q, hq, hmax, hplace, hedge⟩
    obtain ⟨r, hr, -, hplace', -⟩ := hl'
    have hbound := List.idxOf_lt_length_of_mem (hmem q hq.source_mem)
    have hforward : l.idxOf r < l.idxOf q := ih (l.length - l.idxOf q) (by omega) hr rfl
    rcases Prod.Lex.lt_iff.mp hless with hfirst | ⟨hfirst, -⟩ <;> omega

/-- Behind the nodes without incoming edges every node has a predecessor. -/
theorem exists_leads_getElem (h : w.NamesInTurn l) (hnodup : w.nodeIds.Nodup) {n : ℕ}
    (hn : n < l.length) (hstart : w.starts.length ≤ n) : ∃ p, w.Leads p l[n] := by
  have hmem : l[n] ∈ w.nodeIds := h.perm.mem_iff.mp (List.getElem_mem hn)
  by_contra hnone
  obtain ⟨node, hnode, hid⟩ := mem_nodeIds.mp hmem
  have hfirst : l[n] ∈ w.starts.map Node.id := by
    refine List.mem_map.mpr ⟨node, List.mem_filter.mpr ⟨hnode, ?_⟩, hid⟩
    rw [isStart_iff (mem_nodeIds_of_mem hnode), hid]
    exact not_exists.mp hnone
  have hidx := h.idxOf_lt_of_start hfirst
  rw [(h.perm.nodup_iff.mpr hnodup).idxOf_getElem, List.length_map] at hidx
  omega

/-- Where two orders part, the node that the second one has next comes later in the first one. -/
theorem before_getElem (h : w.NamesInTurn l) (h' : w.NamesInTurn m) (hnodup : w.nodeIds.Nodup)
    {n : ℕ} (hl : n < l.length) (hm : n < m.length) (hstart : w.starts.length ≤ n)
    (htake : l.take n = m.take n) (hne : l[n] ≠ m[n]) : w.Before l l[n] m[n] := by
  have hlnodup := h.perm.nodup_iff.mpr hnodup
  have hmnodup := h'.perm.nodup_iff.mpr hnodup
  have hmem : m[n] ∈ l := h.perm.mem_iff.mpr (h'.perm.mem_iff.mp (List.getElem_mem hm))
  obtain ⟨p, hp⟩ := h.exists_leads_getElem hnodup hl hstart
  refine h.before_of_idxOf_lt hp hmem ?_
  rw [hlnodup.idxOf_getElem]
  rcases Nat.lt_trichotomy n (l.idxOf m[n]) with hlt | heq | hgt
  · exact hlt
  · exact absurd ((getElem_congr_idx heq).trans (List.getElem_idxOf _)) hne
  · have hplace := idxOf_eq_of_take_eq htake hgt hmem
    rw [hmnodup.idxOf_getElem] at hplace
    omega

/-- **There is one order only in which the keys grow.**  Where two of them part, each says that the
node of the other has the greater key, and both mean the same keys, since the predecessors of the two
nodes stand before. -/
theorem eq_of_namesInTurn (h : w.NamesInTurn l) (h' : w.NamesInTurn m) (hnodup : w.nodeIds.Nodup)
    (hirrefl : ∀ a, ¬ w.Leads a a) : l = m := by
  have hlen : l.length = m.length := (h.perm.trans h'.perm.symm).length_eq
  have htake : ∀ n, l.take n = m.take n := by
    intro n
    induction n with
    | zero => rfl
    | succ n ih =>
      by_cases hn : n < l.length
      · have hm : n < m.length := hlen ▸ hn
        suffices hsame : l[n] = m[n] by
          rw [List.take_succ_eq_append_getElem hn, List.take_succ_eq_append_getElem hm, ih, hsame]
        by_cases hstart : n < (w.starts.map Node.id).length
        · obtain ⟨others, hsplit, -⟩ := h.exists_others
          obtain ⟨others', hsplit', -⟩ := h'.exists_others
          rw [List.getElem_of_eq hsplit, List.getElem_of_eq hsplit',
            List.getElem_append_left hstart, List.getElem_append_left hstart]
        · rw [List.length_map, Nat.not_lt] at hstart
          by_contra hne
          have hbefore := h.before_getElem h' hnodup hn hm hstart ih hne
          have hback := h'.before_getElem h hnodup hm hn hstart ih.symm (Ne.symm hne)
          -- both nodes have their predecessors before the place where the orders part
          have hsame : ∀ q, w.Leads q l[n] → m.idxOf q = l.idxOf q := fun q hq => by
            have hlt := h.idxOf_lt hirrefl hq
            rw [(h.perm.nodup_iff.mpr hnodup).idxOf_getElem] at hlt
            exact idxOf_eq_of_take_eq ih hlt (h.perm.mem_iff.mpr hq.source_mem)
          have hsame' : ∀ q, w.Leads q m[n] → l.idxOf q = m.idxOf q := fun q hq => by
            have hlt := h'.idxOf_lt hirrefl hq
            rw [(h'.perm.nodup_iff.mpr hnodup).idxOf_getElem] at hlt
            exact idxOf_eq_of_take_eq ih.symm hlt (h'.perm.mem_iff.mpr hq.source_mem)
          have hback' : w.Before l m[n] l[n] :=
            hback.congr hsame' fun q hq => (hsame q hq).symm
          exact hbefore.asymm (fun q hq => h.perm.mem_iff.mpr hq) hback'
      · rw [List.take_of_length_le (by omega), List.take_of_length_le (by omega),
          ← List.take_of_length_le (Nat.not_lt.mp hn), ih, List.take_of_length_le (by omega)]
  rw [← List.take_length (l := l), htake, hlen, List.take_length]

end NamesInTurn

/-- Nodes are found again by their names. -/
theorem filterMap_lastNode?_map_id {nodes : List Node} (hnodup : w.nodeIds.Nodup)
    (h : ∀ n ∈ nodes, n ∈ w.nodes) : (nodes.map Node.id).filterMap w.lastNode? = nodes := by
  rw [List.filterMap_map]
  conv_rhs => rw [← List.filterMap_some (l := nodes)]
  exact List.filterMap_congr fun n hn => lastNode?_of_mem hnodup (h n hn)

theorem InTurn.eq_of_inTurn {order other : List Node} (h : w.InTurn order) (h' : w.InTurn other)
    (hnodup : w.nodeIds.Nodup) (hirrefl : ∀ a, ¬ w.Leads a a) : order = other := by
  have hnames := h.names.eq_of_namesInTurn h'.names hnodup hirrefl
  rw [← filterMap_lastNode?_map_id hnodup fun n hn => h.perm.mem_iff.mp hn, hnames,
    filterMap_lastNode?_map_id hnodup fun n hn => h'.perm.mem_iff.mp hn]

end Workflow

/-! ### The order of the scheduler -/

namespace Schedule

variable {w w' : Workflow}

/-- The nodes that the scheduler begins with are those without incoming edges. -/
theorem map_id_starts (hnodup : w.nodeIds.Nodup) : w.starts.map Node.id = sources w := by
  rw [Workflow.starts, sources_eq_filter, names, distinct_of_nodup hnodup, Workflow.nodeIds,
    List.filter_map]
  refine congrArg _ (List.filter_congr fun n hn => ?_)
  have hid : n.id ∈ w.nodeIds := Workflow.mem_nodeIds_of_mem hn
  rw [Function.comp_apply, Bool.eq_iff_iff, Workflow.isStart_iff hid, List.isEmpty_iff,
    List.eq_nil_iff_forall_not_mem]
  simp only [mem_predecessors, mem_arcs]

/-- In the order of the scheduler the keys grow. -/
theorem inTurn_order (hnodup : w.nodeIds.Nodup) (hacyclic : w.Acyclic) : w.InTurn (order w) := by
  have hplan : plan? w = some (order w) := by
    rw [plan?, if_pos (isAcyclic_iff.mpr ⟨hnodup, hacyclic⟩)]
  obtain ⟨others, hsplit, hothers⟩ := (ranked_orderNames w).exists_others
  rw [List.append_nil] at hsplit hothers
  have hknown : ∀ a ∈ others, a ∈ w.nodeIds := fun a ha => by
    refine (mem_orderNames.mp ?_).1
    rw [hsplit]
    exact List.mem_append_right _ ha
  have hstarts : (w.starts.map Node.id).filterMap w.lastNode? = w.starts :=
    Workflow.filterMap_lastNode?_map_id hnodup fun n hn => (List.mem_filter.mp hn).1
  refine ⟨perm_of_plan hplan, others.filterMap w.lastNode?, ?_, ?_⟩
  · rw [order, hsplit, List.filterMap_append, ← map_id_starts hnodup, hstarts]
  · rwa [map_id_order, map_id_filterMap_lastNode? hknown]

/-- What keys are made of does not depend on how the edges of different nodes are mixed, nor on how
the nodes are listed. -/
theorem hasKey_of_leaving (hnodes : w'.nodes.Perm w.nodes)
    (hleaving : ∀ a, w'.leaving a = w.leaving a) :
    w'.Leads = w.Leads ∧ w'.HasKey = w.HasKey := by
  have htargets : w'.targets = w.targets := by
    funext a
    rw [Workflow.targets, hleaving, Workflow.targets]
  have hids : ∀ a, a ∈ w'.nodeIds ↔ a ∈ w.nodeIds := fun a => (hnodes.map Node.id).mem_iff
  have hleads : w'.Leads = w.Leads := by
    funext a b
    rw [eq_iff_iff, Workflow.leads_iff, Workflow.leads_iff, htargets, hids, hids]
  refine ⟨hleads, ?_⟩
  funext order a key
  rw [Workflow.HasKey, hleads, htargets, Workflow.HasKey]

/-- **First come, first served.**  Where nodes have names of their own and no way leads back to where
it began, the order of the scheduler is the one and only order of all nodes in which the nodes
without incoming edges come first, as they are listed, and the keys of the others grow; every other
node has one key.  So the order stays the same when the edges of different nodes are mixed in another
way, and when the nodes are listed in another way that keeps the order of those without incoming
edges. -/
theorem inTurn_iff_eq_order (w : Workflow) (hnodup : w.nodeIds.Nodup) (hacyclic : w.Acyclic) :
    (∀ nodes, w.InTurn nodes ↔ nodes = order w) ∧
    (∀ n ∈ w.nodes, w.isStart n.id = false → ∃! key, w.HasKey (orderNames w) n.id key) ∧
    (∀ w' : Workflow, w'.nodes.Perm w.nodes → w'.starts = w.starts →
      (∀ a, w'.leaving a = w.leaving a) → order w' = order w) := by
  have hinTurn := inTurn_order hnodup hacyclic
  have hall : ∀ a ∈ w.nodeIds, a ∈ orderNames w := fun a => mem_orderNames_of_acyclic hacyclic
  refine ⟨fun nodes => ⟨fun h => h.eq_of_inTurn hinTurn hnodup hacyclic.irrefl, ?_⟩,
    fun n hn hstart => ?_, fun w' hnodes hstarts hleaving => ?_⟩
  · rintro rfl
    exact hinTurn
  · obtain ⟨p, hp⟩ : ∃ p, w.Leads p n.id := by
      by_contra hnone
      have hfirst := (Workflow.isStart_iff (Workflow.mem_nodeIds_of_mem hn)).mpr
        (not_exists.mp hnone)
      rw [hstart] at hfirst
      exact absurd hfirst (by decide)
    obtain ⟨k, hk⟩ := Workflow.exists_hasKey hp (orderNames w)
    exact ⟨k, hk, fun l hl => hl.unique hall hk⟩
  · obtain ⟨hleads, hkey⟩ := hasKey_of_leaving hnodes hleaving
    have hnodup' : w'.nodeIds.Nodup := (hnodes.map Node.id).nodup_iff.mpr hnodup
    have hacyclic' : w'.Acyclic := by
      rw [Workflow.Acyclic, hleads]
      exact hacyclic
    obtain ⟨hperm, others, hsplit, hothers⟩ := inTurn_order hnodup' hacyclic'
    have hback : w.InTurn (order w') := by
      refine ⟨hperm.trans hnodes, others, hstarts ▸ hsplit, hothers.imp fun h => ?_⟩
      rwa [Workflow.Before, hkey] at h
    exact hback.eq_of_inTurn hinTurn hnodup hacyclic.irrefl

/-- Two triggers that both lead to two other nodes, one of them twice to the same, and one of them to
a node that is not there. -/
def crossing : Workflow where
  id := "wf_crossing"
  name := "Crossing"
  description := "Waits twice."
  tags := []
  entryNodeId := "a"
  freeData := []
  nodes := [
    NodeType.delay.fresh "c" ⟨.whole 240, .whole 0⟩,
    NodeType.manual.fresh "a" ⟨.whole 0, .whole 0⟩,
    NodeType.delay.fresh "d" ⟨.whole 240, .whole 120⟩,
    NodeType.manual.fresh "b" ⟨.whole 0, .whole 120⟩]
  edges := [
    ⟨"e1", ⟨"a", "out"⟩, ⟨"c", "in"⟩, none, none⟩,
    ⟨"e2", ⟨"b", "out"⟩, ⟨"c", "in"⟩, none, none⟩,
    ⟨"e3", ⟨"b", "out"⟩, ⟨"d", "in"⟩, none, none⟩,
    ⟨"e4", ⟨"b", "out"⟩, ⟨"ghost", "in"⟩, none, none⟩,
    ⟨"e5", ⟨"a", "out"⟩, ⟨"d", "in"⟩, none, none⟩,
    ⟨"e6", ⟨"b", "out"⟩, ⟨"c", "in"⟩, none, none⟩]

/-- The same with the edges of either trigger together and another node in front. -/
def crossingSorted : Workflow :=
  { crossing with
    nodes := crossing.nodes.tail ++ [NodeType.delay.fresh "c" ⟨.whole 240, .whole 0⟩]
    edges := crossing.leaving "b" ++ crossing.leaving "a" }

/-- Both lists of the crossing lead to one order: the last edge to `c` leaves `b` behind the one to
`d`. -/
theorem inTurn_iff_eq_order_crossing :
    (crossing.nodeIds.Nodup ∧ crossing.Acyclic) ∧
    (crossing.InTurn (order crossing) ∧ orderNames crossing = ["a", "b", "d", "c"]) ∧
    (crossingSorted.nodes.Perm crossing.nodes ∧ crossingSorted.starts = crossing.starts ∧
      ∀ a, crossingSorted.leaving a = crossing.leaving a) ∧
    order crossingSorted = order crossing := by
  have hplan : crossing.nodeIds.Nodup ∧ crossing.Acyclic := isAcyclic_iff.mp (by decide)
  have hnodes : crossingSorted.nodes.Perm crossing.nodes := List.perm_append_comm
  have hstarts : crossingSorted.starts = crossing.starts := rfl
  have hleaving : ∀ a, crossingSorted.leaving a = crossing.leaving a := by
    intro a
    by_cases ha : a = "a"
    · subst ha
      rfl
    · by_cases hb : a = "b"
      · subst hb
        rfl
      · simp [crossingSorted, crossing, Workflow.leaving, Ne.symm ha, Ne.symm hb]
  obtain ⟨hiff, -, hsame⟩ := inTurn_iff_eq_order crossing hplan.1 hplan.2
  exact ⟨hplan, ⟨(hiff _).mpr rfl, by decide⟩, ⟨hnodes, hstarts, hleaving⟩,
    hsame crossingSorted hnodes hstarts hleaving⟩

end Schedule

end Flowgraph
