import Flowgraph.Proofs.Graph
import Mathlib.Tactic.Ring

/-!
# Counting incoming arcs

The scheduler keeps a table with a count for each node.  Between two turns of its loop the count of a
node is the number of the arcs that lead to it from nodes that are not done, parallel arcs each for
itself.  So when a node is done and the arcs that leave it are counted down, a count comes down to
zero exactly at the last of the arcs to a node all of whose predecessors are done: these nodes are
released, each once, in the order of the last arcs to them.

## Main definitions

* `Schedule.pending` — how many arcs lead to a node from nodes that are not done.
* `Schedule.Counts` — the invariant of the table.
* `Schedule.released` — the nodes that a node releases, without counts.

## Main results

* `Schedule.counts_degrees` — the invariant holds before any node is done.
* `Schedule.Counts.countDown` — **counting down releases the nodes whose last predecessor is done**,
  and the invariant holds afterwards.
-/

namespace Flowgraph.Schedule

variable {table : Degrees} {arcs : List (String × String)} {done nexts : List String}
  {name a : String}

/-! ### Tables -/

namespace Degrees

/-- The nodes that have counts. -/
def names (table : Degrees) : List String :=
  table.map Prod.fst

@[simp] theorem names_add (table : Degrees) (name : String) (amount : ℤ) :
    (table.add name amount).names = table.names := by
  simp [names, add]

theorem count_cons (name : String) (k : ℤ) (table : Degrees) (a : String) :
    count ((name, k) :: table) a = if a = name then k else count table a := by
  by_cases h : a = name
  · simp [count, h]
  · simp [count, List.lookup_cons, beq_false_of_ne h, h]

/-- Before anything is counted all counts are zero. -/
theorem count_zeros (ids : List String) (a : String) : count (ids.map fun id => (id, 0)) a = 0 := by
  induction ids with
  | nil => rfl
  | cons id ids ih => rw [List.map_cons, count_cons, ih, ite_self]

theorem add_cons (name other : String) (k amount : ℤ) (table : Degrees) :
    add ((other, k) :: table) name amount =
      (other, if other = name then k + amount else k) :: add table name amount := rfl

theorem count_add_of_ne {amount : ℤ} (h : a ≠ name) :
    (table.add name amount).count a = table.count a := by
  induction table with
  | nil => rfl
  | cons entry table ih =>
    obtain ⟨other, k⟩ := entry
    rw [add_cons, count_cons, count_cons, ih]
    split_ifs with ha hother
    · exact absurd (ha.trans hother) h
    · rfl
    · rfl

theorem count_add_self {amount : ℤ} (h : name ∈ table.names) :
    (table.add name amount).count name = table.count name + amount := by
  induction table with
  | nil => cases h
  | cons entry table ih =>
    obtain ⟨other, k⟩ := entry
    rw [add_cons, count_cons, count_cons]
    by_cases hother : name = other
    · rw [if_pos hother, if_pos hother, if_pos hother.symm]
    · rw [if_neg hother, if_neg hother]
      exact ih ((List.mem_cons.mp h).resolve_left hother)

end Degrees

/-! ### What is counted -/

/-- How many arcs lead to a node from nodes that are not done. -/
def pending (arcs : List (String × String)) (done : List String) (a : String) : ℕ :=
  arcs.countP fun arc => arc.2 == a && !done.contains arc.1

/-- The table counts the arcs from nodes that are not done. -/
structure Counts (arcs : List (String × String)) (done : List String) (table : Degrees) :
    Prop where
  /-- Every node to which an arc leads has a count. -/
  targets : ∀ arc ∈ arcs, arc.2 ∈ table.names
  /-- The counts. -/
  count : ∀ a ∈ table.names, table.count a = pending arcs done a

/-- No arc is left for a node exactly if all its predecessors are done. -/
theorem pending_eq_zero_iff : pending arcs done a = 0 ↔ ∀ p, (p, a) ∈ arcs → p ∈ done := by
  simp only [pending, List.countP_eq_zero, Bool.and_eq_true, beq_iff_eq, Bool.not_eq_true',
    List.contains_eq_mem, decide_eq_false_iff_not, not_and, not_not, Prod.forall]
  exact ⟨fun h p hp => h p a hp rfl, fun h p b hp hb => h p (hb ▸ hp)⟩

/-- Of the arcs that are left for a node those are taken that leave the node done last. -/
theorem pending_eq_add (hname : name ∉ done) :
    pending arcs done a = (successors arcs name).count a + pending arcs (done ++ [name]) a := by
  unfold pending successors
  induction arcs with
  | nil => rfl
  | cons arc arcs ih =>
    obtain ⟨p, b⟩ := arc
    rw [List.countP_cons, List.countP_cons, ih]
    by_cases hp : p = name
    · subst hp
      by_cases hb : b = a
      · simp [hname, hb]
        omega
      · simp [hb]
    · by_cases hb : b = a
      · simp [hp, hb]
        omega
      · simp [hp, hb]

theorem count_foldl_add : ∀ {arcs : List (String × String)} {table : Degrees},
    (∀ arc ∈ arcs, arc.2 ∈ table.names) →
      (arcs.foldl (fun table arc => table.add arc.2 1) table).names = table.names ∧
      (arcs.foldl (fun table arc => table.add arc.2 1) table).count a =
        table.count a + pending arcs [] a := by
  intro arcs
  induction arcs with
  | nil => exact fun _ => ⟨rfl, by simp [pending]⟩
  | cons arc arcs ih =>
    intro table htargets
    obtain ⟨htarget, htargets⟩ := List.forall_mem_cons.mp htargets
    have htargets' : ∀ other ∈ arcs, other.2 ∈ (table.add arc.2 1).names := by simpa using htargets
    obtain ⟨hnames, hcount⟩ := ih htargets'
    refine ⟨hnames.trans (Degrees.names_add ..), ?_⟩
    rw [List.foldl_cons, hcount, pending, pending, List.countP_cons]
    by_cases ha : a = arc.2
    · subst ha
      rw [Degrees.count_add_self htarget]
      simp
      omega
    · rw [Degrees.count_add_of_ne ha]
      simp [Ne.symm ha]

/-- The table counts all arcs before any node is done. -/
theorem counts_degrees {ids : List String} (h : ∀ arc ∈ arcs, arc.2 ∈ ids) :
    Counts arcs [] (degrees ids arcs) ∧ (degrees ids arcs).names = ids := by
  have hids : Degrees.names (ids.map fun id => (id, 0)) = ids := by
    simp [Degrees.names, Function.comp_def]
  have hnames : (degrees ids arcs).names = ids :=
    (count_foldl_add (a := "") (hids.symm ▸ h)).1.trans hids
  refine ⟨⟨fun arc harc => hnames.symm ▸ h arc harc, fun a _ => ?_⟩, hnames⟩
  rw [degrees, (count_foldl_add (hids.symm ▸ h)).2, Degrees.count_zeros, zero_add]

/-! ### Counting down -/

@[simp] theorem names_countDown : ∀ (nexts : List String) (table : Degrees),
    (countDown table nexts).1.names = table.names := by
  intro nexts
  induction nexts with
  | nil => exact fun _ => rfl
  | cons next nexts ih => exact fun table => (ih _).trans (Degrees.names_add ..)

/-- Every count comes down by the number of the arcs counted down. -/
theorem count_countDown : ∀ {nexts : List String} {table : Degrees},
    (∀ next ∈ nexts, next ∈ table.names) →
      (countDown table nexts).1.count a = table.count a - nexts.count a := by
  intro nexts
  induction nexts with
  | nil => exact fun _ => (sub_zero _).symm
  | cons next nexts ih =>
    intro table hnames
    obtain ⟨hnext, hnames⟩ := List.forall_mem_cons.mp hnames
    change (countDown (table.add next (-1)) nexts).1.count a = _
    rw [ih (by simpa using hnames)]
    by_cases ha : a = next
    · subst ha
      rw [Degrees.count_add_self hnext, List.count_cons_self]
      push_cast
      ring
    · rw [Degrees.count_add_of_ne ha, List.count_cons_of_ne (Ne.symm ha)]

/-- Where no count is too small for its arcs, those nodes are released whose arcs are all of those
that were left, in the order of the last of these arcs. -/
theorem released_countDown : ∀ {nexts : List String} {table : Degrees},
    (∀ next ∈ nexts, next ∈ table.names) →
    (∀ next ∈ nexts, (nexts.count next : ℤ) ≤ table.count next) →
      (countDown table nexts).2 =
        (lastOccurrences nexts).filter fun next => table.count next = nexts.count next := by
  intro nexts
  induction nexts with
  | nil => exact fun _ _ => rfl
  | cons next nexts ih =>
    intro table hnames henough
    obtain ⟨hnext, hnames⟩ := List.forall_mem_cons.mp hnames
    have hcount : ∀ b, (table.add next (-1)).count b =
        table.count b - if b = next then 1 else 0 := by
      intro b
      split_ifs with hb
      · rw [hb, Degrees.count_add_self hnext]
        rfl
      · rw [Degrees.count_add_of_ne hb, sub_zero]
    have hsplit : ∀ b, ((next :: nexts).count b : ℤ) =
        nexts.count b + if b = next then 1 else 0 := by
      intro b
      rw [List.count_cons]
      split_ifs <;> simp_all
    have henough' : ∀ b ∈ nexts, (nexts.count b : ℤ) ≤ (table.add next (-1)).count b := by
      intro b hb
      have := henough b (List.mem_cons_of_mem _ hb)
      rw [hsplit] at this
      rw [hcount]
      omega
    have hrest : (countDown (table.add next (-1)) nexts).2 =
        (lastOccurrences nexts).filter fun b => table.count b = (next :: nexts).count b := by
      rw [ih (by simpa using hnames) henough']
      refine List.filter_congr fun b _ => decide_eq_decide.mpr ?_
      rw [hcount, hsplit]
      omega
    change (if (table.add next (-1)).count next = 0 then
      next :: (countDown (table.add next (-1)) nexts).2 else _) = _
    rw [hrest, hcount, if_pos rfl, lastOccurrences]
    by_cases hagain : next ∈ nexts
    · -- there is an arc left to the same node, so that its count is not zero yet
      have hpos : (0 : ℤ) < nexts.count next := by
        exact_mod_cast List.count_pos_iff.mpr hagain
      have hmore := henough' next hagain
      rw [hcount, if_pos rfl] at hmore
      rw [if_neg (by omega), if_pos (List.contains_iff_mem.mpr hagain)]
    · have honce : (next :: nexts).count next = 1 := by
        rw [List.count_cons_self, List.count_eq_zero.mpr hagain]
      rw [if_neg (mt List.contains_iff_mem.mp hagain), List.filter_cons, honce]
      simp only [decide_eq_true_eq, Nat.cast_one, sub_eq_zero]

/-- The nodes that the last of the nodes done releases: its successors whose predecessors are all
done, in the order of the last arc to each. -/
def released (arcs : List (String × String)) (done : List String) (name : String) : List String :=
  (lastOccurrences (successors arcs name)).filter fun next =>
    (predecessors arcs next).all done.contains

/-- **Counting down releases the nodes whose last predecessor is done**, each once, in the order of
the last arcs to them, and then the table counts the arcs that are left. -/
theorem Counts.countDown (h : Counts arcs done table) (hname : name ∉ done) :
    (countDown table (successors arcs name)).2 = released arcs (done ++ [name]) name ∧
      Counts arcs (done ++ [name]) (countDown table (successors arcs name)).1 := by
  have hnames : ∀ next ∈ successors arcs name, next ∈ table.names := fun next hnext =>
    h.targets (name, next) (mem_successors.mp hnext)
  have hcount : ∀ next ∈ table.names, table.count next =
      (successors arcs name).count next + pending arcs (done ++ [name]) next := by
    intro next hnext
    rw [h.count next hnext, pending_eq_add hname]
    push_cast
    rfl
  have henough : ∀ next ∈ successors arcs name,
      ((successors arcs name).count next : ℤ) ≤ table.count next := by
    intro next hnext
    rw [hcount next (hnames next hnext)]
    omega
  constructor
  · rw [released_countDown hnames henough, released]
    refine List.filter_congr fun next hnext => ?_
    rw [mem_lastOccurrences] at hnext
    have hzero : table.count next = (successors arcs name).count next ↔
        pending arcs (done ++ [name]) next = 0 := by
      have := hcount next (hnames next hnext)
      omega
    rw [Bool.eq_iff_iff, decide_eq_true_eq, hzero, pending_eq_zero_iff]
    simp
  · refine ⟨fun arc harc => ?_, fun a ha => ?_⟩
    · rw [names_countDown]
      exact h.targets arc harc
    · rw [names_countDown] at ha
      rw [count_countDown hnames, hcount a ha]
      ring

end Flowgraph.Schedule
