import Flowgraph.Proofs.Copies

/-!
# Runs side by side

Two runs are compared by letting them go on side by side.  Each node of the one stands for a node of
the other, and a relation tells how their states hang together.  In related states the same nodes are
active, and if one of the runs is over so is the other.  So where the turns of a node and of the one
it stands for keep the relation, it holds as long as the runs go on, and in the end as well.

## Main definitions

* `Walk.Lockstep` — the turns of two runs keep a relation of their states.

## Main results

* `Walk.Lockstep.through` — so do rows of turns.
* `Walk.Lockstep.whole` — **so do whole runs.**
-/

namespace Flowgraph.Walk

variable {σ τ : Type} {setting : Setting σ} {other : Setting τ} {image : Node → Node}
  {rel : Progress × σ → Progress × τ → Prop}

/-- The turns of some nodes in one run, and those of their images in another, keep a relation between
the states of the two runs. -/
structure Lockstep (setting : Setting σ) (other : Setting τ) (image : Node → Node)
    (rel : Progress × σ → Progress × τ → Prop) (order : List Node) : Prop where
  /-- The image of a node has its id. -/
  id : ∀ node, (image node).id = node.id
  /-- In both runs the same nodes are active. -/
  active : ∀ {state state'}, rel state state' → state'.1.active = state.1.active
  /-- Both runs have met the same fault. -/
  fault : ∀ {state state'}, rel state state' → state'.1.fault = state.1.fault
  /-- If one of them is broken off so is the other. -/
  broken : ∀ {state state'}, rel state state' → state'.1.broken = state.1.broken
  /-- The turn of a node and that of its image keep the relation. -/
  turn : ∀ node ∈ order, ∀ {state state'}, rel state state' →
    rel (visit setting node state) (visit other (image node) state')

/-- Rows of turns keep the relation. -/
theorem Lockstep.through : ∀ {order : List Node}, Lockstep setting other image rel order →
    ∀ {state : Progress × σ} {state' : Progress × τ}, rel state state' →
      rel (through setting order state) (through other (order.map image) state') := by
  intro order
  induction order with
  | nil => exact fun _ _ _ h => h
  | cons node order ih =>
    intro hlock state state' h
    have hlater : Lockstep setting other image rel order :=
      { hlock with turn := fun n hn => hlock.turn n (List.mem_cons_of_mem node hn) }
    rw [List.map_cons]
    by_cases hactive : node.id ∈ state.1.active
    case neg =>
      have hactive' : (image node).id ∉ state'.1.active := by rwa [hlock.id, hlock.active h]
      rw [through_skip hactive, through_skip hactive']
      exact ih hlater h
    have hactive' : (image node).id ∈ state'.1.active := by rwa [hlock.id, hlock.active h]
    have hturned := hlock.turn node List.mem_cons_self h
    -- a turn that ends the one run ends the other
    have hover : (visit other (image node) state').1.isOver =
        (visit setting node state).1.isOver := by
      rw [Progress.isOver, Progress.isOver, hlock.fault hturned, hlock.broken hturned]
    cases hend : (visit setting node state).1.isOver with
    | true =>
      rw [through_over hactive hend, through_over hactive' (hover.trans hend)]
      exact hturned
    | false =>
      rw [through_step hactive hend, through_step hactive' (hover.trans hend)]
      exact ih hlater hturned

/-- **Whole runs keep a relation that their turns keep**, if it holds when they begin and the last
event leaves it alone. -/
theorem Lockstep.whole {order : List Node} (h : Lockstep setting other image rel order)
    (hclosing : ∀ {state state'}, rel state state' →
      rel (tell setting (closing setting state.1) state) (tell other (closing other state'.1) state'))
    {input : Json} {s : σ} {t : τ} (hbegun : rel (begun setting input s) (begun other input t)) :
    rel (whole setting order input s) (whole other (order.map image) input t) := by
  have hended := h.through hbegun
  have hsame := h.broken hended
  cases hbroken : (Walk.through setting order (begun setting input s)).1.broken with
  | true =>
    rw [whole_of_broken hbroken, whole_of_broken (hsame.trans hbroken)]
    exact hended
  | false =>
    rw [whole_of_unbroken hbroken, whole_of_unbroken (hsame.trans hbroken)]
    exact hclosing hended

end Flowgraph.Walk
