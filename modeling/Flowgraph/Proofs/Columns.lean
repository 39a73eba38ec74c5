import Flowgraph.Proofs.Changes
import Flowgraph.Proofs.Digits
import Flowgraph.Proofs.Refusals
import Flowgraph.Store.Column

/-!
# Documents that can be written

A stored document is written as a text, and an integer can be written only if it has not too many
digits.  Most of a document is texts.  Integers stand in its free data, in configurations and in the
places of nodes.  A command leaves the free data alone, and of a number that it reads it knows that
it has not too many digits; but a new node is put to the right of another one, and there the number
of its place may have a digit more.

So what a command makes of a document that can be written can be written as well, unless a node is
added and its place cannot be.

## Main definitions

* `Node.Writable`, `Workflow.Writable` — the numbers of a node and of a workflow can be written.
* `EditCommand.Counts` — so can the number in a command.

## Main results

* `Document.isWritable_toJson_iff` — when a document can be written.
* `EditCommand.counts_of_read` — the number in a command that is read can be.
* `EditCommand.writable_iff_of_apply` — **when that can be written what a command makes.**
-/

namespace Flowgraph

/-! ### Values -/

namespace Json

theorem areWritable_iff {items : List Json} :
    areWritable items = true ↔ ∀ item ∈ items, item.isWritable = true := by
  induction items with
  | nil => simp [areWritable]
  | cons item items ih => rw [areWritable, Bool.and_eq_true, ih, List.forall_mem_cons]

/-- Texts can be written, and so can lists of what can be. -/
theorem areWritable_map {α : Type} {f : α → Json} (h : ∀ a, (f a).isWritable = true)
    (items : List α) : areWritable (items.map f) = true := by
  rw [areWritable_iff, List.forall_mem_map]
  exact fun a _ => h a

/-- A field that is set can be written if all fields can. -/
theorem areFieldsWritable_set {name : String} {value : Json} (hvalue : value.isWritable = true) :
    ∀ {fields : Fields}, areFieldsWritable fields = true →
      areFieldsWritable (fields.set name value) = true := by
  intro fields
  induction fields with
  | nil => exact fun _ => by rw [Fields.set, areFieldsWritable, hvalue]; rfl
  | cons field fields ih =>
    obtain ⟨key, old⟩ := field
    intro h
    rw [areFieldsWritable, Bool.and_eq_true] at h
    rw [Fields.set]
    split
    · rw [areFieldsWritable, hvalue, h.2]
      rfl
    · rw [areFieldsWritable, h.1, ih h.2]
      rfl

mutual

/-- Integers are as they are in a value with finite numbers. -/
theorem isWritable_finite : ∀ v : Json, v.finite.isWritable = v.isWritable
  | null => rfl
  | bool _ => rfl
  | int _ => rfl
  | float x => by
    rw [finite]
    split <;> rfl
  | str _ => rfl
  | arr items => areWritable_finiteItems items
  | obj fields => areFieldsWritable_finiteFields fields

theorem areWritable_finiteItems : ∀ items : List Json,
    areWritable (finiteItems items) = areWritable items
  | [] => rfl
  | item :: items => by
    rw [finiteItems, areWritable, areWritable, isWritable_finite item,
      areWritable_finiteItems items]

theorem areFieldsWritable_finiteFields : ∀ fields : List (String × Json),
    areFieldsWritable (finiteFields fields) = areFieldsWritable fields
  | [] => rfl
  | (_, value) :: fields => by
    rw [finiteFields, areFieldsWritable, areFieldsWritable, isWritable_finite value,
      areFieldsWritable_finiteFields fields]

end

end Json

/-! ### Documents -/

/-- The numbers of a node can be written. -/
structure Node.Writable (n : Node) : Prop where
  /-- The numbers of its place can be. -/
  position : n.position.toJson.isWritable = true
  /-- So can those of its configuration. -/
  config : Json.areFieldsWritable n.config = true

/-- The numbers of a workflow can be written. -/
structure Workflow.Writable (w : Workflow) : Prop where
  /-- Those of its free data can be. -/
  freeData : Json.areFieldsWritable w.freeData = true
  /-- So can those of its nodes. -/
  nodes : ∀ n ∈ w.nodes, n.Writable

theorem Node.isWritable_toJson_iff {n : Node} : n.toJson.isWritable = true ↔ n.Writable := by
  have hports : ∀ ports : List Port, Json.areWritable (ports.map Port.toJson) = true :=
    Json.areWritable_map fun _ => rfl
  have hui : n.ui.toJson.isWritable = true := rfl
  have hconfig : (Json.obj n.config).finite.isWritable = Json.areFieldsWritable n.config :=
    Json.isWritable_finite _
  simp only [toJson, Json.isWritable, Json.areFieldsWritable, hports, hui, hconfig, Bool.and_true,
    Bool.true_and, Bool.and_eq_true]
  exact ⟨fun h => ⟨h.1, h.2⟩, fun h => ⟨h.position, h.config⟩⟩

/-- A document can be written exactly if the numbers in it can be. -/
theorem Document.isWritable_toJson_iff {d : Document} :
    d.toJson.isWritable = true ↔ d.workflow.Writable := by
  have htags : (Json.strs d.workflow.tags).isWritable = true :=
    Json.areWritable_map (fun _ => rfl) _
  have hedges : Json.areWritable (d.workflow.edges.map Edge.toJson) = true :=
    Json.areWritable_map (fun ⟨_, _, _, label, condition⟩ => by
      cases label <;> cases condition <;> rfl) _
  have hfree : (Json.obj d.workflow.freeData).finite.isWritable =
      Json.areFieldsWritable d.workflow.freeData := Json.isWritable_finite _
  simp only [toJson, Workflow.toJson, Json.isWritable, Json.areFieldsWritable, htags, hedges, hfree,
    Bool.and_true, Bool.true_and, Bool.and_eq_true, Json.areWritable_iff, List.forall_mem_map,
    Node.isWritable_toJson_iff]
  exact ⟨fun h => ⟨h.1, h.2⟩, fun h => ⟨h.freeData, h.nodes⟩⟩

/-! ### Commands -/

namespace EditCommand

variable {command : EditCommand} {w w' : Workflow} {source : Node}

/-- The number in a command has not too many digits to be written. -/
def Counts : EditCommand → Prop
  | addDelay seconds => (Json.int seconds).isWritable = true
  | _ => True

/-- **The number in a command that is read can be written.** -/
theorem counts_of_read {text : String} (h : read text = .ok (.ok command)) : command.Counts := by
  cases command with
  | addDelay seconds =>
    unfold read at h
    simp only at h
    split at h
    · cases h
    · unfold readSentence at h
      split at h
      · cases h
      · cases h
      · cases h
      · rename_i digits _ _ _ _
        cases hdigits : Text.readNatural digits with
        | error e => rw [hdigits] at h; cases h
        | ok n =>
          rw [hdigits] at h
          obtain rfl : n = seconds := by simpa [Except.map] using h
          rw [Counts, Json.isWritable, Int.natAbs_natCast, decide_eq_true_eq, Nat.pow_eq]
          with_reducible exact Text.lt_of_readNatural hdigits
      · split at h
        · split at h
          · cases h
          · cases h
        · cases h
  | _ => trivial

/-- The configuration of every kind of new node can be written. -/
theorem writable_defaultConfig (type : NodeType) :
    Json.areFieldsWritable type.entry.defaultConfig = true := by
  cases type <;> decide +kernel

/-- A node that is added can be written exactly if its place can be. -/
theorem writable_append_iff {type : NodeType} {adjust : Node → Node}
    (hterminal : w.terminal? = some source) (hw : w.Writable)
    (hplace : ∀ n, (adjust n).position = n.position)
    (hconfig : ∀ id position,
      Json.areFieldsWritable (adjust (type.fresh id position)).config = true)
    (h : w.append type adjust = .ok w') :
    w'.Writable ↔ (Workflow.placeBehind source).toJson.isWritable = true := by
  obtain ⟨id, edge?, -, -, rfl⟩ := (Workflow.append_eq_ok hterminal).mp h
  constructor
  · intro hw'
    have hnode := hw'.nodes _ (List.mem_append_right _ (List.mem_singleton_self _))
    have hposition := hnode.position
    rwa [hplace] at hposition
  · intro hposition
    refine ⟨hw.freeData, fun n hn => ?_⟩
    rcases List.mem_append.mp hn with hn | hn
    · exact hw.nodes n hn
    · rw [List.mem_singleton.mp hn]
      exact ⟨by rw [hplace]; exact hposition, hconfig _ _⟩

/-- **When that can be written what a command makes.**  Where a document can be written, so can what
a command that is read makes of it, unless a node is added and its place cannot be. -/
theorem writable_iff_of_apply (hcounts : command.Counts) (hterminal : w.terminal? = some source)
    (hw : w.Writable) (h : command.apply w = .ok (.ok w')) :
    w'.Writable ↔ (command.Adds → (Workflow.placeBehind source).toJson.isWritable = true) := by
  have hmakes := apply_eq_ok.mp h
  cases command with
  | rename ref name =>
    refine iff_of_true ?_ False.elim
    cases hfound : w.referred? ref with
    | none => exact absurd (hmakes.symm.trans (Workflow.rename?_eq_none hfound)) (by simp)
    | some node =>
      obtain ⟨before, after, hnodes, hrenamed⟩ := Workflow.rename?_of_referred hfound name
      obtain rfl := Option.some.inj (hrenamed.symm.trans hmakes)
      have hall := hw.nodes
      rw [hnodes, List.forall_mem_append, List.forall_mem_cons] at hall
      refine ⟨hw.freeData, ?_⟩
      rw [List.forall_mem_append, List.forall_mem_cons]
      exact ⟨hall.1, ⟨hall.2.1.position, hall.2.1.config⟩, hall.2.2⟩
  | delete ref =>
    refine iff_of_true ?_ False.elim
    obtain ⟨node, -, -, rfl⟩ := Workflow.delete?_eq_some.mp hmakes
    exact ⟨hw.freeData, fun n hn => hw.nodes n (List.mem_of_mem_filter hn)⟩
  | connect first second =>
    refine iff_of_true ?_ False.elim
    obtain ⟨s, t, e, -, -, -, rfl⟩ := Workflow.connect?_eq_ok.mp hmakes
    exact ⟨hw.freeData, hw.nodes⟩
  | addDelay seconds =>
    have hadds : (addDelay seconds).Adds := trivial
    rw [forall_prop_of_true hadds]
    rw [Makes] at hmakes
    refine writable_append_iff hterminal hw ?_ ?_ hmakes
    · exact fun _ => rfl
    · exact fun _ _ => Json.areFieldsWritable_set hcounts (writable_defaultConfig .delay)
  | add type =>
    have hadds : (add type).Adds := trivial
    rw [forall_prop_of_true hadds]
    rw [Makes] at hmakes
    refine writable_append_iff hterminal hw ?_ ?_ hmakes
    · exact fun _ => rfl
    · exact fun _ _ => writable_defaultConfig type

end EditCommand
end Flowgraph
