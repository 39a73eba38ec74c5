import Flowgraph.Proofs.Rules
import Mathlib.Data.List.Forall2

/-!
# What reading a document gives

Reading collects violations, so a value comes out only where no part has one.  Every combinator of
`Checked` and of `Shape` is inverted here: if the whole is read, then every part is.

## Main results

* `Checked.all_eq_ok` — the items of a list are read one by one.
* `Shape.nonEmptyList_eq_ok` — a list that must not be empty is not.
* `Document.outputs_ne_nil` — every node of a document that was read has an output.
-/

namespace Flowgraph

/-! ### Checked values -/

namespace Checked

variable {α β : Type}

theorem map_eq_ok {f : α → β} {x : Checked α} {b : β} :
    f <$> x = ok b ↔ ∃ a, x = ok a ∧ f a = b := by
  change map f x = ok b ↔ _
  cases x <;> simp [map]

/-- A function is applied only if it and its argument were both read. -/
theorem seq_eq_ok {f : Checked (α → β)} {x : Checked α} {b : β} :
    f <*> x = ok b ↔ ∃ g a, f = ok g ∧ x = ok a ∧ g a = b := by
  change apply f x = ok b ↔ _
  cases f <;> cases x <;> simp [apply]

theorem under_eq_ok {segment : String} {x : Checked α} {a : α} :
    under segment x = ok a ↔ x = ok a := by
  cases x <;> simp [under]

theorem fitting_eq_ok {fits : α → Bool} {cause : Cause} {x : Checked α} {a : α} :
    fitting fits cause x = ok a ↔ x = ok a ∧ fits a = true := by
  cases x with
  | bad violations => simp [fitting]
  | ok a' =>
    simp only [fitting, ok.injEq]
    split
    case isTrue hfits =>
      exact ⟨fun h => ⟨ok.inj h, ok.inj h ▸ hfits⟩, fun h => congrArg ok h.1⟩
    case isFalse hnot =>
      refine ⟨fun h => absurd h (by simp [fail]), ?_⟩
      rintro ⟨rfl, hfits⟩
      exact absurd hfits hnot

/-- The items of a list are read one by one. -/
theorem all_eq_ok {check : α → Checked β} : ∀ {items : List α} {index : ℕ} {values : List β},
    all check index items = ok values ↔
      List.Forall₂ (fun a b => check a = ok b) items values := by
  intro items
  induction items with
  | nil =>
    intro index values
    rw [all, List.forall₂_nil_left_iff, ok.injEq, eq_comm]
  | cons a items ih =>
    intro index values
    rw [all, seq_eq_ok, List.forall₂_cons_left_iff]
    simp only [map_eq_ok, under_eq_ok]
    constructor
    · rintro ⟨_, rest, ⟨b, ha, rfl⟩, hrest, rfl⟩
      exact ⟨b, rest, ha, ih.mp hrest, rfl⟩
    · rintro ⟨b, rest, ha, hrest, rfl⟩
      exact ⟨_, rest, ⟨b, ha, rfl⟩, ih.mpr hrest, rfl⟩

theorem report_eq_ok {source : Source} {x : Checked α} {a : α} :
    report source x = .ok a ↔ x = ok a := by
  cases x <;> simp [report]

end Checked

/-! ### Parts of documents -/

namespace Shape

variable {α : Type}

theorem part_eq_ok {name : String} {ofFields : Fields → Checked α} {v : Json} {a : α} :
    part name ofFields v = .ok a ↔ ∃ fields, v = .obj fields ∧ ofFields fields = .ok a := by
  cases v <;> simp [part, Checked.fail]

theorem field_eq_ok {fields : Fields} {name : String} {check : Json → Checked α} {a : α} :
    field fields name check = .ok a ↔ ∃ v, fields.get? name = some v ∧ check v = .ok a := by
  unfold field
  cases fields.get? name <;> simp [Checked.under_eq_ok, Checked.fail]

theorem fieldOr_eq_ok {fields : Fields} {name : String} {absent : α} {check : Json → Checked α}
    {a : α} : fieldOr fields name absent check = .ok a ↔
      (fields.get? name = none ∧ absent = a) ∨ ∃ v, fields.get? name = some v ∧ check v = .ok a := by
  unfold fieldOr
  cases fields.get? name <;> simp [Checked.under_eq_ok]

theorem list_eq_ok {item : Json → Checked α} {v : Json} {values : List α} :
    list item v = .ok values ↔
      ∃ items, v = .arr items ∧ List.Forall₂ (fun i a => item i = .ok a) items values := by
  cases v <;> simp [list, Checked.fail, Checked.all_eq_ok]

/-- Whatever a list gives was read from one of its items. -/
theorem exists_of_mem_list {item : Json → Checked α} {v : Json} {values : List α}
    (h : list item v = .ok values) {a : α} (ha : a ∈ values) :
    ∃ items, v = .arr items ∧ ∃ i ∈ items, item i = .ok a := by
  obtain ⟨items, rfl, hall⟩ := list_eq_ok.mp h
  refine ⟨items, rfl, ?_⟩
  clear h
  induction hall with
  | nil => exact absurd ha List.not_mem_nil
  | cons hread _ ih =>
    rcases List.mem_cons.mp ha with rfl | hmem
    · exact ⟨_, List.mem_cons_self, hread⟩
    · obtain ⟨i, hi, hread⟩ := ih hmem
      exact ⟨i, List.mem_cons_of_mem _ hi, hread⟩

/-- A list that must not be empty is not. -/
theorem nonEmptyList_eq_ok {item : Json → Checked α} {v : Json} {values : List α} :
    nonEmptyList item v = .ok values ↔ list item v = .ok values ∧ values ≠ [] := by
  unfold nonEmptyList
  cases hlist : list item v with
  | bad violations => simp
  | ok found =>
    cases found with
    | nil =>
      simp only [Checked.fail, Checked.ok.injEq, reduceCtorEq, false_iff, not_and, not_not]
      exact Eq.symm
    | cons a found =>
      simp only [Checked.ok.injEq, ne_eq, iff_self_and]
      rintro rfl
      exact List.cons_ne_nil a found

/-- Every node has an output. -/
theorem outputs_of_node {v : Json} {n : Node} (h : node v = .ok n) : n.outputs ≠ [] := by
  obtain ⟨fields, -, hfields⟩ := part_eq_ok.mp h
  simp only [Checked.fitting_eq_ok, Checked.seq_eq_ok, Checked.map_eq_ok] at hfields
  -- the outputs are the third field from the end, and the five before them are read first
  obtain ⟨⟨_, _, ⟨_, _, ⟨_, outputs, ⟨_, _, ⟨_, _, ⟨_, _, ⟨_, _, ⟨_, -, rfl⟩, -, rfl⟩, -, rfl⟩,
    -, rfl⟩, -, rfl⟩, houtputs, rfl⟩, -, rfl⟩, -, rfl⟩, -⟩ := hfields
  obtain ⟨_, -, hread⟩ := field_eq_ok.mp houtputs
  exact (nonEmptyList_eq_ok.mp hread).2

/-- Every node of a workflow was read as a node. -/
theorem exists_of_mem_workflow {v : Json} {w : Workflow} (h : workflow v = .ok w) {n : Node}
    (hn : n ∈ w.nodes) : ∃ i, node i = .ok n := by
  obtain ⟨fields, -, hfields⟩ := part_eq_ok.mp h
  simp only [Checked.seq_eq_ok, Checked.map_eq_ok] at hfields
  -- the nodes are the last field but one, and the six before them are read first
  obtain ⟨_, _, ⟨_, nodes, ⟨_, _, ⟨_, _, ⟨_, _, ⟨_, _, ⟨_, _, ⟨_, -, rfl⟩, -, rfl⟩, -, rfl⟩, -, rfl⟩,
    -, rfl⟩, -, rfl⟩, hnodes, rfl⟩, -, rfl⟩ := hfields
  obtain ⟨_, -, hread⟩ := field_eq_ok.mp hnodes
  obtain ⟨_, -, i, -, hi⟩ := exists_of_mem_list (nonEmptyList_eq_ok.mp hread).1 hn
  exact ⟨i, hi⟩

theorem workflow_of_document {v : Json} {d : Document} (h : document v = .ok d) :
    ∃ i, workflow i = .ok d.workflow := by
  obtain ⟨fields, -, hfields⟩ := part_eq_ok.mp h
  simp only [Checked.seq_eq_ok, Checked.map_eq_ok] at hfields
  obtain ⟨_, w, ⟨_, -, rfl⟩, hw, rfl⟩ := hfields
  obtain ⟨i, -, hread⟩ := field_eq_ok.mp hw
  exact ⟨i, hread⟩

end Shape

/-! ### Documents -/

namespace Document

theorem document_of_ofJson {v : Json} {d : Document} (h : ofJson v = .ok d) :
    Shape.document v = .ok d :=
  Checked.report_eq_ok.mp h

theorem document_of_ofText {text : String} {d : Document} (h : ofText text = .ok d) :
    ∃ v, Json.readLocated text = .ok v ∧ Shape.document v = .ok d := by
  have hchecked := Checked.report_eq_ok.mp h
  split at hchecked
  · simp [Checked.fail] at hchecked
  · cases hlocated : Json.readLocated text with
    | error problem => simp [hlocated, Checked.fail] at hchecked
    | ok v => exact ⟨v, rfl, by simpa [hlocated] using hchecked⟩

/-- Whatever is read has the shape of a document, whether it is handed over as data or as a text. -/
theorem document_of_read {v : Json} {d : Document} (h : read v = .ok d) :
    ∃ i, Shape.document i = .ok d := by
  unfold read at h
  split at h
  · obtain ⟨i, -, hi⟩ := document_of_ofText h
    exact ⟨i, hi⟩
  · exact ⟨v, document_of_ofJson h⟩

/-- **Every node of a document that was read has an output.** -/
theorem outputs_ne_nil {v : Json} {d : Document} (h : read v = .ok d) :
    ∀ n ∈ d.workflow.nodes, n.outputs ≠ [] := by
  intro n hn
  obtain ⟨_, hdocument⟩ := document_of_read h
  obtain ⟨_, hworkflow⟩ := Shape.workflow_of_document hdocument
  obtain ⟨_, hnode⟩ := Shape.exists_of_mem_workflow hworkflow hn
  exact Shape.outputs_of_node hnode

end Document
end Flowgraph
