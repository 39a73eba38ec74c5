import Flowgraph.Proofs.Rules

/-!
# What is said of data that is no document

Whoever has data refused must be told why, so the violations that stand in the way of a value are
never none.  This goes through every combinator of `Checked` and of `Shape`: where no part can be
refused without a reason, the whole cannot.

## Main definitions

* `Checked.Explained` — there is a value, or a violation at least.

## Main results

* `Shape.explained_document` — what is no document has a violation.
* `Document.errors_of_check` — **data that is refused is refused for a reason.**
-/

namespace Flowgraph

/-! ### Checked values -/

namespace Checked

variable {α β : Type} {x : Checked α}

/-- There is a value, or a violation at least. -/
def Explained (x : Checked α) : Prop :=
  x ≠ bad []

theorem explained_ok (a : α) : (ok a).Explained := by
  simp [Explained]

theorem explained_fail (cause : Cause) : (fail cause : Checked α).Explained := by
  simp [Explained, fail]

theorem explained_ite {p : Prop} [Decidable p] {y : Checked α} (hx : x.Explained)
    (hy : y.Explained) : (if p then x else y).Explained := by
  split
  · exact hx
  · exact hy

theorem Explained.map (h : x.Explained) (f : α → β) : (f <$> x).Explained := by
  change Checked.map f x ≠ bad []
  cases x with
  | ok a => simp [Checked.map]
  | bad violations => simpa [Explained, Checked.map] using h

theorem Explained.seq {f : Checked (α → β)} (hf : f.Explained) (hx : x.Explained) :
    (f <*> x).Explained := by
  change Checked.apply f x ≠ bad []
  cases f <;> cases x <;> simp_all [Explained, Checked.apply]

theorem Explained.under (h : x.Explained) (segment : String) : (x.under segment).Explained := by
  cases x with
  | ok a => exact explained_ok a
  | bad violations => simpa [Explained, Checked.under] using h

theorem Explained.fitting (h : x.Explained) (fits : α → Bool) (cause : Cause) :
    (x.fitting fits cause).Explained := by
  cases x with
  | ok a =>
    exact explained_ite (explained_ok a) (explained_fail cause)
  | bad violations => exact h

theorem explained_all {check : α → Checked β} (h : ∀ a, (check a).Explained) :
    ∀ (items : List α) (index : ℕ), (all check index items).Explained := by
  intro items
  induction items with
  | nil => exact fun _ => explained_ok []
  | cons a items ih => exact fun index => (((h a).under _).map _).seq (ih (index + 1))

theorem Explained.report_ne_nil {source : Source} {errors : List String} (h : x.Explained)
    (hreport : report source x = .error errors) : errors ≠ [] := by
  cases x with
  | ok a => cases hreport
  | bad violations =>
    obtain rfl := Except.error.inj hreport
    rw [ne_eq, List.map_eq_nil_iff]
    exact fun hnil => h (congrArg bad hnil)

end Checked

/-! ### Parts of documents -/

namespace Shape

variable {α : Type} {check : Json → Checked α} {item : Json → Checked α}

theorem explained_plainText {check : String → Checked α} (h : ∀ s, (check s).Explained)
    (cause : Cause) (v : Json) : (plainText check cause v).Explained := by
  cases v with
  | str s =>
    exact Checked.explained_ite (Checked.explained_fail _) (h s)
  | _ => exact Checked.explained_fail _

theorem explained_nonEmptyText (v : Json) : (nonEmptyText v).Explained :=
  explained_plainText
    (fun _ => Checked.explained_ite (Checked.explained_fail _) (Checked.explained_ok _)) _ v

theorem explained_workflowId (v : Json) : (workflowId v).Explained :=
  explained_plainText
    (fun _ => Checked.explained_ite (Checked.explained_ok _) (Checked.explained_fail _)) _ v

theorem explained_oneOf (choices : List String) (v : Json) : (oneOf choices v).Explained :=
  explained_plainText
    (fun _ => Checked.explained_ite (Checked.explained_ok _) (Checked.explained_fail _)) _ v

theorem explained_nodeType (v : Json) : (nodeType v).Explained := by
  refine explained_plainText (fun s => ?_) _ v
  cases NodeType.ofName? s with
  | none => exact Checked.explained_fail _
  | some type => exact Checked.explained_ok type

theorem explained_text (v : Json) : (text v).Explained := by
  cases v <;> first | exact Checked.explained_ok _ | exact Checked.explained_fail _

theorem explained_optionalText (v : Json) : (optionalText v).Explained := by
  cases v <;> first | exact Checked.explained_ok _ | exact Checked.explained_fail _

theorem explained_object (v : Json) : (object v).Explained := by
  cases v <;> first | exact Checked.explained_ok _ | exact Checked.explained_fail _

theorem explained_coordinate (v : Json) : (coordinate v).Explained := by
  cases v <;> simp [coordinate, Checked.Explained]

theorem explained_list (h : ∀ v, (item v).Explained) (v : Json) : (list item v).Explained := by
  cases v with
  | arr items => exact Checked.explained_all h items 0
  | _ => exact Checked.explained_fail _

theorem explained_nonEmptyList (h : ∀ v, (item v).Explained) (v : Json) :
    (nonEmptyList item v).Explained := by
  rw [nonEmptyList]
  split
  · exact Checked.explained_fail _
  · exact explained_list h v

theorem explained_part {name : String} {ofFields : Fields → Checked α}
    (h : ∀ fields, (ofFields fields).Explained) (v : Json) : (part name ofFields v).Explained := by
  cases v with
  | obj fields => exact h fields
  | _ => exact Checked.explained_fail _

variable {fields : Fields} {name second : String}

theorem explained_field (h : ∀ v, (check v).Explained) : (field fields name check).Explained := by
  rw [field]
  split
  · exact (h _).under name
  · exact (Checked.explained_fail _).under name

theorem explained_fieldOr (h : ∀ v, (check v).Explained) {absent : α} :
    (fieldOr fields name absent check).Explained := by
  rw [fieldOr]
  split
  · exact (h _).under name
  · exact Checked.explained_ok absent

theorem explained_fieldNamed (h : ∀ v, (check v).Explained) :
    (fieldNamed fields name second check).Explained := by
  rw [fieldNamed]
  split
  · exact (h _).under second
  · exact explained_field h

theorem explained_port (v : Json) : (port v).Explained :=
  explained_part (fun _ => (((explained_field explained_nonEmptyText).map _).seq
    (explained_field explained_nonEmptyText)).seq (explained_fieldNamed explained_nonEmptyText)) v

theorem explained_position (v : Json) : (position v).Explained :=
  explained_part (fun _ => ((explained_field explained_coordinate).map _).seq
    (explained_field explained_coordinate)) v

theorem explained_appearance (v : Json) : (appearance v).Explained :=
  explained_part (fun _ => ((explained_field explained_nonEmptyText).map _).seq
    (explained_field explained_nonEmptyText)) v

theorem explained_endpoint (v : Json) : (endpoint v).Explained :=
  explained_part (fun _ => ((explained_field explained_nonEmptyText).map _).seq
    (explained_field explained_nonEmptyText)) v

theorem explained_node (v : Json) : (node v).Explained := by
  refine explained_part (fun fields => Checked.Explained.fitting ?_ _ _) v
  exact ((explained_field explained_nonEmptyText).map _)
    |>.seq (explained_field explained_nodeType)
    |>.seq (explained_field explained_nonEmptyText)
    |>.seq (explained_field explained_position)
    |>.seq (explained_field (explained_list explained_port))
    |>.seq (explained_field (explained_nonEmptyList explained_port))
    |>.seq (explained_field explained_object)
    |>.seq (explained_field explained_appearance)

theorem explained_edge (v : Json) : (edge v).Explained := by
  refine explained_part (fun fields => ?_) v
  exact ((explained_field explained_nonEmptyText).map _)
    |>.seq (explained_field explained_endpoint)
    |>.seq (explained_field explained_endpoint)
    |>.seq (explained_fieldOr explained_optionalText)
    |>.seq (explained_fieldOr explained_optionalText)

theorem explained_workflow (v : Json) : (workflow v).Explained := by
  refine explained_part (fun fields => ?_) v
  exact ((explained_field explained_workflowId).map _)
    |>.seq (explained_field explained_nonEmptyText)
    |>.seq (explained_field explained_nonEmptyText)
    |>.seq (explained_fieldOr (explained_list explained_text))
    |>.seq (explained_field explained_nonEmptyText)
    |>.seq (explained_fieldOr explained_object)
    |>.seq (explained_field (explained_nonEmptyList explained_node))
    |>.seq (explained_field (explained_list explained_edge))

/-- Where data is no document, it is said why. -/
theorem explained_document (v : Json) : (document v).Explained :=
  explained_part (fun _ => ((explained_field (explained_oneOf _)).map _).seq
    (explained_field explained_workflow)) v

end Shape

/-! ### Documents -/

namespace Document

variable {errors : List String} {v : Json}

theorem errors_of_ofText {text : String} (h : ofText text = .error errors) : errors ≠ [] := by
  refine Checked.Explained.report_ne_nil (Checked.explained_ite (Checked.explained_fail _) ?_) h
  split
  · exact Checked.explained_fail _
  · exact Shape.explained_document _

/-- Data that is refused is refused for a reason. -/
theorem errors_of_check (h : check v = .error errors) : errors ≠ [] := by
  rw [check_eq_read_bind] at h
  rcases Except.bind_eq_error_iff.mp h with hread | ⟨d, -, hobeying⟩
  · unfold read at hread
    split at hread
    · exact errors_of_ofText hread
    · exact (Shape.explained_document v).report_ne_nil hread
  · obtain ⟨hne, rfl⟩ := obeying_eq_error_iff.mp hobeying
    rwa [ne_eq, List.map_eq_nil_iff]

end Document
end Flowgraph
