import Flowgraph.Proofs.Stored

/-!
# Documents that are checked again

An accepted document is checked again, as it leaves, whenever it is used.  If all numbers of the
data that it was read from are finite, then what is accepted is the very same document, and it
leaves just as before.

Whether it can leave is another matter.  Checking does not look into free data, so that free data
which is nested too deeply, or has half of a pair in one of its names, is accepted; and then the
document cannot be checked again at all.

## Main definitions

* `Document.recheck` — the check of a document that was read before.
* `Document.FiniteData` — the numbers of data are finite, or those of the data that a text holds.
* `Json.Plain` — the names of a value are characters.

## Main results

* `Shape.finite_of_document` — what is read from finite data has finite numbers.
* `Document.canLeave_iff` — which documents can leave, by the height and the names of free data.
* `Document.recheck_of_check` — **an accepted document is accepted again, as it is.**
* `Document.recheck_deep` — an accepted document that cannot be checked again.
-/

namespace Flowgraph

/-! ### Finite data -/

namespace Json

mutual

/-- The test finds out whether every number of a value is finite. -/
theorem isFinite_eq_true : ∀ {v : Json}, v.isFinite = true ↔ v.IsFinite
  | null => by simp [isFinite, IsFinite]
  | bool _ => by simp [isFinite, IsFinite]
  | int _ => by simp [isFinite, IsFinite]
  | float _ => Iff.rfl
  | str _ => by simp [isFinite, IsFinite]
  | arr items => by rw [isFinite, areFinite_eq_true, IsFinite]
  | obj fields => by rw [isFinite, areFieldsFinite_eq_true, IsFinite]

theorem areFinite_eq_true : ∀ {items : List Json}, areFinite items = true ↔ AllFinite items
  | [] => by simp [areFinite, AllFinite]
  | item :: items => by
    rw [areFinite, Bool.and_eq_true, isFinite_eq_true, areFinite_eq_true, AllFinite]

theorem areFieldsFinite_eq_true : ∀ {fields : List (String × Json)},
    areFieldsFinite fields = true ↔ AllFieldsFinite fields
  | [] => by simp [areFieldsFinite, AllFieldsFinite]
  | (_, value) :: fields => by
    rw [areFieldsFinite, Bool.and_eq_true, isFinite_eq_true, areFieldsFinite_eq_true,
      AllFieldsFinite]

end

instance (v : Json) : Decidable v.IsFinite :=
  decidable_of_iff _ isFinite_eq_true

theorem AllFinite.of_mem : ∀ {items : List Json}, AllFinite items → ∀ item ∈ items, item.IsFinite := by
  intro items
  induction items with
  | nil => exact fun _ item hitem => absurd hitem List.not_mem_nil
  | cons first items ih =>
    intro h item hitem
    rcases List.mem_cons.mp hitem with rfl | hitem
    · exact h.1
    · exact ih h.2 item hitem

theorem AllFieldsFinite.get? {name : String} {v : Json} : ∀ {fields : Fields},
    AllFieldsFinite fields → fields.get? name = some v → v.IsFinite := by
  intro fields
  induction fields with
  | nil => exact fun _ hv => absurd hv (by simp)
  | cons field fields ih =>
    obtain ⟨key, value⟩ := field
    intro h hv
    rw [Fields.get?_cons] at hv
    split at hv
    · obtain rfl := Option.some.inj hv
      exact h.1
    · exact ih h.2 hv

end Json

namespace Shape

variable {v : Json}

/-- What a list of finite data gives is as it should be where each item is. -/
theorem forall_of_finite {α : Type} {item : Json → Checked α} {good : α → Prop}
    (hitem : ∀ i a, i.IsFinite → item i = .ok a → good a) (hv : v.IsFinite) {values : List α}
    (h : list item v = .ok values) : ∀ a ∈ values, good a := by
  intro a ha
  obtain ⟨items, rfl, i, hi, hread⟩ := exists_of_mem_list h ha
  exact hitem i a (Json.AllFinite.of_mem hv i hi) hread

theorem finite_of_node {n : Node} (hv : v.IsFinite) (h : node v = .ok n) : n.finite = n := by
  obtain ⟨fields, rfl, hfields⟩ := part_eq_ok.mp h
  simp only [Checked.fitting_eq_ok, Checked.seq_eq_ok, Checked.map_eq_ok] at hfields
  -- the configuration is the last field but one, and the six before it are read first
  obtain ⟨⟨_, _, ⟨_, config, ⟨_, _, ⟨_, _, ⟨_, _, ⟨_, _, ⟨_, _, ⟨_, -, rfl⟩, -, rfl⟩, -, rfl⟩, -, rfl⟩,
    -, rfl⟩, -, rfl⟩, hconfig, rfl⟩, -, rfl⟩, -⟩ := hfields
  obtain ⟨value, hget, hobject⟩ := field_eq_ok.mp hconfig
  obtain rfl := object_eq_ok.mp hobject
  have hfinite : Json.AllFieldsFinite config := Json.AllFieldsFinite.get? hv hget
  rw [Node.finite, Json.finiteFields_eq_self config hfinite]

theorem finite_of_workflow {w : Workflow} (hv : v.IsFinite) (h : workflow v = .ok w) :
    w.finite = w := by
  obtain ⟨fields, rfl, hfields⟩ := part_eq_ok.mp h
  simp only [Checked.seq_eq_ok, Checked.map_eq_ok] at hfields
  obtain ⟨_, edges, ⟨_, nodes, ⟨_, freeData, ⟨_, _, ⟨_, _, ⟨_, _, ⟨_, _, ⟨_, -, rfl⟩, -, rfl⟩, -, rfl⟩,
    -, rfl⟩, -, rfl⟩, hfree, rfl⟩, hnodes, rfl⟩, -, rfl⟩ := hfields
  have hfinite : Json.finiteFields freeData = freeData := by
    rcases fieldOr_eq_ok.mp hfree with ⟨-, rfl⟩ | ⟨value, hget, hobject⟩
    · rfl
    · obtain rfl := object_eq_ok.mp hobject
      exact Json.finiteFields_eq_self freeData (Json.AllFieldsFinite.get? hv hget)
  have hsame : ∀ n ∈ nodes, n.finite = n := by
    obtain ⟨value, hget, hlist⟩ := field_eq_ok.mp hnodes
    exact forall_of_finite (fun _ _ => finite_of_node) (Json.AllFieldsFinite.get? hv hget)
      (nonEmptyList_eq_ok.mp hlist).1
  rw [Workflow.finite, hfinite, List.map_congr_left hsame, List.map_id']

/-- What is read from finite data has finite numbers. -/
theorem finite_of_document {d : Document} (hv : v.IsFinite) (h : document v = .ok d) :
    d.finite = d := by
  obtain ⟨fields, rfl, hfields⟩ := part_eq_ok.mp h
  simp only [Checked.seq_eq_ok, Checked.map_eq_ok] at hfields
  obtain ⟨_, w, ⟨_, -, rfl⟩, hw, rfl⟩ := hfields
  obtain ⟨value, hget, hworkflow⟩ := field_eq_ok.mp hw
  rw [Document.finite, finite_of_workflow (Json.AllFieldsFinite.get? hv hget) hworkflow]

end Shape

/-! ### What can leave -/

namespace Json

mutual

/-- All names in a value are characters all through. -/
def Plain : Json → Prop
  | arr items => AllPlain items
  | obj fields => AllFieldsPlain fields
  | _ => True

/-- All names in some items are. -/
def AllPlain : List Json → Prop
  | [] => True
  | item :: items => item.Plain ∧ AllPlain items

/-- All names of some fields, and in them, are. -/
def AllFieldsPlain : List (String × Json) → Prop
  | [] => True
  | (name, value) :: fields =>
    Text.hasHalf name = false ∧ value.Plain ∧ AllFieldsPlain fields

end

theorem loneHalfFrom?_eq_none : ∀ {position : Nat} {ls : List Text.Letter},
    Text.loneHalfFrom? position ls = none ↔ ls.any (fun l => l.half?.isSome) = false := by
  intro position ls
  induction ls generalizing position with
  | nil => simp [Text.loneHalfFrom?]
  | cons l ls ih =>
    rw [Text.loneHalfFrom?, List.any_cons]
    cases hhalf : l.half? with
    | some unit => simp
    | none => simpa using ih

theorem checkText_eq_ok {s : String} : checkText s = .ok () ↔ Text.hasHalf s = false := by
  have hnone : Text.loneHalf? s = none ↔ Text.hasHalf s = false := loneHalfFrom?_eq_none
  rw [← hnone, checkText]
  cases Text.loneHalf? s <;> simp

mutual

/-- A value keeps the limits of data that is not encoded exactly if it is not too high, and its
names are characters. -/
theorem checkFree_eq_ok : ∀ {levels : Nat} {v : Json},
    checkFree false levels v = .ok () ↔ v.height ≤ levels ∧ v.Plain
  | levels, null => by cases levels <;> simp [checkFree, height, Plain]
  | levels, bool _ => by cases levels <;> simp [checkFree, height, Plain]
  | levels, int _ => by cases levels <;> simp [checkFree, height, Plain]
  | levels, float _ => by cases levels <;> simp [checkFree, height, Plain]
  | levels, str _ => by cases levels <;> simp [checkFree, height, Plain]
  | levels, arr items => by
    cases levels with
    | zero => simp [checkFree, height]
    | succ levels =>
      rw [checkFree, if_neg (Nat.succ_ne_zero levels), Nat.add_sub_cancel, checkFreeItems_eq_ok,
        height, Nat.add_le_add_iff_right, Plain]
  | levels, obj fields => by
    cases levels with
    | zero => simp [checkFree, height]
    | succ levels =>
      rw [checkFree, if_neg (Nat.succ_ne_zero levels), Nat.add_sub_cancel, checkFreeFields_eq_ok,
        height, Nat.add_le_add_iff_right, Plain]

theorem checkFreeItems_eq_ok : ∀ {levels : Nat} {items : List Json},
    checkFreeItems false levels items = .ok () ↔ heightItems items ≤ levels ∧ AllPlain items
  | levels, [] => by simp [checkFreeItems, heightItems, AllPlain]
  | levels, item :: items => by
    rw [checkFreeItems, Except.bind_unit_eq_ok_iff, checkFree_eq_ok, checkFreeItems_eq_ok,
      heightItems, AllPlain, Nat.max_le]
    tauto

theorem checkFreeFields_eq_ok : ∀ {levels : Nat} {fields : List (String × Json)},
    checkFreeFields false levels fields = .ok () ↔
      heightFields fields ≤ levels ∧ AllFieldsPlain fields
  | levels, [] => by simp [checkFreeFields, heightFields, AllFieldsPlain]
  | levels, (name, value) :: fields => by
    rw [checkFreeFields, Except.bind_unit_eq_ok_iff, Except.bind_unit_eq_ok_iff, checkText_eq_ok,
      checkFree_eq_ok, checkFreeFields_eq_ok, heightFields, AllFieldsPlain, Nat.max_le]
    tauto

end

end Json

/-! ### Documents -/

namespace Document

variable {v : Json} {d e : Document}

/-- The numbers of data that is handed over are finite; those of a text are the ones of the data
that it holds. -/
def FiniteData : Json → Prop
  | .str text => ∀ v, Json.readLocated text = .ok v → v.IsFinite
  | v => v.IsFinite

/-- The check of a document that was read before: it is checked as it leaves, if it can leave. -/
def recheck (d : Document) : Except DataError (Except (List String) Document) :=
  d.serialize.map check

theorem finite_of_read (hv : FiniteData v) (h : read v = .ok d) : d.finite = d := by
  unfold read at h
  split at h
  · obtain ⟨i, hi, hread⟩ := document_of_ofText h
    exact Shape.finite_of_document (hv i hi) hread
  · have hfinite : v.IsFinite := by
      unfold FiniteData at hv
      split at hv
      · trivial
      · exact hv
    exact Shape.finite_of_document hfinite (document_of_ofJson h)

/-- **Which documents can leave**: the limits are 255 levels, and names of characters. -/
theorem canLeave_iff : d.CanLeave ↔
    (Json.heightFields d.workflow.freeData ≤ 255 ∧ Json.AllFieldsPlain d.workflow.freeData) ∧
      ∀ n ∈ d.workflow.nodes, Json.heightFields n.config ≤ 255 ∧ Json.AllFieldsPlain n.config := by
  simp only [← Json.checkFreeFields_eq_ok]
  exact ⟨fun h => ⟨h.freeData, h.configs⟩, fun h => ⟨h.1, h.2⟩⟩

/-- **An accepted document is accepted again, as it is.**  If it was read from finite data and can
leave, it is checked as it leaves, what is accepted is the same document, and that leaves as the
first one did. -/
theorem recheck_of_check (hv : FiniteData v) (h : check v = .ok d) (hleave : d.CanLeave) :
    d.serialize = .ok d.toJson ∧ check d.toJson = .ok d ∧ d.recheck = .ok (.ok d) ∧
      ∀ e, check d.toJson = .ok e → e = d ∧ e.serialize = d.serialize := by
  have hsame : d.finite = d := finite_of_read hv (check_eq_ok_iff.mp h).1
  have hback : check d.toJson = .ok d := by
    rw [check_toJson h, hsame]
  have hserialize := hleave.serialize
  refine ⟨hserialize, hback, ?_, fun e he => ?_⟩
  · rw [recheck, hserialize, Except.map, hback]
  · obtain rfl := Except.ok.inj (hback.symm.trans he)
    exact ⟨rfl, rfl⟩

/-- Otherwise it cannot be checked again. -/
theorem recheck_eq_error (hstays : ¬ d.CanLeave) : ∃ e, d.recheck = .error e := by
  cases hserialize : d.serialize with
  | ok j => exact absurd (serialize_eq_ok.mp hserialize).1 hstays
  | error e => exact ⟨e, by rw [recheck, hserialize, Except.map]⟩

theorem finiteData_fork : FiniteData (toJson ⟨Workflow.fork⟩) := by
  change Json.IsFinite _
  decide +kernel

theorem check_fork : check (toJson ⟨Workflow.fork⟩) = .ok ⟨Workflow.fork⟩ :=
  check_eq_ok_iff.mpr ⟨read_fork, coherent_fork⟩

/-- The fork is accepted again. -/
theorem recheck_of_check_fork :
    check (toJson ⟨Workflow.fork⟩) = .ok ⟨Workflow.fork⟩ ∧
      recheck ⟨Workflow.fork⟩ = .ok (.ok ⟨Workflow.fork⟩) := by
  have hleave : CanLeave ⟨Workflow.fork⟩ := (serialize_eq_ok.mp rfl).1
  obtain ⟨-, hback, hrecheck, -⟩ := recheck_of_check finiteData_fork check_fork hleave
  exact ⟨hback, hrecheck⟩

/-- **An accepted document that cannot be checked again**: it is read from finite data, and its free
data is nested too deeply to leave. -/
theorem recheck_deep : ∃ d, FiniteData (World.deep "wf_a" "wf_a").toJson ∧
    check (World.deep "wf_a" "wf_a").toJson = .ok d ∧ ¬ ∃ r, d.recheck = .ok r := by
  have hfinite : FiniteData (World.deep "wf_a" "wf_a").toJson := by
    change Json.IsFinite _
    decide +kernel
  have haccepted : (check (World.deep "wf_a" "wf_a").toJson).isOk = true := by
    decide +kernel
  have hstays : (World.deep "wf_a" "wf_a").finite.recheck.isOk = false := by
    decide +kernel
  cases hcheck : check (World.deep "wf_a" "wf_a").toJson with
  | error errors =>
    rw [hcheck] at haccepted
    exact absurd haccepted (by simp [Except.isOk, Except.toBool])
  | ok d =>
    refine ⟨d, hfinite, rfl, ?_⟩
    rintro ⟨r, hr⟩
    rw [← eq_finite_of_check_toJson hcheck, hr] at hstays
    exact absurd hstays (by simp [Except.isOk, Except.toBool])

end Document
end Flowgraph
