import Flowgraph.Proofs.Shape

/-!
# Documents that leave and come back

A document leaves as data and is read again when it is needed.  What comes back is the document with
`null` for every number of its configurations and its free data that is not finite; and it comes
back exactly if its parts have the shape that reading asks for.  Whatever was read once has that
shape, and the rules of documents do not look at numbers, so a document that was accepted is
accepted again.

## Main definitions

* `Workflow.Shaped` and the like — a workflow, or a part of one, that can be read.
* `Document.finite` — the document that comes back.
* `Workflow.Alike` — two workflows are alike in everything that the rules look at.

## Main results

* `Shape.document_toJson` — a document comes back exactly if it has the shape of one.
* `Workflow.Coherent.of_alike` — what is like a workflow that keeps all rules keeps them too.
* `Document.check_toJson` — **an accepted document is accepted again, as it comes back.**
* `Document.serialize_eq_ok` — which documents can leave.
-/

namespace Flowgraph

/-! ### Finite values -/

namespace Json

mutual

theorem isFinite_finite : ∀ v : Json, v.finite.IsFinite
  | null => trivial
  | bool _ => trivial
  | int _ => trivial
  | float x => by
    rw [finite]
    split
    · assumption
    · trivial
  | str _ => trivial
  | arr items => allFinite_finiteItems items
  | obj fields => allFieldsFinite_finiteFields fields

theorem allFinite_finiteItems : ∀ items : List Json, AllFinite (finiteItems items)
  | [] => trivial
  | item :: items => ⟨isFinite_finite item, allFinite_finiteItems items⟩

theorem allFieldsFinite_finiteFields :
    ∀ fields : List (String × Json), AllFieldsFinite (finiteFields fields)
  | [] => trivial
  | (_, value) :: fields => ⟨isFinite_finite value, allFieldsFinite_finiteFields fields⟩

end

@[simp] theorem finiteFields_finiteFields (fields : Fields) :
    finiteFields (finiteFields fields) = finiteFields fields :=
  finiteFields_eq_self _ (allFieldsFinite_finiteFields fields)

theorem get?_finiteFields (name : String) : ∀ fields : Fields,
    Fields.get? (finiteFields fields) name = (Fields.get? fields name).map finite := by
  intro fields
  induction fields with
  | nil => rfl
  | cons field fields ih =>
    obtain ⟨key, value⟩ := field
    rw [finiteFields, Fields.get?_cons, Fields.get?_cons, ih]
    split <;> rfl

theorem names_finiteFields : ∀ fields : Fields,
    Fields.names (finiteFields fields) = Fields.names fields := by
  intro fields
  induction fields with
  | nil => rfl
  | cons field fields ih =>
    obtain ⟨key, value⟩ := field
    exact congrArg (key :: ·) ih

mutual

/-- The limits of free data do not depend on its numbers. -/
theorem checkFree_finite (encoded : Bool) : ∀ (levels : ℕ) (v : Json),
    checkFree encoded levels v.finite = checkFree encoded levels v
  | _, null => rfl
  | _, bool _ => rfl
  | _, int _ => rfl
  | _, float x => by
    rw [finite]
    split <;> rfl
  | _, str _ => rfl
  | levels, arr items => by
    rw [finite, checkFree, checkFree, checkFreeItems_finite encoded (levels - 1) items]
  | levels, obj fields => by
    rw [finite, checkFree, checkFree, checkFreeFields_finite encoded (levels - 1) fields]

theorem checkFreeItems_finite (encoded : Bool) : ∀ (levels : ℕ) (items : List Json),
    checkFreeItems encoded levels (finiteItems items) = checkFreeItems encoded levels items
  | _, [] => rfl
  | levels, item :: items => by
    rw [finiteItems, checkFreeItems, checkFreeItems, checkFree_finite encoded levels item,
      checkFreeItems_finite encoded levels items]

theorem checkFreeFields_finite (encoded : Bool) : ∀ (levels : ℕ) (fields : List (String × Json)),
    checkFreeFields encoded levels (finiteFields fields) = checkFreeFields encoded levels fields
  | _, [] => rfl
  | levels, (name, value) :: fields => by
    rw [finiteFields, checkFreeFields, checkFreeFields, checkFree_finite encoded levels value,
      checkFreeFields_finite encoded levels fields]

end

end Json

/-- The node that comes back. -/
def Node.finite (n : Node) : Node :=
  { n with config := Json.finiteFields n.config }

/-- The workflow that comes back. -/
def Workflow.finite (w : Workflow) : Workflow :=
  { w with freeData := Json.finiteFields w.freeData, nodes := w.nodes.map Node.finite }

/-- The document that comes back. -/
def Document.finite (d : Document) : Document :=
  ⟨d.workflow.finite⟩

/-! ### Parts that can be read -/

/-- A text that may stand where one is required. -/
def Shape.IsText (s : String) : Prop :=
  Text.hasHalf s = false ∧ s.isEmpty = false

/-- A port that can be read. -/
@[mk_iff] structure Port.Shaped (p : Port) : Prop where
  /-- The name is a text. -/
  id : Shape.IsText p.id
  /-- So is the name for people. -/
  label : Shape.IsText p.label
  /-- So is the tag. -/
  schema : Shape.IsText p.schema

/-- A drawing that can be read. -/
@[mk_iff] structure Appearance.Shaped (a : Appearance) : Prop where
  /-- The icon is a text. -/
  icon : Shape.IsText a.icon
  /-- So is the colour. -/
  color : Shape.IsText a.color

/-- A node that can be read. -/
@[mk_iff] structure Node.Shaped (n : Node) : Prop where
  /-- The name is a text. -/
  id : Shape.IsText n.id
  /-- So is the name for people. -/
  name : Shape.IsText n.name
  /-- Every input can be read. -/
  inputs : ∀ p ∈ n.inputs, p.Shaped
  /-- Every output can be read. -/
  outputs : ∀ p ∈ n.outputs, p.Shaped
  /-- There is an output. -/
  outputs_ne_nil : n.outputs ≠ []
  /-- The names in the configuration are characters all through. -/
  config : Shape.hasPlainNames n.config = true
  /-- The drawing can be read. -/
  ui : n.ui.Shaped

/-- An end of an edge that can be read. -/
@[mk_iff] structure Endpoint.Shaped (e : Endpoint) : Prop where
  /-- The node is a text. -/
  nodeId : Shape.IsText e.nodeId
  /-- So is the port. -/
  portId : Shape.IsText e.portId

/-- An edge that can be read. -/
@[mk_iff] structure Edge.Shaped (e : Edge) : Prop where
  /-- The name is a text. -/
  id : Shape.IsText e.id
  /-- The beginning can be read. -/
  source : e.source.Shaped
  /-- So can the end. -/
  target : e.target.Shaped

/-- A workflow that can be read. -/
@[mk_iff] structure Workflow.Shaped (w : Workflow) : Prop where
  /-- The name is made of characters all through. -/
  id_plain : Text.hasHalf w.id = false
  /-- The name has the form of one. -/
  id_form : Shape.isWorkflowId w.id = true
  /-- The name for people is a text. -/
  name : Shape.IsText w.name
  /-- So is the description. -/
  description : Shape.IsText w.description
  /-- So is the name of the entry node. -/
  entryNodeId : Shape.IsText w.entryNodeId
  /-- Every node can be read. -/
  nodes : ∀ n ∈ w.nodes, n.Shaped
  /-- There is a node. -/
  nodes_ne_nil : w.nodes ≠ []
  /-- Every edge can be read. -/
  edges : ∀ e ∈ w.edges, e.Shaped

namespace Shape

/-! ### Reading a part that left -/

theorem plainText_eq_ok {α : Type} {check : String → Checked α} {cause : Cause} {v : Json} {a : α} :
    plainText check cause v = .ok a ↔
      ∃ t, v = .str t ∧ Text.hasHalf t = false ∧ check t = .ok a := by
  cases v with
  | str t => cases hhalf : Text.hasHalf t <;> simp [plainText, hhalf, Checked.fail]
  | _ => simp [plainText, Checked.fail]

theorem nonEmptyText_eq_ok {v : Json} {s : String} :
    nonEmptyText v = .ok s ↔ v = .str s ∧ IsText s := by
  rw [nonEmptyText, plainText_eq_ok]
  constructor
  · rintro ⟨t, rfl, hhalf, hcheck⟩
    by_cases hempty : t.isEmpty
    · simp [hempty, Checked.fail] at hcheck
    · obtain rfl : t = s := by simpa [hempty] using hcheck
      exact ⟨rfl, hhalf, by simpa using hempty⟩
  · rintro ⟨rfl, hhalf, hempty⟩
    exact ⟨s, rfl, hhalf, by simp [hempty]⟩

theorem workflowId_eq_ok {v : Json} {s : String} :
    workflowId v = .ok s ↔ v = .str s ∧ Text.hasHalf s = false ∧ isWorkflowId s = true := by
  rw [workflowId, plainText_eq_ok]
  constructor
  · rintro ⟨t, rfl, hhalf, hcheck⟩
    by_cases hform : isWorkflowId t = true
    · obtain rfl : t = s := by simpa [hform] using hcheck
      exact ⟨rfl, hhalf, hform⟩
    · simp [hform, Checked.fail] at hcheck
  · rintro ⟨rfl, hhalf, hform⟩
    exact ⟨s, rfl, hhalf, by simp [hform]⟩

theorem text_eq_ok {v : Json} {s : String} : text v = .ok s ↔ v = .str s := by
  cases v <;> simp [text, Checked.fail]

theorem object_eq_ok {v : Json} {fields : Fields} : object v = .ok fields ↔ v = .obj fields := by
  cases v <;> simp [object, Checked.fail]

theorem nodeType_name (type : NodeType) : nodeType (.str type.name) = .ok type := by
  cases type <;> rfl

theorem coordinate_toJson (c : Coordinate) : coordinate c.toJson = .ok c := by
  cases c <;> rfl

theorem optionalText_ofOption (s? : Option String) : optionalText (.ofOption s?) = .ok s? := by
  cases s? <;> rfl

section Lists

variable {α : Type} {item : Json → Checked α} {write : α → Json} {good : α → Prop} {back : α → α}

/-- A list comes back exactly if all its items do. -/
theorem list_toJson (h : ∀ a b, item (write a) = .ok b ↔ good a ∧ back a = b) :
    ∀ {items values : List α}, list item (.arr (items.map write)) = .ok values ↔
      (∀ a ∈ items, good a) ∧ items.map back = values := by
  intro items
  induction items with
  | nil => intro values; simp [list, Checked.all]
  | cons a items ih =>
    intro values
    simp only [list_eq_ok, Json.arr.injEq, exists_eq_left', List.map_cons,
      List.forall₂_cons_left_iff, h, List.forall_mem_cons] at ih ⊢
    constructor
    · rintro ⟨b, rest, ⟨hgood, rfl⟩, hrest, rfl⟩
      obtain ⟨hall, rfl⟩ := ih.mp hrest
      exact ⟨⟨hgood, hall⟩, rfl⟩
    · rintro ⟨⟨hgood, hall⟩, rfl⟩
      exact ⟨_, _, ⟨hgood, rfl⟩, ih.mpr ⟨hall, rfl⟩, rfl⟩

theorem nonEmptyList_toJson (h : ∀ a b, item (write a) = .ok b ↔ good a ∧ back a = b)
    {items values : List α} : nonEmptyList item (.arr (items.map write)) = .ok values ↔
      ((∀ a ∈ items, good a) ∧ items ≠ []) ∧ items.map back = values := by
  rw [nonEmptyList_eq_ok, list_toJson h]
  constructor
  · rintro ⟨⟨hall, rfl⟩, hne⟩
    exact ⟨⟨hall, fun hnil => hne (by rw [hnil]; rfl)⟩, rfl⟩
  · rintro ⟨⟨hall, hne⟩, rfl⟩
    exact ⟨⟨hall, rfl⟩, fun hnil => hne (List.map_eq_nil_iff.mp hnil)⟩

end Lists

theorem port_toJson (p q : Port) : port p.toJson = .ok q ↔ p.Shaped ∧ p = q := by
  obtain ⟨id, label, schema⟩ := p
  simp [Port.toJson, port, part, fieldNamed, Checked.seq_eq_ok, Checked.map_eq_ok, field_eq_ok,
    nonEmptyText_eq_ok, Port.shaped_iff, and_assoc]

theorem position_toJson (p : Position) : position p.toJson = .ok p := by
  simp [Position.toJson, position, part, Checked.seq_eq_ok, Checked.map_eq_ok, field_eq_ok,
    coordinate_toJson]

theorem appearance_toJson (a b : Appearance) : appearance a.toJson = .ok b ↔ a.Shaped ∧ a = b := by
  obtain ⟨icon, color⟩ := a
  simp [Appearance.toJson, appearance, part, Checked.seq_eq_ok, Checked.map_eq_ok, field_eq_ok,
    nonEmptyText_eq_ok, Appearance.shaped_iff, and_assoc]

theorem hasPlainNames_finite (fields : Fields) :
    hasPlainNames (Json.finiteFields fields) = hasPlainNames fields := by
  rw [hasPlainNames, Json.names_finiteFields, hasPlainNames]

theorem node_toJson (n m : Node) : node n.toJson = .ok m ↔ n.Shaped ∧ n.finite = m := by
  obtain ⟨id, type, name, position, inputs, outputs, config, ui⟩ := n
  simp only [Node.toJson, node, part, Checked.fitting_eq_ok, Checked.seq_eq_ok, Checked.map_eq_ok,
    field_eq_ok, Node.shaped_iff, Node.finite]
  simp only [↓existsAndEq, Json.finite, Fields.get?_cons, ↓reduceIte, Option.some.injEq,
    nonEmptyText_eq_ok, exists_eq_left', Json.str.injEq, and_true, String.reduceEq, nodeType_name,
    Checked.ok.injEq, position_toJson, list_toJson port_toJson, List.map_id_fun', id_eq,
    nonEmptyList_toJson port_toJson, ne_eq, object_eq_ok, Json.obj.injEq,
    appearance_toJson, true_and, exists_and_left]
  -- the names of the configuration are looked at last, and are the names that it left with
  constructor
  · rintro ⟨⟨⟨⟨⟨hid, hname⟩, hinputs⟩, houtputs, hne⟩, hui, rfl⟩, hplain⟩
    exact ⟨⟨hid, hname, hinputs, houtputs, hne, hasPlainNames_finite config ▸ hplain, hui⟩, rfl⟩
  · rintro ⟨⟨hid, hname, hinputs, houtputs, hne, hplain, hui⟩, rfl⟩
    exact ⟨⟨⟨⟨⟨hid, hname⟩, hinputs⟩, houtputs, hne⟩, hui, rfl⟩,
      (hasPlainNames_finite config).trans hplain⟩

theorem endpoint_toJson (e f : Endpoint) : endpoint e.toJson = .ok f ↔ e.Shaped ∧ e = f := by
  obtain ⟨nodeId, portId⟩ := e
  simp [Endpoint.toJson, endpoint, part, Checked.seq_eq_ok, Checked.map_eq_ok, field_eq_ok,
    nonEmptyText_eq_ok, Endpoint.shaped_iff, and_assoc]

theorem edge_toJson (e f : Edge) : edge e.toJson = .ok f ↔ e.Shaped ∧ e = f := by
  obtain ⟨id, source, target, label, condition⟩ := e
  simp [Edge.toJson, edge, part, fieldOr, Checked.seq_eq_ok, Checked.map_eq_ok, field_eq_ok,
    Checked.under_eq_ok, nonEmptyText_eq_ok, endpoint_toJson, optionalText_ofOption,
    Edge.shaped_iff, and_assoc]

theorem text_toJson (s t : String) : text (.str s) = .ok t ↔ True ∧ s = t := by
  simp [text_eq_ok]

theorem workflow_toJson (w u : Workflow) :
    workflow w.toJson = .ok u ↔ w.Shaped ∧ w.finite = u := by
  simp [Workflow.toJson, workflow, part, fieldOr, Checked.seq_eq_ok, Checked.map_eq_ok, field_eq_ok,
    Checked.under_eq_ok, nonEmptyText_eq_ok, workflowId_eq_ok, Json.strs, list_toJson text_toJson,
    nonEmptyList_toJson node_toJson, list_toJson edge_toJson, object_eq_ok, Workflow.shaped_iff,
    Json.finite, Workflow.finite, and_assoc]

/-- **A document comes back exactly if it has the shape of one**, and then with finite numbers. -/
theorem document_toJson (d e : Document) :
    document d.toJson = .ok e ↔ d.workflow.Shaped ∧ d.finite = e := by
  have hversion : oneOf [schemaVersion] (.str schemaVersion) = .ok schemaVersion := rfl
  simp [Document.toJson, document, part, Checked.seq_eq_ok, Checked.map_eq_ok, field_eq_ok,
    workflow_toJson, hversion, Document.finite]

/-! ### What was read -/

section Read

variable {fields : Fields} {name second : String}

theorem isText_of_field {s : String} (h : field fields name nonEmptyText = .ok s) : IsText s := by
  obtain ⟨v, -, hread⟩ := field_eq_ok.mp h
  exact (nonEmptyText_eq_ok.mp hread).2

theorem isText_of_fieldNamed {s : String} (h : fieldNamed fields name second nonEmptyText = .ok s) :
    IsText s := by
  unfold fieldNamed at h
  split at h
  · exact (nonEmptyText_eq_ok.mp (Checked.under_eq_ok.mp h)).2
  · exact isText_of_field h

variable {α : Type} {item : Json → Checked α} {good : α → Prop}

theorem forall_of_list (h : ∀ v a, item v = .ok a → good a) {v : Json} {values : List α}
    (hlist : list item v = .ok values) : ∀ a ∈ values, good a := by
  intro a ha
  obtain ⟨_, -, i, -, hi⟩ := exists_of_mem_list hlist ha
  exact h i a hi

end Read

theorem shaped_of_port {v : Json} {p : Port} (h : port v = .ok p) : p.Shaped := by
  obtain ⟨fields, -, hfields⟩ := part_eq_ok.mp h
  simp only [Checked.seq_eq_ok, Checked.map_eq_ok] at hfields
  obtain ⟨_, schema, ⟨_, label, ⟨id, hid, rfl⟩, hlabel, rfl⟩, hschema, rfl⟩ := hfields
  exact ⟨isText_of_field hid, isText_of_field hlabel, isText_of_fieldNamed hschema⟩

theorem shaped_of_appearance {v : Json} {a : Appearance} (h : appearance v = .ok a) :
    a.Shaped := by
  obtain ⟨fields, -, hfields⟩ := part_eq_ok.mp h
  simp only [Checked.seq_eq_ok, Checked.map_eq_ok] at hfields
  obtain ⟨_, color, ⟨icon, hicon, rfl⟩, hcolor, rfl⟩ := hfields
  exact ⟨isText_of_field hicon, isText_of_field hcolor⟩

theorem shaped_of_node {v : Json} {n : Node} (h : node v = .ok n) : n.Shaped := by
  obtain ⟨fields, -, hfields⟩ := part_eq_ok.mp h
  simp only [Checked.fitting_eq_ok, Checked.seq_eq_ok, Checked.map_eq_ok] at hfields
  obtain ⟨⟨_, ui, ⟨_, config, ⟨_, outputs, ⟨_, inputs, ⟨_, position, ⟨_, name, ⟨_, type,
    ⟨id, hid, rfl⟩, -, rfl⟩, hname, rfl⟩, -, rfl⟩, hinputs, rfl⟩, houtputs, rfl⟩, -, rfl⟩, hui,
    rfl⟩, hconfig⟩ := hfields
  obtain ⟨_, -, hinputs⟩ := field_eq_ok.mp hinputs
  obtain ⟨_, -, houtputs⟩ := field_eq_ok.mp houtputs
  obtain ⟨_, -, hui⟩ := field_eq_ok.mp hui
  obtain ⟨houtputs, hne⟩ := nonEmptyList_eq_ok.mp houtputs
  exact ⟨isText_of_field hid, isText_of_field hname,
    forall_of_list (fun _ _ => shaped_of_port) hinputs,
    forall_of_list (fun _ _ => shaped_of_port) houtputs, hne, hconfig, shaped_of_appearance hui⟩

theorem shaped_of_endpoint {v : Json} {e : Endpoint} (h : endpoint v = .ok e) : e.Shaped := by
  obtain ⟨fields, -, hfields⟩ := part_eq_ok.mp h
  simp only [Checked.seq_eq_ok, Checked.map_eq_ok] at hfields
  obtain ⟨_, portId, ⟨nodeId, hnode, rfl⟩, hport, rfl⟩ := hfields
  exact ⟨isText_of_field hnode, isText_of_field hport⟩

theorem shaped_of_edge {v : Json} {e : Edge} (h : edge v = .ok e) : e.Shaped := by
  obtain ⟨fields, -, hfields⟩ := part_eq_ok.mp h
  simp only [Checked.seq_eq_ok, Checked.map_eq_ok] at hfields
  obtain ⟨_, condition, ⟨_, label, ⟨_, target, ⟨_, source, ⟨id, hid, rfl⟩, hsource, rfl⟩, htarget,
    rfl⟩, -, rfl⟩, -, rfl⟩ := hfields
  obtain ⟨_, -, hsource⟩ := field_eq_ok.mp hsource
  obtain ⟨_, -, htarget⟩ := field_eq_ok.mp htarget
  exact ⟨isText_of_field hid, shaped_of_endpoint hsource, shaped_of_endpoint htarget⟩

theorem shaped_of_workflow {v : Json} {w : Workflow} (h : workflow v = .ok w) : w.Shaped := by
  obtain ⟨fields, -, hfields⟩ := part_eq_ok.mp h
  simp only [Checked.seq_eq_ok, Checked.map_eq_ok] at hfields
  obtain ⟨_, edges, ⟨_, nodes, ⟨_, freeData, ⟨_, entryNodeId, ⟨_, tags, ⟨_, description, ⟨_, name,
    ⟨id, hid, rfl⟩, hname, rfl⟩, hdescription, rfl⟩, -, rfl⟩, hentry, rfl⟩, -, rfl⟩, hnodes, rfl⟩,
    hedges, rfl⟩ := hfields
  obtain ⟨_, -, hid⟩ := field_eq_ok.mp hid
  obtain ⟨_, -, hnodes⟩ := field_eq_ok.mp hnodes
  obtain ⟨_, -, hedges⟩ := field_eq_ok.mp hedges
  obtain ⟨-, hplain, hform⟩ := workflowId_eq_ok.mp hid
  obtain ⟨hnodes, hne⟩ := nonEmptyList_eq_ok.mp hnodes
  exact ⟨hplain, hform, isText_of_field hname, isText_of_field hdescription, isText_of_field hentry,
    forall_of_list (fun _ _ => shaped_of_node) hnodes, hne,
    forall_of_list (fun _ _ => shaped_of_edge) hedges⟩

end Shape

/-! ### The rules -/

/-- A node is like another one in everything that the rules look at. -/
structure Node.Alike (n m : Node) : Prop where
  /-- The name by which edges refer to it. -/
  id : m.id = n.id
  /-- The kind. -/
  type : m.type = n.type
  /-- The inputs. -/
  inputs : m.inputs = n.inputs
  /-- The outputs. -/
  outputs : m.outputs = n.outputs
  /-- The output that its configuration names as the default. -/
  defaultOutput : ∀ port, n.config.get? "default_output" = some (.str port) →
    m.config.get? "default_output" = some (.str port)

theorem Node.alike_refl (n : Node) : n.Alike n :=
  ⟨rfl, rfl, rfl, rfl, fun _ h => h⟩

theorem Node.Fits.of_alike {n m : Node} (h : n.Fits) (hlike : n.Alike m) : m.Fits where
  inputs := by
    rw [Node.isTrigger, hlike.type, hlike.inputs]
    exact h.inputs
  inputIds := by
    rw [Node.inputIds, hlike.inputs]
    exact h.inputIds
  outputIds := by
    rw [Node.outputIds, hlike.outputs]
    exact h.outputIds
  branch := by
    intro htype
    obtain ⟨htwo, port, hport, hdefault⟩ := h.branch (hlike.type.symm.trans htype)
    rw [Node.outputIds, hlike.outputs]
    exact ⟨htwo, port, hport, hlike.defaultOutput port hdefault⟩

/-- A workflow is like another one in everything that the rules look at. -/
structure Workflow.Alike (w w' : Workflow) : Prop where
  /-- The nodes are alike, one by one. -/
  nodes : List.Forall₂ Node.Alike w.nodes w'.nodes
  /-- The edges are the same. -/
  edges : w'.edges = w.edges
  /-- So is the node at which a run begins. -/
  entryNodeId : w'.entryNodeId = w.entryNodeId

namespace Workflow

variable {w w' : Workflow}

theorem Alike.nodeIds (h : w.Alike w') : w'.nodeIds = w.nodeIds := by
  have hnodes := h.nodes
  rw [Workflow.nodeIds, Workflow.nodeIds]
  generalize w.nodes = nodes at hnodes
  generalize w'.nodes = nodes' at hnodes
  induction hnodes with
  | nil => rfl
  | cons hlike _ ih => rw [List.map_cons, List.map_cons, hlike.id, ih]

theorem Alike.exists_alike (h : w.Alike w') {n : Node} (hn : n ∈ w.nodes) :
    ∃ m ∈ w'.nodes, n.Alike m := by
  have hnodes := h.nodes
  generalize w.nodes = nodes at hnodes hn
  generalize w'.nodes = nodes' at hnodes
  induction hnodes with
  | nil => exact absurd hn List.not_mem_nil
  | cons hlike _ ih =>
    rcases List.mem_cons.mp hn with rfl | hn
    · exact ⟨_, List.mem_cons_self, hlike⟩
    · obtain ⟨m, hm, hlike⟩ := ih hn
      exact ⟨m, List.mem_cons_of_mem _ hm, hlike⟩

theorem Alike.exists_like (h : w.Alike w') {m : Node} (hm : m ∈ w'.nodes) :
    ∃ n ∈ w.nodes, n.Alike m := by
  have hnodes := h.nodes
  generalize w.nodes = nodes at hnodes
  generalize w'.nodes = nodes' at hnodes hm
  induction hnodes with
  | nil => exact absurd hm List.not_mem_nil
  | cons hlike _ ih =>
    rcases List.mem_cons.mp hm with rfl | hm
    · exact ⟨_, List.mem_cons_self, hlike⟩
    · obtain ⟨n, hn, hlike⟩ := ih hm
      exact ⟨n, List.mem_cons_of_mem _ hn, hlike⟩

theorem Alike.leads (h : w.Alike w') : w'.Leads = w.Leads := by
  funext a b
  rw [Leads, Leads, h.nodeIds, h.edges]

theorem Joins.of_alike {e : Edge} (hjoins : w.Joins e) (h : w.Alike w') : w'.Joins e := by
  obtain ⟨n, hn, hid, hport⟩ := hjoins.source
  obtain ⟨m, hm, hid', hport'⟩ := hjoins.target
  obtain ⟨n', hn', hlike⟩ := h.exists_alike hn
  obtain ⟨m', hm', hlike'⟩ := h.exists_alike hm
  refine ⟨⟨n', hn', hlike.id.trans hid, ?_⟩, ⟨m', hm', hlike'.id.trans hid', ?_⟩⟩
  · rwa [Node.outputIds, hlike.outputs]
  · rwa [Node.inputIds, hlike'.inputs]

/-- A workflow that is like one that keeps all rules keeps them too. -/
theorem Coherent.of_alike (hcoherent : w.Coherent) (h : w.Alike w') : w'.Coherent where
  trigger := by
    obtain ⟨t, ht, hentry⟩ := hcoherent.trigger
    have htriggers : List.Forall₂ Node.Alike w.triggers w'.triggers := by
      refine List.rel_filter (fun n m hlike => ?_) h.nodes
      simp only [Node.isTrigger, hlike.type]
    rw [ht, List.forall₂_cons_left_iff] at htriggers
    obtain ⟨t', rest, hlike, hrest, htriggers⟩ := htriggers
    obtain rfl := List.forall₂_nil_left_iff.mp hrest
    exact ⟨t', htriggers, by rw [h.entryNodeId, hentry, hlike.id]⟩
  nodes := by
    intro m hm
    obtain ⟨n, hn, hlike⟩ := h.exists_like hm
    exact (hcoherent.nodes n hn).of_alike hlike
  nodeIds := by
    rw [h.nodeIds]
    exact hcoherent.nodeIds
  edges := by
    intro e he
    rw [h.edges] at he
    exact (hcoherent.edges e he).of_alike h
  edgeIds := by
    rw [h.edges]
    exact hcoherent.edgeIds
  acyclic := by
    rw [Acyclic, h.leads]
    exact hcoherent.acyclic

/-- The rules do not look at numbers. -/
theorem alike_finite (w : Workflow) : w.Alike w.finite := by
  refine ⟨?_, rfl, rfl⟩
  rw [finite, List.forall₂_map_right_iff, List.forall₂_same]
  refine fun n _ => ⟨rfl, rfl, rfl, rfl, fun port hdefault => ?_⟩
  rw [Node.finite, Json.get?_finiteFields, hdefault]
  rfl

end Workflow

/-! ### Documents -/

namespace Document

variable {v : Json} {d e : Document}

/-- A document that comes back leaves as it left before. -/
@[simp] theorem toJson_finite (d : Document) : d.finite.toJson = d.toJson := by
  have hnode : Node.toJson ∘ Node.finite = Node.toJson := by
    funext n
    simp [Node.toJson, Node.finite, Json.finite]
  simp [toJson, Workflow.toJson, finite, Workflow.finite, Json.finite, hnode]

theorem read_toJson : read d.toJson = .ok e ↔ d.workflow.Shaped ∧ d.finite = e := by
  rw [← Shape.document_toJson]
  exact Checked.report_eq_ok

theorem shaped_of_read (h : read v = .ok d) : d.workflow.Shaped := by
  obtain ⟨_, hdocument⟩ := document_of_read h
  obtain ⟨_, hworkflow⟩ := Shape.workflow_of_document hdocument
  exact Shape.shaped_of_workflow hworkflow

/-- **An accepted document is accepted again, as it comes back.** -/
theorem check_toJson (h : check v = .ok d) : check d.toJson = .ok d.finite := by
  obtain ⟨hread, hcoherent⟩ := check_eq_ok_iff.mp h
  exact check_eq_ok_iff.mpr ⟨read_toJson.mpr ⟨shaped_of_read hread, rfl⟩,
    hcoherent.of_alike d.workflow.alike_finite⟩

/-- Where a document is accepted as it leaves, it comes back with finite numbers. -/
theorem eq_finite_of_check_toJson (h : check d.toJson = .ok e) : e = d.finite := by
  obtain ⟨hread, -⟩ := check_eq_ok_iff.mp h
  exact (read_toJson.mp hread).2.symm

/-! ### Documents that leave -/

/-- The free data of a document keeps the limits of outgoing data. -/
structure CanLeave (d : Document) : Prop where
  /-- The free data of the workflow does. -/
  freeData : Json.checkFreeFields false Json.maxLevels d.workflow.freeData = .ok ()
  /-- So does the configuration of every node. -/
  configs : ∀ n ∈ d.workflow.nodes, Json.checkFreeFields false Json.maxLevels n.config = .ok ()

theorem checkConfigs_eq_ok : ∀ {nodes : List Node}, checkConfigs nodes = .ok () ↔
    ∀ n ∈ nodes, Json.checkFreeFields false Json.maxLevels n.config = .ok () := by
  intro nodes
  induction nodes with
  | nil => simp [checkConfigs]
  | cons n nodes ih =>
    rw [checkConfigs, List.forall_mem_cons, ← ih]
    cases Json.checkFreeFields false Json.maxLevels n.config <;> simp [bind, Except.bind]

/-- A document leaves exactly if its free data keeps the limits. -/
theorem serialize_eq_ok {j : Json} : d.serialize = .ok j ↔ d.CanLeave ∧ d.toJson = j := by
  have hleave : d.CanLeave ↔
      Json.checkFreeFields false Json.maxLevels d.workflow.freeData = .ok () ∧
        checkConfigs d.workflow.nodes = .ok () := by
    rw [checkConfigs_eq_ok]
    exact ⟨fun h => ⟨h.freeData, h.configs⟩, fun h => ⟨h.1, h.2⟩⟩
  rw [hleave, serialize]
  cases Json.checkFreeFields false Json.maxLevels d.workflow.freeData <;>
    cases checkConfigs d.workflow.nodes <;> simp [bind, Except.bind, pure, Except.pure]

theorem CanLeave.serialize (h : d.CanLeave) : d.serialize = .ok d.toJson :=
  serialize_eq_ok.mpr ⟨h, rfl⟩

/-- What can leave can leave again when it has come back. -/
theorem CanLeave.finite (h : d.CanLeave) : d.finite.CanLeave := by
  refine ⟨(Json.checkFreeFields_finite false _ _).trans h.freeData, fun n hn => ?_⟩
  obtain ⟨m, hm, rfl⟩ := List.mem_map.mp hn
  exact (Json.checkFreeFields_finite false _ _).trans (h.configs m hm)

end Document
end Flowgraph
