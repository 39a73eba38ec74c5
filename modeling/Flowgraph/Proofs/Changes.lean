import Flowgraph.Proofs.Commands
import Flowgraph.Proofs.Edits
import Flowgraph.Proofs.Recheck

/-!
# What edits change

A command changes one thing: the name of a node, a node and the edges at it, an edge, or a node and
the edge that leads to it.  What it is that has changed is said here without the functions that
change it, by the parts of the lists of nodes and edges; all that is not named there is the same.

An edit works on a document as it leaves, and gives the changed document as that comes back.  Where
all numbers are finite, nothing is lost on this way.

## Main definitions

* `Workflow.Continues` — an edge leads on from a node.
* `EditCommand.newNode?` — the node that a command adds.
* `EditCommand.Changes` — what a command makes of a workflow.

## Main results

* `Workflow.terminal?_of_coherent` — there is a node from which no edge leads on.
* `EditCommand.changes_of_apply` — a command does nothing else.
* `Document.changes_of_edit` — **nor does an edit, and one that is refused gives no document.**
-/

/-- A list stays as it is under a function exactly if all its members do. -/
theorem List.map_eq_self_iff {α : Type} {f : α → α} {l : List α} :
    l.map f = l ↔ ∀ a ∈ l, f a = a := by
  have hid : l.map f = l.map id ↔ ∀ a ∈ l, f a = id a := List.map_inj_left
  rwa [List.map_id] at hid

namespace Flowgraph

namespace Workflow

variable {w : Workflow}

/-- An edge leads on from the node of a name. -/
def Continues (w : Workflow) (id : String) : Prop :=
  ∃ e ∈ w.edges, e.source.nodeId = id

theorem continues_iff {id : String} :
    w.Continues id ↔ (w.edges.map fun e => e.source.nodeId).contains id = true := by
  simp [Continues]

/-- In a workflow that keeps all rules there is a node from which no edge leads on, and the first of
them is where new nodes are put. -/
theorem terminal?_of_coherent (h : w.Coherent) (hne : w.nodes ≠ []) :
    ∃ before source after, w.nodes = before ++ source :: after ∧
      (∀ n ∈ before, w.Continues n.id) ∧ ¬ w.Continues source.id ∧ w.terminal? = some source := by
  have hids : w.nodeIds ≠ [] := fun hnil => hne (List.map_eq_nil_iff.mp hnil)
  obtain ⟨id, hid, hlast⟩ := Schedule.exists_last_of_acyclic h.acyclic hids
  obtain ⟨n, hn, rfl⟩ := mem_nodeIds.mp hid
  -- an edge from this node would lead to one of the nodes
  have hends : ¬ w.Continues n.id := by
    rintro ⟨e, he, hsource⟩
    obtain ⟨m, hm, htarget, -⟩ := (h.edges e he).target
    exact hlast m.id ⟨e, he, hsource, htarget.symm, hid, mem_nodeIds_of_mem hm⟩
  have hfound : (w.nodes.find? fun node =>
      !(w.edges.map fun e => e.source.nodeId).contains node.id).isSome = true := by
    rw [List.find?_isSome]
    exact ⟨n, hn, by simpa [continues_iff] using hends⟩
  obtain ⟨source, hsource⟩ := Option.isSome_iff_exists.mp hfound
  obtain ⟨hopen, before, after, hnodes, hbefore⟩ := List.find?_eq_some_iff_append.mp hsource
  refine ⟨before, source, after, hnodes, fun m hm => ?_, ?_, ?_⟩
  · rw [continues_iff]
    simpa using hbefore m hm
  · rw [continues_iff]
    simpa using hopen
  · rw [terminal?, hsource, Option.some_or]

/-- Where names are unique, only one node is taken out. -/
theorem without_eq (h : w.nodeIds.Nodup) {before after : List Node} {node : Node}
    (hnodes : w.nodes = before ++ node :: after) : w.without node.id = { w with
      nodes := before ++ after
      edges := w.edges.filter fun e =>
        e.source.nodeId != node.id && e.target.nodeId != node.id } := by
  rw [nodeIds, hnodes, List.map_append, List.map_cons, List.nodup_middle, List.nodup_cons,
    ← List.map_append] at h
  have hothers : ∀ other ∈ before ++ after, other.id ≠ node.id := fun other hother hid =>
    h.1 (hid ▸ List.mem_map_of_mem hother)
  have hkept : (before ++ after).filter (fun other => other.id != node.id) = before ++ after :=
    List.filter_eq_self.mpr fun other hother => by simpa using hothers other hother
  rw [without, hnodes, List.filter_append, List.filter_cons_of_neg (by simp),
    ← List.filter_append, hkept]

/-- A workflow with finite numbers is one whose free data and whose nodes have them. -/
theorem finite_eq_self_iff : w.finite = w ↔
    Json.finiteFields w.freeData = w.freeData ∧ ∀ n ∈ w.nodes, n.finite = n := by
  rw [← List.map_eq_self_iff]
  obtain ⟨_, _, _, _, _, freeData, nodes, _⟩ := w
  simp only [finite, mk.injEq, true_and, and_true]

end Workflow

/-! ### Changes -/

namespace EditCommand

/-- The node that a command adds. -/
def newNode? (command : EditCommand) (id : String) (position : Position) : Option Node :=
  match command with
  | addDelay seconds =>
    let node := NodeType.delay.fresh id position
    some { node with config := node.config.set "seconds" (.int seconds) }
  | add type => some (type.fresh id position)
  | _ => none

/-- What a command makes of a workflow. -/
inductive Changes (w : Workflow) : EditCommand → Workflow → Prop where
  /-- One node has another name. -/
  | renamed (ref name : String) (before after : List Node) (node : Node)
      (hfound : w.referred? ref = some node) (hnodes : w.nodes = before ++ node :: after) :
      Changes w (rename ref name)
        { w with nodes := before ++ { node with name := name } :: after }
  /-- One node is gone at which no run begins, and with it the edges from it and to it. -/
  | deleted (ref : String) (before after : List Node) (node : Node)
      (hfound : w.referred? ref = some node) (hnodes : w.nodes = before ++ node :: after)
      (hentry : node.id ≠ w.entryNodeId) :
      Changes w (delete ref) { w with
        nodes := before ++ after
        edges := w.edges.filter fun e =>
          e.source.nodeId != node.id && e.target.nodeId != node.id }
  /-- There is an edge more, between the first ports of two nodes. -/
  | connected (source target : String) (s t : Node) (e : Edge)
      (hsource : w.referred? source = some s) (htarget : w.referred? target = some t)
      (hedge : w.NewEdge s t e) :
      Changes w (connect source target) { w with edges := w.edges ++ [e] }
  /-- There is a node more, and an edge to it from the first node from which none led on. -/
  | added (command : EditCommand) (before after : List Node) (source node : Node) (id : String)
      (e : Edge) (hnodes : w.nodes = before ++ source :: after)
      (hbefore : ∀ n ∈ before, w.Continues n.id) (hsource : ¬ w.Continues source.id)
      (hid : nextId "n" w.nodeIds = .ok id)
      (hnode : command.newNode? id (Workflow.placeBehind source) = some node)
      (hedge : w.NewEdge source node e) :
      Changes w command { w with nodes := w.nodes ++ [node], edges := w.edges ++ [e] }

variable {command : EditCommand} {w w' : Workflow}

/-- A new node of a kind that is no trigger is joined. -/
theorem changes_of_append {type : NodeType} {adjust : Node → Node} (hcoherent : w.Coherent)
    (hshaped : w.Shaped) (htype : type.isTrigger = false)
    (hnew : ∀ id position, command.newNode? id position = some (adjust (type.fresh id position)))
    (hadjust : ∀ n, (adjust n).id = n.id ∧ (adjust n).inputs = n.inputs)
    (h : w.append type adjust = .ok w') : command.Changes w w' := by
  obtain ⟨before, source, after, hnodes, hbefore, hends, hterminal⟩ :=
    Workflow.terminal?_of_coherent hcoherent hshaped.nodes_ne_nil
  obtain ⟨id, edge?, hid, hjoining, rfl⟩ := (Workflow.append_eq_ok hterminal).mp h
  -- both nodes have ports
  have hsource : source ∈ w.nodes := hnodes ▸ List.mem_append_right _ List.mem_cons_self
  obtain ⟨output, outputs, houtputs⟩ :=
    List.exists_cons_of_ne_nil (hshaped.nodes source hsource).outputs_ne_nil
  have hinputs : (type.fresh id (Workflow.placeBehind source)).inputs ≠ [] := by
    have hempty := type.entry_inputs_isEmpty
    rw [htype] at hempty
    exact fun hnil => absurd hempty (by rw [show type.entry.inputs = [] from hnil]; decide)
  obtain ⟨input, inputs, hinputs⟩ := List.exists_cons_of_ne_nil hinputs
  cases edge? with
  | none =>
    rw [Workflow.joining?, houtputs, hinputs] at hjoining
    obtain ⟨_, -, hnone⟩ := Except.bind_eq_ok_iff.mp hjoining
    cases hnone
  | some e =>
    have hedge := Workflow.joining?_eq_ok.mp hjoining
    refine .added command before after source _ id e hnodes hbefore hends hid (hnew id _)
      ⟨hedge.id, hedge.source, ?_, hedge.label, hedge.condition⟩
    rw [(hadjust _).1, (hadjust _).2]
    exact hedge.target

/-- **A command does nothing else.** -/
theorem changes_of_apply (hcoherent : w.Coherent) (hshaped : w.Shaped)
    (hsensible : command.Sensible) (h : command.apply w = .ok (.ok w')) :
    command.Changes w w' := by
  have hmakes := apply_eq_ok.mp h
  cases command with
  | rename ref name =>
    cases hfound : w.referred? ref with
    | none =>
      rw [Makes, Workflow.rename?_eq_none hfound] at hmakes
      cases hmakes
    | some node =>
      obtain ⟨before, after, hnodes, hrenamed⟩ := Workflow.rename?_of_referred hfound name
      obtain rfl := Option.some.inj (hrenamed.symm.trans hmakes)
      exact .renamed ref name before after node hfound hnodes
  | delete ref =>
    obtain ⟨node, hfound, hentry, rfl⟩ := Workflow.delete?_eq_some.mp hmakes
    obtain ⟨before, after, hnodes⟩ := List.append_of_mem (List.mem_of_find?_eq_some hfound)
    rw [Workflow.without_eq hcoherent.nodeIds hnodes]
    exact .deleted ref before after node hfound hnodes hentry
  | connect source target =>
    obtain ⟨s, t, e, hsource, htarget, hedge, rfl⟩ := Workflow.connect?_eq_ok.mp hmakes
    exact .connected source target s t e hsource htarget hedge
  | addDelay seconds =>
    rw [Makes] at hmakes
    refine changes_of_append hcoherent hshaped rfl ?_ ?_ hmakes
    · exact fun _ _ => rfl
    · exact fun _ => ⟨rfl, rfl⟩
  | add type =>
    rw [Makes] at hmakes
    refine changes_of_append hcoherent hshaped hsensible ?_ ?_ hmakes
    · exact fun _ _ => rfl
    · exact fun _ => ⟨rfl, rfl⟩

/-! ### Finite numbers -/

/-- A new node has finite numbers. -/
theorem finite_of_newNode {id : String} {position : Position} {node : Node}
    (h : command.newNode? id position = some node) : node.finite = node := by
  cases command with
  | addDelay seconds =>
    obtain rfl := Option.some.inj h
    rfl
  | add type =>
    obtain rfl := Option.some.inj h
    cases type <;> rfl
  | _ => cases h

/-- A command brings no number that is not finite. -/
theorem Changes.finite (h : command.Changes w w') (hw : w.finite = w) : w'.finite = w' := by
  rw [Workflow.finite_eq_self_iff] at hw ⊢
  obtain ⟨hfree, hnodes⟩ := hw
  cases h with
  | renamed ref name before after node hfound hsplit =>
    refine ⟨hfree, fun n hn => ?_⟩
    simp only [hsplit, List.forall_mem_append, List.forall_mem_cons] at hnodes
    rcases List.mem_append.mp hn with hn | hn
    · exact hnodes.1 n hn
    · rcases List.mem_cons.mp hn with rfl | hn
      · have hsame : { node with name := name }.finite = { node.finite with name := name } := rfl
        rw [hsame, hnodes.2.1]
      · exact hnodes.2.2 n hn
  | deleted ref before after node hfound hsplit hentry =>
    refine ⟨hfree, fun n hn => hnodes n ?_⟩
    rw [hsplit]
    rcases List.mem_append.mp hn with hn | hn
    · exact List.mem_append_left _ hn
    · exact List.mem_append_right _ (List.mem_cons_of_mem _ hn)
  | connected => exact ⟨hfree, hnodes⟩
  | added command before after source node id e hsplit hbefore hsource hid hnode hedge =>
    refine ⟨hfree, fun n hn => ?_⟩
    rcases List.mem_append.mp hn with hn | hn
    · exact hnodes n hn
    · rw [List.mem_singleton.mp hn]
      exact finite_of_newNode hnode

end EditCommand

/-! ### Edits -/

/-- The document that an edit gives. -/
def Edited.document? (outcome : Except EditRefusal Edited) : Option Document :=
  outcome.toOption.map Edited.document

/-- A workflow is the same as another one but for its nodes and its edges. -/
structure Workflow.SameBeside (w w' : Workflow) : Prop where
  /-- The name in the store. -/
  id : w'.id = w.id
  /-- The name for people. -/
  name : w'.name = w.name
  /-- What it is for. -/
  description : w'.description = w.description
  /-- The tags. -/
  tags : w'.tags = w.tags
  /-- The node at which a run begins. -/
  entryNodeId : w'.entryNodeId = w.entryNodeId
  /-- The free data. -/
  freeData : w'.freeData = w.freeData

theorem EditCommand.Changes.sameBeside {command : EditCommand} {w w' : Workflow}
    (h : command.Changes w w') : w.SameBeside w' := by
  cases h <;> exact ⟨rfl, rfl, rfl, rfl, rfl, rfl⟩

namespace Document

variable {v : Json} {d : Document}

/-- **An edit changes what its command says and nothing else.**  An edit of an accepted document
that was read from finite data gives a document only if it is carried out, and then a command is
read off the text, and all that is different in the workflow is what this command changes. -/
theorem changes_of_edit (hv : FiniteData v) (h : check v = .ok d) (text : String)
    (outcome : Except EditRefusal Edited) (hedit : d.edit text = .ok outcome) :
    (∀ e, outcome = .ok e → ∃ command, EditCommand.read text = .ok (.ok command) ∧
      EditCommand.Changes d.workflow command e.document.workflow ∧
      d.workflow.SameBeside e.document.workflow) ∧
    ∀ refusal, outcome = .error refusal → Edited.document? outcome = none := by
  obtain ⟨hread, hcoherent⟩ := check_eq_ok_iff.mp h
  have hfinite : d.workflow.finite = d.workflow :=
    congrArg Document.workflow (finite_of_read hv hread)
  constructor
  · rintro e rfl
    obtain ⟨-, command, changed, hcommand, happly, hcheck⟩ := exists_of_edit hedit
    have hchanges := EditCommand.changes_of_apply hcoherent (shaped_of_read hread)
      (EditCommand.sensible_of_read hcommand) happly
    -- what comes back is what was changed
    have hback : e.document.workflow = changed := by
      rw [eq_finite_of_check_toJson hcheck]
      exact hchanges.finite hfinite
    rw [hback]
    exact ⟨command, hcommand, hchanges, hchanges.sameBeside⟩
  · rintro refusal rfl
    rfl

/-- The branch of the fork is removed. -/
theorem changes_of_edit_fork : ∃ e, edit ⟨Workflow.fork⟩ " Delete CONDITION " = .ok (.ok e) ∧
    EditCommand.Changes Workflow.fork (.delete "CONDITION") e.document.workflow ∧
    e.document.workflow.nodeIds = ["start", "wait"] := by
  have hread : EditCommand.read " Delete CONDITION " = .ok (.ok (.delete "CONDITION")) := by
    decide +kernel
  have hnodes : (edit ⟨Workflow.fork⟩ " Delete CONDITION ").toOption.bind
      (fun outcome => outcome.toOption.map fun e => e.document.workflow.nodeIds) =
        some ["start", "wait"] := by
    decide +kernel
  rcases hedit : edit ⟨Workflow.fork⟩ " Delete CONDITION " with fault | refusal | e
  · simp [hedit, Except.toOption] at hnodes
  · simp [hedit, Except.toOption] at hnodes
  · obtain ⟨hok, -⟩ := changes_of_edit finiteData_fork check_fork _ _ hedit
    obtain ⟨command, hcommand, hchanges, -⟩ := hok e rfl
    obtain rfl := Except.ok.inj (Except.ok.inj (hread.symm.trans hcommand))
    exact ⟨e, rfl, hchanges, by simpa [hedit, Except.toOption] using hnodes⟩

end Document
end Flowgraph
