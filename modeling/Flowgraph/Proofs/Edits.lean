import Flowgraph.Edit.Change
import Flowgraph.Proofs.Roundtrip

/-!
# What edits leave alone

A command changes the nodes and edges of a workflow and nothing else of it, and no command brings a
configuration that could not leave.  So the outcome of an edit goes by the name of the workflow that
was edited, it keeps all rules, it can leave, and it comes back as it is.

## Main definitions

* `Workflow.Revised` — what stays of a workflow in a changed one.
* `Workflow.without`, `Workflow.NewEdge` — a workflow without a node, and an edge that is put in.
* `EditCommand.Makes` — what is made of a workflow by the change that a command stands for.

## Main results

* `Workflow.rename?_of_referred`, `Workflow.delete?_eq_some`, `Workflow.connect?_eq_ok` and
  `Workflow.append_eq_ok` — what each change makes.
* `EditCommand.revised_of_apply` — every command leaves these things alone.
* `Document.edit_eq_ok` — **what an edit gives.**
-/

namespace Flowgraph

/-- A workflow is a changed one of another: its name and its free data are the same, and every
configuration is one of the other's or can leave. -/
structure Workflow.Revised (w w' : Workflow) : Prop where
  /-- The name is the same. -/
  id : w'.id = w.id
  /-- So is the free data. -/
  freeData : w'.freeData = w.freeData
  /-- No configuration is new, unless it can leave. -/
  configs : ∀ n ∈ w'.nodes, (∃ m ∈ w.nodes, n.config = m.config) ∨
    Json.checkFreeFields false Json.maxLevels n.config = .ok ()

namespace Workflow

variable {w w' : Workflow}

/-! ### What each command does -/

theorem renameFirst_eq {fits : Node → Bool} {name : String} {node : Node} :
    ∀ {before after : List Node}, (∀ n ∈ before, fits n = false) → fits node = true →
      renameFirst fits name (before ++ node :: after) =
        before ++ { node with name := name } :: after := by
  intro before after hbefore hnode
  induction before with
  | nil => rw [List.nil_append, renameFirst, if_pos hnode, List.nil_append]
  | cons first before ih =>
    have hfirst : ¬ fits first = true := by simp [hbefore first List.mem_cons_self]
    rw [List.cons_append, renameFirst, if_neg hfirst,
      ih fun n hn => hbefore n (List.mem_cons_of_mem first hn), List.cons_append]

/-- Another name is given to the node that is referred to. -/
theorem rename?_of_referred {ref : String} {node : Node} (h : w.referred? ref = some node)
    (name : String) :
    ∃ before after, w.nodes = before ++ node :: after ∧ w.rename? ref name =
      some { w with nodes := before ++ { node with name := name } :: after } := by
  obtain ⟨hfits, before, after, hnodes, hbefore⟩ := List.find?_eq_some_iff_append.mp h
  refine ⟨before, after, hnodes, ?_⟩
  rw [rename?, if_pos (List.any_eq_true.mpr ⟨node, List.mem_of_find?_eq_some h, hfits⟩), hnodes,
    renameFirst_eq (fun n hn => by simpa using hbefore n hn) hfits]

theorem rename?_eq_none {ref name : String} (h : w.referred? ref = none) :
    w.rename? ref name = none := by
  refine if_neg fun hany => ?_
  obtain ⟨node, hnode, hfits⟩ := List.any_eq_true.mp hany
  exact List.find?_eq_none.mp h node hnode hfits

/-- The workflow without a node and the edges at it. -/
def without (w : Workflow) (id : String) : Workflow :=
  { w with
    nodes := w.nodes.filter fun node => node.id != id
    edges := w.edges.filter fun e => e.source.nodeId != id && e.target.nodeId != id }

/-- The node that is referred to is removed, unless a run begins there. -/
theorem delete?_eq_some {ref : String} : w.delete? ref = some w' ↔
    ∃ node, w.referred? ref = some node ∧ node.id ≠ w.entryNodeId ∧ w.without node.id = w' := by
  unfold delete?
  cases w.referred? ref with
  | none => simp
  | some node => simp [without]

/-- An edge from the first output of a node to the first input of another one, under the next
name. -/
structure NewEdge (w : Workflow) (source target : Node) (e : Edge) : Prop where
  /-- The name. -/
  id : nextId "e" w.edgeIds = .ok e.id
  /-- The beginning. -/
  source : ∃ output, source.outputs.head? = some output ∧ e.source = ⟨source.id, output.id⟩
  /-- The end. -/
  target : ∃ input, target.inputs.head? = some input ∧ e.target = ⟨target.id, input.id⟩
  /-- There is no label. -/
  label : e.label = none
  /-- And no remark. -/
  condition : e.condition = none

theorem joining?_eq_ok {source target : Node} {e : Edge} :
    w.joining? source target = .ok (some e) ↔ w.NewEdge source target e := by
  unfold joining?
  split
  · rename_i output _ input _ houtputs hinputs
    rw [Except.bind_eq_ok_iff]
    constructor
    · rintro ⟨id, hid, hedge⟩
      obtain rfl := Option.some.inj (Except.ok.inj hedge)
      exact ⟨hid, ⟨output, by rw [houtputs]; rfl, rfl⟩, ⟨input, by rw [hinputs]; rfl, rfl⟩, rfl, rfl⟩
    · rintro ⟨hid, ⟨output', houtput, hsource⟩, ⟨input', hinput, htarget⟩, hlabel, hcondition⟩
      rw [houtputs, List.head?_cons, Option.some.injEq] at houtput
      rw [hinputs, List.head?_cons, Option.some.injEq] at hinput
      subst houtput hinput
      obtain ⟨id, edgeSource, edgeTarget, label, condition⟩ := e
      exact ⟨id, hid, by simp_all [pure, Except.pure]⟩
  · rename_i hports
    refine ⟨fun h => absurd (Except.ok.inj h) (Option.some_ne_none e).symm, fun h => ?_⟩
    obtain ⟨output, houtput, -⟩ := h.source
    obtain ⟨input, hinput, -⟩ := h.target
    obtain ⟨outputs, houtputs⟩ := List.head?_eq_some_iff.mp houtput
    obtain ⟨inputs, hinputs⟩ := List.head?_eq_some_iff.mp hinput
    exact absurd hinputs (hports output outputs input inputs houtputs)

/-- The nodes that are referred to are joined. -/
theorem connect?_eq_ok {source target : String} : w.connect? source target = .ok (some w') ↔
    ∃ s t e, w.referred? source = some s ∧ w.referred? target = some t ∧ w.NewEdge s t e ∧
      { w with edges := w.edges ++ [e] } = w' := by
  unfold connect?
  cases w.referred? source with
  | none => simp
  | some s =>
    cases w.referred? target with
    | none => simp
    | some t =>
      simp only [Except.bind_eq_ok_iff, Option.some.injEq, exists_and_left, exists_eq_left']
      constructor
      · rintro ⟨edge?, hjoining, hedge⟩
        cases edge? with
        | none => simp [pure, Except.pure] at hedge
        | some e => exact ⟨e, joining?_eq_ok.mp hjoining, by simpa [pure, Except.pure] using hedge⟩
      · rintro ⟨e, hnew, rfl⟩
        exact ⟨some e, joining?_eq_ok.mpr hnew, rfl⟩

/-- The place of a new node behind another one. -/
def placeBehind (source : Node) : Position :=
  ⟨source.position.x.shift nodeSpacing, source.position.y⟩

/-- A node is put behind the first one without a way out, and joined to it if they have ports. -/
theorem append_eq_ok {type : NodeType} {adjust : Node → Node} {source : Node}
    (hterminal : w.terminal? = some source) : w.append type adjust = .ok w' ↔
      ∃ id edge?, nextId "n" w.nodeIds = .ok id ∧
        w.joining? source (type.fresh id (placeBehind source)) = .ok edge? ∧
        { w with
          nodes := w.nodes ++ [adjust (type.fresh id (placeBehind source))]
          edges := w.edges ++ edge?.toList } = w' := by
  simp only [append, hterminal, successor, Except.bind_eq_ok_iff, pure, Except.pure,
    Except.ok.injEq]
  constructor
  · rintro ⟨⟨node, edge?⟩, ⟨id, hid, edge?', hjoining, hpair⟩, rfl⟩
    obtain ⟨rfl, rfl⟩ := Prod.mk.inj hpair
    exact ⟨id, edge?', hid, hjoining, rfl⟩
  · rintro ⟨id, edge?, hid, hjoining, rfl⟩
    exact ⟨_, ⟨id, hid, edge?, hjoining, rfl⟩, rfl⟩

/-! ### What stays -/

theorem revised_of_rename {ref name : String} (h : w.rename? ref name = some w') :
    w.Revised w' := by
  cases hfound : w.referred? ref with
  | none => exact absurd (h.symm.trans (rename?_eq_none hfound)) (Option.some_ne_none w')
  | some node =>
    obtain ⟨before, after, hnodes, hrenamed⟩ := rename?_of_referred hfound name
    obtain rfl := Option.some.inj (h.symm.trans hrenamed)
    refine ⟨rfl, rfl, fun n hn => .inl ?_⟩
    rw [hnodes]
    -- the node with another name has the configuration of the one that it was
    rcases List.mem_append.mp hn with hn | hn
    · exact ⟨n, List.mem_append_left _ hn, rfl⟩
    · rcases List.mem_cons.mp hn with rfl | hn
      · exact ⟨node, List.mem_append_right _ List.mem_cons_self, rfl⟩
      · exact ⟨n, List.mem_append_right _ (List.mem_cons_of_mem _ hn), rfl⟩

theorem revised_of_delete {ref : String} (h : w.delete? ref = some w') : w.Revised w' := by
  obtain ⟨node, -, -, rfl⟩ := delete?_eq_some.mp h
  exact ⟨rfl, rfl, fun n hn => .inl ⟨n, List.mem_of_mem_filter hn, rfl⟩⟩

theorem revised_of_connect {source target : String}
    (h : w.connect? source target = .ok (some w')) : w.Revised w' := by
  obtain ⟨s, t, e, -, -, -, rfl⟩ := connect?_eq_ok.mp h
  exact ⟨rfl, rfl, fun n hn => .inl ⟨n, hn, rfl⟩⟩

/-- Where the new node of a kind can leave when it is adjusted, the workflow behind it is a changed
one. -/
theorem revised_of_append {type : NodeType} {adjust : Node → Node}
    (hadjust : ∀ id position, Json.checkFreeFields false Json.maxLevels
      (adjust (type.fresh id position)).config = .ok ()) (h : w.append type adjust = .ok w') :
    w.Revised w' := by
  cases hterminal : w.terminal? with
  | none =>
    obtain rfl : w = w' := by simpa [append, hterminal] using h
    exact ⟨rfl, rfl, fun n hn => .inl ⟨n, hn, rfl⟩⟩
  | some source =>
    obtain ⟨id, edge?, -, -, rfl⟩ := (append_eq_ok hterminal).mp h
    refine ⟨rfl, rfl, fun n hn => ?_⟩
    rcases List.mem_append.mp hn with hn | hn
    · exact .inl ⟨n, hn, rfl⟩
    · rw [List.mem_singleton.mp hn]
      exact .inr (hadjust id _)

end Workflow

/-- The configuration of every kind of new node can leave. -/
theorem NodeType.checkFreeFields_fresh (type : NodeType) (id : String) (position : Position) :
    Json.checkFreeFields false Json.maxLevels (type.fresh id position).config = .ok () := by
  cases type <;> rfl

namespace EditCommand

variable {command : EditCommand} {w w' : Workflow}

/-- What is made of a workflow by the change that a command stands for. -/
def Makes (w w' : Workflow) : EditCommand → Prop
  | rename ref name => w.rename? ref name = some w'
  | delete ref => w.delete? ref = some w'
  | connect source target => w.connect? source target = .ok (some w')
  | addDelay seconds => w.append .delay (fun node =>
      { node with config := node.config.set "seconds" (.int seconds) }) = .ok w'
  | add type => w.append type id = .ok w'

/-- A command changes a workflow exactly if its change makes something of it. -/
theorem apply_eq_ok : command.apply w = .ok (.ok w') ↔ command.Makes w w' := by
  have helim : ∀ {change? : Option Workflow} {refusal : EditRefusal},
      change?.elim (.error refusal) .ok = Except.ok w' ↔ change? = some w' := by
    intro change? refusal
    cases change? <;> simp
  cases command with
  | rename ref name => rw [apply, Except.ok.injEq, helim, Makes]
  | delete ref => rw [apply, Except.ok.injEq, helim, Makes]
  | connect source target =>
    simp only [apply, Except.bind_eq_ok_iff, pure, Except.pure, Except.ok.injEq, helim,
      exists_eq_right, Makes]
  | addDelay seconds =>
    simp only [apply, Except.bind_eq_ok_iff, pure, Except.pure, Except.ok.injEq, exists_eq_right,
      Makes]
  | add type =>
    simp only [apply, Except.bind_eq_ok_iff, pure, Except.pure, Except.ok.injEq, exists_eq_right,
      Makes]

/-- Every command leaves the name and the free data of a workflow alone, and brings no configuration
that could not leave. -/
theorem revised_of_apply (h : command.apply w = .ok (.ok w')) : w.Revised w' := by
  have hmakes := apply_eq_ok.mp h
  cases command with
  | rename ref name => exact Workflow.revised_of_rename hmakes
  | delete ref => exact Workflow.revised_of_delete hmakes
  | connect source target => exact Workflow.revised_of_connect hmakes
  | addDelay seconds => exact Workflow.revised_of_append (fun _ _ => rfl) hmakes
  | add type => exact Workflow.revised_of_append type.checkFreeFields_fresh hmakes

end EditCommand

namespace Document

variable {d : Document} {text : String} {e : Edited}

/-- Behind an edit that is carried out there is a document that can leave, a command that is read
and changes it, and a check of the changed document as it leaves. -/
theorem exists_of_edit (h : d.edit text = .ok (.ok e)) :
    d.CanLeave ∧ ∃ command changed, EditCommand.read text = .ok (.ok command) ∧
      command.apply d.workflow = .ok (.ok changed) ∧
      check (toJson ⟨changed⟩) = .ok e.document := by
  unfold edit at h
  split at h
  · simp at h
  · obtain ⟨j, hserialize, h⟩ := Except.bind_eq_ok_iff.mp h
    obtain ⟨read, hread, h⟩ := Except.bind_eq_ok_iff.mp h
    -- the document has left before the command is carried out
    refine ⟨(serialize_eq_ok.mp hserialize).1, ?_⟩
    cases read with
    | error problem => simp [pure, Except.pure] at h
    | ok command =>
      obtain ⟨outcome, happly, h⟩ := Except.bind_eq_ok_iff.mp h
      cases outcome with
      | error refusal => simp [pure, Except.pure] at h
      | ok changed =>
        refine ⟨command, changed, hread, happly, ?_⟩
        cases hcheck : check (toJson ⟨changed⟩) with
        | error errors => simp [hcheck, pure, Except.pure] at h
        | ok document =>
          obtain rfl : ⟨command.message, document⟩ = e := by
            simpa [hcheck, pure, Except.pure] using h
          rfl

/-- **What an edit gives**: a document of the same name that keeps all rules, can leave, and comes
back as it is. -/
theorem edit_eq_ok (h : d.edit text = .ok (.ok e)) :
    check e.document.toJson = .ok e.document ∧ e.document.CanLeave ∧
      e.document.workflow.id = d.workflow.id := by
  obtain ⟨hleave, command, changed, -, happly, hcheck⟩ := exists_of_edit h
  have hrevised := EditCommand.revised_of_apply happly
  have hfinite := eq_finite_of_check_toJson hcheck
  have hchanged : CanLeave ⟨changed⟩ := by
    refine ⟨(congrArg (Json.checkFreeFields false Json.maxLevels) hrevised.freeData).trans
      hleave.freeData, fun n hn => ?_⟩
    -- a configuration is one of the old document, which has left, or the one of a new node
    rcases hrevised.configs n hn with ⟨m, hm, hconfig⟩ | hconfig
    · rw [hconfig]
      exact hleave.configs m hm
    · exact hconfig
  rw [hfinite]
  refine ⟨?_, hchanged.finite, hrevised.id⟩
  rw [toJson_finite, ← hfinite]
  exact hcheck

end Document
end Flowgraph
