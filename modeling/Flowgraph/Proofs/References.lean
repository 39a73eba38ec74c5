import Flowgraph.Proofs.Refusals

/-!
# Which node a reference means

A command refers to a node by a word, which may be an id or a name, and its case is ignored.  The
first node counts that answers to the word.  A node answers to its own id, so that a sentence with
an id always finds a node; but names are free, and one that stands further ahead may answer to the
id as well, by its name or by an id in other letters.  Then it is this node that is renamed or
deleted.

A sentence is read as it is written: an id without blanks ends where the next blank stands, and what
follows the word "to" is the new name, whatever words there are in it.

## Main definitions

* `Node.Answers` — a reference may mean a node.

## Main results

* `EditCommand.read_rename`, `EditCommand.read_delete` — the sentences with an id are read as they
  are written.
* `Workflow.referred?_eq_some_iff` — a reference means the first node that answers to it.
* `Document.edit_eq_of_apply` — the outcome of a command that breaks nothing.
* `Document.edit_by_id` — **what a sentence with an id of a node does.**
* `Document.edit_by_id_taken` — an id that means another node.
-/

namespace Flowgraph

/-! ### Reading sentences with an id -/

namespace EditCommand

variable {ref name blanks cs : List Char}

/-- Where a text does not begin with a blank, there are none to leave out. -/
theorem behindBlanks?_eq_none {α : Type} {reader : List Char → Option α}
    (h : ∀ c ∈ cs.head?, Text.isBlank c = false) : behindBlanks? reader cs = none := by
  cases cs with
  | nil => rfl
  | cons c cs => rw [behindBlanks?, if_neg (by simp [h c rfl])]

theorem behindBlanks?_space {α : Type} {reader : List Char → Option α}
    (h : ∀ c ∈ cs.head?, Text.isBlank c = false) :
    behindBlanks? reader (' ' :: cs) = reader cs := by
  rw [behindBlanks?, if_pos Text.isBlank_space, behindBlanks?_eq_none h]

theorem toName?_eq_none (h : ∀ c ∈ cs.head?, Text.isBlank c = false) : toName? cs = none := by
  have hblanks : dropBlanks? cs = none := by
    cases cs with
    | nil => rfl
    | cons c cs => rw [dropBlanks?, if_neg (by simp [h c rfl])]
  rw [toName?, hblanks]
  rfl

/-- Behind the word "to" stands the name, without the blanks before it. -/
theorem toName?_append (hblanks : ∀ c ∈ blanks, Text.isBlank c = true)
    (hfirst : ∀ c ∈ name.head?, Text.isBlank c = false) (hne : name ≠ []) (hline : '\n' ∉ name) :
    toName? (" to ".toList ++ (blanks ++ name)) = some name := by
  have hname : (blanks ++ name).dropWhile Text.isBlank = name := by
    rw [Text.dropWhile_append_of_head hfirst, List.dropWhile_eq_nil_iff.mpr hblanks,
      List.nil_append]
  have hlast : lastName? name = some name := by
    rw [lastName?, if_neg (by simp [hne, hline])]
  have hbehind : dropBlanks? (' ' :: (blanks ++ name)) = some name := by
    rw [dropBlanks?, if_pos Text.isBlank_space, hname]
  have hbefore : dropBlanks? (" to ".toList ++ (blanks ++ name)) =
      some ("to ".toList ++ (blanks ++ name)) := rfl
  have hword : Text.dropWord? "to".toList ("to ".toList ++ (blanks ++ name)) =
      some (' ' :: (blanks ++ name)) := rfl
  simp only [toName?, Option.bind_eq_bind, hbefore, hword, hbehind, hlast, Option.bind_some]

/-- The first name ends where the first blank stands, if the word "to" and a name follow. -/
theorem namesAroundTo?_append (hto : toName? cs = some name)
    (href : ∀ c ∈ ref, Text.isBlank c = false) (hne : ref ≠ []) :
    ∀ seen, namesAroundTo? seen (ref ++ cs) = some (seen ++ ref, name) := by
  induction ref with
  | nil => exact absurd rfl hne
  | cons c ref ih =>
    intro seen
    rw [List.forall_mem_cons] at href
    have hc : c ≠ '\n' := by
      rintro rfl
      exact absurd href.1 (by decide)
    rw [List.cons_append, namesAroundTo?, if_neg hc]
    cases ref with
    | nil => simp [hto]
    | cons c' ref =>
      have hnone : toName? (c' :: ref ++ cs) = none := by
        refine toName?_eq_none fun b hb => ?_
        obtain rfl := Option.some.inj hb
        exact href.2 c' List.mem_cons_self
      have hrest := ih href.2 (List.cons_ne_nil c' ref) (seen ++ [c])
      simp only [hnone, hrest, List.append_assoc, List.singleton_append]

theorem head_eq_false_of_forall (h : ∀ c ∈ ref, Text.isBlank c = false) (hne : ref ≠ []) :
    ∀ c ∈ (ref ++ cs).head?, Text.isBlank c = false := by
  intro c hc
  rw [List.head?_append_of_ne_nil _ hne] at hc
  exact h c (List.mem_of_mem_head? hc)

/-- The sentence that renames, from the end of its first word on. -/
theorem twoNames?_rename (href : ∀ c ∈ ref, Text.isBlank c = false) (hne : ref ≠ [])
    (hblanks : ∀ c ∈ blanks, Text.isBlank c = true) (hname : Text.strip name = name)
    (hsome : name ≠ []) (hline : '\n' ∉ name) :
    twoNames? "rename" ("rename ".toList ++ (ref ++ (" to ".toList ++ (blanks ++ name)))) =
      some (String.ofList ref, String.ofList name) := by
  have hfirst : ∀ c ∈ name.head?, Text.isBlank c = false := fun c hc =>
    Text.not_isBlank_of_head (by rwa [hname])
  have hword (cs : List Char) :
      Text.dropWord? "rename".toList ("rename ".toList ++ cs) = some (' ' :: cs) := rfl
  have hnames := namesAroundTo?_append (toName?_append hblanks hfirst hsome hline) href hne []
  rw [twoNames?, hword, Option.bind_eq_bind, Option.bind_some,
    behindBlanks?_space (head_eq_false_of_forall href hne), hnames, List.nil_append]
  simp only [Option.bind_eq_bind, Option.bind_some, nameOf, hname, Text.strip_eq_self_of_forall href]
  rfl

/-- **The sentence that renames is read as it is written**: the new name loses the blanks around it,
and nothing else. -/
theorem read_rename {id new : String} (hid : ∀ c ∈ id.toList, Text.isBlank c = false)
    (hne : id ≠ "") (hline : '\n' ∉ new.toList) (hnew : Text.strip new.toList ≠ []) :
    read ("rename " ++ id ++ " to " ++ new) =
      .ok (.ok (.rename id (String.ofList (Text.strip new.toList)))) := by
  obtain ⟨after, hbody, hafter⟩ := Text.exists_dropLeading_eq new.toList
  obtain ⟨before, hbefore⟩ : ∃ before, new.toList.takeWhile Text.isBlank = before := ⟨_, rfl⟩
  have hblanks : ∀ c ∈ before, Text.isBlank c = true := fun c hc =>
    List.mem_takeWhile_imp (hbefore ▸ hc)
  have hsplit : new.toList = before ++ (Text.strip new.toList ++ after) := by
    rw [← hbody, ← hbefore, List.takeWhile_append_dropWhile]
  have hinside : '\n' ∉ Text.strip new.toList := fun hmem => hline (by
    rw [hsplit]
    exact List.mem_append_right _ (List.mem_append_left _ hmem))
  have hstrip : Text.strip ("rename " ++ id ++ " to " ++ new).toList =
      "rename ".toList ++ (id.toList ++ (" to ".toList ++ (before ++ Text.strip new.toList))) := by
    have htext : ("rename " ++ id ++ " to " ++ new).toList =
        ("rename ".toList ++ (id.toList ++ (" to ".toList ++ before))) ++ Text.strip new.toList ++
          after := by
      simp only [String.toList_append, List.append_assoc]
      rw [← hsplit]
    have hfront (cs : List Char) :
        ("rename ".toList ++ cs).dropWhile Text.isBlank = "rename ".toList ++ cs := rfl
    rw [htext, Text.strip_append_append (Text.strip_strip _) hnew,
      Text.dropTrailing_eq_nil_iff.mpr hafter, hfront]
    simp only [List.append_assoc, List.append_nil]
  have hnames := twoNames?_rename hid (by simpa using hne) hblanks (Text.strip_strip _) hnew hinside
  rw [read, hstrip]
  simp only [readSentence, hnames, String.ofList_toList]
  rfl

/-- **So is the sentence that deletes.** -/
theorem read_delete {id : String} (hid : ∀ c ∈ id.toList, Text.isBlank c = false) (hne : id ≠ "") :
    read ("delete " ++ id) = .ok (.ok (.delete id)) := by
  have hsome : id.toList ≠ [] := by simpa using hne
  have hline : '\n' ∉ id.toList := fun hmem => absurd (hid _ hmem) (by decide)
  have hstrip : Text.strip ("delete " ++ id).toList = "delete ".toList ++ id.toList := by
    have htext : ("delete " ++ id).toList = "delete ".toList ++ id.toList ++ [] := by
      rw [String.toList_append, List.append_nil]
    rw [htext, Text.strip_append_append (Text.strip_eq_self_of_forall hid) hsome]
    exact List.append_nil _
  have hlast : lastName? id.toList = some id.toList := by
    rw [lastName?, if_neg (by simp [hne, hline])]
  have hword : Text.dropWord? "delete".toList ("delete ".toList ++ id.toList) =
      some (' ' :: id.toList) := rfl
  have hfirst : ∀ c ∈ id.toList.head?, Text.isBlank c = false := fun c hc =>
    hid c (List.mem_of_mem_head? hc)
  have hdeleted : deleted? ("delete ".toList ++ id.toList) = some id := by
    rw [deleted?, hword, Option.bind_eq_bind, Option.bind_some, behindBlanks?_space hfirst, hlast]
    simp only [Option.bind_some, nameOf, Text.strip_eq_self_of_forall hid, String.ofList_toList]
    rfl
  have hrename : twoNames? "rename" ("delete ".toList ++ id.toList) = none := rfl
  rw [read, hstrip]
  simp only [readSentence, hrename, hdeleted]
  rfl

end EditCommand

/-! ### The node that is meant -/

/-- A reference may mean a node: it is its id or its name, in letters of any case. -/
def Node.Answers (n : Node) (ref : String) : Prop :=
  Text.lower n.id.toList = Text.lower ref.toList ∨ Text.lower n.name.toList = Text.lower ref.toList

theorem Node.answers_id (n : Node) : n.Answers n.id :=
  .inl rfl

namespace Workflow

variable {w : Workflow} {ref name : String} {before after : List Node} {m : Node}

theorem answers_iff {n : Node} : n.Answers ref ↔
    (Text.lower n.id.toList == Text.lower ref.toList ||
      Text.lower n.name.toList == Text.lower ref.toList) = true := by
  rw [Bool.or_eq_true, beq_iff_eq, beq_iff_eq]
  rfl

/-- A reference means the first node that answers to it. -/
theorem referred?_eq_some_iff : w.referred? ref = some m ↔
    m.Answers ref ∧ ∃ before after, w.nodes = before ++ m :: after ∧
      ∀ n ∈ before, ¬ n.Answers ref := by
  rw [referred?, List.find?_eq_some_iff_append]
  simp only [answers_iff, Bool.not_eq_true', Bool.not_eq_true]

/-- The first node that answers gets the name. -/
theorem rename?_eq_some (hnodes : w.nodes = before ++ m :: after) (hm : m.Answers ref)
    (hbefore : ∀ n ∈ before, ¬ n.Answers ref) : w.rename? ref name =
      some { w with nodes := before ++ { m with name := name } :: after } := by
  have hfits := answers_iff.mp hm
  rw [rename?, if_pos (List.any_eq_true.mpr ⟨m, by simp [hnodes], hfits⟩), hnodes,
    renameFirst_eq (fun n hn => ?_) hfits]
  rw [← Bool.not_eq_true, ← answers_iff]
  exact hbefore n hn

/-- The first node that answers is deleted, with the edges at it. -/
theorem delete?_eq (hids : w.nodeIds.Nodup) (hnodes : w.nodes = before ++ m :: after)
    (hfound : w.referred? ref = some m) (hentry : m.id ≠ w.entryNodeId) :
    w.delete? ref = some { w with
      nodes := before ++ after
      edges := w.edges.filter fun e => e.source.nodeId != m.id && e.target.nodeId != m.id } := by
  rw [← without_eq hids hnodes]
  exact delete?_eq_some.mpr ⟨m, hfound, hentry, rfl⟩

/-- The id of a node means this node, unless one before it answers to the id. -/
theorem referred?_id_iff (hids : w.nodeIds.Nodup) {n : Node}
    (hnodes : w.nodes = before ++ n :: after) :
    w.referred? n.id = some n ↔ ∀ o ∈ before, ¬ o.Answers n.id := by
  constructor
  · intro hfound o ho hanswers
    -- the first one before it that answers would be meant, and no node stands there twice
    have hsome : (before.find? fun node =>
        Text.lower node.id.toList == Text.lower n.id.toList ||
          Text.lower node.name.toList == Text.lower n.id.toList).isSome = true :=
      List.find?_isSome.mpr ⟨o, ho, answers_iff.mp hanswers⟩
    obtain ⟨first, hfirst⟩ := Option.isSome_iff_exists.mp hsome
    rw [referred?, hnodes, List.find?_append, hfirst, Option.some_or] at hfound
    obtain rfl := Option.some.inj hfound
    rw [nodeIds, hnodes, List.map_append, List.map_cons, List.nodup_middle, List.nodup_cons] at hids
    exact hids.1 (List.mem_append_left _ (List.mem_map_of_mem (List.mem_of_find?_eq_some hfirst)))
  · intro hbefore
    exact referred?_eq_some_iff.mpr ⟨n.answers_id, before, after, hnodes, hbefore⟩

/-- The fork, with a name for the node at which a run begins. -/
def forkFrom (name : String) : Workflow :=
  { fork with nodes :=
    { NodeType.manual.fresh "start" ⟨.whole 0, .whole 0⟩ with name := name } :: fork.nodes.tail }

end Workflow

/-! ### Sentences with an id -/

namespace Document

variable {v : Json} {d : Document} {text : String} {command : EditCommand} {before after : List Node}
  {n : Node}

/-- **The outcome of a command that breaks nothing**: the changed document itself, and what is said
about the command. -/
theorem edit_eq_of_apply (hv : FiniteData v) (h : check v = .ok d) (hleave : d.CanLeave)
    (hread : EditCommand.read text = .ok (.ok command)) {changed : Workflow}
    (happly : command.apply d.workflow = .ok (.ok changed))
    (hgood : ¬ (command.Clashes d.workflow ∨ command.ClosesCycle d.workflow ∨ command.NamesHalf)) :
    d.edit text = .ok (.ok ⟨command.message, ⟨changed⟩⟩) := by
  obtain ⟨hdocument, hcoherent⟩ := check_eq_ok_iff.mp h
  obtain ⟨document, hcheck⟩ := (accepted_iff_of_apply hv h hread happly).mpr hgood
  have hchanges := EditCommand.changes_of_apply hcoherent (shaped_of_read hdocument)
    (EditCommand.sensible_of_read hread) happly
  have hfinite : changed.finite = changed :=
    hchanges.finite (congrArg Document.workflow (finite_of_read hv hdocument))
  obtain rfl : document = ⟨changed⟩ := by
    rw [eq_finite_of_check_toJson hcheck]
    exact congrArg Document.mk hfinite
  unfold edit
  rw [hread]
  simp only [hleave.serialize, happly, hcheck, bind, Except.bind, pure, Except.pure]

variable {ref name : String} {m : Node}

/-- A node that a sentence renames gets the name, unless this holds half of a pair. -/
theorem edit_of_rename (hv : FiniteData v) (h : check v = .ok d) (hleave : d.CanLeave)
    (hread : EditCommand.read text = .ok (.ok (.rename ref name)))
    (hnodes : d.workflow.nodes = before ++ m :: after) (hm : m.Answers ref)
    (hbefore : ∀ o ∈ before, ¬ o.Answers ref) :
    (Text.hasHalf name = false → d.edit text = .ok (.ok ⟨(EditCommand.rename ref name).message,
      ⟨{ d.workflow with nodes := before ++ { m with name := name } :: after }⟩⟩)) ∧
    (Text.hasHalf name = true → d.Refuses text) := by
  have happly : (EditCommand.rename ref name).apply d.workflow =
      .ok (.ok { d.workflow with nodes := before ++ { m with name := name } :: after }) :=
    EditCommand.apply_eq_ok.mpr (Workflow.rename?_eq_some hnodes hm hbefore)
  refine ⟨fun hplain => edit_eq_of_apply hv h hleave hread happly ?_, fun hhalf => ?_⟩
  · rintro (hclash | hcycle | hhalf)
    · exact hclash
    · exact hcycle
    · exact absurd (hplain.symm.trans hhalf) Bool.false_ne_true
  · refine (edit_of_apply hleave hread happly).2.mpr fun haccepted => ?_
    exact (accepted_iff_of_apply hv h hread happly).mp haccepted (.inr (.inr hhalf))

/-- A node that a sentence deletes is gone with the edges at it, unless a run begins there. -/
theorem edit_of_delete (hv : FiniteData v) (h : check v = .ok d) (hleave : d.CanLeave)
    (hread : EditCommand.read text = .ok (.ok (.delete ref)))
    (hnodes : d.workflow.nodes = before ++ m :: after)
    (hfound : d.workflow.referred? ref = some m) :
    (m.id ≠ d.workflow.entryNodeId → d.edit text = .ok (.ok ⟨(EditCommand.delete ref).message,
      ⟨{ d.workflow with
        nodes := before ++ after
        edges := d.workflow.edges.filter fun e =>
          e.source.nodeId != m.id && e.target.nodeId != m.id }⟩⟩)) ∧
    (m.id = d.workflow.entryNodeId → d.edit text = .ok (.error .notDeletable)) := by
  constructor
  · intro hentry
    have hids := (check_eq_ok_iff.mp h).2.nodeIds
    refine edit_eq_of_apply hv h hleave hread
      (EditCommand.apply_eq_ok.mpr (Workflow.delete?_eq hids hnodes hfound hentry)) ?_
    rintro (hclash | hcycle | hhalf)
    · exact hclash
    · exact hcycle
    · exact hhalf
  · intro hentry
    have hnone : d.workflow.delete? ref = none := by
      simp only [Workflow.delete?, hfound, if_pos hentry]
    unfold edit
    rw [hread]
    simp only [hleave.serialize, EditCommand.apply, hnone, bind, Except.bind, pure, Except.pure,
      Option.elim_none]

/-- **What a sentence with an id of a node does.**  In an accepted document that was read from finite
data and can leave, the id means the first node that answers to it, which is the node of this id
unless one before it answers too.  The sentence that renames gives this node the new name, without
the blanks around it, and changes nothing else; it is refused only if the new name holds half of a
pair.  The sentence that deletes takes this node away and the edges at it, and nothing else; it is
refused only if a run begins there. -/
theorem edit_by_id (hv : FiniteData v) (h : check v = .ok d) (hleave : d.CanLeave)
    (hnodes : d.workflow.nodes = before ++ n :: after)
    (hid : ∀ c ∈ n.id.toList, Text.isBlank c = false) :
    ∃ first m others, d.workflow.nodes = first ++ m :: others ∧ m.Answers n.id ∧
      (∀ o ∈ first, ¬ o.Answers n.id) ∧ (m = n ↔ ∀ o ∈ before, ¬ o.Answers n.id) ∧
      (∀ new name, '\n' ∉ new.toList → Text.strip new.toList ≠ [] →
        name = String.ofList (Text.strip new.toList) →
        (Text.hasHalf name = false → d.edit ("rename " ++ n.id ++ " to " ++ new) =
          .ok (.ok ⟨(EditCommand.rename n.id name).message,
            ⟨{ d.workflow with nodes := first ++ { m with name := name } :: others }⟩⟩)) ∧
        (Text.hasHalf name = true → d.Refuses ("rename " ++ n.id ++ " to " ++ new))) ∧
      (m.id ≠ d.workflow.entryNodeId → d.edit ("delete " ++ n.id) =
        .ok (.ok ⟨(EditCommand.delete n.id).message, ⟨{ d.workflow with
          nodes := first ++ others
          edges := d.workflow.edges.filter fun e =>
            e.source.nodeId != m.id && e.target.nodeId != m.id }⟩⟩)) ∧
      (m.id = d.workflow.entryNodeId → d.edit ("delete " ++ n.id) = .ok (.error .notDeletable)) := by
  obtain ⟨hdocument, hcoherent⟩ := check_eq_ok_iff.mp h
  have hmem : n ∈ d.workflow.nodes := hnodes ▸ List.mem_append_right _ List.mem_cons_self
  have hne : n.id ≠ "" := by
    have hempty := ((shaped_of_read hdocument).nodes n hmem).id.2
    simpa using hempty
  -- the node itself answers, so that one is found
  have hsome : (d.workflow.referred? n.id).isSome = true :=
    List.find?_isSome.mpr ⟨n, hmem, Workflow.answers_iff.mp n.answers_id⟩
  obtain ⟨m, hfound⟩ := Option.isSome_iff_exists.mp hsome
  obtain ⟨hm, first, others, hsplit, hfirst⟩ := Workflow.referred?_eq_some_iff.mp hfound
  refine ⟨first, m, others, hsplit, hm, hfirst, ?_, ?_, ?_⟩
  · rw [← Workflow.referred?_id_iff hcoherent.nodeIds hnodes, hfound, Option.some.injEq]
  · rintro new name hline hnew rfl
    exact edit_of_rename hv h hleave (EditCommand.read_rename hid hne hline hnew) hsplit hm hfirst
  · exact edit_of_delete hv h hleave (EditCommand.read_delete hid hne) hsplit hfound

/-- The branch of the fork is meant by its id. -/
theorem edit_by_id_fork :
    let branch := NodeType.condition.fresh "check" ⟨.whole 240, .whole 0⟩
    ∃ first others, Workflow.fork.nodes = first ++ branch :: others ∧
      edit ⟨Workflow.fork⟩ "rename check to  Is it high? " =
        .ok (.ok ⟨"Renamed check to Is it high?.", ⟨{ Workflow.fork with
          nodes := first ++ { branch with name := "Is it high?" } :: others }⟩⟩) := by
  intro branch
  have hleave : CanLeave ⟨Workflow.fork⟩ := (serialize_eq_ok.mp rfl).1
  have hnodes : Workflow.fork.nodes = [NodeType.manual.fresh "start" ⟨.whole 0, .whole 0⟩] ++
      branch :: [NodeType.delay.fresh "wait" ⟨.whole 480, .whole 0⟩] := rfl
  have hid : ∀ c ∈ "check".toList, Text.isBlank c = false := by
    have hletters : ("check".toList.all fun c => !Text.isBlank c) = true := by decide
    simpa using hletters
  obtain ⟨first, m, others, hsplit, -, -, hmeant, hrename, -⟩ :=
    edit_by_id finiteData_fork check_fork hleave hnodes hid
  obtain rfl : m = branch := hmeant.mpr (by
    rw [List.forall_mem_singleton, Workflow.answers_iff]
    decide +kernel)
  refine ⟨first, others, hsplit, ?_⟩
  exact (hrename " Is it high? " "Is it high?" (by decide +kernel) (by decide +kernel)
    (by decide +kernel)).1 (by decide +kernel)

/-- **An id that means another node**: the node at which a run begins has the id of the last node as
its name, so that the last node can be neither renamed nor deleted by its id. -/
theorem edit_by_id_taken :
    FiniteData (toJson ⟨.forkFrom "wait"⟩) ∧
      check (toJson ⟨.forkFrom "wait"⟩) = .ok ⟨.forkFrom "wait"⟩ ∧ CanLeave ⟨.forkFrom "wait"⟩ ∧
      (∃ n ∈ (Workflow.forkFrom "wait").nodes,
        n.id = "wait" ∧ n.id ≠ (Workflow.forkFrom "wait").entryNodeId) ∧
      edit ⟨.forkFrom "wait"⟩ "rename wait to Pause" =
        .ok (.ok ⟨"Renamed wait to Pause.", ⟨.forkFrom "Pause"⟩⟩) ∧
      edit ⟨.forkFrom "wait"⟩ "delete wait" = .ok (.error .notDeletable) := by
  have hleave : CanLeave ⟨Workflow.fork⟩ := (serialize_eq_ok.mp rfl).1
  -- another edit has given the name
  have hmisnamed : edit ⟨Workflow.fork⟩ "rename start to wait" =
      .ok (.ok ⟨"Renamed start to wait.", ⟨.forkFrom "wait"⟩⟩) := by
    have hread : EditCommand.read "rename start to wait" = .ok (.ok (.rename "start" "wait")) := by
      decide +kernel
    have hnodes : Workflow.fork.nodes = [] ++
        NodeType.manual.fresh "start" ⟨.whole 0, .whole 0⟩ :: Workflow.fork.nodes.tail := rfl
    exact (edit_of_rename finiteData_fork check_fork hleave hread hnodes (Node.answers_id _)
      (by simp)).1 (by decide +kernel)
  obtain ⟨hcheck, hleave', -⟩ := edit_eq_ok hmisnamed
  have hfinite : FiniteData (toJson ⟨.forkFrom "wait"⟩) := by
    change Json.IsFinite _
    decide +kernel
  have hnodes : (Workflow.forkFrom "wait").nodes = [] ++
      { NodeType.manual.fresh "start" ⟨.whole 0, .whole 0⟩ with name := "wait" } ::
        Workflow.fork.nodes.tail := rfl
  refine ⟨hfinite, hcheck, hleave', ⟨_, .tail _ (.tail _ (.head _)), rfl, by decide⟩, ?_, ?_⟩
  · have hread : EditCommand.read "rename wait to Pause" = .ok (.ok (.rename "wait" "Pause")) := by
      decide +kernel
    exact (edit_of_rename hfinite hcheck hleave' hread hnodes (.inr rfl) (by simp)).1
      (by decide +kernel)
  · have hread : EditCommand.read "delete wait" = .ok (.ok (.delete "wait")) := by
      decide +kernel
    exact (edit_of_delete hfinite hcheck hleave' hread hnodes rfl).2 rfl

end Document
end Flowgraph
