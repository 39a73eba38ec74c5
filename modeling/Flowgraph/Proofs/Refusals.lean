import Flowgraph.Proofs.Changes

/-!
# Which changes are refused

What a command makes of a workflow is checked before it counts.  A workflow that keeps all rules
keeps most of them whatever is done to it: taking a node away with the edges at it breaks none, and
neither does another name for a node.  What is put in can break a rule in two ways only.  The name
that is made up for it can be in use, since names are numbered by the largest number in the others
and numbers are rounded; and an edge can close a cycle, which it does exactly if there was a way
from its end to its beginning.

A change is refused for one more reason, which is no rule: the new name of a node can hold half of a
pair, and then no document with it can be read.

## Main definitions

* `EditCommand.Clashes` — a name that is made up is in use.
* `EditCommand.ClosesCycle` — two nodes are to be joined between which there is a way back.
* `EditCommand.NamesHalf` — a new name is not made of characters all through.
* `Document.CarriesOut`, `Document.Refuses` — an edit is carried out, or refused for what would come
  of it.

## Main results

* `Workflow.coherent_with_edge_iff` — when an edge can be put in.
* `EditCommand.Changes.coherent_iff` — which changed workflows keep all rules.
* `EditCommand.Changes.shaped_iff` — which changed workflows can be read.
* `Document.invalid_iff_of_edit` — **which changes are refused.**
* `Document.invalid_of_half` — a name that is refused though no rule is broken.
-/

namespace Flowgraph

/-! ### Names that are made up -/

namespace Text

/-- A text of characters that could not be taken for halves holds none. -/
theorem hasHalf_eq_false {cs : List Char} (h : ∀ c ∈ cs, c.toNat < 0x10D800) :
    hasHalf (String.ofList cs) = false := by
  rw [hasHalf, String.toList_ofList]
  induction cs with
  | nil => rfl
  | cons c cs ih =>
    have hc := h c List.mem_cons_self
    have hmark : c ≠ mark := by
      rintro rfl
      exact absurd hc (by decide)
    have hnone : half? c = none := by
      refine dif_neg fun hhalf => ?_
      simp only [isHalf, Bool.and_eq_true, decide_eq_true_eq] at hhalf
      omega
    rw [letters_cons hmark, Letter.ofChar_char hnone, List.any_cons,
      ih fun d hd => h d (List.mem_cons_of_mem c hd)]
    rfl

/-- A number is written in digits, with a sign at the most. -/
theorem isDigit_of_mem_toString {i : ℤ} {c : Char} (h : c ∈ (toString i).toList) :
    c.isDigit = true ∨ c = '-' := by
  have hdigits : ∀ {n : ℕ}, c ∈ Nat.toDigits 10 n → c.isDigit = true :=
    Nat.isDigit_of_mem_toDigits (by decide) (by decide)
  cases i with
  | ofNat n => exact .inl (hdigits (by simpa [toString, Int.repr, Nat.repr] using h))
  | negSucc n =>
    have hsign : c = '-' ∨ c ∈ Nat.toDigits 10 (n + 1) := by
      simpa [toString, Int.repr, Nat.repr] using h
    exact hsign.symm.imp_left hdigits

end Text

/-- A name that is made up behind a mark of plain letters is a text. -/
theorem isText_of_nextId {mark id : String} {ids : List String} (hne : mark ≠ "")
    (hmark : ∀ c ∈ mark.toList, c.toNat < 0x10D800) (h : nextId mark ids = .ok id) :
    Shape.IsText id := by
  obtain ⟨numbers, -, hid⟩ := Except.bind_eq_ok_iff.mp h
  obtain rfl := Except.ok.inj hid
  rw [idAbove]
  generalize _ + (1 : ℤ) = number
  constructor
  · rw [← String.ofList_toList (s := mark ++ toString number)]
    refine Text.hasHalf_eq_false fun c hc => ?_
    rw [String.toList_append] at hc
    rcases List.mem_append.mp hc with hc | hc
    · exact hmark c hc
    · rcases Text.isDigit_of_mem_toString hc with hdigit | rfl
      · have hnine : c.toNat ≤ 57 := (Char.isDigit_iff_toNat.mp hdigit).2
        omega
      · decide
  · simp [hne]

/-! ### What is put in and taken away -/

/-- Where names are unique, they are so with one more exactly if that is not in use. -/
theorem nodup_map_concat_iff {α : Type} {name : α → String} {items : List α} {a : α}
    (h : (items.map name).Nodup) :
    ((items ++ [a]).map name).Nodup ↔ name a ∉ items.map name := by
  rw [List.map_append, List.map_singleton, ← List.concat_eq_append, List.nodup_concat]
  exact and_iff_left h

/-- Where a relation holds of one pair more, a way goes along old pairs all through, or an old way
leads to the first of the new pair and another one on from the second. -/
theorem transGen_with_pair {α : Type} {r r' : α → α → Prop} {s t : α}
    (h : ∀ {a b}, r' a b → r a b ∨ a = s ∧ b = t) {a b : α} (hab : Relation.TransGen r' a b) :
    Relation.TransGen r a b ∨ Relation.ReflTransGen r a s ∧ Relation.ReflTransGen r t b := by
  induction hab with
  | single hab =>
    rcases h hab with hab | ⟨rfl, rfl⟩
    · exact .inl (.single hab)
    · exact .inr ⟨.refl, .refl⟩
  | tail _ hbc ih =>
    rcases h hbc with hbc | ⟨rfl, rfl⟩
    · exact ih.imp (fun hab => hab.tail hbc) fun hab => ⟨hab.1, hab.2.tail hbc⟩
    · rcases ih with hab | ⟨hab, -⟩
      · exact .inr ⟨hab.to_reflTransGen, .refl⟩
      · exact .inr ⟨hab, .refl⟩

namespace Workflow

variable {w w' : Workflow}

theorem Joins.mem_nodeIds {e : Edge} (h : w.Joins e) :
    e.source.nodeId ∈ w.nodeIds ∧ e.target.nodeId ∈ w.nodeIds := by
  obtain ⟨s, hs, hsource, -⟩ := h.source
  obtain ⟨t, ht, htarget, -⟩ := h.target
  exact ⟨hsource ▸ mem_nodeIds_of_mem hs, htarget ▸ mem_nodeIds_of_mem ht⟩

/-- An edge joins nodes also where there are more nodes. -/
theorem Joins.mono {e : Edge} (h : w.Joins e) (hmore : ∀ n ∈ w.nodes, n ∈ w'.nodes) :
    w'.Joins e := by
  obtain ⟨s, hs, hsource⟩ := h.source
  obtain ⟨t, ht, htarget⟩ := h.target
  exact ⟨⟨s, hmore s hs, hsource⟩, ⟨t, hmore t ht, htarget⟩⟩

/-- Where an edge is put in that joins two nodes, there is a cycle exactly if there was one or there
was a way from the end of the edge to its beginning. -/
theorem acyclic_with_edge_iff {e : Edge} (hjoins : w.Joins e) :
    { w with edges := w.edges ++ [e] }.Acyclic ↔ w.Acyclic ∧
      ¬ Relation.ReflTransGen w.Leads e.target.nodeId e.source.nodeId := by
  have hold : w.Leads ≤ { w with edges := w.edges ++ [e] }.Leads := by
    rintro a b ⟨e', he', hends⟩
    exact ⟨e', List.mem_append_left _ he', hends⟩
  have hnew : { w with edges := w.edges ++ [e] }.Leads e.source.nodeId e.target.nodeId :=
    ⟨e, List.mem_append_right _ List.mem_cons_self, rfl, rfl, hjoins.mem_nodeIds⟩
  constructor
  · intro hacyclic
    refine ⟨fun a ha => hacyclic a (Relation.TransGen.mono hold _ _ ha), fun hback => ?_⟩
    have hback' := Relation.ReflTransGen.mono hold _ _ hback
    exact hacyclic _ (Relation.TransGen.head' hnew hback')
  · rintro ⟨hacyclic, hback⟩ a ha
    have hpair : ∀ {a b}, { w with edges := w.edges ++ [e] }.Leads a b →
        w.Leads a b ∨ a = e.source.nodeId ∧ b = e.target.nodeId := by
      rintro a b ⟨e', he', rfl, rfl, hends⟩
      rcases List.mem_append.mp he' with he' | he'
      · exact .inl ⟨e', he', rfl, rfl, hends⟩
      · rw [List.mem_singleton.mp he']
        exact .inr ⟨rfl, rfl⟩
    rcases transGen_with_pair hpair ha with ha | ⟨hsource, htarget⟩
    · exact hacyclic a ha
    · exact hback (htarget.trans hsource)

/-- **When an edge can be put in**: its name is not in use, and there is no way from its end to its
beginning. -/
theorem coherent_with_edge_iff {e : Edge} (hcoherent : w.Coherent) (hjoins : w.Joins e) :
    { w with edges := w.edges ++ [e] }.Coherent ↔ e.id ∉ w.edgeIds ∧
      ¬ Relation.ReflTransGen w.Leads e.target.nodeId e.source.nodeId := by
  constructor
  · intro h
    exact ⟨(nodup_map_concat_iff hcoherent.edgeIds).mp h.edgeIds,
      ((acyclic_with_edge_iff hjoins).mp h.acyclic).2⟩
  · rintro ⟨hnew, hback⟩
    refine ⟨hcoherent.trigger, hcoherent.nodes, hcoherent.nodeIds, fun e' he' => ?_,
      (nodup_map_concat_iff hcoherent.edgeIds).mpr hnew,
      (acyclic_with_edge_iff hjoins).mpr ⟨hcoherent.acyclic, hback⟩⟩
    rcases List.mem_append.mp he' with he' | he'
    · exact (hcoherent.edges e' he').mono fun _ hn => hn
    · rw [List.mem_singleton.mp he']
      exact hjoins.mono fun _ hn => hn

/-- Where every edge joins two nodes, another node has no part in the graph. -/
theorem leads_with_node {n : Node} (hedges : ∀ e ∈ w.edges, w.Joins e) :
    { w with nodes := w.nodes ++ [n] }.Leads = w.Leads := by
  funext a b
  refine propext ⟨?_, ?_⟩
  · rintro ⟨e, he, rfl, rfl, -⟩
    exact ⟨e, he, rfl, rfl, (hedges e he).mem_nodeIds⟩
  · rintro ⟨e, he, hsource, htarget, ha, hb⟩
    have hmore : w.nodeIds ⊆ { w with nodes := w.nodes ++ [n] }.nodeIds := by
      rw [nodeIds, nodeIds, List.map_append]
      exact List.subset_append_left _ _
    exact ⟨e, he, hsource, htarget, hmore ha, hmore hb⟩

/-- A node can be put in that is no trigger and keeps its rules, if its name is not in use. -/
theorem Coherent.with_node {n : Node} (hcoherent : w.Coherent) (hfits : n.Fits)
    (htrigger : n.isTrigger = false) (hnew : n.id ∉ w.nodeIds) :
    { w with nodes := w.nodes ++ [n] }.Coherent where
  trigger := by
    rw [triggers, List.filter_append, List.filter_cons_of_neg (by simp [htrigger]),
      List.filter_nil, List.append_nil]
    exact hcoherent.trigger
  nodes := by
    intro m hm
    rcases List.mem_append.mp hm with hm | hm
    · exact hcoherent.nodes m hm
    · rw [List.mem_singleton.mp hm]
      exact hfits
  nodeIds := (nodup_map_concat_iff hcoherent.nodeIds).mpr hnew
  edges := fun e he => (hcoherent.edges e he).mono fun _ => List.mem_append_left _
  edgeIds := hcoherent.edgeIds
  acyclic := by
    rw [Acyclic, leads_with_node hcoherent.edges]
    exact hcoherent.acyclic

/-- **When a node can be put in with an edge that leads to it**: neither of the names is in use.  No
edge leads on from the node, and so there is no cycle. -/
theorem coherent_with_successor_iff {n : Node} {e : Edge} (hcoherent : w.Coherent)
    (hfits : n.Fits) (htrigger : n.isTrigger = false)
    (hjoins : { w with nodes := w.nodes ++ [n] }.Joins e) (hsource : e.source.nodeId ∈ w.nodeIds)
    (htarget : e.target.nodeId = n.id) :
    { w with nodes := w.nodes ++ [n], edges := w.edges ++ [e] }.Coherent ↔
      n.id ∉ w.nodeIds ∧ e.id ∉ w.edgeIds := by
  by_cases hused : n.id ∈ w.nodeIds
  · refine iff_of_false (fun h => ?_) fun h => h.1 hused
    exact (nodup_map_concat_iff hcoherent.nodeIds).mp h.nodeIds hused
  · have hback : ¬ Relation.ReflTransGen { w with nodes := w.nodes ++ [n] }.Leads
        e.target.nodeId e.source.nodeId := by
      rw [leads_with_node hcoherent.edges, htarget]
      intro hway
      rcases hway.cases_head with heq | ⟨b, hb, -⟩
      · exact hused (heq ▸ hsource)
      · exact hused hb.source_mem
    rw [and_iff_right hused, ← and_iff_left (a := e.id ∉ w.edgeIds) hback]
    exact coherent_with_edge_iff (hcoherent.with_node hfits htrigger hused) hjoins

/-- Without a node at which no run begins, and without the edges at it, all rules are kept. -/
theorem Coherent.without {id : String} (h : w.Coherent) (hentry : id ≠ w.entryNodeId) :
    (w.without id).Coherent where
  trigger := by
    obtain ⟨t, ht, htrigger⟩ := h.trigger
    refine ⟨t, ?_, htrigger⟩
    have hstays : (t.id != id) = true := by simpa [← htrigger] using hentry.symm
    change (w.nodes.filter fun n => n.id != id).filter Node.isTrigger = [t]
    rw [List.filter_comm, show w.nodes.filter Node.isTrigger = [t] from ht]
    exact List.filter_eq_self.mpr (by simpa using hstays)
  nodes := fun n hn => h.nodes n (List.mem_of_mem_filter hn)
  nodeIds := h.nodeIds.sublist (List.filter_sublist.map Node.id)
  edges := by
    intro e he
    obtain ⟨hmem, hends⟩ := List.mem_filter.mp he
    obtain ⟨hsource, htarget⟩ : e.source.nodeId ≠ id ∧ e.target.nodeId ≠ id := by simpa using hends
    obtain ⟨s, hs, hid, hport⟩ := (h.edges e hmem).source
    obtain ⟨t, ht, hid', hport'⟩ := (h.edges e hmem).target
    exact ⟨⟨s, List.mem_filter.mpr ⟨hs, by simpa [hid] using hsource⟩, hid, hport⟩,
      ⟨t, List.mem_filter.mpr ⟨ht, by simpa [hid'] using htarget⟩, hid', hport'⟩⟩
  edgeIds := h.edgeIds.sublist (List.filter_sublist.map Edge.id)
  acyclic := by
    refine fun a ha => h.acyclic a (Relation.TransGen.mono ?_ _ _ ha)
    rintro a b ⟨e, he, hsource, htarget, ha, hb⟩
    have hfewer : (w.without id).nodeIds ⊆ w.nodeIds := (List.filter_sublist.map Node.id).subset
    exact ⟨e, List.mem_of_mem_filter he, hsource, htarget, hfewer ha, hfewer hb⟩

theorem NewEdge.ends {s t : Node} {e : Edge} (h : w.NewEdge s t e) :
    e.source.nodeId = s.id ∧ e.target.nodeId = t.id := by
  obtain ⟨output, -, hsource⟩ := h.source
  obtain ⟨input, -, htarget⟩ := h.target
  exact ⟨congrArg Endpoint.nodeId hsource, congrArg Endpoint.nodeId htarget⟩

/-- A new edge joins its two nodes. -/
theorem NewEdge.joins {s t : Node} {e : Edge} (h : w.NewEdge s t e) (hs : s ∈ w'.nodes)
    (ht : t ∈ w'.nodes) : w'.Joins e := by
  obtain ⟨output, houtput, hsource⟩ := h.source
  obtain ⟨input, hinput, htarget⟩ := h.target
  refine ⟨⟨s, hs, ?_⟩, ⟨t, ht, ?_⟩⟩
  · rw [hsource]
    exact ⟨rfl, List.mem_map_of_mem (List.mem_of_mem_head? houtput)⟩
  · rw [htarget]
    exact ⟨rfl, List.mem_map_of_mem (List.mem_of_mem_head? hinput)⟩

/-- A new edge between nodes that can be read can be read. -/
theorem NewEdge.shaped {s t : Node} {e : Edge} (h : w.NewEdge s t e) (hs : s.Shaped)
    (ht : t.Shaped) : e.Shaped := by
  obtain ⟨output, houtput, hsource⟩ := h.source
  obtain ⟨input, hinput, htarget⟩ := h.target
  refine ⟨isText_of_nextId (by decide) (by simp) h.id, ?_, ?_⟩
  · rw [hsource]
    exact ⟨hs.id, (hs.outputs output (List.mem_of_mem_head? houtput)).id⟩
  · rw [htarget]
    exact ⟨ht.id, (ht.inputs input (List.mem_of_mem_head? hinput)).id⟩

end Workflow

/-! ### New nodes -/

instance (s : String) : Decidable (Shape.IsText s) :=
  inferInstanceAs (Decidable (_ ∧ _))

instance (p : Port) : Decidable p.Shaped :=
  decidable_of_iff _ (Port.shaped_iff p).symm

/-- A new node of every kind can be read if its name can. -/
theorem NodeType.shaped_fresh (type : NodeType) {id : String} (position : Position)
    (hid : Shape.IsText id) : (type.fresh id position).Shaped := by
  have hports : (∀ p ∈ type.entry.inputs, p.Shaped) ∧ ∀ p ∈ type.entry.outputs, p.Shaped := by
    cases type <;> decide +kernel
  have htexts : Shape.IsText type.entry.displayName ∧ Shape.IsText type.entry.icon := by
    cases type <;> decide +kernel
  have hcolor : Shape.IsText "neutral" := by decide +kernel
  have hconfig : Shape.hasPlainNames type.entry.defaultConfig = true := by
    cases type <;> decide +kernel
  have houtputs : type.entry.outputs ≠ [] := by
    cases type <;> exact List.cons_ne_nil _ _
  exact ⟨hid, htexts.1, hports.1, hports.2, houtputs, hconfig, htexts.2, hcolor⟩

namespace EditCommand

variable {command : EditCommand} {id : String} {position : Position} {node : Node}

/-- The node that a command adds has the name that was made up, is no trigger and keeps its
rules. -/
theorem fits_of_newNode (hsensible : command.Sensible)
    (h : command.newNode? id position = some node) :
    node.id = id ∧ node.isTrigger = false ∧ node.Fits := by
  cases command with
  | addDelay seconds =>
    obtain rfl := Option.some.inj h
    have hfits := Node.fits_fresh .delay id position
    -- the seconds are of no interest, since only branches have a default output
    exact ⟨rfl, rfl, hfits.inputs, hfits.inputIds, hfits.outputIds, fun htype => nomatch htype⟩
  | add type =>
    obtain rfl := Option.some.inj h
    exact ⟨rfl, hsensible, Node.fits_fresh type id position⟩
  | _ => cases h

/-- The node that a command adds can be read if its name can. -/
theorem shaped_of_newNode (hid : Shape.IsText id) (h : command.newNode? id position = some node) :
    node.Shaped := by
  cases command with
  | addDelay seconds =>
    obtain rfl := Option.some.inj h
    have hshaped := NodeType.delay.shaped_fresh position hid
    -- the seconds stand under a name that is there already
    have hconfig : Shape.hasPlainNames ((NodeType.delay.fresh id position).config.set "seconds"
        (.int seconds)) = Shape.hasPlainNames (NodeType.delay.fresh id position).config := by
      rw [Shape.hasPlainNames, Shape.hasPlainNames]
      rfl
    exact { hshaped with config := hconfig.trans hshaped.config }
  | add type =>
    obtain rfl := Option.some.inj h
    exact type.shaped_fresh position hid
  | _ => cases h

/-! ### Rules that a change can break -/

/-- The name that is made up next is in use. -/
def NextInUse (mark : String) (ids : List String) : Prop :=
  ∃ id ∈ ids, nextId mark ids = .ok id

theorem nextInUse_iff {mark id : String} {ids : List String} (h : nextId mark ids = .ok id) :
    NextInUse mark ids ↔ id ∈ ids := by
  refine ⟨?_, fun hid => ⟨id, hid, h⟩⟩
  rintro ⟨id', hid', h'⟩
  rwa [Except.ok.inj (h.symm.trans h')]

/-- A name that a command makes up for a node or an edge is in use. -/
def Clashes (w : Workflow) : EditCommand → Prop
  | connect _ _ => NextInUse "e" w.edgeIds
  | addDelay _ => NextInUse "n" w.nodeIds ∨ NextInUse "e" w.edgeIds
  | add _ => NextInUse "n" w.nodeIds ∨ NextInUse "e" w.edgeIds
  | _ => False

/-- The nodes that a command joins are one node, or there is a way from the second to the first. -/
def ClosesCycle (w : Workflow) : EditCommand → Prop
  | connect source target => ∃ s t, w.referred? source = some s ∧ w.referred? target = some t ∧
      Relation.ReflTransGen w.Leads t.id s.id
  | _ => False

/-- The name that a command gives to a node holds half of a pair. -/
def NamesHalf : EditCommand → Prop
  | rename _ name => Text.hasHalf name = true
  | _ => False

/-- A command adds a node. -/
def Adds : EditCommand → Prop
  | addDelay _ => True
  | add _ => True
  | _ => False

theorem adds_of_newNode (h : command.newNode? id position = some node) : command.Adds := by
  cases command with
  | addDelay seconds => trivial
  | add type => trivial
  | _ => cases h

variable {w w' : Workflow}

/-- Where a node is added, only the names that are made up for it and its edge matter. -/
theorem Adds.clashes_iff (h : command.Adds) (w : Workflow) :
    (command.Clashes w ↔ NextInUse "n" w.nodeIds ∨ NextInUse "e" w.edgeIds) ∧
      ¬ command.ClosesCycle w ∧ ¬ command.NamesHalf := by
  cases command with
  | addDelay seconds => exact ⟨Iff.rfl, id, id⟩
  | add type => exact ⟨Iff.rfl, id, id⟩
  | _ => exact h.elim

/-- **Which changed workflows keep all rules**: those for which no name was made up that is in use,
and in which no cycle was closed. -/
theorem Changes.coherent_iff (h : command.Changes w w') (hcoherent : w.Coherent)
    (hsensible : command.Sensible) :
    w'.Coherent ↔ ¬ command.Clashes w ∧ ¬ command.ClosesCycle w := by
  cases h with
  | renamed ref name before after node hfound hnodes =>
    refine iff_of_true (hcoherent.of_alike ⟨?_, rfl, rfl⟩) ⟨id, id⟩
    rw [hnodes]
    exact List.rel_append (List.forall₂_same.mpr fun n _ => n.alike_refl)
      (.cons ⟨rfl, rfl, rfl, rfl, fun _ h => h⟩ (List.forall₂_same.mpr fun n _ => n.alike_refl))
  | deleted ref before after node hfound hnodes hentry =>
    rw [← Workflow.without_eq hcoherent.nodeIds hnodes]
    exact iff_of_true (hcoherent.without hentry) ⟨id, id⟩
  | connected source target s t e hsource htarget hedge =>
    obtain ⟨houtput, hinput⟩ := hedge.ends
    have hcycle : (connect source target).ClosesCycle w ↔
        Relation.ReflTransGen w.Leads t.id s.id := by
      simp [ClosesCycle, hsource, htarget]
    have hclash : (connect source target).Clashes w ↔ e.id ∈ w.edgeIds := nextInUse_iff hedge.id
    rw [hclash, hcycle, ← houtput, ← hinput]
    exact Workflow.coherent_with_edge_iff hcoherent (hedge.joins
      (List.mem_of_find?_eq_some hsource) (List.mem_of_find?_eq_some htarget))
  | added command before after source node id e hnodes hbefore hends hid hnode hedge =>
    obtain ⟨rfl, htrigger, hfits⟩ := fits_of_newNode hsensible hnode
    obtain ⟨hclashes, hcycle, -⟩ := (adds_of_newNode hnode).clashes_iff w
    rw [hclashes, nextInUse_iff hid, nextInUse_iff hedge.id, not_or, and_iff_left hcycle]
    obtain ⟨houtput, hinput⟩ := hedge.ends
    have hsource : source ∈ w.nodes := hnodes ▸ List.mem_append_right _ List.mem_cons_self
    exact Workflow.coherent_with_successor_iff hcoherent hfits htrigger
      (hedge.joins (List.mem_append_left _ hsource) (List.mem_append_right _ List.mem_cons_self))
      (houtput ▸ Workflow.mem_nodeIds_of_mem hsource) hinput

/-- **Which changed workflows can be read**: those in which no node has a new name that holds half
of a pair. -/
theorem Changes.shaped_iff (h : command.Changes w w') (hcoherent : w.Coherent) (hshaped : w.Shaped)
    (hsensible : command.Sensible) : w'.Shaped ↔ ¬ command.NamesHalf := by
  cases h with
  | renamed ref name before after node hfound hnodes =>
    have hall := hshaped.nodes
    simp only [hnodes, List.forall_mem_append, List.forall_mem_cons] at hall
    have hnamed : Shape.IsText name ↔ ¬ (rename ref name).NamesHalf := by
      rw [NamesHalf, Bool.not_eq_true]
      exact and_iff_left hsensible
    rw [← hnamed]
    constructor
    · intro h
      exact (h.nodes _ (List.mem_append_right _ List.mem_cons_self)).name
    · intro hname
      refine { hshaped with nodes := ?_, nodes_ne_nil := by simp }
      simp only [List.forall_mem_append, List.forall_mem_cons]
      exact ⟨hall.1, { hall.2.1 with name := hname }, hall.2.2⟩
  | deleted ref before after node hfound hnodes hentry =>
    refine iff_of_true ?_ id
    have hdeleted := hcoherent.without hentry
    rw [Workflow.without_eq hcoherent.nodeIds hnodes] at hdeleted
    have hsome : before ++ after ≠ [] := by
      obtain ⟨t, ht, -⟩ := hdeleted.trigger
      exact List.ne_nil_of_mem (List.mem_of_mem_filter (ht ▸ List.mem_cons_self))
    refine { hshaped with nodes := fun n hn => ?_, nodes_ne_nil := hsome, edges := fun e he => ?_ }
    · refine hshaped.nodes n (hnodes ▸ ?_)
      exact ((List.sublist_cons_self node after).append_left before).mem hn
    · exact hshaped.edges e (List.mem_of_mem_filter he)
  | connected source target s t e hsource htarget hedge =>
    refine iff_of_true ?_ id
    refine { hshaped with edges := ?_ }
    simp only [List.forall_mem_append, List.forall_mem_singleton]
    exact ⟨hshaped.edges, hedge.shaped (hshaped.nodes s (List.mem_of_find?_eq_some hsource))
      (hshaped.nodes t (List.mem_of_find?_eq_some htarget))⟩
  | added command before after source node id e hnodes hbefore hends hid hnode hedge =>
    obtain ⟨-, -, hhalf⟩ := (adds_of_newNode hnode).clashes_iff w
    refine iff_of_true ?_ hhalf
    have hnew : node.Shaped :=
      shaped_of_newNode (isText_of_nextId (by decide) (by simp) hid) hnode
    have hsource : source ∈ w.nodes := hnodes ▸ List.mem_append_right _ List.mem_cons_self
    refine { hshaped with nodes := ?_, nodes_ne_nil := by simp, edges := ?_ }
    · simp only [List.forall_mem_append, List.forall_mem_singleton]
      exact ⟨hshaped.nodes, hnew⟩
    · simp only [List.forall_mem_append, List.forall_mem_singleton]
      exact ⟨hshaped.edges, hedge.shaped (hshaped.nodes source hsource) hnew⟩

end EditCommand

/-! ### Commands that change something -/

namespace Workflow

variable {w : Workflow} {source : Node} {id : String}

theorem exists_joining (h : nextId "e" w.edgeIds = .ok id) (s t : Node) :
    ∃ edge?, w.joining? s t = .ok edge? := by
  unfold joining?
  split
  · rw [h]
    exact ⟨_, rfl⟩
  · exact ⟨none, rfl⟩

theorem exists_append {nodeId edgeId : String} (hterminal : w.terminal? = some source)
    (hnode : nextId "n" w.nodeIds = .ok nodeId) (hedge : nextId "e" w.edgeIds = .ok edgeId)
    (type : NodeType) (adjust : Node → Node) : ∃ w', w.append type adjust = .ok w' := by
  obtain ⟨edge?, hjoining⟩ := exists_joining hedge source (type.fresh nodeId (placeBehind source))
  exact ⟨_, (append_eq_ok hterminal).mpr ⟨nodeId, edge?, hnode, hjoining, rfl⟩⟩

end Workflow

namespace EditCommand

variable {w : Workflow} {node : Node}

/-- A node that is found can have another name. -/
theorem exists_apply_of_rename {ref : String} (hfound : w.referred? ref = some node)
    (name : String) : ∃ changed, (rename ref name).apply w = .ok (.ok changed) := by
  obtain ⟨before, after, -, hrenamed⟩ := Workflow.rename?_of_referred hfound name
  exact ⟨_, apply_eq_ok.mpr hrenamed⟩

/-- A node that is found can be taken away if no run begins there. -/
theorem exists_apply_of_delete {ref : String} (hfound : w.referred? ref = some node)
    (hentry : node.id ≠ w.entryNodeId) : ∃ changed, (delete ref).apply w = .ok (.ok changed) := by
  exact ⟨_, apply_eq_ok.mpr (Workflow.delete?_eq_some.mpr ⟨node, hfound, hentry, rfl⟩)⟩

/-- A node can be added if there is one to put it behind and names can be made up. -/
theorem Adds.exists_apply {command : EditCommand} {source : Node} {nodeId edgeId : String}
    (h : command.Adds) (hterminal : w.terminal? = some source)
    (hnode : nextId "n" w.nodeIds = .ok nodeId) (hedge : nextId "e" w.edgeIds = .ok edgeId) :
    ∃ changed, command.apply w = .ok (.ok changed) := by
  have happend := Workflow.exists_append hterminal hnode hedge
  simp only [apply_eq_ok]
  cases command with
  | addDelay seconds => exact happend .delay _
  | add type => exact happend type _
  | _ => exact h.elim

end EditCommand

/-! ### Edits -/

namespace Document

variable {v : Json} {d : Document} {text : String} {command : EditCommand}

/-- A document with finite numbers is accepted as it leaves exactly if it can be read and keeps all
rules. -/
theorem exists_check_toJson_iff (hfinite : d.finite = d) :
    (∃ e, check d.toJson = .ok e) ↔ d.workflow.Shaped ∧ d.workflow.Coherent := by
  simp only [check_eq_ok_iff, read_toJson, hfinite]
  constructor
  · rintro ⟨e, ⟨hshaped, rfl⟩, hcoherent⟩
    exact ⟨hshaped, hcoherent⟩
  · rintro ⟨hshaped, hcoherent⟩
    exact ⟨d, ⟨hshaped, rfl⟩, hcoherent⟩

/-- An edit is carried out. -/
def CarriesOut (d : Document) (text : String) : Prop :=
  ∃ e, d.edit text = .ok (.ok e)

/-- An edit is refused for the document that would come of it. -/
def Refuses (d : Document) (text : String) : Prop :=
  ∃ errors, d.edit text = .ok (.error (.invalid errors))

/-- An edit whose command changes the document is carried out exactly if the changed document is
accepted, and else it is refused for that. -/
theorem edit_of_apply {changed : Workflow} (hleave : d.CanLeave)
    (hread : EditCommand.read text = .ok (.ok command))
    (happly : command.apply d.workflow = .ok (.ok changed)) :
    (d.CarriesOut text ↔ ∃ e, check (toJson ⟨changed⟩) = .ok e) ∧
    (d.Refuses text ↔ ¬ ∃ e, check (toJson ⟨changed⟩) = .ok e) := by
  unfold CarriesOut Refuses edit
  rw [hread]
  simp only [hleave.serialize, happly, bind, Except.bind]
  cases check (toJson ⟨changed⟩) with
  | error errors => simp [pure, Except.pure]
  | ok document => simp [pure, Except.pure]

/-- A changed document is accepted unless a name in it was in use, a cycle was closed or a node has
a name that holds half of a pair. -/
theorem accepted_iff_of_apply (hv : FiniteData v) (h : check v = .ok d)
    (hread : EditCommand.read text = .ok (.ok command)) {changed : Workflow}
    (happly : command.apply d.workflow = .ok (.ok changed)) :
    (∃ e, check (toJson ⟨changed⟩) = .ok e) ↔
      ¬ (command.Clashes d.workflow ∨ command.ClosesCycle d.workflow ∨ command.NamesHalf) := by
  obtain ⟨hdocument, hcoherent⟩ := check_eq_ok_iff.mp h
  have hshaped := shaped_of_read hdocument
  have hsensible := EditCommand.sensible_of_read hread
  have hchanges := EditCommand.changes_of_apply hcoherent hshaped hsensible happly
  have hfinite : changed.finite = changed :=
    hchanges.finite (congrArg Document.workflow (finite_of_read hv hdocument))
  rw [exists_check_toJson_iff (congrArg Document.mk hfinite),
    hchanges.shaped_iff hcoherent hshaped hsensible, hchanges.coherent_iff hcoherent hsensible,
    not_or, not_or]
  tauto

/-- **Which changes are refused.**  Where an accepted document that was read from finite data and
can leave is changed by a command, the edit is refused for the changed document exactly if a name
that was made up is in use, the command joins two nodes and there is a way from the second to the
first, or it gives a node a name that holds half of a pair; and else it is carried out.

So every other name can be given to a node that is found, every node that is found can be taken away
at which no run begins, and there always is a node to put a new one behind, which is done if the
names that are made up are free. -/
theorem invalid_iff_of_edit (hv : FiniteData v) (h : check v = .ok d) (hleave : d.CanLeave)
    (hread : EditCommand.read text = .ok (.ok command)) :
    (∀ changed, command.apply d.workflow = .ok (.ok changed) →
      (d.Refuses text ↔
        command.Clashes d.workflow ∨ command.ClosesCycle d.workflow ∨ command.NamesHalf) ∧
      (d.CarriesOut text ↔ ¬ d.Refuses text)) ∧
    (∀ ref name node, command = .rename ref name → d.workflow.referred? ref = some node →
      Text.hasHalf name = false → d.CarriesOut text) ∧
    (∀ ref node, command = .delete ref → d.workflow.referred? ref = some node →
      node.id ≠ d.workflow.entryNodeId → d.CarriesOut text) ∧
    (command.Adds →
      (∃ before source after, d.workflow.nodes = before ++ source :: after ∧
        (∀ n ∈ before, d.workflow.Continues n.id) ∧ ¬ d.workflow.Continues source.id ∧
        d.workflow.terminal? = some source) ∧
      ∀ nodeId edgeId, nextId "n" d.workflow.nodeIds = .ok nodeId → nodeId ∉ d.workflow.nodeIds →
        nextId "e" d.workflow.edgeIds = .ok edgeId → edgeId ∉ d.workflow.edgeIds →
          d.CarriesOut text) := by
  have hcarried : ∀ {changed}, command.apply d.workflow = .ok (.ok changed) →
      ¬ (command.Clashes d.workflow ∨ command.ClosesCycle d.workflow ∨ command.NamesHalf) →
        d.CarriesOut text := fun happly hgood =>
    (edit_of_apply hleave hread happly).1.mpr ((accepted_iff_of_apply hv h hread happly).mpr hgood)
  obtain ⟨hdocument, hcoherent⟩ := check_eq_ok_iff.mp h
  have hends := Workflow.terminal?_of_coherent hcoherent (shaped_of_read hdocument).nodes_ne_nil
  refine ⟨fun changed happly => ?_, ?_, ?_, fun hadds => ⟨hends, ?_⟩⟩
  · obtain ⟨haccepted, hinvalid⟩ := edit_of_apply hleave hread happly
    rw [haccepted, hinvalid, accepted_iff_of_apply hv h hread happly, not_not]
    exact ⟨Iff.rfl, Iff.rfl⟩
  · rintro ref name node rfl hfound hplain
    obtain ⟨changed, happly⟩ := EditCommand.exists_apply_of_rename hfound name
    refine hcarried happly ?_
    rintro (hclash | hcycle | hhalf)
    · exact hclash
    · exact hcycle
    · exact absurd (hplain.symm.trans hhalf) Bool.false_ne_true
  · rintro ref node rfl hfound hentry
    obtain ⟨changed, happly⟩ := EditCommand.exists_apply_of_delete hfound hentry
    refine hcarried happly ?_
    rintro (hclash | hcycle | hhalf)
    · exact hclash
    · exact hcycle
    · exact hhalf
  · intro nodeId edgeId hnode hfreeNode hedge hfreeEdge
    obtain ⟨-, source, -, -, -, -, hterminal⟩ := hends
    obtain ⟨changed, happly⟩ := hadds.exists_apply hterminal hnode hedge
    obtain ⟨hclashes, hcycle, hhalf⟩ := hadds.clashes_iff d.workflow
    refine hcarried happly ?_
    rw [hclashes, EditCommand.nextInUse_iff hnode, EditCommand.nextInUse_iff hedge]
    exact not_or.mpr ⟨not_or.mpr ⟨hfreeNode, hfreeEdge⟩, not_or.mpr ⟨hcycle, hhalf⟩⟩

/-- The end of the fork cannot be joined to its branch, and its beginning can have another name. -/
theorem invalid_iff_of_edit_fork :
    Refuses ⟨Workflow.fork⟩ "connect wait to check" ∧
      CarriesOut ⟨Workflow.fork⟩ "Rename START to Begin" := by
  have hleave : CanLeave ⟨Workflow.fork⟩ := (serialize_eq_ok.mp rfl).1
  constructor
  · have hread : EditCommand.read "connect wait to check" = .ok (.ok (.connect "wait" "check")) := by
      decide +kernel
    have happly : (EditCommand.connect "wait" "check").apply Workflow.fork =
        .ok (.ok Workflow.loop) := by
      rfl
    obtain ⟨hrefused, -⟩ := (invalid_iff_of_edit finiteData_fork check_fork hleave hread).1 _ happly
    refine hrefused.mpr (.inr (.inl ⟨_, _, rfl, rfl, .single ?_⟩))
    exact ⟨_, .tail _ (.head _), rfl, rfl, .tail _ (.head _), .tail _ (.tail _ (.head _))⟩
  · have hread : EditCommand.read "Rename START to Begin" = .ok (.ok (.rename "START" "Begin")) := by
      decide +kernel
    exact (invalid_iff_of_edit finiteData_fork check_fork hleave hread).2.1 _ _ _ rfl rfl
      (by decide +kernel)

/-- Half of a pair by itself. -/
def loneHalf : String :=
  String.ofList [Text.halfChar ⟨0xD800, by decide⟩]

/-- **A name that is refused though no rule is broken**: it holds half of a pair, and no document
with such a name of a node can be read. -/
theorem invalid_of_half :
    FiniteData (toJson ⟨Workflow.fork⟩) ∧ check (toJson ⟨Workflow.fork⟩) = .ok ⟨Workflow.fork⟩ ∧
      CanLeave ⟨Workflow.fork⟩ ∧
      EditCommand.read ("rename start to " ++ loneHalf) = .ok (.ok (.rename "start" loneHalf)) ∧
      (∃ changed, (EditCommand.rename "start" loneHalf).apply Workflow.fork = .ok (.ok changed)) ∧
      ¬ (Refuses ⟨Workflow.fork⟩ ("rename start to " ++ loneHalf) ↔
        (EditCommand.rename "start" loneHalf).Clashes Workflow.fork ∨
          (EditCommand.rename "start" loneHalf).ClosesCycle Workflow.fork) := by
  have hleave : CanLeave ⟨Workflow.fork⟩ := (serialize_eq_ok.mp rfl).1
  have hread : EditCommand.read ("rename start to " ++ loneHalf) =
      .ok (.ok (.rename "start" loneHalf)) := by
    decide +kernel
  have hhalf : (EditCommand.rename "start" loneHalf).NamesHalf := by
    change Text.hasHalf loneHalf = true
    decide +kernel
  obtain ⟨changed, happly⟩ := EditCommand.exists_apply_of_rename (show
    Workflow.fork.referred? "start" = some _ from rfl) loneHalf
  have hrefused := (edit_of_apply hleave hread happly).2.mpr fun haccepted =>
    (accepted_iff_of_apply finiteData_fork check_fork hread happly).mp haccepted (.inr (.inr hhalf))
  refine ⟨finiteData_fork, check_fork, hleave, hread, ⟨changed, happly⟩, fun hiff => ?_⟩
  rcases hiff.mp hrefused with hclash | hcycle
  · exact hclash
  · exact hcycle

end Document
end Flowgraph
