import Flowgraph.Proofs.Atomic
import Flowgraph.Proofs.Columns
import Flowgraph.Proofs.Numbering

/-!
# When a command has an outcome

A command is carried out or it is refused, and where a stored workflow is edited the outcome is
stored or nothing is changed.  There is a third way out, which no command is meant to take: a fault
of the data.  The document may be one that cannot leave; a delay may have more digits than a text of
a number may have; and an id that is there may be an integer in base sixteen, eight or two that has
no double, so that no id can be made up behind it.  Which ids matter depends on the command.

Within these limits there always is an outcome, and beyond them never, unless there is no command at
all.  For a stored workflow one thing more can go wrong: the outcome may be a document that cannot be
written, and then it is not stored.

## Main definitions

* `EditCommand.Numbers` — a command makes up an id, by the numbers of those that are there.
* `Document.WithinLimits` — an edit is within the limits of texts and numbers.
* `Document.GivesWritable` — a document that an edit gives can be written.
* `Database.Settles` — a command on a stored workflow is settled.

## Main results

* `EditCommand.exists_read_iff`, `EditCommand.exists_apply_iff` — when a text is read, and when a
  command is carried out or refused.
* `Document.exists_edit_iff` — when an edit is.
* `Document.givesWritable_iff` — when what it gives can be written.
* `Database.settles_iff` — a command on a stored workflow is settled if the edit has an outcome that
  can be written.
* `Document.settled_iff_withinLimits` — **when a command has an outcome.**
* `Document.edit_fails_hexadecimal` — a command that fails.
* `Document.not_givesWritable_farRight` — a command whose outcome cannot be written.
-/

namespace Flowgraph

/-! ### Reading -/

namespace EditCommand

variable {cs digits : List Char} {text : String}

/-- No two of the words at the beginning of a sentence begin with the same letter. -/
theorem dropWord?_eq_none_of_add {rest : List Char}
    (h : Text.dropWord? "add".toList cs = some rest) {word : String}
    (hword : word ∈ ["rename", "delete", "connect"]) : Text.dropWord? word.toList cs = none := by
  cases cs with
  | nil => cases h
  | cons c cs =>
    have hletter : c.toLower = 'a' := by
      have hmatches : Text.matchesLetter 'a' c = true := by
        by_contra hnot
        change (if Text.matchesLetter 'a' c = true then _ else none) = some rest at h
        rw [if_neg hnot] at h
        cases h
      simpa [Text.matchesLetter] using hmatches
    have hothers : Text.matchesLetter 'r' c = false ∧ Text.matchesLetter 'd' c = false ∧
        Text.matchesLetter 'c' c = false := by
      simp [Text.matchesLetter, hletter]
    simp only [List.mem_cons, List.not_mem_nil, or_false] at hword
    obtain rfl | rfl | rfl := hword
    · exact if_neg (Bool.eq_false_iff.mp hothers.1)
    · exact if_neg (Bool.eq_false_iff.mp hothers.2.1)
    · exact if_neg (Bool.eq_false_iff.mp hothers.2.2)

/-- A text that begins with none of the other words is none of their sentences. -/
theorem sentences_eq_none
    (h : ∀ word ∈ ["rename", "delete", "connect"], Text.dropWord? word.toList cs = none) :
    twoNames? "rename" cs = none ∧ deleted? cs = none ∧ twoNames? "connect" cs = none := by
  simp only [List.forall_mem_cons] at h
  obtain ⟨hrename, hdelete, hconnect, -⟩ := h
  rw [twoNames?, deleted?, twoNames?, hrename, hdelete, hconnect]
  exact ⟨rfl, rfl, rfl⟩

/-- The sentence that adds a delay is no other sentence. -/
theorem readSentence_of_delayDigits (h : delayDigits? cs = some digits) :
    readSentence cs = (Text.readNatural digits).map fun n => .ok (.addDelay n) := by
  obtain ⟨rest, hadd, -⟩ := Option.bind_eq_some_iff.mp h
  obtain ⟨hrename, hdelete, hconnect⟩ := sentences_eq_none fun _ => dropWord?_eq_none_of_add hadd
  simp only [readSentence, hrename, hdelete, hconnect, h]

/-- Where no delay is to be added, a sentence is understood or not. -/
theorem exists_readSentence_of_none (h : delayDigits? cs = none) :
    ∃ result, readSentence cs = .ok result := by
  unfold readSentence
  split
  · exact ⟨_, rfl⟩
  · exact ⟨_, rfl⟩
  · exact ⟨_, rfl⟩
  · rename_i hdelay
    rw [h] at hdelay
    cases hdelay
  · exact ⟨_, rfl⟩

/-- **A text is read** unless it is to add a delay of too many digits. -/
theorem exists_read_iff : (∃ result, read text = .ok result) ↔
    ∀ digits, delayDigits? (Text.strip text.toList) = some digits →
      digits.length ≤ Text.maxDigits := by
  simp only [read]
  split_ifs with hempty
  · have hnone : delayDigits? (Text.strip text.toList) = none := by
      rw [List.isEmpty_iff.mp hempty]
      rfl
    simp [hnone]
  · cases hdelay : delayDigits? (Text.strip text.toList) with
    | none => simpa using exists_readSentence_of_none hdelay
    | some digits =>
      rw [readSentence_of_delayDigits hdelay, Text.readNatural]
      split_ifs with hlong
      · simpa [Except.map] using hlong
      · simpa [Except.map] using Nat.le_of_not_lt hlong

/-- The blank texts are those that are read as such. -/
theorem read_eq_blank_iff : read text = .ok (.error .blank) ↔ Text.strip text.toList = [] := by
  simp only [read]
  split_ifs with hempty
  · simpa using List.isEmpty_iff.mp hempty
  · have hne : Text.strip text.toList ≠ [] := by simpa using hempty
    refine iff_of_false ?_ hne
    unfold readSentence
    split
    · simp
    · simp
    · simp
    · rename_i digits _ _ _ _
      cases Text.readNatural digits <;> simp [Except.map]
    · split_ifs
      · split <;> simp
      · simp

end EditCommand

/-! ### Carrying out -/

namespace Workflow

variable {w : Workflow} {source target : Node}

/-- Two nodes can be joined or not, unless the ids of the edges cannot be numbered. -/
theorem exists_joining_iff (houtputs : source.outputs ≠ []) (hinputs : target.inputs ≠ []) :
    (∃ edge?, w.joining? source target = .ok edge?) ↔ ∃ id, nextId "e" w.edgeIds = .ok id := by
  obtain ⟨output, outputs, houtput⟩ := List.exists_cons_of_ne_nil houtputs
  obtain ⟨input, inputs, hinput⟩ := List.exists_cons_of_ne_nil hinputs
  simp only [joining?, houtput, hinput, Except.exists_bind_pure_iff]

/-- Nodes that are not there are not connected, and nodes that are there may be joined. -/
theorem exists_connect_iff {first second : String} :
    (∃ w'?, w.connect? first second = .ok w'?) ↔ ∀ s t, w.referred? first = some s →
      w.referred? second = some t → ∃ edge?, w.joining? s t = .ok edge? := by
  unfold connect?
  cases w.referred? first with
  | none => simp
  | some s =>
    cases w.referred? second with
    | none => simp
    | some t =>
      simp only [Except.exists_bind_pure_iff, Option.some.injEq]
      constructor
      · rintro h _ _ rfl rfl
        exact h
      · intro h
        exact h s t rfl rfl

/-- A node is added unless the ids of the nodes or those of the edges cannot be numbered. -/
theorem exists_append_iff {type : NodeType} {adjust : Node → Node}
    (hterminal : w.terminal? = some source) (houtputs : source.outputs ≠ [])
    (hinputs : type.entry.inputs ≠ []) :
    (∃ w', w.append type adjust = .ok w') ↔
      (∃ id, nextId "n" w.nodeIds = .ok id) ∧ ∃ id, nextId "e" w.edgeIds = .ok id := by
  constructor
  · rintro ⟨w', happend⟩
    obtain ⟨id, edge?, hid, hjoining, -⟩ := (append_eq_ok hterminal).mp happend
    exact ⟨⟨id, hid⟩, (exists_joining_iff houtputs hinputs).mp ⟨edge?, hjoining⟩⟩
  · rintro ⟨⟨id, hid⟩, edgeId, hedge⟩
    exact exists_append hterminal hid hedge type adjust

end Workflow

namespace EditCommand

variable {w : Workflow} {command : EditCommand}

/-- A command makes up an id with this mark, by the numbers of these ids. -/
inductive Numbers (w : Workflow) : EditCommand → String → List String → Prop where
  /-- The id of a new node. -/
  | node (command : EditCommand) (h : command.Adds) : Numbers w command "n" w.nodeIds
  /-- The id of the edge to a new node. -/
  | edge (command : EditCommand) (h : command.Adds) : Numbers w command "e" w.edgeIds
  /-- The id of an edge between two nodes, where there are ports for it. -/
  | joining (source target : String) (s t : Node) (hsource : w.referred? source = some s)
      (htarget : w.referred? target = some t) (hinputs : t.inputs ≠ []) :
      Numbers w (connect source target) "e" w.edgeIds

theorem numbers_iff_of_adds (h : command.Adds) {P : String → List String → Prop} :
    (∀ mark ids, command.Numbers w mark ids → P mark ids) ↔ P "n" w.nodeIds ∧ P "e" w.edgeIds := by
  constructor
  · intro hall
    exact ⟨hall _ _ (.node command h), hall _ _ (.edge command h)⟩
  · rintro ⟨hnode, hedge⟩ mark ids hnumbers
    cases hnumbers with
    | node => exact hnode
    | edge => exact hedge
    | joining => exact h.elim

/-- A node of a kind that is no trigger is added unless ids cannot be numbered. -/
theorem exists_append_iff_of_coherent {type : NodeType} {adjust : Node → Node}
    (hcoherent : w.Coherent) (hshaped : w.Shaped) (htype : type.isTrigger = false) :
    (∃ w', w.append type adjust = .ok w') ↔
      (∃ id, nextId "n" w.nodeIds = .ok id) ∧ ∃ id, nextId "e" w.edgeIds = .ok id := by
  obtain ⟨before, source, after, hnodes, -, -, hterminal⟩ :=
    Workflow.terminal?_of_coherent hcoherent hshaped.nodes_ne_nil
  have hsource : source ∈ w.nodes := hnodes ▸ List.mem_append_right _ List.mem_cons_self
  refine Workflow.exists_append_iff hterminal (hshaped.nodes source hsource).outputs_ne_nil ?_
  have hempty := type.entry_inputs_isEmpty
  rw [htype] at hempty
  simpa using hempty

/-- **A command is carried out or refused** unless it makes up an id by ids that cannot be
numbered. -/
theorem exists_apply_iff (hcoherent : w.Coherent) (hshaped : w.Shaped)
    (hsensible : command.Sensible) : (∃ outcome, command.apply w = .ok outcome) ↔
      ∀ mark ids, command.Numbers w mark ids → ∃ id, nextId mark ids = .ok id := by
  cases command with
  | rename ref name =>
    refine iff_of_true ⟨_, rfl⟩ fun mark ids hnumbers => ?_
    cases hnumbers <;> exact False.elim ‹_›
  | delete ref =>
    refine iff_of_true ⟨_, rfl⟩ fun mark ids hnumbers => ?_
    cases hnumbers <;> exact False.elim ‹_›
  | connect source target =>
    simp only [apply, Except.exists_bind_pure_iff, Workflow.exists_connect_iff]
    constructor
    · intro hjoining mark ids hnumbers
      cases hnumbers with
      | node _ h => exact h.elim
      | edge _ h => exact h.elim
      | joining _ _ s t hsource htarget hinputs =>
        have houtputs := (hshaped.nodes s (List.mem_of_find?_eq_some hsource)).outputs_ne_nil
        exact (Workflow.exists_joining_iff houtputs hinputs).mp (hjoining s t hsource htarget)
    · intro hnumbers s t hsource htarget
      by_cases hinputs : t.inputs = []
      · unfold Workflow.joining?
        simp [hinputs]
      · have houtputs := (hshaped.nodes s (List.mem_of_find?_eq_some hsource)).outputs_ne_nil
        exact (Workflow.exists_joining_iff houtputs hinputs).mpr
          (hnumbers _ _ (.joining source target s t hsource htarget hinputs))
  | addDelay seconds =>
    have hadds : (addDelay seconds).Adds := trivial
    rw [numbers_iff_of_adds hadds]
    simp only [apply, Except.exists_bind_pure_iff]
    exact exists_append_iff_of_coherent hcoherent hshaped rfl
  | add type =>
    have hadds : (add type).Adds := trivial
    rw [numbers_iff_of_adds hadds]
    simp only [apply, Except.exists_bind_pure_iff]
    exact exists_append_iff_of_coherent hcoherent hshaped hsensible

end EditCommand

/-! ### Edits -/

namespace Document

variable {v : Json} {d : Document} {text : String}

/-- An edit is within the limits of texts and numbers. -/
structure WithinLimits (d : Document) (text : String) : Prop where
  /-- The document can leave. -/
  leaves : d.CanLeave
  /-- A delay that is to be added has not too many digits. -/
  digits : ∀ digits, EditCommand.delayDigits? (Text.strip text.toList) = some digits →
    digits.length ≤ Text.maxDigits
  /-- Where an id is made up, the ids that are there can be numbered. -/
  ids : ∀ command mark ids, EditCommand.read text = .ok (.ok command) →
    command.Numbers d.workflow mark ids → ∀ id ∈ ids, ¬ Uncounted mark id

/-- Where a command is carried out or refused, there is an outcome. -/
theorem exists_edit_of_apply {command : EditCommand} {result : Except EditRefusal Workflow}
    (hleave : d.CanLeave) (hread : EditCommand.read text = .ok (.ok command))
    (happly : command.apply d.workflow = .ok result) : ∃ outcome, d.edit text = .ok outcome := by
  unfold edit
  rw [hread]
  simp only [hleave.serialize, happly, bind, Except.bind]
  cases result with
  | error refusal => exact ⟨_, rfl⟩
  | ok changed =>
    simp only []
    cases check (toJson ⟨changed⟩) with
    | error errors => exact ⟨_, rfl⟩
    | ok document => exact ⟨_, rfl⟩

/-- **An edit is carried out or refused** exactly if there is no command, or it is within the
limits. -/
theorem exists_edit_iff (h : check v = .ok d) : (∃ outcome, d.edit text = .ok outcome) ↔
    Text.strip text.toList = [] ∨ d.WithinLimits text := by
  obtain ⟨hdocument, hcoherent⟩ := check_eq_ok_iff.mp h
  have hshaped := shaped_of_read hdocument
  rw [← EditCommand.read_eq_blank_iff]
  by_cases hblank : EditCommand.read text = .ok (.error .blank)
  · refine iff_of_true ?_ (.inl hblank)
    unfold edit
    rw [hblank]
    exact ⟨_, rfl⟩
  rw [or_iff_right hblank]
  constructor
  · rintro ⟨outcome, hedit⟩
    unfold edit at hedit
    split at hedit
    · contradiction
    · obtain ⟨j, hserialize, hedit⟩ := Except.bind_eq_ok_iff.mp hedit
      obtain ⟨result, hread, hedit⟩ := Except.bind_eq_ok_iff.mp hedit
      refine ⟨(serialize_eq_ok.mp hserialize).1, EditCommand.exists_read_iff.mp ⟨result, hread⟩, ?_⟩
      intro command mark ids hcommand hnumbers
      obtain rfl := Except.ok.inj (hread.symm.trans hcommand)
      obtain ⟨changed, happly, -⟩ := Except.bind_eq_ok_iff.mp hedit
      have hsensible := EditCommand.sensible_of_read hcommand
      exact exists_nextId_iff.mp
        ((EditCommand.exists_apply_iff hcoherent hshaped hsensible).mp ⟨_, happly⟩ _ _ hnumbers)
  · rintro ⟨hleave, hdigits, hids⟩
    obtain ⟨result, hread⟩ := EditCommand.exists_read_iff.mpr hdigits
    cases result with
    | error problem =>
      unfold edit
      rw [hread]
      cases problem <;> simp only [hleave.serialize] <;> exact ⟨_, rfl⟩
    | ok command =>
      have hsensible := EditCommand.sensible_of_read hread
      obtain ⟨outcome, happly⟩ :=
        (EditCommand.exists_apply_iff hcoherent hshaped hsensible).mpr fun mark ids hnumbers =>
          exists_nextId_iff.mpr (hids command mark ids hread hnumbers)
      exact exists_edit_of_apply hleave hread happly

/-- A document that an edit gives can be written. -/
def GivesWritable (d : Document) (text : String) : Prop :=
  ∀ e, d.edit text = .ok (.ok e) → e.document.toJson.isWritable = true

/-- **When that can be written what an edit gives.**  For an accepted document that can be written
itself, it always can, unless a node is added so far to the right that the number of its place has
too many digits. -/
theorem givesWritable_iff (h : check v = .ok d) (hwritable : d.toJson.isWritable = true) :
    d.GivesWritable text ↔ ∀ e command source, d.edit text = .ok (.ok e) →
      EditCommand.read text = .ok (.ok command) → command.Adds →
        d.workflow.terminal? = some source →
          (source.position.x.shift nodeSpacing).toJson.isWritable = true := by
  obtain ⟨hdocument, hcoherent⟩ := check_eq_ok_iff.mp h
  obtain ⟨before, source, after, hnodes, -, -, hterminal⟩ :=
    Workflow.terminal?_of_coherent hcoherent (shaped_of_read hdocument).nodes_ne_nil
  have hw : d.workflow.Writable := isWritable_toJson_iff.mp hwritable
  have hheight : source.position.y.toJson.isWritable = true := by
    have hsource := (hw.nodes source (hnodes ▸ List.mem_append_right _ List.mem_cons_self)).position
    simp only [Position.toJson, Json.isWritable, Json.areFieldsWritable, Bool.and_true,
      Bool.and_eq_true] at hsource
    exact hsource.2
  have hplace : (Workflow.placeBehind source).toJson.isWritable =
      (source.position.x.shift nodeSpacing).toJson.isWritable := by
    simp only [Workflow.placeBehind, Position.toJson, Json.isWritable, Json.areFieldsWritable,
      hheight, Bool.and_true]
  -- what an edit gives is what its command makes, with finite numbers
  have hgives : ∀ e command, d.edit text = .ok (.ok e) →
      EditCommand.read text = .ok (.ok command) → (e.document.toJson.isWritable = true ↔
        (command.Adds → (source.position.x.shift nodeSpacing).toJson.isWritable = true)) := by
    intro e command hedit hread
    obtain ⟨-, command', changed, hread', happly, hcheck⟩ := exists_of_edit hedit
    obtain rfl := Except.ok.inj (Except.ok.inj (hread.symm.trans hread'))
    rw [eq_finite_of_check_toJson hcheck, toJson_finite, isWritable_toJson_iff, ← hplace]
    exact EditCommand.writable_iff_of_apply (EditCommand.counts_of_read hread) hterminal hw happly
  constructor
  · intro hall e command other hedit hread hadds hother
    obtain rfl := Option.some.inj (hterminal.symm.trans hother)
    exact (hgives e command hedit hread).mp (hall e hedit) hadds
  · intro hall e hedit
    obtain ⟨-, command, -, hread, -⟩ := exists_of_edit hedit
    exact (hgives e command hedit hread).mpr fun hadds =>
      hall e command source hedit hread hadds hterminal

end Document

/-! ### Edits of stored workflows -/

namespace Database

variable {db : Database} {id text : String} {s : StoredWorkflow} {now : Moment}

/-- A command on a stored workflow is settled. -/
inductive Settles (db : Database) (id text : String) (now : Moment) : Prop where
  /-- The changed document is accepted, and it is stored. -/
  | stored (e : Edited) (db' : Database) (s : StoredWorkflow)
      (hedit : db.editWorkflow id (.str text) now = (.ok e, db'))
      (hcheck : Document.check e.document.toJson = .ok e.document)
      (hstored : db'.stored id = .ok s) (hdocument : s.document = e.document)
  /-- The command is refused, and nothing is changed. -/
  | refused (refusal : EditRefusal)
      (hedit : db.editWorkflow id (.str text) now = (.error (.refused refusal), db))

/-- A command that is a text is carried out as the edit says. -/
theorem carryOut_str (d : Document) (text : String) : carryOut d (.str text) =
    match d.edit text with
    | .error fault => .error (.fault (.data fault))
    | .ok (.error refusal) => .error (.refused refusal)
    | .ok (.ok e) => .ok e := by
  simp only [carryOut, Json.textFor, Except.mapError, bind, Except.bind]
  rcases d.edit text with fault | refusal | e <;> rfl

/-- A document that an edit gives comes in the place of the other one, if it can be written. -/
theorem editWorkflow_of_edit {e : Edited} (hstored : db.stored id = .ok s)
    (hedit : s.document.edit text = .ok (.ok e)) (now : Moment) :
    (e.document.toJson.isWritable = true →
      db.editWorkflow id (.str text) now = (.ok e, db.replaceWorkflow id e.document now)) ∧
    (e.document.toJson.isWritable = false →
      db.editWorkflow id (.str text) now = (.error (.column .tooManyDigits), db.block)) := by
  obtain ⟨hopen, hold, -⟩ := stored_eq_ok_iff.mp hstored
  obtain ⟨hcheck, hleave, -⟩ := Document.edit_eq_ok hedit
  have hcall : db.editWorkflow id (.str text) now =
      settleEdit e (db.exchangeDocument id e.document now) := by
    simp only [editWorkflow, hstored, carryOut_str, hedit]
  have hexchanged := exchangeDocument_exchanged ⟨_, hcheck⟩ hopen hold now
  rw [hcall]
  generalize db.exchangeDocument id e.document now = outcome at hexchanged
  cases hexchanged with
  | stored _ hwritable =>
    exact ⟨fun _ => rfl, fun hlost => Bool.noConfusion (hwritable.symm.trans hlost)⟩
  | unwritten _ hlost =>
    exact ⟨fun hwritable => Bool.noConfusion (hwritable.symm.trans hlost), fun _ => rfl⟩
  | spoiled hstays => exact absurd hleave hstays

/-- It is read back under the name of the workflow. -/
theorem stored_of_edit {e : Edited} (hstored : db.stored id = .ok s)
    (hedit : s.document.edit text = .ok (.ok e)) (now : Moment) :
    (db.replaceWorkflow id e.document now).stored id =
      .ok ⟨s.row.withDocument e.document now, e.document⟩ := by
  obtain ⟨hopen, hold, -⟩ := stored_eq_ok_iff.mp hstored
  obtain ⟨hcheck, -, -⟩ := Document.edit_eq_ok hedit
  have hread : (s.row.withDocument e.document now).document = .ok e.document := by
    have hfinite := Document.eq_finite_of_check_toJson hcheck
    rw [(WorkflowRow.document_of_accepted ⟨_, hcheck⟩ rfl).1, ← hfinite]
  exact stored_eq_ok_iff.mpr ⟨hopen, workflow?_replaceWorkflow hold, hread⟩

/-- What fails for another reason than a refusal is not settled. -/
theorem not_settles_of_error {e : ServiceError} {db' : Database}
    (h : db.editWorkflow id (.str text) now = (.error e, db'))
    (hother : ∀ refusal, e ≠ .refused refusal) : ¬ db.Settles id text now := by
  rintro (⟨_, _, _, hsettled, -⟩ | ⟨refusal, hsettled⟩)
  · rw [h] at hsettled
    cases hsettled
  · rw [h] at hsettled
    exact hother refusal (Except.error.inj (Prod.mk.inj hsettled).1)

/-- **A command on a stored workflow is settled** exactly if the edit has an outcome, and what it
gives can be written. -/
theorem settles_iff (hstored : db.stored id = .ok s) :
    db.Settles id text now ↔
      (∃ outcome, s.document.edit text = .ok outcome) ∧ s.document.GivesWritable text := by
  unfold Document.GivesWritable
  cases hedit : s.document.edit text with
  | error fault =>
    have hfault : db.editWorkflow id (.str text) now = (.error (.fault (.data fault)), db) := by
      simp only [editWorkflow, hstored, carryOut_str, hedit]
    exact iff_of_false (not_settles_of_error hfault (by simp)) (by simp)
  | ok outcome =>
    cases outcome with
    | error refusal =>
      refine iff_of_true (.refused refusal ?_) ⟨⟨_, rfl⟩, fun e h => by cases h⟩
      simp only [editWorkflow, hstored, carryOut_str, hedit]
    | ok e =>
      obtain ⟨hwritten, hlost⟩ := editWorkflow_of_edit hstored hedit now
      cases hwritable : e.document.toJson.isWritable with
      | true =>
        refine iff_of_true ?_ ⟨⟨_, rfl⟩, fun e' h => ?_⟩
        · exact .stored e _ _ (hwritten hwritable) (Document.edit_eq_ok hedit).1
            (stored_of_edit hstored hedit now) rfl
        · rwa [← Except.ok.inj (Except.ok.inj h)]
      | false =>
        refine iff_of_false (not_settles_of_error (hlost hwritable) (by simp)) fun h => ?_
        rw [h.2 e rfl] at hwritable
        cases hwritable

end Database

namespace Workflow

/-- A workflow of one node. -/
def lone (id : String) : Workflow where
  id := "wf_lone"
  name := "Lone"
  description := "Has one node."
  tags := []
  entryNodeId := id
  freeData := []
  nodes := [NodeType.manual.fresh id ⟨.whole 0, .whole 0⟩]
  edges := []

/-- The workflow with its node at another place. -/
def loneAt (id : String) (position : Position) : Workflow :=
  { lone id with nodes := [NodeType.manual.fresh id position] }

theorem terminal?_loneAt (id : String) (position : Position) :
    (loneAt id position).terminal? = some (NodeType.manual.fresh id position) := rfl

end Workflow

namespace Document

variable {v : Json} {d : Document}

/-- **When a command has an outcome.**  For an accepted document and any text, the edit is carried
out or refused exactly if there is no command or it is within the limits.  And exactly if besides
what it gives can be written, a command on a workflow that is stored with this document stores an
accepted document, or is refused and changes nothing.  Where the document itself can be written,
what the edit gives cannot be only if a node is added too far to the right. -/
theorem settled_iff_withinLimits (h : check v = .ok d) (text : String) :
    ((∃ outcome, d.edit text = .ok outcome) ↔
      Text.strip text.toList = [] ∨ d.WithinLimits text) ∧
    (∀ (db : Database) (id : String) (s : StoredWorkflow) (now : Moment), db.stored id = .ok s →
      s.document = d → (db.Settles id text now ↔
        (Text.strip text.toList = [] ∨ d.WithinLimits text) ∧ d.GivesWritable text)) ∧
    (d.toJson.isWritable = true → (d.GivesWritable text ↔
      ∀ e command source, d.edit text = .ok (.ok e) → EditCommand.read text = .ok (.ok command) →
        command.Adds → d.workflow.terminal? = some source →
          (source.position.x.shift nodeSpacing).toJson.isWritable = true)) := by
  refine ⟨exists_edit_iff h, ?_, givesWritable_iff h⟩
  rintro db id s now hstored rfl
  rw [Database.settles_iff hstored, exists_edit_iff h]

/-- A node is added to the fork. -/
theorem settled_iff_withinLimits_fork :
    check (toJson ⟨Workflow.fork⟩) = .ok ⟨Workflow.fork⟩ ∧
      ∃ outcome, edit ⟨Workflow.fork⟩ "add classify at end" = .ok outcome := by
  have hread : EditCommand.read "add classify at end" = .ok (.ok (.add .classify)) := by
    decide +kernel
  have hleave : CanLeave ⟨Workflow.fork⟩ := (serialize_eq_ok.mp rfl).1
  refine ⟨check_fork, (settled_iff_withinLimits check_fork _).1.mpr
    (.inr ⟨hleave, EditCommand.exists_read_iff.mp ⟨_, hread⟩, ?_⟩)⟩
  intro command mark ids hcommand hnumbers
  obtain rfl := Except.ok.inj (Except.ok.inj (hread.symm.trans hcommand))
  cases hnumbers with
  | node => exact exists_nextId_iff.mp ⟨"n1", by decide +kernel⟩
  | edge => exact exists_nextId_iff.mp ⟨"e4", by decide +kernel⟩

/-- A workflow of one node is accepted whatever the text is that names the node, and wherever the
node is. -/
theorem check_loneAt {id : String} (hid : Shape.IsText id) (position : Position) :
    check (toJson ⟨.loneAt id position⟩) = .ok ⟨.loneAt id position⟩ := by
  have hname : Text.hasHalf "wf_lone" = false ∧ Shape.isWorkflowId "wf_lone" = true := by
    decide
  have htexts : Shape.IsText "Lone" ∧ Shape.IsText "Has one node." := by
    decide
  have hshaped : (Workflow.loneAt id position).Shaped := by
    refine ⟨hname.1, hname.2, htexts.1, htexts.2, hid, ?_, List.cons_ne_nil _ _,
      List.forall_mem_nil _⟩
    exact List.forall_mem_singleton.mpr (NodeType.shaped_fresh .manual _ hid)
  have hcoherent : (Workflow.loneAt id position).Coherent := by
    refine ⟨⟨_, rfl, rfl⟩, List.forall_mem_singleton.mpr (Node.fits_fresh ..), List.nodup_singleton _,
      List.forall_mem_nil _, List.nodup_nil, fun a ha => ?_⟩
    obtain ⟨b, ⟨e, he, -⟩, -⟩ := Relation.TransGen.head'_iff.mp ha
    cases he
  obtain ⟨d, hcheck⟩ : ∃ d, check (toJson ⟨.loneAt id position⟩) = .ok d :=
    (exists_check_toJson_iff rfl).mpr ⟨hshaped, hcoherent⟩
  rw [hcheck, eq_finite_of_check_toJson hcheck]
  rfl

/-- The place of a node whose number has as many digits as it may have, all of them the last one. -/
def farRight : Position :=
  ⟨.whole (10 ^ Text.maxDigits - 1), .whole 0⟩

/-- **A command whose outcome cannot be written**, although the document can be: behind a node that
is far to the right another one is put. -/
theorem not_givesWritable_farRight :
    check (toJson ⟨.loneAt "start" farRight⟩) = .ok ⟨.loneAt "start" farRight⟩ ∧
      (toJson ⟨.loneAt "start" farRight⟩).isWritable = true ∧
      (∃ e, edit ⟨.loneAt "start" farRight⟩ "add classify at end" = .ok (.ok e)) ∧
      ¬ GivesWritable ⟨.loneAt "start" farRight⟩ "add classify at end" := by
  have hcheck : check (toJson ⟨.loneAt "start" farRight⟩) = .ok ⟨.loneAt "start" farRight⟩ :=
    check_loneAt (by decide) farRight
  have hwritable : (toJson ⟨.loneAt "start" farRight⟩).isWritable = true := by decide +kernel
  have hread : EditCommand.read "add classify at end" = .ok (.ok (.add .classify)) := by
    decide +kernel
  have hgiven : ((edit ⟨.loneAt "start" farRight⟩ "add classify at end").toOption.bind
      Except.toOption).isSome = true := by
    decide +kernel
  obtain ⟨e, hedit⟩ : ∃ e, edit ⟨.loneAt "start" farRight⟩ "add classify at end" = .ok (.ok e) := by
    rcases hedit : edit ⟨.loneAt "start" farRight⟩ "add classify at end" with fault | refusal | e
    · simp [hedit, Except.toOption] at hgiven
    · simp [hedit, Except.toOption] at hgiven
    · exact ⟨e, rfl⟩
  refine ⟨hcheck, hwritable, ⟨e, hedit⟩, fun hgives => ?_⟩
  have hplace := (givesWritable_iff hcheck hwritable).mp hgives e _ _ hedit hread trivial
    (Workflow.terminal?_loneAt "start" farRight)
  exact absurd hplace (by decide +kernel)

/-- An id that is an integer of some digits in base sixteen, all of them the last one. -/
def hexadecimalId (count : Nat) : String :=
  "n" ++ String.ofList ('0' :: 'x' :: List.replicate count 'f')

theorem isText_hexadecimalId (count : Nat) : Shape.IsText (hexadecimalId count) := by
  refine ⟨?_, by simp [hexadecimalId]⟩
  rw [← String.ofList_toList (s := hexadecimalId count)]
  refine Text.hasHalf_eq_false fun c hc => ?_
  simp only [hexadecimalId, String.toList_append, String.toList_ofList, List.mem_append,
    List.mem_cons, List.mem_replicate] at hc
  rcases hc with hc | rfl | rfl | ⟨-, rfl⟩
  · obtain rfl : c = 'n' := List.mem_singleton.mp hc
    decide
  all_goals decide

/-- With 256 digits, each of which makes up for four binary ones, it has no double. -/
theorem uncounted_hexadecimalId : Uncounted "n" (hexadecimalId 256) := by
  refine ⟨2 ^ 1024 - 1, ?_, by decide +kernel⟩
  rw [hexadecimalId, idNumeral_append, String.toList_ofList]
  decide +kernel

/-- **A command that fails**: the id of the only node cannot be numbered. -/
theorem edit_fails_hexadecimal :
    check (toJson ⟨.lone (hexadecimalId 256)⟩) = .ok ⟨.lone (hexadecimalId 256)⟩ ∧
      EditCommand.read "add classify at end" = .ok (.ok (.add .classify)) ∧
      ¬ ∃ outcome, edit ⟨.lone (hexadecimalId 256)⟩ "add classify at end" = .ok outcome := by
  have hread : EditCommand.read "add classify at end" = .ok (.ok (.add .classify)) := by
    decide +kernel
  have hcheck := check_loneAt (isText_hexadecimalId 256) ⟨.whole 0, .whole 0⟩
  refine ⟨hcheck, hread, fun houtcome => ?_⟩
  rcases (exists_edit_iff hcheck).mp houtcome with hblank | hlimits
  · rw [← EditCommand.read_eq_blank_iff, hread] at hblank
    cases hblank
  · exact hlimits.ids _ _ _ hread (.node _ trivial) (hexadecimalId 256) List.mem_cons_self
      uncounted_hexadecimalId

end Document
end Flowgraph
