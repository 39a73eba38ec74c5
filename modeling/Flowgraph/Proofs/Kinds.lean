import Flowgraph.Proofs.Outcomes
import Flowgraph.Proofs.Spellings
import Mathlib.Data.List.Find

/-!
# The kinds of nodes in commands

A command that adds a node speaks of its kind in one of some words, and the first line of the table
counts of which a word occurs anywhere in the text, case ignored.  A word may so get in the way of
another one that it stands in.  All words but one keep their meaning between texts that speak of no
kind: `notify` has an `if` in it, which is a word of an earlier line.

What holds of the words is found by comparing any two of them, since what is spelled around a word
stands on one side of it or meets it.

## Main definitions

* `Silent` — a text speaks of no kind of node.
* `EditCommand.addedType?` — the kind of node that a command adds.
* `Document.Adds` — an edit adds a node of a kind, and does nothing else to the kinds of the nodes.

## Main results

* `NodeType.mentioned?_of_word` — the kind of node that a text with one word speaks of.
* `Document.adds_of_read` — what becomes of a command that adds a node.
* `Document.adds_of_word` — **the kind of the node that a text with one word adds.**
* `NodeType.mentioned_notify` — a word that stands for another kind than its own.
-/

namespace Flowgraph

open Text

variable {line row : List String × NodeType} {word other : String}
  {text before after spelling : List Char} {kind : NodeType}

/-! ### Words in texts -/

/-- A word is mentioned in a text if a piece of this spells it. -/
theorem mentions_iff {word : List Char} :
    mentions text word = true ↔ ∃ piece, piece <:+: text ∧ Spells word piece := by
  induction text with
  | nil =>
    rw [mentions, Bool.or_false, isSome_dropWord?_iff]
    simp only [List.prefix_nil, List.infix_nil]
  | cons c text ih =>
    rw [mentions, Bool.or_eq_true, isSome_dropWord?_iff, ih]
    simp only [List.infix_cons_iff, or_and_right, exists_or]

/-- A text speaks of no kind of node: no piece of it spells one of the words. -/
def Silent (text : List Char) : Prop :=
  ∀ line ∈ typeWords, ∀ word ∈ line.1, ∀ piece, piece <:+: text → ¬ Spells word.toList piece

theorem silent_iff : Silent text ↔ NodeType.mentioned? text = none := by
  simp only [Silent, NodeType.mentioned?, Option.map_eq_none_iff, List.find?_eq_none,
    List.any_eq_true, mentions_iff, not_exists, not_and]

instance : Decidable (Silent text) :=
  decidable_of_iff _ silent_iff.symm

/-- The words are of letters of ASCII, with no blanks at their ends. -/
theorem typeWords_wellFormed (hline : line ∈ typeWords) (hword : word ∈ line.1) :
    (∀ l ∈ word.toList, l.toNat < 0x80) ∧ word.toList ≠ [] ∧
      (∀ l ∈ word.toList.head?, isBlank l = false) ∧
      ∀ l ∈ word.toList.reverse.head?, isBlank l = false := by
  have hall : ∀ line ∈ typeWords, ∀ word ∈ line.1,
      (word.toList.all fun l => l.toNat < 0x80) = true ∧ word.toList ≠ [] ∧
        word.toList.head?.all (!isBlank ·) = true ∧
        word.toList.reverse.head?.all (!isBlank ·) = true := by
    decide
  obtain ⟨hascii, hne, hfirst, hlast⟩ := hall line hline word hword
  simp only [List.all_eq_true, decide_eq_true_eq] at hascii
  simp only [Option.all_eq_true, Bool.not_eq_true'] at hfirst hlast
  exact ⟨hascii, hne, hfirst, hlast⟩

/-- The kind that a word of a line stands for. -/
def wordKind (line : List String × NodeType) (word : String) : NodeType :=
  if word = "notify" then .condition else line.2

/-- The first line with a word that meets a given one has a word that stands in this.  A word that
"delay" meets stands for a delay. -/
theorem typeWords_met : ∀ line ∈ typeWords, ∀ word ∈ line.1,
    (∃ row ∈ typeWords.find? fun row => row.1.any fun other => Meets other.toList word.toList,
      row.2 = wordKind line word ∧ ∃ other ∈ row.1, other.toList <:+: word.toList) ∧
    (Meets "delay".toList word.toList → wordKind line word = .delay) := by
  decide +kernel

/-- What is mentioned around a word, but on neither side of it, meets the word. -/
theorem meets_of_mentions (hline : line ∈ typeWords) (hword : word ∈ line.1)
    (hspelling : Spells word.toList spelling) (hbefore : Silent before) (hafter : Silent after)
    (hrow : row ∈ typeWords) (hother : other ∈ row.1)
    (h : mentions (before ++ ' ' :: (spelling ++ ' ' :: after)) other.toList = true) :
    Meets other.toList word.toList := by
  obtain ⟨piece, hpiece, hspells⟩ := mentions_iff.mp h
  rcases meets_of_spells (typeWords_wellFormed hline hword).1
    (typeWords_wellFormed hrow hother).1 hspelling hspells hpiece with h | h | h
  · exact absurd hspells (hbefore row hrow other hother piece h)
  · exact absurd hspells (hafter row hrow other hother piece h)
  · exact h

namespace NodeType

/-- The first line of which a word is mentioned counts. -/
theorem mentioned?_eq_some_of_split {earlier later : List (List String × NodeType)}
    (hsplit : typeWords = earlier ++ row :: later) (hother : other ∈ row.1)
    (hmentions : mentions text other.toList = true)
    (hearlier : ∀ line ∈ earlier, ∀ word ∈ line.1, mentions text word.toList = false) :
    mentioned? text = some row.2 := by
  refine Option.map_eq_some_iff.mpr ⟨row, List.find?_eq_some_iff_append.mpr
    ⟨List.any_eq_true.mpr ⟨other, hother, hmentions⟩, earlier, later, hsplit, ?_⟩, rfl⟩
  intro line hline
  simpa using hearlier line hline

/-- **The kind of node that a text with one word speaks of.** -/
theorem mentioned?_of_word (hline : line ∈ typeWords) (hword : word ∈ line.1)
    (hspelling : Spells word.toList spelling) (hbefore : Silent before) (hafter : Silent after) :
    mentioned? (before ++ ' ' :: (spelling ++ ' ' :: after)) = some (wordKind line word) := by
  obtain ⟨⟨row, hfound, hkind, other, hother, hinfix⟩, -⟩ := typeWords_met line hline word hword
  obtain ⟨-, earlier, later, hsplit, hearlier⟩ := List.find?_eq_some_iff_append.mp hfound
  have hmentions : mentions (before ++ ' ' :: (spelling ++ ' ' :: after)) other.toList = true := by
    obtain ⟨piece, hpiece, hspells⟩ := hspelling.exists_of_infix hinfix
    refine mentions_iff.mpr ⟨piece, hpiece.trans ?_, hspells⟩
    exact ⟨before ++ [' '], ' ' :: after, by simp⟩
  rw [← hkind]
  refine mentioned?_eq_some_of_split hsplit hother hmentions fun early hearly first hfirst => ?_
  by_contra hmentioned
  have hmeets := meets_of_mentions hline hword hspelling hbefore hafter
    (hsplit ▸ List.mem_append_left _ hearly) hfirst (Bool.not_eq_false _ ▸ hmentioned)
  have hnone : ∀ first ∈ early.1, ¬ Meets first.toList word.toList := by
    simpa using hearlier early hearly
  exact hnone first hfirst hmeets

/-- Blanks around a text say nothing of a kind. -/
theorem mentioned?_strip (text : List Char) : mentioned? (strip text) = mentioned? text := by
  have hsame : ∀ line ∈ typeWords, ∀ word ∈ line.1,
      mentions (strip text) word.toList = mentions text word.toList := by
    intro line hline word hword
    obtain ⟨-, hne, hfirst, hlast⟩ := typeWords_wellFormed hline hword
    rw [Bool.eq_iff_iff, mentions_iff, mentions_iff]
    constructor
    · rintro ⟨piece, hpiece, hspells⟩
      exact ⟨piece, hpiece.trans (Text.strip_infix text), hspells⟩
    · rintro ⟨piece, ⟨x, y, rfl⟩, hspells⟩
      refine ⟨piece, ?_, hspells⟩
      rw [strip_append_append (hspells.strip_eq hfirst hlast) (hspells.ne_nil hne)]
      exact List.infix_append _ _ _
  have hrows : ∀ line ∈ typeWords, (line.1.any fun word => mentions (strip text) word.toList) =
      line.1.any fun word => mentions text word.toList := by
    intro line hline
    rw [Bool.eq_iff_iff, List.any_eq_true, List.any_eq_true]
    refine exists_congr fun word => and_congr_right fun hword => ?_
    rw [hsame line hline word hword]
  rw [mentioned?, List.find?_congr hrows, mentioned?]

end NodeType

/-! ### Commands that add a node -/

namespace EditCommand

variable {cs : List Char} {command : EditCommand} {w : Workflow}

/-- The kind of node that a command adds. -/
def addedType? : EditCommand → Option NodeType
  | addDelay _ => some .delay
  | add type => some type
  | _ => none

theorem adds_of_addedType? (h : command.addedType? = some kind) : command.Adds := by
  cases command with
  | addDelay seconds => trivial
  | add type => trivial
  | _ => cases h

/-- A sentence that begins with the word "add" begins with no other word. -/
theorem dropWord?_eq_none_of_beginsWithAdd (h : beginsWithAdd cs = true) {word : String}
    (hword : word ∈ ["rename", "delete", "connect"]) : dropWord? word.toList cs = none := by
  obtain ⟨l, rest, hletters, hl, hspecial, hne⟩ : ∃ l rest, word.toList = l :: rest ∧
      l.toNat < 0x80 ∧ l ∉ ['s', 'k', 'i', 'i'] ∧ 'a' ≠ l := by
    simp only [List.mem_cons, List.not_mem_nil, or_false] at hword
    obtain rfl | rfl | rfl := hword
    · exact ⟨'r', _, rfl, by decide, by decide, by decide⟩
    · exact ⟨'d', _, rfl, by decide, by decide, by decide⟩
    · exact ⟨'c', _, rfl, by decide, by decide, by decide⟩
  rw [hletters]
  cases cs with
  | nil => rfl
  | cons c cs =>
    refine if_neg fun hmatches => ?_
    -- no character outside of ASCII stands for one of these letters
    have hc : c.toNat < 0x80 := by
      by_contra hc
      exact hspecial (List.mem_map_of_mem (f := Prod.fst) (mem_of_matchesLetter hl hmatches hc))
    obtain ⟨tail, htail⟩ : ∃ tail, lower (c :: cs) = c.toLower :: tail := lower_cons hc
    rw [beginsWithAdd, htail, toLower_of_matchesLetter hmatches hc] at h
    simp [hne] at h

/-- A sentence that begins with the word "add" and speaks of a kind is one that adds a node of this
kind, if a delay is spoken of as such. -/
theorem addedType?_of_readSentence (hadd : beginsWithAdd cs = true)
    (hkind : NodeType.mentioned? cs = some kind)
    (hdelay : mentions cs "delay".toList = true → kind = .delay)
    {result : Except CommandProblem EditCommand} (hread : readSentence cs = .ok result) :
    ∃ command, result = .ok command ∧ command.addedType? = some kind := by
  cases hdigits : delayDigits? cs with
  | none =>
    obtain ⟨hrename, hdelete, hconnect⟩ :=
      sentences_eq_none fun _ => dropWord?_eq_none_of_beginsWithAdd hadd
    simp only [readSentence, hrename, hdelete, hconnect, hdigits, hadd, hkind, if_true,
      Except.ok.injEq] at hread
    exact ⟨_, hread.symm, rfl⟩
  | some digits =>
    rw [readSentence_of_delayDigits hdigits] at hread
    have hkind : kind = .delay := by
      obtain ⟨afterAdd, hadd, hdigits⟩ := Option.bind_eq_some_iff.mp hdigits
      obtain ⟨delay, hblanks, hdigits⟩ := Option.bind_eq_some_iff.mp hdigits
      obtain ⟨afterDelay, hword, -⟩ := Option.bind_eq_some_iff.mp hdigits
      obtain ⟨piece, hpiece, hspells⟩ := isSome_dropWord?_iff.mp (Option.isSome_of_eq_some hword)
      have hsuffix := (dropBlanks?_suffix hblanks).trans (dropWord?_suffix hadd)
      exact hdelay (mentions_iff.mpr ⟨piece, hpiece.isInfix.trans hsuffix.isInfix, hspells⟩)
    cases hnatural : readNatural digits with
    | error fault =>
      rw [hnatural] at hread
      cases hread
    | ok n =>
      rw [hnatural] at hread
      obtain rfl := Except.ok.inj hread
      exact ⟨_, rfl, congrArg some hkind.symm⟩

theorem addedType?_of_read {text : String} (hadd : beginsWithAdd (strip text.toList) = true)
    (hkind : NodeType.mentioned? (strip text.toList) = some kind)
    (hdelay : mentions (strip text.toList) "delay".toList = true → kind = .delay)
    {result : Except CommandProblem EditCommand} (hread : read text = .ok result) :
    ∃ command, result = .ok command ∧ command.addedType? = some kind := by
  have hne : (strip text.toList).isEmpty = false := by
    rw [List.isEmpty_eq_false_iff]
    intro hnil
    rw [hnil] at hadd
    exact absurd hadd (by decide)
  refine addedType?_of_readSentence hadd hkind hdelay ?_
  simpa [read, hne] using hread

/-- A command that adds a node adds its kind behind those of the other nodes. -/
theorem types_of_apply {changed : Workflow} (hcoherent : w.Coherent) (hshaped : w.Shaped)
    (hsensible : command.Sensible) (hkind : command.addedType? = some kind)
    (h : command.apply w = .ok (.ok changed)) :
    changed.nodes.map Node.type = w.nodes.map Node.type ++ [kind] := by
  cases changes_of_apply hcoherent hshaped hsensible h with
  | renamed => cases hkind
  | deleted => cases hkind
  | connected => cases hkind
  | added command before after source node id e hnodes hbefore hsource hid hnode hedge =>
    have htype : node.type = kind := by
      cases command with
      | addDelay seconds =>
        obtain rfl := Option.some.inj hnode
        exact Option.some.inj hkind
      | add type =>
        obtain rfl := Option.some.inj hnode
        exact Option.some.inj hkind
      | _ => cases hkind
    rw [List.map_append, List.map_singleton, htype]

/-- A command that adds a node does not refuse. -/
theorem Adds.apply_ne_refusal (h : command.Adds) (refusal : EditRefusal) :
    command.apply w ≠ .ok (.error refusal) := by
  intro happly
  cases command with
  | addDelay seconds =>
    obtain ⟨changed, -, hrefused⟩ := Except.bind_eq_ok_iff.mp happly
    cases hrefused
  | add type =>
    obtain ⟨changed, -, hrefused⟩ := Except.bind_eq_ok_iff.mp happly
    cases hrefused
  | _ => exact h

end EditCommand

/-! ### Edits that add a node -/

namespace Document

variable {v : Json} {d : Document} {text : String} {command : EditCommand}

/-- An edit adds a node of a kind, and leaves the kinds of the other nodes. -/
def Adds (d : Document) (text : String) (kind : NodeType) : Prop :=
  ∃ e, d.edit text = .ok (.ok e) ∧
    e.document.workflow.nodes.map Node.type = d.workflow.nodes.map Node.type ++ [kind]

/-- An edit has an outcome only if its text is read. -/
theorem exists_read_of_edit {outcome : Except EditRefusal Edited} (h : d.edit text = .ok outcome) :
    ∃ result, EditCommand.read text = .ok result := by
  cases hread : EditCommand.read text with
  | ok result => exact ⟨result, rfl⟩
  | error fault =>
    unfold edit at h
    rw [hread] at h
    obtain ⟨_, _, h⟩ := Except.bind_eq_ok_iff.mp h
    cases h

/-- Where a command does not refuse by itself, an edit is refused for what would come of it. -/
theorem refuses_of_edit {refusal : EditRefusal} (hread : EditCommand.read text = .ok (.ok command))
    (happly : ∀ refusal, command.apply d.workflow ≠ .ok (.error refusal))
    (h : d.edit text = .ok (.error refusal)) : d.Refuses text := by
  suffices ∃ errors, refusal = .invalid errors by
    obtain ⟨errors, rfl⟩ := this
    exact ⟨errors, h⟩
  unfold edit at h
  rw [hread] at h
  obtain ⟨_, -, h⟩ := Except.bind_eq_ok_iff.mp h
  obtain ⟨command', hcommand, h⟩ := Except.bind_eq_ok_iff.mp h
  obtain rfl := Except.ok.inj hcommand
  obtain ⟨result, hresult, h⟩ := Except.bind_eq_ok_iff.mp h
  cases result with
  | error refused => exact absurd hresult (happly refused)
  | ok changed =>
    cases hcheck : check (toJson ⟨changed⟩) with
    | error errors => exact ⟨errors, by simpa [hcheck, pure, Except.pure, eq_comm] using h⟩
    | ok document => simp [hcheck, pure, Except.pure] at h

/-- **What becomes of a command that adds a node**: the node is added, or the edit is refused for
the document that would come of it. -/
theorem adds_of_read (hcheck : check v = .ok d) (hread : EditCommand.read text = .ok (.ok command))
    (hkind : command.addedType? = some kind) {outcome : Except EditRefusal Edited}
    (h : d.edit text = .ok outcome) : d.Adds text kind ∨ d.Refuses text := by
  cases outcome with
  | error refusal =>
    exact .inr (refuses_of_edit hread (EditCommand.adds_of_addedType? hkind).apply_ne_refusal h)
  | ok e =>
    obtain ⟨hdocument, hcoherent⟩ := check_eq_ok_iff.mp hcheck
    obtain ⟨-, command', changed, hcommand, happly, hchanged⟩ := exists_of_edit h
    obtain rfl := Except.ok.inj (Except.ok.inj (hread.symm.trans hcommand))
    refine .inl ⟨e, h, ?_⟩
    rw [eq_finite_of_check_toJson hchanged, ← EditCommand.types_of_apply hcoherent
      (shaped_of_read hdocument) (EditCommand.sensible_of_read hread) hkind happly]
    simp only [finite, Workflow.finite, List.map_map]
    rfl

/-- It is refused only if an id that was made up is in use. -/
theorem nextInUse_of_refuses (hv : FiniteData v) (hcheck : check v = .ok d)
    (hread : EditCommand.read text = .ok (.ok command)) (hadds : command.Adds)
    (hlimits : d.WithinLimits text) (h : d.Refuses text) :
    EditCommand.NextInUse "n" d.workflow.nodeIds ∨
      EditCommand.NextInUse "e" d.workflow.edgeIds := by
  obtain ⟨hdocument, hcoherent⟩ := check_eq_ok_iff.mp hcheck
  obtain ⟨-, source, -, -, -, -, hterminal⟩ :=
    Workflow.terminal?_of_coherent hcoherent (shaped_of_read hdocument).nodes_ne_nil
  obtain ⟨nodeId, hnode⟩ := exists_nextId_iff.mpr (hlimits.ids _ _ _ hread (.node _ hadds))
  obtain ⟨edgeId, hedge⟩ := exists_nextId_iff.mpr (hlimits.ids _ _ _ hread (.edge _ hadds))
  obtain ⟨changed, happly⟩ := hadds.exists_apply hterminal hnode hedge
  have hrejected := (edit_of_apply hlimits.leaves hread happly).2.mp h
  rw [accepted_iff_of_apply hv hcheck hread happly, not_not] at hrejected
  obtain ⟨hclashes, hcycle, hhalf⟩ := hadds.clashes_iff d.workflow
  exact hclashes.mp (hrejected.resolve_right (not_or.mpr ⟨hcycle, hhalf⟩))

/-- **The kind of the node that a text with one word adds.**  Between two texts that speak of no
kind, every word but `notify` stands for the kind of its line.  A command with such a text adds a
node of this kind or is refused for the document that would come of it, and within the limits it
does add the node if the ids that are made up are free. -/
theorem adds_of_word {word spelling before after : String} (hline : line ∈ typeWords)
    (hword : word ∈ line.1) (hspelling : Spells word.toList spelling.toList)
    (hbefore : Silent before.toList) (hafter : Silent after.toList) :
    let text := before ++ " " ++ spelling ++ " " ++ after
    let kind := if word = "notify" then .condition else line.2
    NodeType.mentioned? text.toList = some kind ∧
    (EditCommand.beginsWithAdd (strip text.toList) = true → ∀ v d, check v = .ok d →
      (∀ outcome, d.edit text = .ok outcome → d.Adds text kind ∨ d.Refuses text) ∧
      (FiniteData v → d.WithinLimits text → ¬ EditCommand.NextInUse "n" d.workflow.nodeIds →
        ¬ EditCommand.NextInUse "e" d.workflow.edgeIds → d.Adds text kind)) := by
  intro text kind
  have htext : text.toList = before.toList ++ ' ' :: (spelling.toList ++ ' ' :: after.toList) := by
    simp [text]
  have hkind : NodeType.mentioned? text.toList = some kind := by
    rw [htext]
    exact NodeType.mentioned?_of_word hline hword hspelling hbefore hafter
  refine ⟨hkind, fun hadd v d hcheck => ?_⟩
  have hdelay : mentions (strip text.toList) "delay".toList = true → kind = .delay := by
    intro hmentions
    obtain ⟨piece, hpiece, hspells⟩ := mentions_iff.mp hmentions
    have hwhole : mentions text.toList "delay".toList = true :=
      mentions_iff.mpr ⟨piece, hpiece.trans (Text.strip_infix _), hspells⟩
    rw [htext] at hwhole
    have hrow : (["delay", "wait", "pause"], NodeType.delay) ∈ typeWords := by decide
    exact (typeWords_met line hline word hword).2
      (meets_of_mentions hline hword hspelling hbefore hafter hrow List.mem_cons_self hwhole)
  -- a text that is read gives a command that adds a node of the kind
  have hcommand {result} (hread : EditCommand.read text = .ok result) :=
    EditCommand.addedType?_of_read hadd (by rwa [NodeType.mentioned?_strip]) hdelay hread
  have hadds : ∀ outcome, d.edit text = .ok outcome → d.Adds text kind ∨ d.Refuses text := by
    intro outcome hedit
    obtain ⟨result, hread⟩ := exists_read_of_edit hedit
    obtain ⟨command, rfl, hadded⟩ := hcommand hread
    exact adds_of_read hcheck hread hadded hedit
  refine ⟨hadds, fun hv hlimits hnode hedge => ?_⟩
  obtain ⟨outcome, hedit⟩ := (exists_edit_iff hcheck).mpr (.inr hlimits)
  refine (hadds outcome hedit).resolve_right fun hrefuses => ?_
  obtain ⟨result, hread⟩ := exists_read_of_edit hedit
  obtain ⟨command, rfl, hadded⟩ := hcommand hread
  exact (nextInUse_of_refuses hv hcheck hread (EditCommand.adds_of_addedType? hadded) hlimits
    hrefuses).elim hnode hedge

/-- A word in letters of any case, the first of which is no letter of ASCII. -/
theorem adds_of_word_slack :
    NodeType.mentioned? " Add the ſLACK channel".toList = some .exporter ∧
      Adds ⟨Workflow.fork⟩ " Add the ſLACK channel" .exporter := by
  have hread : EditCommand.read " Add the ſLACK channel" = .ok (.ok (.add .exporter)) := by
    decide +kernel
  have hline : (["export", "csv", "json", "notify", "slack"], NodeType.exporter) ∈ typeWords := by
    decide
  have hspelling : Spells "slack".toList "ſLACK".toList := by
    decide
  have hsilent : Silent " Add the".toList ∧ Silent "channel".toList := by
    decide +kernel
  obtain ⟨hkind, hadds⟩ := adds_of_word hline (by decide) hspelling hsilent.1 hsilent.2
  obtain ⟨-, hadds⟩ := hadds (by decide) _ _ check_fork
  have hnode : nextId "n" Workflow.fork.nodeIds = .ok "n1" := rfl
  have hedge : nextId "e" Workflow.fork.edgeIds = .ok "e4" := rfl
  have hlimits : WithinLimits ⟨Workflow.fork⟩ " Add the ſLACK channel" := by
    refine ⟨(serialize_eq_ok.mp rfl).1, EditCommand.exists_read_iff.mp ⟨_, hread⟩, ?_⟩
    intro command mark ids hcommand hnumbers
    obtain rfl := Except.ok.inj (Except.ok.inj (hread.symm.trans hcommand))
    cases hnumbers with
    | node => exact exists_nextId_iff.mp ⟨_, hnode⟩
    | edge => exact exists_nextId_iff.mp ⟨_, hedge⟩
  refine ⟨hkind, hadds finiteData_fork hlimits ?_ ?_⟩
  · rw [EditCommand.nextInUse_iff hnode]
    decide
  · rw [EditCommand.nextInUse_iff hedge]
    decide

end Document

/-- **A word that stands for another kind than its own**: there is a word of an earlier line in
it. -/
theorem NodeType.mentioned_notify :
    (["export", "csv", "json", "notify", "slack"], .exporter) ∈ typeWords ∧
      Silent "add".toList ∧ Silent "node".toList ∧
      NodeType.mentioned? "add notify node".toList = some .condition := by
  have hline : (["export", "csv", "json", "notify", "slack"], .exporter) ∈ typeWords := by
    decide
  have hspelling : Spells "notify".toList "notify".toList := by
    decide
  have hbefore : Silent "add".toList := by decide
  have hafter : Silent "node".toList := by decide
  have hkind := mentioned?_of_word hline (by decide) hspelling hbefore hafter
  exact ⟨hline, hbefore, hafter, hkind⟩

end Flowgraph
