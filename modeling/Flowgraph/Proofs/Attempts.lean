import Flowgraph.Generation
import Flowgraph.Proofs.Graph
import Flowgraph.Proofs.Literals
import Flowgraph.Proofs.Prose
import Flowgraph.Proofs.Violations

/-!
# Two attempts at a document

A model that is asked for a document is asked once, or twice if its first reply holds none, and what
was wrong with the first reply is then part of the question.  Nothing else is to come of it but a
document, the violations of the second reply, or a fault of the model.

One thing more can happen: a reply may be more than can be read at all.  An integer of more than
4300 digits is not read, nor is a text that is nested too deep, and such a reply is not put down to
the model but stops everything.  In a reply that has neither so many digits in a row nor so many
openings there is no such trouble.

## Main definitions

* `Document.Moderate` — a reply has no more digits in a row and no more openings than can be read.
* `Document.Reading` — what a reply is read as.
* `Brief.question`, `Brief.questionAgain` — what the model is asked, and asked again.
* `Attempt`, `Course` — one attempt at a document, and all of them.

## Main results

* `Document.reading_ofReply` — a reply is a document, or refused for a reason, or too much.
* `Document.exists_ofReply` — a moderate reply is never too much.
* `generate_course` — **the model is asked at most twice, and what comes of it is what it said.**
* `generate_of_ofReply_error` — a first reply that is too much stops everything.
-/

namespace Flowgraph

/-! ### Replies -/

namespace Document

variable {reply : String} {cs : List Char}

theorem withoutOpening_suffix (cs : List Char) : withoutOpening cs <:+ cs := by
  unfold withoutOpening
  split
  · have hword : (Text.dropWord? "json".toList (cs.drop 3)).getD (cs.drop 3) <:+ cs.drop 3 := by
      cases hjson : Text.dropWord? "json".toList (cs.drop 3) with
      | none => exact List.suffix_rfl
      | some left => exact Text.dropWord?_suffix hjson
    exact ((List.dropWhile_suffix _).trans hword).trans (List.drop_suffix 3 cs)
  · exact List.suffix_rfl

theorem withoutClosing_isPrefix (cs : List Char) : withoutClosing cs <+: cs := by
  unfold withoutClosing
  split
  · exact List.take_prefix _ cs
  · exact List.prefix_rfl

/-- What stands between the fences stands in the reply. -/
theorem withoutFences_isInfix (reply : String) :
    (withoutFences reply).toList <:+: reply.toList := by
  rw [withoutFences, String.toList_ofList]
  exact (Text.strip_infix _).trans <| (withoutClosing_isPrefix _).isInfix.trans <|
    (withoutOpening_suffix _).isInfix.trans (Text.strip_infix _)

/-- A reply has no more openings than levels are allowed, and no more digits side by side than an
integer may have. -/
structure Moderate (reply : String) : Prop where
  /-- There are not too many openings. -/
  openings : Json.Reader.openings reply.toList ≤ Json.Reader.maxDepth
  /-- There are not too many digits side by side. -/
  digits : ∀ count, Json.Reader.HasDigits count reply.toList → count ≤ Text.maxDigits

/-- What is too much for the reader can be seen in the reply. -/
theorem Moderate.read_ne_unfit (h : Moderate reply) (e : DataError) :
    Json.read (withoutFences reply) ≠ .error (.unfit e) := by
  intro hread
  have htold := Json.told_of_read hread
  have hpart := withoutFences_isInfix reply
  cases e with
  | textTooDeep kind =>
    have hdeep := Json.maxDepth_lt_of_read hread
    exact absurd (hpart.sublist.countP_le.trans h.openings) (Nat.not_le_of_lt hdeep)
  | tooManyDigits count =>
    exact absurd (h.digits count (htold.2.mono hpart)) (Nat.not_le_of_lt htold.1)
  | _ => exact htold

/-- What a reply is read as: a document, or what is wrong with it, unless it is too much. -/
inductive Reading (reply : String) : Except DataError (Except (List String) Document) → Prop where
  /-- Between the fences there is data, and it is a document that keeps all rules. -/
  | document (v : Json) (d : Document) (hread : Json.read (withoutFences reply) = .ok v)
      (h : check v = .ok d) : Reading reply (.ok (.ok d))
  /-- There is data, and it is said why it is none. -/
  | refused (v : Json) (errors : List String) (hread : Json.read (withoutFences reply) = .ok v)
      (h : check v = .error errors) (hne : errors ≠ []) : Reading reply (.ok (.error errors))
  /-- There is no data. -/
  | malformed (problem : Json.Problem) (position : Nat)
      (hread : Json.read (withoutFences reply) = .error (.malformed problem position)) :
      Reading reply (.ok (.error ["$: response is not valid JSON"]))
  /-- There are too many digits in an integer, or too many levels. -/
  | excessive (e : DataError) (hread : Json.read (withoutFences reply) = .error (.unfit e))
      (h : ¬ Moderate reply) : Reading reply (.error e)

/-- A reply is a document, or refused for a reason, or too much. -/
theorem reading_ofReply (reply : String) : Reading reply (ofReply reply) := by
  unfold ofReply
  cases hread : Json.read (withoutFences reply) with
  | ok v =>
    dsimp only
    cases hcheck : check v with
    | ok d => exact .document v d hread hcheck
    | error errors => exact .refused v errors hread hcheck (errors_of_check hcheck)
  | error problem =>
    cases problem with
    | malformed problem position => exact .malformed problem position hread
    | unfit e => exact .excessive e hread fun hmoderate => hmoderate.read_ne_unfit e hread

/-- A moderate reply is never too much. -/
theorem exists_ofReply (h : Moderate reply) : ∃ result, ofReply reply = .ok result := by
  have hreading := reading_ofReply reply
  cases hresult : ofReply reply with
  | ok result => exact ⟨result, rfl⟩
  | error e =>
    rw [hresult] at hreading
    cases hreading with
    | excessive _ _ hnot => exact absurd h hnot

/-- Whatever a reply is refused for, there is something. -/
theorem Reading.errors_ne_nil {errors : List String} (h : Reading reply (.ok (.error errors))) :
    errors ≠ [] := by
  cases h with
  | refused v _ hread hcheck hne => exact hne
  | malformed problem position hread => exact List.cons_ne_nil _ _

end Document

/-! ### Questions -/

namespace Brief

/-- What the model is asked first. -/
def question (brief : Brief) (request : String) : Prompt :=
  ⟨request, some (brief.instructions []), true⟩

/-- What it is asked when its first reply was refused: the same, and what was wrong with the reply,
twelve errors of it at most. -/
def questionAgain (brief : Brief) (request : String) (errors : List String) : Prompt :=
  ⟨request,
    some (brief.instructions [] ++ ("Previous attempt failed validation. Fix these errors:\n" ++
      "\n".intercalate (errors.take 12))),
    true⟩

theorem questionAgain_eq {errors : List String} (brief : Brief) (request : String)
    (h : errors ≠ []) : brief.questionAgain request errors =
      ⟨request, some (brief.instructions (errors.take maxErrorsTold)), true⟩ := by
  have htold : (errors.take maxErrorsTold).isEmpty = false := by
    cases errors with
    | nil => exact absurd rfl h
    | cons error errors => rfl
  simp only [questionAgain, instructions, htold, List.isEmpty_nil, if_true, Bool.false_eq_true,
    if_false, String.append_empty, String.append_assoc]
  rfl

end Brief

/-! ### Attempts -/

variable {σ : Type} {complete : Prompt → Effect σ String} {brief : Brief} {request : String}
  {s : σ}

/-- One attempt at a document: the model is asked a question once, and its reply is read. -/
inductive Attempt (complete : Prompt → Effect σ String) (prompt : Prompt) (s : σ) :
    Except Fault (Except (List String) Document) → σ → Prop where
  /-- The model has a fault, and so has the attempt. -/
  | fault (fault : Fault) (s' : σ) (h : complete prompt s = (.error fault, s')) :
      Attempt complete prompt s (.error fault) s'
  /-- The reply is a document, or refused. -/
  | read (reply : String) (s' : σ) (result : Except (List String) Document)
      (hreply : complete prompt s = (.ok reply, s')) (h : Document.Reading reply (.ok result)) :
      Attempt complete prompt s (.ok result) s'
  /-- The reply is too much. -/
  | excessive (reply : String) (s' : σ) (e : DataError)
      (hreply : complete prompt s = (.ok reply, s')) (h : Document.Reading reply (.error e)) :
      Attempt complete prompt s (.error (.data e)) s'

theorem attempt_askForDocument (complete : Prompt → Effect σ String) (request system : String)
    (s : σ) :
    Attempt complete ⟨request, some system, true⟩ s
      (askForDocument complete request system s).1
      (askForDocument complete request system s).2 := by
  rw [askForDocument, Effect.bind_apply]
  rcases hreply : complete ⟨request, some system, true⟩ s with ⟨fault | reply, s'⟩
  · exact .fault fault s' hreply
  · have hreading := Document.reading_ofReply reply
    dsimp only
    cases hresult : Document.ofReply reply with
    | ok result =>
      rw [hresult] at hreading
      exact .read reply s' result hreply hreading
    | error e =>
      rw [hresult] at hreading
      exact .excessive reply s' e hreply hreading

/-- All attempts at a document: the questions that are asked, what comes of them, and the state
that is left. -/
inductive Course (complete : Prompt → Effect σ String) (brief : Brief) (request : String) (s : σ) :
    List Prompt → Except Fault (Except (List String) Document) → σ → Prop where
  /-- The first reply is a document. -/
  | accepted (d : Document) (s' : σ)
      (h : Attempt complete (brief.question request) s (.ok (.ok d)) s') :
      Course complete brief request s [brief.question request] (.ok (.ok d)) s'
  /-- The first attempt fails. -/
  | failed (fault : Fault) (s' : σ)
      (h : Attempt complete (brief.question request) s (.error fault) s') :
      Course complete brief request s [brief.question request] (.error fault) s'
  /-- The first reply is refused for a reason, and the second attempt decides. -/
  | again (errors : List String) (s' : σ) (hne : errors ≠ [])
      (h : Attempt complete (brief.question request) s (.ok (.error errors)) s')
      (result : Except Fault (Except (List String) Document)) (s'' : σ)
      (h' : Attempt complete (brief.questionAgain request errors) s' result s'') :
      Course complete brief request s
        [brief.question request, brief.questionAgain request errors] result s''

/-- **The model is asked at most twice, and what comes of it is what it said**: its document, or
what is wrong with its second reply, or its fault, or a reply that is too much.  The second question
tells what was wrong with the first reply.  Every reply is a document, or refused for a reason, or
too much; and a moderate one is not too much. -/
theorem generate_course (complete : Prompt → Effect σ String) (brief : Brief) (request : String)
    (s : σ) :
    (∃ asked, Course complete brief request s asked
      (generate complete brief request s).1 (generate complete brief request s).2) ∧
    (∀ reply, Document.Reading reply (Document.ofReply reply)) ∧
    ∀ reply, Document.Moderate reply → ∃ result, Document.ofReply reply = .ok result := by
  refine ⟨?_, Document.reading_ofReply, fun _ => Document.exists_ofReply⟩
  have hfirst := attempt_askForDocument complete request (brief.instructions []) s
  rw [generate, Effect.bind_apply]
  rcases hrun : askForDocument complete request (brief.instructions []) s with
    ⟨fault | errors | d, s'⟩ <;> rw [hrun] at hfirst
  · exact ⟨_, .failed fault s' hfirst⟩
  · have hne : errors ≠ [] := by
      cases hfirst with
      | read reply _ _ hreply hreading => exact hreading.errors_ne_nil
    refine ⟨_, .again errors s' hne hfirst _ _ ?_⟩
    rw [brief.questionAgain_eq request hne]
    exact attempt_askForDocument complete request _ s'
  · exact ⟨_, .accepted d s' hfirst⟩

/-- A model that only talks is asked twice. -/
theorem generate_course_talk :
    let model : Prompt → Effect Nat String := fun _ asked => (.ok "Of course!", asked + 1)
    Document.Moderate "Of course!" ∧ (∃ result, Document.ofReply "Of course!" = .ok result) ∧
      ∃ asked, Course model {} "Wait." 0 asked
        (.ok (.error ["$: response is not valid JSON"])) 2 := by
  intro model
  have hmoderate : Document.Moderate "Of course!" := by
    refine ⟨by decide, fun count hcount => ?_⟩
    obtain ⟨digits, hdigits, rfl, -⟩ := hcount
    exact hdigits.length_le.trans (by decide)
  obtain ⟨⟨asked, hcourse⟩, -, hread⟩ := generate_course model {} "Wait." 0
  exact ⟨hmoderate, hread _ hmoderate, asked, hcourse⟩

/-! ### Integers that are too long -/

namespace Json.Reader

variable {c : Char} {rest digits : List Char}

/-- A word that begins with no digit does not stand where a digit stands. -/
theorem dropWord?_of_isDigit {word : String} {w : Char} {letters : List Char}
    (hword : word.toList = w :: letters) (hw : isDigit w = false) (hc : isDigit c = true) :
    dropWord? word (c :: rest) = none := by
  have hne : w ≠ c := fun h => by rw [h, hc] at hw; cases hw
  rw [dropWord?, hword, if_neg]
  simp [List.isPrefixOf, hne]

/-- A number is read where a digit stands. -/
theorem readValue_of_isDigit (hc : isDigit c = true) (fuel depth : ℕ) :
    readValue (fuel + 1) depth (c :: rest) = readNumber (c :: rest) false (c :: rest) := by
  have hne : ∀ d, isDigit d = false → c ≠ d := by
    rintro d hd rfl
    rw [hc] at hd
    cases hd
  have hnull : dropWord? "null" (c :: rest) = none := dropWord?_of_isDigit rfl rfl hc
  have htrue : dropWord? "true" (c :: rest) = none := dropWord?_of_isDigit rfl rfl hc
  have hfalse : dropWord? "false" (c :: rest) = none := dropWord?_of_isDigit rfl rfl hc
  have hnan : dropWord? "NaN" (c :: rest) = none := dropWord?_of_isDigit rfl rfl hc
  have habove : dropWord? "Infinity" (c :: rest) = none := dropWord?_of_isDigit rfl rfl hc
  have hbelow : dropWord? "-Infinity" (c :: rest) = none := dropWord?_of_isDigit rfl rfl hc
  have hatom : readAtom (c :: rest) = readNumber (c :: rest) false (c :: rest) := by
    unfold readAtom
    rw [hnull, htrue, hfalse, hnan, habove, hbelow]
    dsimp only
    split
    · rename_i heq
      exact absurd (List.cons.inj heq).1 (hne '-' (by decide))
    · rfl
  rw [← hatom]
  unfold readValue
  split
  · rename_i heq
    exact absurd (List.cons.inj heq).1 (hne '"' (by decide))
  · rename_i heq
    exact absurd (List.cons.inj heq).1 (hne '[' (by decide))
  · rename_i heq
    exact absurd (List.cons.inj heq).1 (hne '\x7b' (by decide))
  · rfl

theorem readNumber_of_digits (start : List Char) (hdigits : ∀ c ∈ digits, isDigit c = true)
    (hfirst : digits.head? ≠ some '0') (hlong : Text.maxDigits < digits.length) :
    readNumber start false digits = .error (.unfit (.tooManyDigits digits.length)) := by
  have hwhole : wholePart? digits = some (digits, []) := by
    cases digits with
    | nil => exact absurd hlong (Nat.not_lt_zero _)
    | cons c rest =>
      obtain ⟨hc, hrest⟩ := List.forall_mem_cons.mp hdigits
      rw [wholePart?, if_neg (by simpa using hfirst), if_pos hc,
        List.takeWhile_eq_self_iff.mpr hrest, List.dropWhile_eq_nil_iff.mpr hrest]
  simp [readNumber, hwhole, fraction?, exponent?, hlong]

end Json.Reader

namespace Document

variable {digits : List Char}

theorem strip_of_digits (hdigits : ∀ c ∈ digits, Json.Reader.isDigit c = true) :
    Text.strip digits = digits :=
  Text.strip_eq_self_of_forall fun c hc => Text.not_isBlank_of_isDigit (hdigits c hc)

/-- A row of digits has no blanks and no fences around it. -/
theorem withoutFences_of_digits (hdigits : ∀ c ∈ digits, Json.Reader.isDigit c = true) :
    withoutFences (String.ofList digits) = String.ofList digits := by
  have hstrip := strip_of_digits hdigits
  have hfence : '`' ∉ digits := fun h => absurd (hdigits _ h) (by decide)
  have hopening : withoutOpening digits = digits := by
    rw [withoutOpening, if_neg]
    intro h
    exact hfence ((List.isPrefixOf_iff_prefix.mp h).subset (by decide))
  have hclosing : withoutClosing digits = digits := by
    rw [withoutClosing, if_neg]
    intro h
    exact hfence ((List.isSuffixOf_iff_suffix.mp h).subset (by decide))
  rw [withoutFences, String.toList_ofList, hstrip, hopening, hclosing, hstrip]

/-- An integer of too many digits is too much, whatever its digits are. -/
theorem ofReply_longInteger (hdigits : ∀ c ∈ digits, Json.Reader.isDigit c = true)
    (hfirst : digits.head? ≠ some '0') (hlong : Text.maxDigits < digits.length) :
    ofReply (String.ofList digits) = .error (.tooManyDigits digits.length) := by
  have hread : Json.read (String.ofList digits) =
      .error (.unfit (.tooManyDigits digits.length)) := by
    obtain ⟨c, rest, rfl⟩ := List.exists_cons_of_ne_nil (List.ne_nil_of_length_pos
      (Nat.zero_lt_of_lt hlong))
    have hc := hdigits c List.mem_cons_self
    refine Json.Reader.read_eq_unfit_iff.mpr ⟨?_, ?_⟩
    · rintro ⟨⟩
      exact absurd hc (by decide)
    · rw [Json.Reader.skip_of_strip (strip_of_digits hdigits), Json.Reader.readValue_of_isDigit hc]
      exact Json.Reader.readNumber_of_digits _ hdigits hfirst hlong
  unfold ofReply
  rw [withoutFences_of_digits hdigits, hread]

end Document

/-! ### Replies that are too much -/

/-- **A first reply that is too much stops everything**: the model has answered, and there is
neither a document nor a second question. -/
theorem generate_of_ofReply_error {reply : String} {s' : σ} {e : DataError}
    (hreply : complete (brief.question request) s = (.ok reply, s'))
    (h : Document.ofReply reply = .error e) :
    generate complete brief request s = (.error (.data e), s') := by
  have hask : askForDocument complete request (brief.instructions []) s =
      (.error (.data e), s') := by
    rw [Brief.question] at hreply
    rw [askForDocument, Effect.bind_apply, hreply]
    dsimp only
    rw [h]
    rfl
  rw [generate, Effect.bind_apply, hask]

/-- So it is with a reply that is an integer of 4301 digits. -/
theorem generate_longInteger :
    (generate (fun _ => (pure (String.ofList (List.replicate 4301 '1')) : Effect Unit String)) {}
      "Wait." ()).1 = .error (.data (.tooManyDigits 4301)) := by
  have hdigits : ∀ c ∈ List.replicate 4301 '1', Json.Reader.isDigit c = true := by
    intro c hc
    rw [List.eq_of_mem_replicate hc]
    decide
  have hread := Document.ofReply_longInteger hdigits (by rw [List.head?_replicate]; decide)
    (by rw [List.length_replicate]; decide)
  rw [List.length_replicate] at hread
  exact congrArg Prod.fst (generate_of_ofReply_error rfl hread)

end Flowgraph
