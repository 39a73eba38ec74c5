import Flowgraph.Catalog
import Flowgraph.Proofs.Activity
import Flowgraph.Proofs.Magnitude
import Flowgraph.Proofs.Nesting

/-!
# What an answer can do

A node that asks a language model takes what it can from the answer and falls back on an answer of
its own otherwise.  Two things still make it fail: an answer that is too deep to be searched for an
object, and an integer that is too large for a double where a number is looked for.

## Main definitions

* `Json.TooLarge` — a value stands for an integer that has no double.
* `Settings.inputPath?`, `Settings.question?` — what a node that asks for an object reads and asks.
* `Settings.BrokenBy` — an object has an integer that is too large where the node looks for a
  number.
* `Settings.Fails` — the faults that a reply leads to.
* `Settings.Usable` — a reply is not too deep and its object is fit.

## Main results

* `Json.toDouble_eq_error_iff` — a value has no number exactly if it is too large.
* `Node.execute_eq_error_iff` — **when a live node that asks for an object fails.**
* `Node.execute_of_usable` — an answer alone never fails a node, as long as it is usable.
* `Node.execute_hugeAnswer` — one that has an integer that is too large does.
-/

namespace Flowgraph

/-! ### Computations that fail -/

namespace Effect

variable {σ α β : Type} {m : Effect σ α} {f : α → Effect σ β} {s : σ} {fault : Fault}

/-- Two computations in a row fail exactly if the first one does, or the second one on its value. -/
theorem bind_eq_error_iff : ((m >>= f) s).1 = .error fault ↔
    (m s).1 = .error fault ∨ ∃ a s', m s = (.ok a, s') ∧ (f a s').1 = .error fault := by
  rw [bind_apply]
  rcases m s with ⟨e | a, s'⟩ <;> simp

theorem ofData_eq_error_iff {r : Except DataError α} :
    ((ofData r : Effect σ α) s).1 = .error fault ↔ ∃ e, r = .error e ∧ fault = .data e := by
  cases r <;> simp [ofData, eq_comm]

end Effect

/-! ### Values -/

namespace Json

/-- A value stands for an integer that has no double: it is one, or it writes one in base sixteen,
eight or two. -/
inductive TooLarge : Json → Prop where
  /-- The value is too large. -/
  | int (n : Int) (h : Double.firstTooLarge ≤ n.natAbs) : TooLarge (.int n)
  /-- The value is a text that writes a natural number that is too large. -/
  | str (s : String) (n : Nat) (hn : Text.basedNatural? (Text.strip s.toList) = some n)
      (h : Double.firstTooLarge ≤ n) : TooLarge (.str s)

theorem tooLarge_int {n : Int} : (int n).TooLarge ↔ Double.firstTooLarge ≤ n.natAbs :=
  ⟨fun | .int _ h => h, .int n⟩

theorem tooLarge_str {s : String} : (str s).TooLarge ↔
    ∃ n, Text.basedNatural? (Text.strip s.toList) = some n ∧ Double.firstTooLarge ≤ n :=
  ⟨fun | .str _ n hn h => ⟨n, hn, h⟩, fun ⟨n, hn, h⟩ => .str s n hn h⟩

end Json

/-- A text has no number exactly if it writes a natural number that is too large. -/
theorem Text.numeral?_eq_error_iff {cs : List Char} {e : DataError} :
    Text.numeral? cs = .error e ↔ e = .tooLarge ∧
      ∃ n, Text.basedNatural? (Text.strip cs) = some n ∧ Double.firstTooLarge ≤ n := by
  unfold numeral?
  simp only []
  generalize strip cs = text
  split_ifs with hempty hword hnegative
  · -- the words are not written in a base
    simp [List.isEmpty_iff.mp hempty, basedNatural?]
  · rcases hword with rfl | rfl <;> simp [basedNatural?]
  · simp [hnegative, basedNatural?]
  · cases hbased : basedNatural? text with
    | none => simp
    | some n =>
      have hn := Double.ofInt?_eq_none_iff (n : Int)
      rw [Int.natAbs_natCast] at hn
      cases hdouble : Double.ofInt? n with
      | none => simp [hdouble, hn.mp hdouble, eq_comm]
      | some x =>
        have hsmall : ¬ Double.firstTooLarge ≤ n := fun hle => by simp [hn.mpr hle] at hdouble
        simp [hdouble, hsmall]

namespace Json

/-- A value has no number exactly if it is too large. -/
theorem toDouble_eq_error_iff {v : Json} {e : DataError} :
    v.toDouble = .error e ↔ e = .tooLarge ∧ v.TooLarge := by
  cases v with
  | int n =>
    rw [tooLarge_int, ← Double.ofInt?_eq_none_iff, toDouble]
    cases Double.ofInt? n <;> simp [eq_comm]
  | str s =>
    rw [tooLarge_str, ← Text.numeral?_eq_error_iff, toDouble]
    cases Text.numeral? s.toList <;> simp [bind, Except.bind, pure, Except.pure]
  | _ => exact iff_of_false (by simp [toDouble]) fun h => by cases h.2

end Json

namespace Activity

theorem Extraction.coerce_eq_error_iff {v : Json} {type : FieldType} {e : DataError} :
    coerce v type = .error e ↔ type = .number ∧ e = .tooLarge ∧ v.TooLarge := by
  cases type with
  | number =>
    rw [coerce, ← Json.toDouble_eq_error_iff]
    cases v with
    | int n => cases hn : Double.ofInt? n <;> simp [coerceNumber, Json.toDouble, hn]
    | float x => simp [coerceNumber, Json.toDouble]
    | str s => simp [coerceNumber, Except.bind_eq_error_iff, pure, Except.pure]
    | _ => simp [coerceNumber, Json.toDouble]
  | _ => simp [coerce]

/-- A record cannot be made exactly if an integer that is too large is given for a number. -/
theorem Extraction.coerceAll_eq_error_iff {answer : Fields} {e : DataError} :
    ∀ {specs : List FieldSpec} {record : Fields}, coerceAll answer record specs = .error e ↔
      e = .tooLarge ∧ ∃ spec ∈ specs, FieldType.ofName spec.type = .number ∧
        (answer.getD spec.key).TooLarge := by
  intro specs
  induction specs with
  | nil => simp [coerceAll]
  | cons spec specs ih =>
    intro record
    rw [coerceAll, Except.bind_eq_error_iff, coerce_eq_error_iff]
    simp only [ih, List.exists_mem_cons_iff]
    constructor
    · rintro (⟨hnumber, rfl, hlarge⟩ | ⟨v, -, rfl, hothers⟩)
      · exact ⟨rfl, .inl ⟨hnumber, hlarge⟩⟩
      · exact ⟨rfl, .inr hothers⟩
    · rintro ⟨rfl, ⟨hnumber, hlarge⟩ | hothers⟩
      · exact .inl ⟨hnumber, rfl, hlarge⟩
      · -- a field before that one may fail first, and then for the same reason
        cases hv : coerce (answer.getD spec.key) (.ofName spec.type) with
        | ok v => exact .inr ⟨v, rfl, rfl, hothers⟩
        | error e =>
          obtain ⟨hnumber, rfl, hlarge⟩ := coerce_eq_error_iff.mp hv
          exact .inl ⟨hnumber, rfl, hlarge⟩

/-- The label of an answer. -/
def Classification.labelOf (answer : Fields) : String :=
  match answer.get? "label" with
  | some (.str s) => String.ofList (Text.strip s.toList)
  | _ => ""

/-- An answer cannot be looked at exactly if its label is in the list and its confidence is an
integer that is too large. -/
theorem Classification.accept?_eq_error_iff {labels : List String} {answer : Fields}
    {e : DataError} : accept? labels answer = .error e ↔
      e = .tooLarge ∧ labelOf answer ∈ labels ∧ ∃ v ∈ answer.get? "confidence", v.TooLarge := by
  unfold accept?
  change (if labels.contains (labelOf answer) then _ else _) = _ ↔ _
  split_ifs with hlabel
  · rw [List.contains_iff_mem] at hlabel
    cases answer.get? "confidence" with
    | none => simp [pure, Except.pure, bind, Except.bind]
    | some v =>
      simp [Except.bind_eq_error_iff, Json.toDouble_eq_error_iff, hlabel, pure, Except.pure]
  · rw [List.contains_iff_mem] at hlabel
    simp [hlabel]

end Activity

/-! ### Asking for an object -/

/-- A reply that is an object and nothing else holds that object. -/
theorem Json.embeddedObject?_of_readChars {cs : List Char} {fields : Fields}
    (hstrip : Text.strip cs = cs) (hmark : cs.head? ≠ some '\uFEFF')
    (hread : readChars cs = .ok (.obj fields)) :
    embeddedObject? (String.ofList cs) = .ok (some fields) := by
  have hobject : Embedded.object? cs = .ok (some fields) := by
    unfold Embedded.object? read
    simp [hmark, hread]
  rw [embeddedObject?, String.toList_ofList, hstrip, Embedded.candidates]
  simp [Embedded.firstObject?, hobject, bind, Except.bind]

namespace Settings

/-- The path at which a node that asks for an object reads. -/
def inputPath? : Settings → Option String
  | .classify s => some s.inputPath
  | .extract s => some s.inputPath
  | _ => none

/-- What such a node asks about what it reads, unless there are no labels or no fields. -/
def question? (source : Json) : Settings → Option Prompt
  | .classify s =>
    if s.labels.isEmpty then none
    else some ⟨Activity.Classification.prompt s source, some strictObjectPrompt, true⟩
  | .extract s =>
    if s.fields.isEmpty then none
    else some ⟨Activity.Extraction.prompt s source, some strictObjectPrompt, true⟩
  | _ => none

/-- An object has an integer that is too large where the node looks for a number. -/
inductive BrokenBy : Settings → Fields → Prop where
  /-- The confidence in a label of the list is too large. -/
  | classify (s : ClassifySettings) (answer : Fields) (v : Json)
      (hlabel : Activity.Classification.labelOf answer ∈ s.labels)
      (hv : answer.get? "confidence" = some v) (hlarge : v.TooLarge) : BrokenBy (.classify s) answer
  /-- What is given for a field of numbers is too large. -/
  | extract (s : ExtractSettings) (answer : Fields) (spec : FieldSpec) (hspec : spec ∈ s.fields)
      (hnumber : Activity.Extraction.FieldType.ofName spec.type = .number)
      (hlarge : (answer.getD spec.key).TooLarge) : BrokenBy (.extract s) answer

/-- The faults that a reply leads to. -/
inductive Fails (settings : Settings) (reply : String) : Fault → Prop where
  /-- The reply is too deep. -/
  | deep (e : DataError) (h : Json.embeddedObject? reply = .error e) :
    Fails settings reply (.data e)
  /-- Its object is not fit. -/
  | broken (answer : Fields) (hanswer : Json.embeddedObject? reply = .ok (some answer))
      (h : settings.BrokenBy answer) : Fails settings reply (.data .tooLarge)

theorem brokenBy_classify {s : ClassifySettings} {answer : Fields} :
    (classify s).BrokenBy answer ↔ Activity.Classification.labelOf answer ∈ s.labels ∧
      ∃ v ∈ answer.get? "confidence", v.TooLarge :=
  ⟨fun | .classify _ _ v hlabel hv hlarge => ⟨hlabel, v, hv, hlarge⟩,
    fun ⟨hlabel, v, hv, hlarge⟩ => .classify s answer v hlabel hv hlarge⟩

theorem brokenBy_extract {s : ExtractSettings} {answer : Fields} :
    (extract s).BrokenBy answer ↔ ∃ spec ∈ s.fields,
      Activity.Extraction.FieldType.ofName spec.type = .number ∧
        (answer.getD spec.key).TooLarge :=
  ⟨fun | .extract _ _ spec hspec hnumber hlarge => ⟨spec, hspec, hnumber, hlarge⟩,
    fun ⟨spec, hspec, hnumber, hlarge⟩ => .extract s answer spec hspec hnumber hlarge⟩

theorem fails_iff {settings : Settings} {reply : String} {fault : Fault} :
    settings.Fails reply fault ↔
      (∃ e, Json.embeddedObject? reply = .error e ∧ fault = .data e) ∨
      ∃ answer, Json.embeddedObject? reply = .ok (some answer) ∧ fault = .data .tooLarge ∧
        settings.BrokenBy answer := by
  constructor
  · rintro (⟨e, h⟩ | ⟨answer, hanswer, h⟩)
    · exact .inl ⟨e, h, rfl⟩
    · exact .inr ⟨answer, hanswer, rfl, h⟩
  · rintro (⟨e, h, rfl⟩ | ⟨answer, hanswer, rfl, h⟩)
    · exact .deep e h
    · exact .broken answer hanswer h

end Settings

variable {σ : Type} {c : Collaborators σ} {workflowId : String} {s : σ} {fault : Fault}

/-- Where only the object in the reply can lead to a fault, asking for an object fails exactly if
the model does or the reply leads to a fault. -/
theorem Backend.asking_eq_error_iff {α : Type} {text : String} {f : Option Fields → Effect σ α}
    (settings : Settings) (hnone : ∀ s, (f none s).1 ≠ .error fault)
    (hsome : ∀ answer s, (f (some answer) s).1 = .error fault ↔
      fault = .data .tooLarge ∧ settings.BrokenBy answer) :
    (((live c workflowId).completeObject text none >>= f) s).1 = .error fault ↔
      (c.complete ⟨text, some strictObjectPrompt, true⟩ s).1 = .error fault ∨
      ∃ reply, (c.complete ⟨text, some strictObjectPrompt, true⟩ s).1 = .ok reply ∧
        settings.Fails reply fault := by
  have hask : (live c workflowId).completeObject text none =
      c.complete ⟨text, some strictObjectPrompt, true⟩ >>= fun reply =>
        Effect.ofData (Json.embeddedObject? reply) := rfl
  -- the model answers, its reply is searched, and only then `f` comes
  rw [hask, Effect.bind_apply, Effect.bind_apply]
  rcases c.complete ⟨text, some strictObjectPrompt, true⟩ s with ⟨fault' | reply, s'⟩
  · simp
  · cases hobject : Json.embeddedObject? reply with
    | error e => simp [Effect.ofData, Settings.fails_iff, hobject, eq_comm]
    | ok answer? =>
      cases answer? with
      | none => simpa [Effect.ofData, Settings.fails_iff, hobject] using hnone s'
      | some answer => simpa [Effect.ofData, Settings.fails_iff, hobject] using hsome answer s'

namespace Activity

variable {context : Fields} {source? : Option Json}

/-- What a node reads is there, so that it does not fail before it asks. -/
theorem resolve_bind {α : Type} {path : String} (f : Json → Effect σ α)
    (hsource : Path.resolve (.obj context) path = .ok source?) :
    (resolve context path >>= f) s = f (source?.getD .null) s := by
  rw [resolve, hsource]
  rfl

theorem Classification.run_eq_error_iff {settings : ClassifySettings}
    (hsource : Path.resolve (.obj context) settings.inputPath = .ok source?) :
    (run (.live c workflowId) settings context s).1 = .error fault ↔
      ∃ prompt ∈ (Settings.classify settings).question? (source?.getD .null),
        (c.complete prompt s).1 = .error fault ∨ ∃ reply, (c.complete prompt s).1 = .ok reply ∧
          (Settings.classify settings).Fails reply fault := by
  rw [run, resolve_bind _ hsource, Settings.question?]
  split_ifs with hlabels
  · simp
  · rw [Backend.asking_eq_error_iff (.classify settings)]
    · simp
    · simp
    · intro answer s
      rw [Effect.bind_eq_error_iff, Effect.ofData_eq_error_iff, Settings.brokenBy_classify,
        or_iff_left]
      · simp [accept?_eq_error_iff, and_comm]
      · -- whether the answer counts or not, there is an outcome
        rintro ⟨verdict?, s', -, h⟩
        cases verdict? <;> simp at h

theorem Extraction.run_eq_error_iff {settings : ExtractSettings}
    (hsource : Path.resolve (.obj context) settings.inputPath = .ok source?) :
    (run (.live c workflowId) settings context s).1 = .error fault ↔
      ∃ prompt ∈ (Settings.extract settings).question? (source?.getD .null),
        (c.complete prompt s).1 = .error fault ∨ ∃ reply, (c.complete prompt s).1 = .ok reply ∧
          (Settings.extract settings).Fails reply fault := by
  rw [run, resolve_bind _ hsource, Settings.question?]
  split_ifs with hfields
  · simp
  · rw [Backend.asking_eq_error_iff (.extract settings)]
    · simp
    · simp
    · intro answer s
      rw [Effect.bind_eq_error_iff, Effect.ofData_eq_error_iff, Settings.brokenBy_extract,
        or_iff_left]
      · simp [coerceAll_eq_error_iff, and_comm]
      · rintro ⟨record, s', -, h⟩
        simp at h

end Activity

/-! ### Nodes -/

/-- A reply is not too deep, and in its object there is no integer that is too large where the node
looks for a number. -/
structure Settings.Usable (settings : Settings) (reply : String) : Prop where
  /-- The reply has no more openings than levels are allowed. -/
  openings : Json.Reader.openings reply.toList ≤ Json.Reader.maxDepth
  /-- Its object is fit. -/
  fit : ∀ answer, Json.embeddedObject? reply = .ok (some answer) → ¬ settings.BrokenBy answer

theorem Settings.Usable.not_fails {settings : Settings} {reply : String}
    (h : settings.Usable reply) : ¬ settings.Fails reply fault := by
  rintro (⟨e, hdeep⟩ | ⟨answer, hanswer, hbroken⟩)
  · exact Nat.not_lt_of_le h.openings (Json.maxDepth_lt_of_embeddedObject? hdeep)
  · exact h.fit answer hanswer hbroken

namespace Node

variable {node : Node} {registry : List NodeType} {context : Fields} {path : String}
  {source? : Option Json}

/-- **When a live node that asks for an object fails**: exactly if it asks, and the model fails or
its reply is too deep or has an integer that is too large. -/
theorem execute_eq_error_iff (hregistry : node.type ∈ registry)
    (hpath : node.settings.inputPath? = some path)
    (hsource : Path.resolve (.obj context) path = .ok source?) :
    (node.execute registry (.live c workflowId) context s).1 = .error fault ↔
      ∃ prompt ∈ node.settings.question? (source?.getD .null),
        (c.complete prompt s).1 = .error fault ∨ ∃ reply, (c.complete prompt s).1 = .ok reply ∧
          node.settings.Fails reply fault := by
  rw [execute, if_pos (List.contains_iff_mem.mpr hregistry), act]
  cases hsettings : node.settings <;> rw [hsettings] at hpath <;> cases hpath
  · exact Activity.Classification.run_eq_error_iff hsource
  · exact Activity.Extraction.run_eq_error_iff hsource

/-- **An answer alone never fails a node**, as long as it is not too deep and has no integer that is
too large where a number is looked for: a live node that asks for an object succeeds, or it fails
with the fault of the model. -/
theorem execute_of_usable (c : Collaborators σ) (workflowId : String) (node : Node)
    (registry : List NodeType) (hregistry : node.type ∈ registry) (context : Fields) (path : String)
    (hpath : node.settings.inputPath? = some path) (source? : Option Json)
    (hsource : Path.resolve (.obj context) path = .ok source?) (s : σ)
    (husable : ∀ prompt reply, (c.complete prompt s).1 = .ok reply → node.settings.Usable reply) :
    (∃ outcome, (node.execute registry (.live c workflowId) context s).1 = .ok outcome) ∨
      ∃ prompt fault, (c.complete prompt s).1 = .error fault ∧
        (node.execute registry (.live c workflowId) context s).1 = .error fault := by
  cases hrun : (node.execute registry (.live c workflowId) context s).1 with
  | ok outcome => exact .inl ⟨outcome, rfl⟩
  | error fault =>
    obtain ⟨prompt, -, hmodel | ⟨reply, hreply, hfails⟩⟩ :=
      (execute_eq_error_iff hregistry hpath hsource).mp hrun
    · exact .inr ⟨prompt, fault, hmodel, rfl⟩
    · exact absurd hfails (husable prompt reply hreply).not_fails

/-- A classification with two labels. -/
def triage : Node :=
  { NodeType.classify.fresh "triage" ⟨.whole 0, .whole 0⟩ with
    config := [("labels", .strs ["urgent", "other"])] }

/-- A model that always gives the same answer. -/
def answering (reply : String) : Collaborators Unit where
  saveTable := "va_items"
  complete _ := pure reply
  insert _ _ := Effect.fail (.foreign "OSError" "no store")

/-- Where the model gives no object, labels are looked for in the input. -/
theorem execute_of_usable_triage :
    (∃ outcome, (triage.execute NodeType.all (.live (answering "no idea") "wf")
        [("input", .str "an urgent request")] ()).1 = .ok outcome ∧ outcome.fallbackUsed = true) ∧
      ((∃ outcome, (triage.execute NodeType.all (.live (answering "no idea") "wf")
          [("input", .str "an urgent request")] ()).1 = .ok outcome) ∨
        ∃ prompt fault, ((answering "no idea").complete prompt ()).1 = .error fault ∧
          (triage.execute NodeType.all (.live (answering "no idea") "wf")
            [("input", .str "an urgent request")] ()).1 = .error fault) := by
  refine ⟨⟨_, rfl, rfl⟩, execute_of_usable (answering "no idea") "wf" triage NodeType.all
    (NodeType.mem_all _) [("input", .str "an urgent request")] "$.input" rfl _ rfl () ?_⟩
  intro prompt reply hreply
  obtain rfl := Except.ok.inj hreply
  exact ⟨by decide, fun answer hanswer => by cases hanswer⟩

/-- A label of the list with the confidence `10 ^ 309`, as a model may write it. -/
def hugeAnswer : List Char :=
  "\x7b\"label\":\"urgent\",\"confidence\":1".toList ++ List.replicate 309 '0' ++ ['\x7d']

/-- The two fields of an object that was read, of a text and of an integer.  Values have no decidable
equality, but these have. -/
def textAndInteger? : Except Json.ReadError Json → Option ((String × String) × String × Int)
  | .ok (.obj [(first, .str text), (second, .int n)]) => some ((first, text), second, n)
  | _ => none

theorem eq_ok_of_textAndInteger? {r : Except Json.ReadError Json} {first text second : String}
    {n : Int} (h : textAndInteger? r = some ((first, text), second, n)) :
    r = .ok (.obj [(first, .str text), (second, .int n)]) := by
  unfold textAndInteger? at h
  split at h
  · cases h
    rfl
  · cases h

theorem readChars_hugeAnswer : Json.readChars hugeAnswer =
    .ok (.obj [("label", .str "urgent"), ("confidence", .int (10 ^ 309))]) :=
  eq_ok_of_textAndInteger? (by decide +kernel)

theorem tooLarge_huge : (Json.int (10 ^ 309)).TooLarge :=
  .int _ (by decide +kernel)

/-- **An answer with an integer that is too large fails a node** though the model raised no
fault. -/
theorem execute_hugeAnswer :
    (triage.execute NodeType.all (.live (answering (String.ofList hugeAnswer)) "wf")
        [("input", .str "an urgent request")] ()).1 = .error (.data .tooLarge) := by
  have hobject : Json.embeddedObject? (String.ofList hugeAnswer) =
      .ok (some [("label", .str "urgent"), ("confidence", .int (10 ^ 309))]) :=
    Json.embeddedObject?_of_readChars (by decide +kernel) (by decide +kernel) readChars_hugeAnswer
  have hbroken : triage.settings.BrokenBy
      [("label", .str "urgent"), ("confidence", .int (10 ^ 309))] :=
    .classify _ _ _ (by decide) rfl tooLarge_huge
  have hpath : triage.settings.inputPath? = some "$.input" := rfl
  exact (execute_eq_error_iff (NodeType.mem_all _) hpath rfl).mpr
    ⟨_, rfl, .inr ⟨_, rfl, .broken _ hobject hbroken⟩⟩

end Node
end Flowgraph
