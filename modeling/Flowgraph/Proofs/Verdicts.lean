import Flowgraph.Proofs.Answers
import Flowgraph.Proofs.Fallback
import Flowgraph.Proofs.Labels
import Flowgraph.Proofs.Rounding

/-!
# Verdicts of a classification

A branch of a workflow may hang on the label that a classification writes, so the label has to be
one of the list whatever a model answers, and the confidence has to lie between zero and one.  The
answer of a model is used only if its label is in the list and its confidence is finite; otherwise
the keywords decide, just as they do in a simulated run.

The model is a function on a state of any type, so it may well write down what it is asked.  Where
the state is left as it was, nothing was asked.

## Main definitions

* `Classification.Unusable` — a reply cannot be used as a verdict on the labels.
* `Classification.Offers` — the verdict that a reply gives otherwise.
* `Classification.Settled` — how a classification that has labels comes to its verdict.

## Main results

* `Double.clamp_between` — a finite number is clamped to one between the bounds.
* `Classification.Settled.sound` — such a verdict has a label of the list and a confidence between
  zero and one.
* `Node.execute_classify` — **what a classification writes, and when it falls back.**
-/

namespace Flowgraph

/-! ### Computations that succeed -/

namespace Effect

variable {σ α β : Type} {m : Effect σ α} {f : α → Effect σ β} {s s' : σ} {a : α} {b : β}

/-- Two computations in a row give a value exactly if the second one does on the value and the state
of the first. -/
theorem bind_eq_ok_iff : (m >>= f) s = (.ok b, s') ↔
    ∃ a s₁, m s = (.ok a, s₁) ∧ f a s₁ = (.ok b, s') := by
  rw [bind_apply]
  rcases m s with ⟨fault | a, s₁⟩ <;> simp

theorem ofData_eq_ok_iff {r : Except DataError α} :
    (ofData r : Effect σ α) s = (.ok a, s') ↔ r = .ok a ∧ s' = s := by
  cases r <;> simp [ofData, eq_comm]

theorem pure_eq_ok_iff {a' : α} : (pure a' : Effect σ α) s = (.ok a, s') ↔ a = a' ∧ s' = s := by
  simp [eq_comm]

end Effect

/-! ### Numbers between bounds -/

namespace Double

/-- A number is finite, and its exact value lies between two others. -/
def Between (low high : Dyadic) (x : Double) : Prop :=
  ∃ v, x.value? = some v ∧ low ≤ v ∧ v ≤ high

variable {x : Double} {low high : Dyadic}

/-- A finite number is clamped to one between the bounds. -/
theorem clamp_between (hx : x.isFinite = true) (h : low ≤ high) :
    Between low high (x.clamp (finite low) (finite high)) := by
  obtain ⟨v, hv⟩ := Option.isSome_iff_exists.mp hx
  unfold clamp
  -- first the upper bound is kept, by `x` or by the bound itself
  obtain ⟨w, hw, hle⟩ : ∃ w,
      (if x.lt (finite high) then x else finite high).value? = some w ∧ w ≤ high := by
    split_ifs with hlt
    · rw [lt_of_value hv rfl, decide_eq_true_iff] at hlt
      exact ⟨v, hv, Std.le_of_lt hlt⟩
    · exact ⟨high, rfl, Std.le_refl high⟩
  dsimp only
  generalize (if x.lt (finite high) then x else finite high) = capped at hw ⊢
  split_ifs with hlt
  · rw [lt_of_value rfl hw, decide_eq_true_iff] at hlt
    exact ⟨w, hw, Std.le_of_lt hlt, hle⟩
  · exact ⟨low, rfl, Std.le_refl low, h⟩

end Double

namespace Activity.Classification

/-! ### What a reply offers -/

variable {labels : List String} {reply : String} {answer : Fields} {v : Verdict}

/-- A reply cannot be used as a verdict on labels. -/
inductive Unusable (labels : List String) (reply : String) : Prop where
  /-- No object is found in the reply. -/
  | noObject (h : Json.embeddedObject? reply = .ok none)
  /-- The label of the object is not in the list. -/
  | foreign (answer : Fields) (hanswer : Json.embeddedObject? reply = .ok (some answer))
      (h : labelOf answer ∉ labels)
  /-- The object has no confidence. -/
  | noConfidence (answer : Fields) (hanswer : Json.embeddedObject? reply = .ok (some answer))
      (h : answer.get? "confidence" = none)
  /-- The number of its confidence is an infinity, or no number. -/
  | notFinite (answer : Fields) (hanswer : Json.embeddedObject? reply = .ok (some answer))
      (value : Json) (hvalue : answer.get? "confidence" = some value)
      (x : Double) (hx : value.toDouble = .ok x) (h : x.isFinite = false)

/-- The verdict that a reply gives: a label of the list with a finite confidence, which counts as
zero if it is negative and as one if it is larger. -/
inductive Offers (labels : List String) (reply : String) : Verdict → Prop where
  /-- The object in the reply has both. -/
  | mk (answer : Fields) (hanswer : Json.embeddedObject? reply = .ok (some answer))
      (hlabel : labelOf answer ∈ labels)
      (value : Json) (hvalue : answer.get? "confidence" = some value)
      (x : Double) (hx : value.toDouble = .ok x) (hfinite : x.isFinite = true) :
      Offers labels reply ⟨labelOf answer, x.clamp (.finite 0) (.finite 1)⟩

/-- A reply that gives a verdict can be used. -/
theorem Offers.not_unusable (h : Offers labels reply v) : ¬ Unusable labels reply := by
  obtain ⟨answer, hanswer, hlabel, value, hvalue, x, hx, hfinite⟩ := h
  intro hunusable
  cases hunusable with
  | noObject h => simp [hanswer] at h
  | foreign answer' hanswer' h =>
    obtain rfl := Option.some.inj (Except.ok.inj (hanswer.symm.trans hanswer'))
    exact h hlabel
  | noConfidence answer' hanswer' h =>
    obtain rfl := Option.some.inj (Except.ok.inj (hanswer.symm.trans hanswer'))
    simp [hvalue] at h
  | notFinite answer' hanswer' value' hvalue' x' hx' h =>
    obtain rfl := Option.some.inj (Except.ok.inj (hanswer.symm.trans hanswer'))
    obtain rfl := Option.some.inj (hvalue.symm.trans hvalue')
    obtain rfl := Except.ok.inj (hx.symm.trans hx')
    simp [hfinite] at h

/-- An object that can be looked at either gives a verdict, or the reply cannot be used. -/
theorem offers_or_unusable_of_accept? {verdict? : Option Verdict}
    (hanswer : Json.embeddedObject? reply = .ok (some answer))
    (h : accept? labels answer = .ok verdict?) :
    (∃ v, verdict? = some v ∧ Offers labels reply v) ∨
      verdict? = none ∧ Unusable labels reply := by
  unfold accept? at h
  change (if labels.contains (labelOf answer) then _ else _) = _ at h
  split_ifs at h with hlabel
  · rw [List.contains_iff_mem] at hlabel
    cases hvalue : answer.get? "confidence" with
    | none =>
      rw [hvalue] at h
      exact .inr ⟨(Except.ok.inj h).symm, .noConfidence answer hanswer hvalue⟩
    | some value =>
      rw [hvalue] at h
      obtain ⟨x, hx, hfinite⟩ := Except.bind_eq_ok_iff.mp h
      obtain rfl := Except.ok.inj hfinite
      split_ifs with hxfinite
      · exact .inl ⟨_, rfl, .mk answer hanswer hlabel value hvalue x hx hxfinite⟩
      · exact .inr ⟨rfl, .notFinite answer hanswer value hvalue x hx
          (Bool.eq_false_iff.mpr hxfinite)⟩
  · rw [List.contains_iff_mem] at hlabel
    exact .inr ⟨(Except.ok.inj h).symm, .foreign answer hanswer hlabel⟩

/-! ### The verdict of the keywords -/

theorem keyword_label_mem (source : Json) (hlabels : labels ≠ []) :
    (keyword source labels).label ∈ labels := by
  obtain ⟨front, others, hranking, hkeyword⟩ := exists_front source hlabels
  obtain ⟨label, hlabel, rfl⟩ := List.mem_map.mp (front_of_ranking hranking).1
  rw [hkeyword]
  exact hlabel

theorem keyword_confidence (source : Json) (labels : List String) :
    (keyword source labels).confidence.Between 0 1 := by
  have hhit : hitConfidence.Between 0 1 := ⟨_, rfl, by decide +kernel, by decide +kernel⟩
  have hmiss : missConfidence.Between 0 1 := ⟨_, rfl, by decide +kernel, by decide +kernel⟩
  rw [keyword]
  split
  · exact hmiss
  · split_ifs
    · exact hhit
    · exact hmiss

/-! ### How a verdict is come by -/

variable {σ : Type} {c : Collaborators σ} {settings : ClassifySettings} {source : Json}
  {live fellBack : Bool} {s s' : σ}

/-- How a classification that has labels comes to its verdict, whether it falls back on the keywords
for that, and the state it leaves. -/
inductive Settled (c : Collaborators σ) (settings : ClassifySettings) (source : Json) (s : σ) :
    Bool → Verdict → Bool → σ → Prop where
  /-- A simulated one asks nothing, and the keywords decide. -/
  | simulated : Settled c settings source s false (keyword source settings.labels) false s
  /-- A live one asks the model once.  If the reply cannot be used, the keywords decide. -/
  | fellBack (reply : String) (s' : σ)
      (hreply : c.complete ⟨prompt settings source, some strictObjectPrompt, true⟩ s =
        (.ok reply, s'))
      (h : Unusable settings.labels reply) :
      Settled c settings source s true (keyword source settings.labels) true s'
  /-- Otherwise the reply does. -/
  | offered (reply : String) (s' : σ) (v : Verdict)
      (hreply : c.complete ⟨prompt settings source, some strictObjectPrompt, true⟩ s =
        (.ok reply, s'))
      (h : ¬ Unusable settings.labels reply) (hv : Offers settings.labels reply v) :
      Settled c settings source s true v false s'

/-- A verdict has a label of the list and a confidence between zero and one. -/
theorem Settled.sound (h : Settled c settings source s live v fellBack s')
    (hlabels : settings.labels ≠ []) :
    v.label ∈ settings.labels ∧ v.confidence.Between 0 1 := by
  cases h with
  | simulated => exact ⟨keyword_label_mem source hlabels, keyword_confidence source _⟩
  | fellBack reply s' hreply h =>
    exact ⟨keyword_label_mem source hlabels, keyword_confidence source _⟩
  | offered reply s' v hreply h hv =>
    obtain ⟨answer, hanswer, hlabel, value, hvalue, x, hx, hfinite⟩ := hv
    exact ⟨hlabel, Double.clamp_between hfinite (by decide)⟩

variable {context : Fields} {source? : Option Json} {workflowId : String} {outcome : Outcome}

/-- A classification that succeeds has read its source. -/
theorem exists_source_of_run {backend : Backend σ}
    (hrun : run backend settings context s = (.ok outcome, s')) :
    ∃ source?, Path.resolve (.obj context) settings.inputPath = .ok source? := by
  obtain ⟨source, s₁, hresolve, -⟩ := Effect.bind_eq_ok_iff.mp hrun
  obtain ⟨source?, s₂, hdata, -⟩ := Effect.bind_eq_ok_iff.mp hresolve
  exact ⟨source?, (Effect.ofData_eq_ok_iff.mp hdata).1⟩

/-- Without labels nothing is asked. -/
theorem run_of_no_labels {backend : Backend σ}
    (hsource : Path.resolve (.obj context) settings.inputPath = .ok source?)
    (hlabels : settings.labels = [])
    (hrun : run backend settings context s = (.ok outcome, s')) :
    outcome.context = write settings context ⟨noLabel, missConfidence⟩ ∧
      outcome.fallbackUsed = false ∧ s' = s := by
  rw [run, resolve_bind _ hsource, hlabels] at hrun
  cases hrun
  exact ⟨rfl, rfl, rfl⟩

/-- A simulated classification with labels is settled by the keywords. -/
theorem settled_of_run_simulated
    (hsource : Path.resolve (.obj context) settings.inputPath = .ok source?)
    (hlabels : settings.labels ≠ [])
    (hrun : run .simulated settings context s = (.ok outcome, s')) :
    ∃ v, outcome.context = write settings context v ∧
      Settled c settings (source?.getD .null) s false v outcome.fallbackUsed s' := by
  rw [run, resolve_bind _ hsource, if_neg (by rwa [List.isEmpty_iff])] at hrun
  cases hrun
  exact ⟨_, rfl, .simulated⟩

/-- A live classification with labels is settled by the reply, or by the keywords. -/
theorem settled_of_run_live
    (hsource : Path.resolve (.obj context) settings.inputPath = .ok source?)
    (hlabels : settings.labels ≠ [])
    (hrun : run (.live c workflowId) settings context s = (.ok outcome, s')) :
    ∃ v, outcome.context = write settings context v ∧
      Settled c settings (source?.getD .null) s true v outcome.fallbackUsed s' := by
  rw [run, resolve_bind _ hsource, if_neg (by rwa [List.isEmpty_iff])] at hrun
  -- the model answers, its reply is searched, and what is found is looked at
  obtain ⟨answer?, s₁, hask, hrun⟩ := Effect.bind_eq_ok_iff.mp hrun
  obtain ⟨reply, s₂, hreply, hobject⟩ := Effect.bind_eq_ok_iff.mp hask
  obtain ⟨hanswer, rfl⟩ := Effect.ofData_eq_ok_iff.mp hobject
  cases answer? with
  | none =>
    obtain ⟨rfl, rfl⟩ := Effect.pure_eq_ok_iff.mp hrun
    exact ⟨_, rfl, .fellBack reply _ hreply (.noObject hanswer)⟩
  | some answer =>
    obtain ⟨verdict?, s₃, hlook, hrun⟩ := Effect.bind_eq_ok_iff.mp hrun
    obtain ⟨haccept, rfl⟩ := Effect.ofData_eq_ok_iff.mp hlook
    rcases offers_or_unusable_of_accept? hanswer haccept with ⟨v, rfl, hv⟩ | ⟨rfl, hunusable⟩
    · obtain ⟨rfl, rfl⟩ := Effect.pure_eq_ok_iff.mp hrun
      exact ⟨v, rfl, .offered reply _ v hreply hv.not_unusable hv⟩
    · obtain ⟨rfl, rfl⟩ := Effect.pure_eq_ok_iff.mp hrun
      exact ⟨_, rfl, .fellBack reply _ hreply hunusable⟩

end Activity.Classification

/-! ### Nodes -/

namespace Node

open Activity.Classification

/-- A node that succeeds has done what its kind does. -/
theorem act_of_execute {σ : Type} {node : Node} {registry : List NodeType} {backend : Backend σ}
    {context : Fields} {s s' : σ} {outcome : Outcome}
    (hrun : node.execute registry backend context s = (.ok outcome, s')) :
    node.act backend context s = (.ok outcome, s') := by
  unfold execute at hrun
  split_ifs at hrun
  · exact hrun
  · cases hrun

theorem run_of_execute {σ : Type} {node : Node} {registry : List NodeType} {backend : Backend σ}
    {context : Fields} {s s' : σ} {outcome : Outcome} (htype : node.type = .classify)
    (hrun : node.execute registry backend context s = (.ok outcome, s')) :
    Activity.Classification.run backend (Settings.classifyOf node.config) context s =
      (.ok outcome, s') := by
  have hact := act_of_execute hrun
  rwa [act, settings_of_classify htype] at hact

/-- **What a classification writes, and when it falls back.**  Whenever it succeeds, live or
simulated, it has read a source, and its context is the one it was given with a label and then a
confidence written to it.  Without labels these are "general" and 0.67, and nothing is asked.  With
labels the label is one of them and the confidence lies between zero and one; the verdict is the one
of the keywords in a simulated run, and in a live one where the reply cannot be used; and only there
the classification falls back. -/
theorem execute_classify {σ : Type} (c : Collaborators σ) (workflowId : String) (live : Bool)
    (node : Node) (htype : node.type = .classify) (registry : List NodeType) (context : Fields)
    (s s' : σ) (outcome : Outcome)
    (hrun : node.execute registry (if live then .live c workflowId else .simulated) context s =
      (.ok outcome, s')) :
    let settings := Settings.classifyOf node.config
    ∃ source? v, Path.resolve (.obj context) settings.inputPath = .ok source? ∧
      outcome.context = (context.set settings.outputKey (.str v.label)).set
        settings.confidenceKey (.float v.confidence) ∧
      (settings.labels = [] →
        v = ⟨"general", .ofDecimal false 67 (-2)⟩ ∧ outcome.fallbackUsed = false ∧ s' = s) ∧
      (settings.labels ≠ [] → v.label ∈ settings.labels ∧ v.confidence.Between 0 1 ∧
        Settled c settings (source?.getD .null) s live v outcome.fallbackUsed s') := by
  intro settings
  have hact := run_of_execute htype hrun
  obtain ⟨source?, hsource⟩ := exists_source_of_run hact
  by_cases hlabels : settings.labels = []
  · obtain ⟨hcontext, hfallback, hstate⟩ := run_of_no_labels hsource hlabels hact
    exact ⟨source?, _, hsource, hcontext, fun _ => ⟨rfl, hfallback, hstate⟩,
      fun h => absurd hlabels h⟩
  · obtain ⟨v, hcontext, hsettled⟩ : ∃ v, outcome.context = write settings context v ∧
        Settled c settings (source?.getD .null) s live v outcome.fallbackUsed s' := by
      cases live with
      | true => exact settled_of_run_live hsource hlabels hact
      | false => exact settled_of_run_simulated hsource hlabels hact
    obtain ⟨hlabel, hconfidence⟩ := hsettled.sound hlabels
    exact ⟨source?, v, hsource, hcontext, fun h => absurd h hlabels,
      fun _ => ⟨hlabel, hconfidence, hsettled⟩⟩

/-- A model may put blanks around the label, and be surer than sure. -/
theorem execute_classify_sure :
    let reply := "Well: \x7b\"label\": \" other \", \"confidence\": 7\x7d"
    let context : Fields := [("input", .str "an urgent request")]
    let settings := Settings.classifyOf triage.config
    ∃ outcome, triage.execute NodeType.all (.live (answering reply) "wf") context () =
        (.ok outcome, ()) ∧
      ∃ source? v, Path.resolve (.obj context) settings.inputPath = .ok source? ∧
        outcome.context = (context.set settings.outputKey (.str v.label)).set
          settings.confidenceKey (.float v.confidence) ∧
        v.label = "other" ∧ outcome.fallbackUsed = false ∧
        v.label ∈ settings.labels ∧ v.confidence.Between 0 1 ∧
        Settled (answering reply) settings (source?.getD .null) () true v false () := by
  intro reply context settings
  have hwritten : ((triage.execute NodeType.all (.live (answering reply) "wf") context ()).1.map
      fun outcome => (outcome.fallbackUsed, (outcome.context.get? "label").bind Json.str?)).toOption
        = some (false, some "other") := by decide +kernel
  rcases hrun : triage.execute NodeType.all (.live (answering reply) "wf") context () with
    ⟨fault | outcome, ⟨⟩⟩ <;> rw [hrun] at hwritten
  · cases hwritten
  · obtain ⟨hfallback, hlabel⟩ := Prod.mk.inj (Option.some.inj hwritten)
    obtain ⟨source?, v, hsource, hcontext, -, hlabels⟩ := execute_classify (answering reply) "wf"
      true triage rfl NodeType.all context () () outcome hrun
    obtain ⟨hmem, hbetween, hsettled⟩ := hlabels (by decide)
    rw [hcontext, Fields.get?_set, if_neg (by decide), Fields.get?_set,
      if_pos (by decide)] at hlabel
    exact ⟨outcome, rfl, source?, v, hsource, hcontext, Option.some.inj hlabel, hfallback, hmem,
      hbetween, hfallback ▸ hsettled⟩

end Node
end Flowgraph
