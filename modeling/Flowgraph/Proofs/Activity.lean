import Flowgraph.Activity.Dispatch
import Mathlib.Logic.Basic

/-!
# What activities give

One statement for each activity says which outcomes and which faults it can have, whatever the state
of the collaborators is and whatever they do.  Callers use these statements and never look into an
activity.

## Main definitions

* `Effect.Gives` — what values and what faults a computation can give.
* `Backend.Raises`, `Backend.Fails` — the faults of a backend, and those of a node under it.
* `Settings.written` — the keys of the context that an activity writes.
* `Outcome.Of` — what all outcomes of a node have in common.

## Main results

* `Node.act_gives` — the outcomes and faults of the activity of a node.
* `Activity.Branch.selectPort_eq_ok_iff` — the output that a branch takes.
-/

namespace Flowgraph

/-! ### Effects -/

namespace Effect

variable {σ α β : Type}

/-- Whatever the state is, a value that is given has the property `post`, and a fault the property
`bad`. -/
def Gives (m : Effect σ α) (post : α → Prop) (bad : Fault → Prop) : Prop :=
  ∀ s, match (m s).1 with
    | .ok a => post a
    | .error fault => bad fault

variable {m : Effect σ α} {f : α → Effect σ β} {post : α → Prop} {bad : Fault → Prop}

theorem Gives.of_ok (h : m.Gives post bad) {s s' : σ} {a : α} (hm : m s = (.ok a, s')) : post a := by
  have hs := h s
  rwa [hm] at hs

theorem Gives.of_error (h : m.Gives post bad) {s s' : σ} {fault : Fault}
    (hm : m s = (.error fault, s')) : bad fault := by
  have hs := h s
  rwa [hm] at hs

theorem gives_pure {a : α} (h : post a) : (pure a : Effect σ α).Gives post bad :=
  fun _ => h

theorem gives_fail {fault : Fault} (h : bad fault) : (fail fault : Effect σ α).Gives post bad :=
  fun _ => h

theorem Gives.imp {post' : α → Prop} (h : m.Gives post bad) (hpost : ∀ a, post a → post' a) :
    m.Gives post' bad := by
  intro s
  have hs := h s
  rcases hrun : m s with ⟨fault | a, s'⟩ <;> rw [hrun] at hs
  · exact hs
  · exact hpost a hs

theorem Gives.weaken {bad' : Fault → Prop} (h : m.Gives post bad)
    (hbad : ∀ fault, bad fault → bad' fault) : m.Gives post bad' := by
  intro s
  have hs := h s
  rcases hrun : m s with ⟨fault | a, s'⟩ <;> rw [hrun] at hs
  · exact hbad fault hs
  · exact hs

theorem Gives.bind {mid : α → Prop} {post : β → Prop} (hm : m.Gives mid bad)
    (hf : ∀ a, mid a → (f a).Gives post bad) : (m >>= f).Gives post bad := by
  intro s
  have hs := hm s
  rw [bind_apply]
  rcases hrun : m s with ⟨fault | a, s'⟩ <;> rw [hrun] at hs
  · exact hs
  · exact hf a hs s'

theorem gives_ofData {r : Except DataError α} (hok : ∀ a, r = .ok a → post a)
    (hbad : ∀ e, bad (.data e)) : (ofData r : Effect σ α).Gives post bad := by
  cases r with
  | ok a => exact gives_pure (hok a rfl)
  | error e => exact gives_fail (hbad e)

theorem gives_ofData_any {r : Except DataError α} (hbad : ∀ e, bad (.data e)) :
    (ofData r : Effect σ α).Gives (fun _ => True) bad :=
  gives_ofData (fun _ _ => trivial) hbad

/-- Where only faults are asked about, they are looked at one by one. -/
theorem gives_of_error (h : ∀ s fault s', m s = (.error fault, s') → bad fault) :
    m.Gives (fun _ => True) bad := by
  intro s
  rcases hrun : m s with ⟨fault | a, s'⟩
  · exact h s fault s' hrun
  · trivial

/-- Under a function on faults only its results are left to ask about. -/
theorem gives_mapFault {g : Fault → Fault} (hbad : ∀ fault, bad (g fault)) :
    (m.mapFault g).Gives (fun _ => True) bad := by
  intro s
  unfold mapFault
  rcases m s with ⟨fault | a, s'⟩
  · exact hbad fault
  · trivial

end Effect

/-! ### Faults -/

/-- The language model fails with a fault when it is asked something. -/
def Collaborators.Raises {σ : Type} (c : Collaborators σ) (fault : Fault) : Prop :=
  ∃ prompt s s', c.complete prompt s = (.error fault, s')

/-- The backend fails with a fault when it is asked for an answer. -/
def Backend.Raises {σ : Type} (b : Backend σ) (fault : Fault) : Prop :=
  ∃ text system s s', b.complete text system s = (.error fault, s') ∨
    b.completeObject text system s = (.error fault, s')

/-- The faults that a node may have under a backend: its data does not serve, it cannot do its work,
or the backend gives no answer. -/
inductive Backend.Fails {σ : Type} (b : Backend σ) : Fault → Prop where
  /-- Data cannot be read, converted or handed out. -/
  | data (e : DataError) : b.Fails (.data e)
  /-- A node cannot do its work. -/
  | node (message : String) (nodeId : Option String) : b.Fails (.node message nodeId)
  /-- The backend failed. -/
  | raised (fault : Fault) (h : b.Raises fault) : b.Fails fault

namespace Backend

variable {σ : Type}

theorem complete_gives (b : Backend σ) (text : String) (system : Option String) :
    (b.complete text system).Gives (fun _ => True) b.Fails :=
  Effect.gives_of_error fun s fault s' h => .raised fault ⟨text, system, s, s', Or.inl h⟩

theorem completeObject_gives (b : Backend σ) (text : String) (system : Option String) :
    (b.completeObject text system).Gives (fun _ => True) b.Fails :=
  Effect.gives_of_error fun s fault s' h => .raised fault ⟨text, system, s, s', Or.inr h⟩

theorem not_raises_simulated (fault : Fault) : ¬ (simulated : Backend σ).Raises fault := by
  rintro ⟨text, system, s, s', h | h⟩ <;> simp [simulated] at h

/-- A live backend fails as its language model does, or because the answer is no data. -/
theorem raises_live {c : Collaborators σ} {workflowId : String} {fault : Fault}
    (h : (live c workflowId).Raises fault) : (∃ e, fault = .data e) ∨ c.Raises fault := by
  have hasked : ∀ prompt, (c.complete prompt).Gives (fun _ => True)
      fun fault => (∃ e, fault = .data e) ∨ c.Raises fault :=
    fun prompt => Effect.gives_of_error fun s _ s' hc => Or.inr ⟨prompt, s, s', hc⟩
  obtain ⟨text, system, s, s', h | h⟩ := h
  · have hgives : ((live c workflowId).complete text system).Gives (fun _ => True)
        fun fault => (∃ e, fault = .data e) ∨ c.Raises fault :=
      (hasked _).bind fun _ _ => Effect.gives_pure trivial
    exact hgives.of_error h
  · have hgives : ((live c workflowId).completeObject text system).Gives (fun _ => True)
        fun fault => (∃ e, fault = .data e) ∨ c.Raises fault :=
      (hasked _).bind fun _ _ => Effect.gives_ofData_any fun e => Or.inl ⟨e, rfl⟩
    exact hgives.of_error h

end Backend

/-! ### Outcomes -/

/-- The keys of the context that an activity writes. -/
def Settings.written : Settings → List String
  | .summarize s => [s.outputKey]
  | .classify s => [s.outputKey, s.confidenceKey]
  | .extract s => [s.outputKey]
  | .report s => [s.outputKey]
  | .delay _ => ["delay_applied"]
  | .save _ => ["db_save"]
  | .exporter _ => ["export"]
  | _ => []

/-- What all outcomes that do not branch have in common: the context has new values at the keys
written, and no output is selected. -/
structure Outcome.Plain (o : Outcome) (context : Fields) (keys : List String) : Prop where
  /-- The new context is the old one with the keys set. -/
  context_eq : ∃ values, values.map Prod.fst = keys ∧ o.context = context.setAll values
  /-- No output is selected. -/
  selectedPort : o.selectedPort = none

theorem Outcome.Plain.of_set {context : Fields} {key : String} {v : Json} {fallback : Bool} :
    Outcome.Plain { context := context.set key v, fallbackUsed := fallback } context [key] :=
  ⟨⟨[(key, v)], rfl, rfl⟩, rfl⟩

namespace Activity

variable {σ : Type} (backend : Backend σ) (context : Fields)

theorem resolve_gives (path : String) :
    (resolve context path : Effect σ Json).Gives (fun _ => True) backend.Fails :=
  (Effect.gives_ofData_any .data).bind fun _ _ => Effect.gives_pure trivial

theorem Summary.run_gives (s : SummarizeSettings) :
    (Summary.run backend s context).Gives (·.Plain context [s.outputKey]) backend.Fails :=
  (resolve_gives backend context _).bind fun _ _ =>
    (backend.complete_gives _ _).bind fun _ _ => Effect.gives_pure .of_set

theorem Report.run_gives (s : ReportSettings) :
    (Report.run backend s context).Gives (·.Plain context [s.outputKey]) backend.Fails :=
  (resolve_gives backend context _).bind fun _ _ =>
    (backend.complete_gives _ _).bind fun _ _ => Effect.gives_pure .of_set

theorem Classification.plain_write (s : ClassifySettings) (v : Verdict) (fallback : Bool) :
    Outcome.Plain { context := write s context v, fallbackUsed := fallback } context
      [s.outputKey, s.confidenceKey] :=
  ⟨⟨[(s.outputKey, .str v.label), (s.confidenceKey, .float v.confidence)], rfl, rfl⟩, rfl⟩

theorem Classification.run_gives (s : ClassifySettings) :
    (Classification.run backend s context).Gives
      (·.Plain context [s.outputKey, s.confidenceKey]) backend.Fails := by
  refine (resolve_gives backend context _).bind fun source _ => ?_
  by_cases hlabels : s.labels.isEmpty
  · rw [if_pos hlabels]
    exact Effect.gives_pure (plain_write context s _ false)
  · rw [if_neg hlabels]
    refine (backend.completeObject_gives _ _).bind fun answer? _ => ?_
    cases answer? with
    | none => exact Effect.gives_pure (plain_write context s _ _)
    | some answer =>
      refine (Effect.gives_ofData_any .data).bind
        fun verdict? _ => ?_
      cases verdict? with
      | none => exact Effect.gives_pure (plain_write context s _ _)
      | some verdict => exact Effect.gives_pure (plain_write context s verdict false)

theorem Extraction.run_gives (s : ExtractSettings) :
    (Extraction.run backend s context).Gives (·.Plain context [s.outputKey]) backend.Fails := by
  refine (resolve_gives backend context _).bind fun source _ => ?_
  by_cases hfields : s.fields.isEmpty
  · rw [if_pos hfields]
    exact Effect.gives_pure .of_set
  · rw [if_neg hfields]
    refine (backend.completeObject_gives _ _).bind fun answer? _ => ?_
    cases answer? with
    | none => exact Effect.gives_pure .of_set
    | some answer =>
      exact (Effect.gives_ofData_any .data).bind
        fun _ _ => Effect.gives_pure .of_set

theorem Save.run_gives (nodeId : String) (s : SaveSettings) :
    (Save.run backend nodeId s context).Gives (·.Plain context ["db_save"]) backend.Fails := by
  unfold Save.run
  split
  · exact Effect.gives_fail (.node _ _)
  · refine (Effect.gives_ofData_any .data).bind
      fun values _ => ?_
    exact (Effect.gives_mapFault fun _ => .node _ _).bind fun _ _ => Effect.gives_pure .of_set

theorem Export.run_gives (nodeId : String) (s : ExportSettings) :
    (Export.run backend nodeId s context).Gives (·.Plain context ["export"]) backend.Fails :=
  (resolve_gives backend context _).bind fun _ _ =>
    (Effect.gives_mapFault fun _ => .node _ _).bind fun _ _ => Effect.gives_pure .of_set

/-! ### Branches -/

/-- The output that a branch takes: with a condition that holds the main one, otherwise the default
one where there is any. -/
theorem Branch.selectPort_eq_ok_iff {outputs : List String} {s : ConditionSettings}
    {context : Fields} {port? : Option String} :
    Branch.selectPort outputs s context = .ok port? ↔
      ∃ holds, Condition.holds (.obj context) s.expression = .ok holds ∧
        port? = if holds then Branch.mainPort? outputs s.defaultOutput
          else s.defaultOutput.or (Branch.mainPort? outputs s.defaultOutput) := by
  unfold selectPort
  cases Condition.holds (.obj context) s.expression with
  | error e => simp [bind, Except.bind]
  | ok holds => simp [bind, Except.bind, pure, Except.pure, eq_comm]

theorem Branch.mainPort?_isSome {outputs : List String} (h : outputs ≠ []) (default : Option String) :
    (mainPort? outputs default).isSome := by
  unfold mainPort?
  split
  · rfl
  · cases outputs with
    | nil => exact absurd rfl h
    | cons port outputs => rfl

/-- A branch with outputs always takes one. -/
theorem Branch.isSome_of_selectPort {outputs : List String} {s : ConditionSettings}
    {context : Fields} {port? : Option String} (h : outputs ≠ [])
    (hselect : Branch.selectPort outputs s context = .ok port?) : port?.isSome := by
  obtain ⟨holds, -, rfl⟩ := selectPort_eq_ok_iff.mp hselect
  have hmain := mainPort?_isSome h s.defaultOutput
  cases holds with
  | true => exact hmain
  | false => cases hdefault : s.defaultOutput <;> simp_all

end Activity

/-! ### Nodes -/

/-- What all outcomes of a node have in common. -/
structure Outcome.Of (o : Outcome) (node : Node) (context : Fields) : Prop where
  /-- The new context is the old one with the keys of the activity set. -/
  context_eq : ∃ values, values.map Prod.fst = node.settings.written ∧
    o.context = context.setAll values
  /-- A branch selects an output. -/
  branch : ∀ s, node.settings = .condition s →
    Activity.Branch.selectPort node.outputIds s context = .ok o.selectedPort
  /-- Other nodes select none. -/
  other : node.type ≠ .condition → o.selectedPort = none

namespace Node

variable {σ : Type} {node : Node}

theorem settings_of_condition (h : node.type = .condition) :
    node.settings = .condition (Settings.conditionOf node.config) := by
  rw [settings, h]
  rfl

theorem type_of_settings {s : ConditionSettings} (h : node.settings = .condition s) :
    node.type = .condition := by
  unfold settings Settings.ofFields at h
  split at h <;> simp_all

theorem settings_ne_unknown : node.settings ≠ .unknown := by
  unfold settings Settings.ofFields
  cases node.type <;> simp

/-- An outcome that does not branch is one of any node that is no branch. -/
theorem of_plain {settings : Settings} (hs : node.settings = settings)
    (hcond : ∀ s, settings ≠ .condition s) {o : Outcome} {context : Fields}
    (h : o.Plain context settings.written) : o.Of node context := by
  subst hs
  exact ⟨h.context_eq, fun s hs => absurd hs (hcond s), fun _ => h.selectedPort⟩

/-- **The outcomes and faults of the activity of a node.** -/
theorem act_gives (backend : Backend σ) (context : Fields) :
    (node.act backend context).Gives (·.Of node context) backend.Fails := by
  unfold act
  cases hs : node.settings with
  | trigger s =>
    exact Effect.gives_pure (of_plain hs nofun ⟨⟨[], rfl, rfl⟩, rfl⟩)
  | summarize s =>
    exact (Activity.Summary.run_gives backend context s).imp fun _ => of_plain hs nofun
  | classify s =>
    exact (Activity.Classification.run_gives backend context s).imp fun _ => of_plain hs nofun
  | extract s =>
    exact (Activity.Extraction.run_gives backend context s).imp fun _ => of_plain hs nofun
  | report s =>
    exact (Activity.Report.run_gives backend context s).imp fun _ => of_plain hs nofun
  | condition s =>
    refine (Effect.gives_ofData (fun _ h => h) .data).bind fun port? hport => ?_
    refine Effect.gives_pure ⟨⟨[], by rw [hs]; rfl, rfl⟩, fun s' hs' => ?_, fun hne => ?_⟩
    · obtain rfl : s = s' := Settings.condition.inj (hs.symm.trans hs')
      exact hport
    · exact absurd (type_of_settings hs) hne
  | delay s =>
    exact Effect.gives_pure (of_plain hs nofun .of_set)
  | save s =>
    exact (Activity.Save.run_gives backend context _ s).imp fun _ => of_plain hs nofun
  | exporter s =>
    exact (Activity.Export.run_gives backend context _ s).imp fun _ => of_plain hs nofun
  | unknown => exact absurd hs settings_ne_unknown

/-- A node that is not registered fails, and every other does what its activity does. -/
theorem execute_gives (registry : List NodeType) (backend : Backend σ) (context : Fields) :
    (node.execute registry backend context).Gives (·.Of node context)
      fun fault => node.type ∈ registry → backend.Fails fault := by
  unfold execute
  split
  · exact (act_gives backend context).weaken fun _ hfault _ => hfault
  · next h => exact Effect.gives_fail fun hmem => absurd (List.contains_iff_mem.mpr hmem) h

end Node
end Flowgraph
