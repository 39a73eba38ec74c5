import Flowgraph.Proofs.Walk

/-!
# What computations do to the state

The state of the collaborators is theirs alone: nodes and runs change it only by asking a model, by
storing a row and by telling the listener of an event.  So whatever these three keep, a node keeps,
and a whole run keeps it too.

## Main definitions

* `Effect.Triple` — from a state with one property a computation leads to values and states with
  another.
* `Effect.Keeps` — a computation keeps an invariant of the state.
* `Backend.AskingKeeps` — a backend keeps an invariant when it is asked for an answer.
* `Node.stores` — whether a node stores a row.

## Main results

* `Node.execute_keeps` — a node keeps what asking keeps and, if it stores, what storing keeps.
* `Workflow.run_keeps` — **a run keeps what its nodes and its listener keep.**
-/

namespace Flowgraph

/-! ### Triples -/

namespace Effect

variable {σ α β : Type}

/-- In a state where `pre` holds, the computation gives a value and a state where `post` holds, or
it fails in a state where `bad` holds. -/
def Triple (pre : σ → Prop) (m : Effect σ α) (post : α → σ → Prop) (bad : σ → Prop) : Prop :=
  ∀ s, pre s →
    match m s with
    | (.ok a, s') => post a s'
    | (.error _, s') => bad s'

variable {pre bad : σ → Prop} {m : Effect σ α} {f : α → Effect σ β} {post : α → σ → Prop}

theorem Triple.of_ok (h : Triple pre m post bad) {s s' : σ} {a : α} (hpre : pre s)
    (hm : m s = (.ok a, s')) : post a s' := by
  have hs := h s hpre
  rwa [hm] at hs

theorem Triple.of_error (h : Triple pre m post bad) {s s' : σ} {fault : Fault} (hpre : pre s)
    (hm : m s = (.error fault, s')) : bad s' := by
  have hs := h s hpre
  rwa [hm] at hs

theorem triple_pure {a : α} (h : ∀ s, pre s → post a s) :
    Triple pre (pure a : Effect σ α) post bad :=
  h

theorem triple_fail {fault : Fault} (h : ∀ s, pre s → bad s) :
    Triple pre (fail fault : Effect σ α) post bad :=
  h

theorem Triple.bind {mid : α → σ → Prop} {post : β → σ → Prop} (hm : Triple pre m mid bad)
    (hf : ∀ a, Triple (mid a) (f a) post bad) : Triple pre (m >>= f) post bad := by
  intro s hpre
  have hs := hm s hpre
  rw [bind_apply]
  rcases hrun : m s with ⟨fault | a, s'⟩ <;> rw [hrun] at hs
  · exact hs
  · exact hf a s' hs

theorem triple_ofData {r : Except DataError α} (hok : ∀ a s, r = .ok a → pre s → post a s)
    (hbad : ∀ s, pre s → bad s) : Triple pre (ofData r) post bad := by
  cases r with
  | ok a => exact triple_pure fun s => hok a s rfl
  | error e => exact triple_fail hbad

theorem Triple.mapFault (h : Triple pre m post bad) (g : Fault → Fault) :
    Triple pre (m.mapFault g) post bad := by
  intro s hpre
  have hs := h s hpre
  unfold Effect.mapFault
  rcases hrun : m s with ⟨fault | a, s'⟩ <;> rw [hrun] at hs <;> exact hs

/-! ### Invariants of the state -/

/-- The computation keeps an invariant of the state, whether it gives a value or fails. -/
def Keeps (m : Effect σ α) (inv : σ → Prop) : Prop :=
  Triple inv m (fun _ => inv) inv

variable {inv : σ → Prop}

theorem Keeps.snd (h : m.Keeps inv) {s : σ} (hs : inv s) : inv (m s).2 := by
  have hm := h s hs
  rcases hrun : m s with ⟨fault | a, s'⟩ <;> rw [hrun] at hm <;> exact hm

theorem keeps_pure (a : α) : (pure a : Effect σ α).Keeps inv :=
  triple_pure fun _ h => h

theorem keeps_fail (fault : Fault) : (fail fault : Effect σ α).Keeps inv :=
  triple_fail fun _ h => h

theorem keeps_ofData (r : Except DataError α) : (ofData r : Effect σ α).Keeps inv :=
  triple_ofData (fun _ _ _ h => h) fun _ h => h

theorem Keeps.bind (hm : m.Keeps inv) (hf : ∀ a, (f a).Keeps inv) : (m >>= f).Keeps inv :=
  Triple.bind hm hf

end Effect

/-! ### Nodes -/

/-- A backend keeps an invariant of the state when it is asked for an answer. -/
structure Backend.AskingKeeps {σ : Type} (b : Backend σ) (inv : σ → Prop) : Prop where
  /-- It does when it is asked for a text. -/
  complete : ∀ text system, (b.complete text system).Keeps inv
  /-- It does when it is asked for an object. -/
  completeObject : ∀ text system, (b.completeObject text system).Keeps inv

namespace Backend

variable {σ : Type} {inv : σ → Prop}

theorem askingKeeps_simulated : (simulated : Backend σ).AskingKeeps inv :=
  ⟨fun _ _ => Effect.keeps_pure none, fun _ _ => Effect.keeps_pure none⟩

theorem insert_keeps_simulated (table : String) (row : Fields) :
    ((simulated : Backend σ).insert table row).Keeps inv :=
  Effect.keeps_pure none

theorem askingKeeps_live {c : Collaborators σ} (h : ∀ prompt, (c.complete prompt).Keeps inv)
    (workflowId : String) : (live c workflowId).AskingKeeps inv :=
  ⟨fun _ _ => (h _).bind fun _ => Effect.keeps_pure _,
    fun _ _ => (h _).bind fun _ => Effect.keeps_ofData _⟩

theorem insert_keeps_live {c : Collaborators σ} (h : ∀ table row, (c.insert table row).Keeps inv)
    (workflowId table : String) (row : Fields) : ((live c workflowId).insert table row).Keeps inv :=
  ((h _ _).mapFault _).bind fun _ => Effect.keeps_pure _

end Backend

namespace Activity

variable {σ : Type} {inv : σ → Prop} {backend : Backend σ} (context : Fields)

theorem resolve_keeps (path : String) : (resolve context path : Effect σ Json).Keeps inv :=
  (Effect.keeps_ofData _).bind fun _ => Effect.keeps_pure _

theorem Summary.run_keeps (h : backend.AskingKeeps inv) (s : SummarizeSettings) :
    (Summary.run backend s context).Keeps inv :=
  (resolve_keeps context _).bind fun _ => (h.complete _ _).bind fun _ => Effect.keeps_pure _

theorem Report.run_keeps (h : backend.AskingKeeps inv) (s : ReportSettings) :
    (Report.run backend s context).Keeps inv :=
  (resolve_keeps context _).bind fun _ => (h.complete _ _).bind fun _ => Effect.keeps_pure _

theorem Classification.run_keeps (h : backend.AskingKeeps inv) (s : ClassifySettings) :
    (Classification.run backend s context).Keeps inv := by
  refine (resolve_keeps context _).bind fun source => ?_
  by_cases hlabels : s.labels.isEmpty
  · rw [if_pos hlabels]
    exact Effect.keeps_pure _
  · rw [if_neg hlabels]
    -- the labels are looked for in the source if there is no answer, or none that counts
    refine (h.completeObject _ _).bind fun answer? => ?_
    cases answer? with
    | none => exact Effect.keeps_pure _
    | some answer =>
      refine (Effect.keeps_ofData _).bind fun verdict? => ?_
      cases verdict? with
      | none => exact Effect.keeps_pure _
      | some verdict => exact Effect.keeps_pure _

theorem Extraction.run_keeps (h : backend.AskingKeeps inv) (s : ExtractSettings) :
    (Extraction.run backend s context).Keeps inv := by
  refine (resolve_keeps context _).bind fun source => ?_
  by_cases hfields : s.fields.isEmpty
  · rw [if_pos hfields]
    exact Effect.keeps_pure _
  · rw [if_neg hfields]
    refine (h.completeObject _ _).bind fun answer? => ?_
    cases answer? with
    | none => exact Effect.keeps_pure _
    | some answer => exact (Effect.keeps_ofData _).bind fun _ => Effect.keeps_pure _

theorem Save.run_keeps (h : ∀ table row, (backend.insert table row).Keeps inv) (nodeId : String)
    (s : SaveSettings) : (Save.run backend nodeId s context).Keeps inv := by
  unfold Save.run
  split
  · exact Effect.keeps_fail _
  · exact (Effect.keeps_ofData _).bind fun values =>
      ((h _ _).mapFault _).bind fun _ => Effect.keeps_pure _

theorem Export.run_keeps (h : ∀ table row, (backend.insert table row).Keeps inv) (nodeId : String)
    (s : ExportSettings) : (Export.run backend nodeId s context).Keeps inv :=
  (resolve_keeps context _).bind fun _ => ((h _ _).mapFault _).bind fun _ => Effect.keeps_pure _

end Activity

namespace Node

variable {σ : Type} {inv : σ → Prop} {node : Node} {backend : Backend σ}

/-- Whether a node stores a row. -/
def stores (node : Node) : Bool :=
  node.type == .save || node.type == .exporter

theorem stores_of_save {s : SaveSettings} (h : node.settings = .save s) : node.stores = true := by
  unfold settings Settings.ofFields at h
  split at h <;> simp_all [stores]

theorem stores_of_exporter {s : ExportSettings} (h : node.settings = .exporter s) :
    node.stores = true := by
  unfold settings Settings.ofFields at h
  split at h <;> simp_all [stores]

theorem act_keeps (hask : backend.AskingKeeps inv)
    (hinsert : node.stores = true → ∀ table row, (backend.insert table row).Keeps inv)
    (context : Fields) : (node.act backend context).Keeps inv := by
  unfold act
  cases hs : node.settings with
  | trigger s => exact Effect.keeps_pure _
  | summarize s => exact Activity.Summary.run_keeps context hask s
  | classify s => exact Activity.Classification.run_keeps context hask s
  | extract s => exact Activity.Extraction.run_keeps context hask s
  | report s => exact Activity.Report.run_keeps context hask s
  | condition s => exact (Effect.keeps_ofData _).bind fun _ => Effect.keeps_pure _
  | delay s => exact Effect.keeps_pure _
  | save s => exact Activity.Save.run_keeps context (hinsert (stores_of_save hs)) _ s
  | exporter s => exact Activity.Export.run_keeps context (hinsert (stores_of_exporter hs)) _ s
  | unknown => exact Effect.keeps_fail _

/-- A node keeps what asking a model keeps and, if it stores a row, what storing keeps. -/
theorem execute_keeps (registry : List NodeType) (hask : backend.AskingKeeps inv)
    (hinsert : node.stores = true → ∀ table row, (backend.insert table row).Keeps inv)
    (context : Fields) : (node.execute registry backend context).Keeps inv := by
  unfold execute
  split
  · exact act_keeps hask hinsert context
  · exact Effect.keeps_fail _

end Node

/-! ### Runs -/

namespace Walk

variable {σ : Type} {setting : Setting σ} {inv : σ → Prop}
  (hnode : ∀ node context,
    (Node.execute node setting.registry setting.backend context).Keeps inv)
  (hlistener : ∀ event, (setting.listener event).Keeps inv)

include hlistener

theorem tell_keeps (event : RunEvent) {state : Progress × σ} (hinv : inv state.2) :
    inv (tell setting event state).2 :=
  (hlistener event).snd hinv

theorem settle_keeps (node : Node) (p : Progress) (result : Except Fault Outcome) {s : σ}
    (hinv : inv s) : inv (settle setting node p (result, s)).2 := by
  -- the listener does not hear of a step that breaks the run off
  rw [settle_eq_ite]
  split
  · cases result <;> exact (hlistener _).snd hinv
  · exact hinv

include hnode

theorem visit_keeps (node : Node) {state : Progress × σ} (hinv : inv state.2) :
    inv (visit setting node state).2 :=
  settle_keeps hlistener node _ _ ((hnode node _).snd (tell_keeps hlistener _ hinv))

/-- The turns of nodes keep what each of them and the listener keep. -/
theorem through_keeps : ∀ (order : List Node) (state : Progress × σ), inv state.2 →
    inv (through setting order state).2 := by
  intro order
  induction order with
  | nil => exact fun _ hinv => hinv
  | cons node order ih =>
    intro state hinv
    have hvisited := visit_keeps hnode hlistener node hinv
    simp only [through]
    split
    · split
      · exact hvisited
      · exact ih _ hvisited
    · exact ih state hinv

theorem whole_keeps (order : List Node) (input : Json) {s : σ} (hinv : inv s) :
    inv (whole setting order input s).2 := by
  have hended := through_keeps hnode hlistener order (begun setting input s)
    (tell_keeps hlistener _ hinv)
  cases hbroken : (through setting order (begun setting input s)).1.broken with
  | true =>
    rw [whole_of_broken hbroken]
    exact hended
  | false =>
    rw [whole_of_unbroken hbroken]
    exact tell_keeps hlistener _ hended

end Walk

namespace Workflow

variable {σ : Type} {w : Workflow} {registry : List NodeType} {backend : Backend σ}
  {listener : Listener σ} {copies : Json → Bool} {id : String} {given : Json} {s : σ}

/-- **A run keeps what its nodes and its listener keep**, also one that cannot begin and one that is
broken off. -/
theorem run_keeps {inv : σ → Prop}
    (hnode : ∀ node context, (Node.execute node registry backend context).Keeps inv)
    (hlistener : ∀ event, (listener event).Keeps inv) (hinv : inv s) :
    inv (w.run registry backend listener copies id given s).2 := by
  unfold run
  cases Schedule.plan? w with
  | none => exact hinv
  | some order =>
    cases w.initialInput given with
    | error e => exact hinv
    | ok input =>
      let setting : Walk.Setting σ := ⟨w, registry, backend, listener, copies⟩
      have hnode' : ∀ node context,
          (Node.execute node setting.registry setting.backend context).Keeps inv := hnode
      have hwhole := Walk.whole_keeps hnode' hlistener order input hinv
      cases hcopied : copies input with
      | true =>
        simp only [hcopied]
        exact hwhole
      | false =>
        simp only [hcopied]
        exact hinv

end Workflow
end Flowgraph
