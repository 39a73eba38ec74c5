import Flowgraph.Proofs.Lockstep
import Flowgraph.Proofs.Threading

/-!
# The events of a run

A listener hears of a run while it goes on.  What it hears is fixed by the steps of the run: one
event when the run begins, two for each step, and one at the end.  The listener itself has no say in
it.  Whether it takes an event or fails, the run goes on, and the next event is the one that it
would have been.

What is delivered is written to a log beside the state of the collaborators, which neither the nodes
nor the listener can see.

## Main definitions

* `Effect.beside`, `Backend.beside`, `Listener.logging` — the same run, beside a log.
* `Step.events` — the events of steps that succeeded.
* `Run.Narrated` — the events of a run that succeeded, and those of one that failed.

## Main results

* `Walk.Turn.heard` — a turn adds two events.
* `Workflow.run_logged` — a run writes its events to the log and is otherwise the same.
* `Workflow.events_of_run` — **what a listener hears is what the steps tell.**
-/

namespace Flowgraph

/-! ### Beside a log -/

namespace Effect

variable {σ ρ α β : Type}

/-- The same computation on a state that holds more, which it leaves alone. -/
def beside (m : Effect σ α) : Effect (σ × ρ) α :=
  fun s => ((m s.1).1, (m s.1).2, s.2)

@[simp] theorem beside_pure (a : α) : (pure a : Effect σ α).beside = (pure a : Effect (σ × ρ) α) :=
  rfl

@[simp] theorem beside_fail (fault : Fault) :
    (fail fault : Effect σ α).beside = (fail fault : Effect (σ × ρ) α) := rfl

@[simp] theorem beside_ofData (r : Except DataError α) :
    (ofData r : Effect σ α).beside = (ofData r : Effect (σ × ρ) α) := by
  cases r <;> rfl

@[simp] theorem beside_bind (m : Effect σ α) (f : α → Effect σ β) :
    (m >>= f).beside = (m.beside >>= fun a => (f a).beside : Effect (σ × ρ) β) := by
  funext s
  rw [beside, bind_apply, bind_apply, beside]
  rcases m s.1 with ⟨fault | a, s'⟩ <;> rfl

@[simp] theorem beside_mapFault (g : Fault → Fault) (m : Effect σ α) :
    (m.mapFault g).beside = (m.beside.mapFault g : Effect (σ × ρ) α) := by
  funext s
  rw [beside, mapFault, mapFault, beside]
  rcases m s.1 with ⟨fault | a, s'⟩ <;> rfl

end Effect

/-- The same backend on a state that holds more. -/
def Backend.beside {σ ρ : Type} (b : Backend σ) : Backend (σ × ρ) where
  isLive := b.isLive
  saveTable := b.saveTable
  complete text system := (b.complete text system).beside
  completeObject text system := (b.completeObject text system).beside
  insert table row := (b.insert table row).beside

/-- The same listener, with a log of the events that it is told; an event comes to the log also if
the listener fails. -/
def Listener.logging {σ : Type} (listener : Listener σ) : Listener (σ × List RunEvent) :=
  fun event s => ((listener event s.1).1, (listener event s.1).2, s.2 ++ [event])

namespace Activity

variable {σ ρ : Type} (backend : Backend σ) (context : Fields)

@[simp] theorem resolve_beside (path : String) :
    (resolve context path : Effect σ Json).beside =
      (resolve context path : Effect (σ × ρ) Json) := by
  simp [resolve]

theorem Summary.run_beside (s : SummarizeSettings) :
    Summary.run backend.beside s context =
      ((Summary.run backend s context).beside : Effect (σ × ρ) Outcome) := by
  simp [Summary.run, Backend.beside]

theorem Report.run_beside (s : ReportSettings) :
    Report.run backend.beside s context =
      ((Report.run backend s context).beside : Effect (σ × ρ) Outcome) := by
  simp [Report.run, Backend.beside]

theorem Classification.run_beside (s : ClassifySettings) :
    Classification.run backend.beside s context =
      ((Classification.run backend s context).beside : Effect (σ × ρ) Outcome) := by
  rw [Classification.run, Classification.run, Effect.beside_bind, resolve_beside]
  congr 1
  funext source
  cases hlabels : s.labels.isEmpty with
  | true => rfl
  | false =>
    simp only [Bool.false_eq_true, if_false, Effect.beside_bind, Backend.beside]
    -- the question is the same on both sides, and what is made of the answer is data
    congr 1
    funext answer?
    cases answer? with
    | none => rfl
    | some answer =>
      simp only [Effect.beside_bind, Effect.beside_ofData]
      congr 1
      funext verdict?
      cases verdict? <;> rfl

theorem Extraction.run_beside (s : ExtractSettings) :
    Extraction.run backend.beside s context =
      ((Extraction.run backend s context).beside : Effect (σ × ρ) Outcome) := by
  rw [Extraction.run, Extraction.run, Effect.beside_bind, resolve_beside]
  congr 1
  funext source
  cases hfields : s.fields.isEmpty with
  | true => rfl
  | false =>
    simp only [Bool.false_eq_true, if_false, Effect.beside_bind, Backend.beside]
    congr 1
    funext answer?
    cases answer? <;> simp

theorem Save.run_beside (nodeId : String) (s : SaveSettings) :
    Save.run backend.beside nodeId s context =
      ((Save.run backend nodeId s context).beside : Effect (σ × ρ) Outcome) := by
  by_cases hrefused : backend.isLive ∧ s.table ≠ backend.saveTable
  · simp [Save.run, Backend.beside, hrefused]
  · simp [Save.run, Backend.beside, hrefused]

theorem Export.run_beside (nodeId : String) (s : ExportSettings) :
    Export.run backend.beside nodeId s context =
      ((Export.run backend nodeId s context).beside : Effect (σ × ρ) Outcome) := by
  simp [Export.run, Backend.beside]

end Activity

namespace Node

variable {σ ρ : Type} (node : Node) (backend : Backend σ) (context : Fields)

theorem act_beside :
    node.act backend.beside context =
      ((node.act backend context).beside : Effect (σ × ρ) Outcome) := by
  unfold act
  cases node.settings with
  | trigger s => rfl
  | summarize s => exact Activity.Summary.run_beside backend context s
  | classify s => exact Activity.Classification.run_beside backend context s
  | extract s => exact Activity.Extraction.run_beside backend context s
  | report s => exact Activity.Report.run_beside backend context s
  | condition s => simp [Activity.Branch.run]
  | delay s => rfl
  | save s => exact Activity.Save.run_beside backend context node.id s
  | exporter s => exact Activity.Export.run_beside backend context node.id s
  | unknown => rfl

theorem execute_beside (registry : List NodeType) :
    node.execute registry backend.beside context =
      ((node.execute registry backend context).beside : Effect (σ × ρ) Outcome) := by
  unfold execute
  split
  · exact act_beside node backend context
  · rfl

end Node

namespace Walk

variable {σ : Type} (setting : Setting σ) (log : List RunEvent)

/-- The same run, beside a log of the events that the listener is told. -/
def Setting.logging : Setting (σ × List RunEvent) :=
  { setting with
    backend := setting.backend.beside
    listener := setting.listener.logging }

/-- The state of a run, beside a log to which its events have come. -/
def logged (state : Progress × σ) : Progress × σ × List RunEvent :=
  (state.1, state.2, log ++ state.1.events)

theorem tell_logged (event : RunEvent) (state : Progress × σ) :
    tell setting.logging event (logged log state) = logged log (tell setting event state) := by
  simp [tell, logged, Setting.logging, Listener.logging]

/-- What a node does is written to the log as it is told to the listener. -/
theorem settle_logged (node : Node) (p : Progress) (result : Except Fault Outcome) (s : σ) :
    settle setting.logging node p (result, s, log ++ p.events) =
      logged log (settle setting node p (result, s)) := by
  cases hcopied : (stepOf setting node p result).isCopied setting.copies with
  | false =>
    rw [settle_eq_ite setting, settle_eq_ite setting.logging, if_neg (Bool.eq_false_iff.mp hcopied)]
    exact if_neg (Bool.eq_false_iff.mp hcopied)
  | true =>
    rw [settle_eq_ite setting, settle_eq_ite setting.logging, if_pos hcopied]
    refine (if_pos hcopied).trans ?_
    cases result with
    | error fault =>
      exact tell_logged setting log (.nodeFailed node fault.report) (p.fail node fault, s)
    | ok outcome =>
      let next := Schedule.follow setting.workflow node.id outcome.selectedPort
      exact tell_logged setting log
        (.nodeCompleted node (setting.tally (p.advance node outcome next).steps.length))
        (p.advance node outcome next, s)

theorem visit_logged (node : Node) (state : Progress × σ) :
    visit setting.logging node (logged log state) = logged log (visit setting node state) := by
  let event := RunEvent.nodeStarted node (setting.tally state.1.steps.length)
  have hstarted : tell setting.logging event (logged log state) =
      logged log (tell setting event state) := tell_logged setting log event state
  change settle setting.logging node (tell setting.logging event (logged log state)).1
    (node.execute setting.registry setting.backend.beside
      (tell setting.logging event (logged log state)).1.context
      (tell setting.logging event (logged log state)).2) = _
  rw [hstarted, Node.execute_beside]
  exact settle_logged setting log node _ _ _

/-- A run goes on side by side with the one beside a log. -/
theorem lockstep_logged (order : List Node) :
    Lockstep setting setting.logging id (fun state state' => state' = logged log state) order where
  id _ := rfl
  active h := h ▸ rfl
  fault h := h ▸ rfl
  broken h := h ▸ rfl
  turn node _ _ _ h := h ▸ visit_logged setting log node _

theorem whole_logged (order : List Node) (input : Json) (s : σ) :
    whole setting.logging order input (s, log) = logged log (whole setting order input s) := by
  -- the first event comes to the log before any node is looked at
  have hbegun : begun setting.logging input (s, log) = logged log (begun setting input s) := by
    have hstart := tell_logged setting log (.runStarted (setting.tally 0))
      (Progress.start setting.workflow input, s)
    rwa [logged, Progress.start, List.append_nil] at hstart
  have hwhole := (lockstep_logged setting log order).whole
    (fun h => h ▸ tell_logged setting log (closing setting _) _) hbegun
  rwa [List.map_id] at hwhole

end Walk

/-- A run writes its events to the log, and is otherwise the run that it is without one. -/
theorem Workflow.run_logged {σ : Type} {w : Workflow} {registry : List NodeType}
    {backend : Backend σ} {listener : Listener σ} {copies : Json → Bool} {id : String}
    {given : Json} {s s' : σ} {r : Run}
    (h : w.run registry backend listener copies id given s = (.ok r, s')) (log : List RunEvent) :
    w.run registry backend.beside listener.logging copies id given (s, log) =
      (.ok r, s', log ++ r.events) := by
  unfold run at h ⊢
  cases hplan : Schedule.plan? w with
  | none => simp [hplan] at h
  | some order =>
    cases hinput : w.initialInput given with
    | error e => simp [hplan, hinput] at h
    | ok input =>
      have hwhole : Walk.whole ⟨w, registry, backend.beside, listener.logging, copies⟩ order input
          (s, log) = _ :=
        Walk.whole_logged ⟨w, registry, backend, listener, copies⟩ log order input s
      simp only [hplan, hinput, hwhole, Walk.logged] at h ⊢
      split_ifs at h ⊢
      · cases h
      · obtain ⟨hr, rfl⟩ := Prod.mk.inj h
        obtain rfl := Except.ok.inj hr
        rfl
      · cases h

/-! ### Listeners that fail -/

namespace Walk

variable {σ : Type} {setting : Setting σ} {other : Listener σ}
  (h : ∀ event s, (other event s).2 = (setting.listener event s).2)

include h

theorem tell_of_listener (event : RunEvent) (state : Progress × σ) :
    tell { setting with listener := other } event state = tell setting event state := by
  rw [tell, tell, h]

theorem settle_of_listener (node : Node) (p : Progress) (result : Except Fault Outcome × σ) :
    settle { setting with listener := other } node p result = settle setting node p result := by
  obtain ⟨fault | outcome, s⟩ := result
  · exact if_congr Iff.rfl (tell_of_listener h _ _) rfl
  · exact if_congr Iff.rfl (tell_of_listener h _ _) rfl

theorem visit_of_listener (node : Node) (state : Progress × σ) :
    visit { setting with listener := other } node state = visit setting node state := by
  let event := RunEvent.nodeStarted node (setting.tally state.1.steps.length)
  have hstarted := tell_of_listener h event state
  change settle { setting with listener := other } node
    (tell { setting with listener := other } event state).1
    (node.execute setting.registry setting.backend
      (tell { setting with listener := other } event state).1.context
      (tell { setting with listener := other } event state).2) = _
  rw [hstarted]
  exact settle_of_listener h node _ _

/-- A run goes on side by side with the one of the other listener. -/
theorem lockstep_of_listener (order : List Node) :
    Lockstep setting { setting with listener := other } id (fun state state' => state' = state)
      order where
  id _ := rfl
  active h := h ▸ rfl
  fault h := h ▸ rfl
  broken h := h ▸ rfl
  turn node _ _ _ heq := heq ▸ visit_of_listener h node _

variable (setting) in
/-- A run is the same for every listener that makes the same changes, whichever events it fails
on. -/
theorem whole_of_listener (order : List Node) (input : Json) (s : σ) :
    whole { setting with listener := other } order input s = whole setting order input s := by
  have hbegun : begun { setting with listener := other } input s = begun setting input s :=
    tell_of_listener h _ _
  have hwhole := (lockstep_of_listener h order).whole
    (fun heq => heq ▸ tell_of_listener h (closing setting _) _) hbegun
  rwa [List.map_id] at hwhole

end Walk

/-! ### The events of steps -/

/-- The events of steps that succeeded, behind `index` others in a workflow of `total` nodes. -/
def Step.events (total : ℕ) : ℕ → List Step → List RunEvent
  | _, [] => []
  | index, step :: rest =>
    .nodeStarted step.node ⟨index, total⟩ :: .nodeCompleted step.node ⟨index + 1, total⟩ ::
      events total (index + 1) rest

theorem Step.events_snoc (total : ℕ) (step : Step) : ∀ (done : List Step) (index : ℕ),
    events total index (done ++ [step]) = events total index done ++
      [.nodeStarted step.node ⟨index + done.length, total⟩,
        .nodeCompleted step.node ⟨index + done.length + 1, total⟩] := by
  intro done
  induction done with
  | nil => exact fun _ => rfl
  | cons first done ih =>
    intro index
    have hlength : index + 1 + done.length = index + (first :: done).length := by
      rw [List.length_cons]
      omega
    rw [List.cons_append, events, ih, hlength]
    rfl

/-- How the events of a run tell of its steps, in a workflow of `total` nodes. -/
inductive Run.Narrated (total : ℕ) (r : Run) : Prop where
  /-- All steps succeeded: there are two events for each of them, and one at the end. -/
  | completed (hfine : ∀ step ∈ r.steps, step.isFailed = false) (herror : r.error? = none)
      (hevents : r.events = .runStarted ⟨0, total⟩ :: Step.events total 0 r.steps ++
        [.runCompleted ⟨r.steps.length, total⟩])
  /-- The last step failed: it has two events of its own, and the end is told of as a failure. -/
  | failed (done : List Step) (last : Step) (error : String) (hsteps : r.steps = done ++ [last])
      (hfine : ∀ step ∈ done, step.isFailed = false) (hlast : last.error? = some error)
      (herror : r.error? = some error)
      (hevents : r.events = .runStarted ⟨0, total⟩ :: Step.events total 0 done ++
        [.nodeStarted last.node ⟨done.length, total⟩, .nodeFailed last.node error,
          .runFailed error])

namespace Walk

variable {σ : Type} {setting : Setting σ} {node : Node} {state state' : Progress × σ}

/-- The events so far tell of the steps so far. -/
inductive Heard (total : ℕ) (p : Progress) : Prop where
  /-- No step has failed. -/
  | fine (hfault : p.fault = none) (hfine : ∀ step ∈ p.steps, step.isFailed = false)
      (hevents : p.events = .runStarted ⟨0, total⟩ :: Step.events total 0 p.steps)
  /-- The last step has failed. -/
  | failed (done : List Step) (last : Step) (fault : Fault) (hsteps : p.steps = done ++ [last])
      (hfine : ∀ step ∈ done, step.isFailed = false) (hlast : last.fault? = some fault)
      (hfault : p.fault = some fault)
      (hevents : p.events = .runStarted ⟨0, total⟩ :: Step.events total 0 done ++
        [.nodeStarted last.node ⟨done.length, total⟩, .nodeFailed last.node fault.report])

/-- **A turn adds two events**, which tell of the step that it adds. -/
theorem Turn.heard (hheard : Heard setting.workflow.nodes.length state.1)
    (hnone : state.1.fault = none) (h : Turn setting node state state') :
    Heard setting.workflow.nodes.length state'.1 := by
  cases hheard with
  | failed done last fault hsteps hfine hlast hfault hevents =>
    -- behind a failure there are no more turns
    rw [hnone] at hfault
    exact absurd hfault.symm (Option.some_ne_none fault)
  | fine hfault hfine hevents =>
    cases h with
    | succeeded p s s' outcome hrun =>
      refine .fine hfault (fun step hstep => ?_) ?_
      · rcases List.mem_append.mp hstep with hstep | hstep
        · exact hfine step hstep
        · rw [List.mem_singleton.mp hstep]
          rfl
      · have hsnoc := Step.events_snoc setting.workflow.nodes.length
          ⟨node, p.context, .success outcome
            (Schedule.follow setting.workflow node.id outcome.selectedPort)⟩ p.steps 0
        rw [Nat.zero_add] at hsnoc
        dsimp only [Progress.advance] at hevents ⊢
        rw [hsnoc, hevents]
        rfl
    | failed p s s' fault hrun =>
      refine .failed p.steps ⟨node, p.context, .failed fault⟩ fault rfl hfine rfl rfl ?_
      dsimp only at hevents ⊢
      rw [hevents]
      rfl

/-- When the turns are over there is only the end to be told of. -/
theorem Heard.narrated (setting : Setting σ) {p : Progress}
    (h : Heard setting.workflow.nodes.length p) (id : String) (input : Json) :
    (finished setting id input p).Narrated setting.workflow.nodes.length := by
  cases h with
  | fine hfault hfine hevents =>
    refine .completed hfine ?_ ?_
    · rw [Run.error?, finished, hfault]
      rfl
    · rw [finished, closing, hfault, hevents]
      rfl
  | failed done last fault hsteps hfine hlast hfault hevents =>
    refine .failed done last fault.report hsteps hfine ?_ ?_ ?_
    · rw [Step.error?, hlast]
      rfl
    · rw [Run.error?, finished, hfault]
      rfl
    · rw [finished, closing, hfault, hevents]
      simp

end Walk

/-! ### Runs -/

namespace Workflow

variable {σ : Type}

theorem run_of_listener (w : Workflow) (registry : List NodeType) (backend : Backend σ)
    {listener other : Listener σ} (h : ∀ event s, (other event s).2 = (listener event s).2)
    (copies : Json → Bool) (id : String) (given : Json) :
    w.run registry backend other copies id given =
      w.run registry backend listener copies id given := by
  funext s
  have hwhole : ∀ order input, Walk.whole ⟨w, registry, backend, other, copies⟩ order input s =
      Walk.whole ⟨w, registry, backend, listener, copies⟩ order input s :=
    fun order input =>
      Walk.whole_of_listener ⟨w, registry, backend, listener, copies⟩ h order input s
  unfold run
  simp only [hwhole]

/-- The events of a run tell of its steps. -/
theorem narrated_of_run {w : Workflow} {registry : List NodeType} {backend : Backend σ}
    {listener : Listener σ} {copies : Json → Bool} {id : String} {given : Json} {s s' : σ}
    {r : Run} (h : w.run registry backend listener copies id given s = (.ok r, s')) :
    r.Narrated w.nodes.length := by
  obtain ⟨ended, hheard, hr, -⟩ := run_ended (fun _ state => Walk.Heard w.nodes.length state.1) h
    (fun _ => .fine rfl (fun _ hstep => absurd hstep List.not_mem_nil) rfl)
    (fun _ _ _ _ hinv hfault hturn => hturn.heard hinv hfault)
  rw [hr]
  exact hheard.narrated ⟨w, registry, backend, listener, copies⟩ _ _

/-- **What a listener hears is what the steps tell.**  A run delivers to its listener, one after the
other, the events that tell of its steps; and it is the same run, with the same events, for every
other listener that makes the same changes, whichever deliveries it fails on. -/
theorem events_of_run (w : Workflow) (registry : List NodeType) (backend : Backend σ)
    (listener : Listener σ) (copies : Json → Bool) (id : String) (given : Json) (s s' : σ) (r : Run)
    (h : w.run registry backend listener copies id given s = (.ok r, s')) :
    r.Narrated w.nodes.length ∧
    ∀ other : Listener σ, (∀ event s, (other event s).2 = (listener event s).2) →
      w.run registry backend other copies id given s = (.ok r, s') ∧
      ∀ log, w.run registry backend.beside other.logging copies id given (s, log) =
        (.ok r, s', log ++ r.events) := by
  refine ⟨narrated_of_run h, fun other hother => ?_⟩
  -- the other listener leaves the same states behind, so it is told the same
  have hrun : w.run registry backend other copies id given s = (.ok r, s') := by
    rw [run_of_listener w registry backend hother]
    exact h
  exact ⟨hrun, run_logged hrun⟩

/-- A listener that fails whatever it is told. -/
def deaf : Listener Unit :=
  fun _ => Effect.fail (.foreign "ValueError" "what?")

/-- The archive saves its record and cannot write its file.  A deaf listener is told of it all, and
a silent one would be told the same. -/
theorem events_of_run_archive : ∃ r,
    archive.run NodeType.all (.live recordsOnly "wf_archive") deaf (Json.isWithin 490) "run" .null
      () = (.ok r, ()) ∧
    r.events.map RunEvent.name = ["execution:start", "node:start", "node:complete", "node:start",
      "node:complete", "node:start", "node:error", "execution:error"] ∧
    r.Narrated archive.nodes.length ∧
    ∀ other : Listener Unit, (∀ event s, (other event s).2 = (deaf event s).2) →
      archive.run NodeType.all (.live recordsOnly "wf_archive") other (Json.isWithin 490) "run"
        .null () = (.ok r, ()) ∧
      ∀ log, archive.run NodeType.all (Backend.live recordsOnly "wf_archive").beside other.logging
        (Json.isWithin 490) "run" .null ((), log) = (.ok r, (), log ++ r.events) := by
  have harchive : (archive.run NodeType.all (.live recordsOnly "wf_archive") deaf
      (Json.isWithin 490) "run" .null ()).1.toOption.map (fun r => r.events.map RunEvent.name) =
        some ["execution:start", "node:start", "node:complete", "node:start",
          "node:complete", "node:start", "node:error", "execution:error"] := by
    decide +kernel
  obtain ⟨r, hr, hnames⟩ := Except.exists_ok_of_map harchive
  have hrun : archive.run NodeType.all (.live recordsOnly "wf_archive") deaf (Json.isWithin 490)
      "run" .null () = (.ok r, ()) := Prod.ext hr rfl
  exact ⟨r, hrun, hnames, events_of_run archive NodeType.all (.live recordsOnly "wf_archive") deaf
    (Json.isWithin 490) "run" .null () () r hrun⟩

end Workflow
end Flowgraph
