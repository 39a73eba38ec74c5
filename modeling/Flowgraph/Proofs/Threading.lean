import Flowgraph.Proofs.Walk
import Mathlib.Data.List.Chain

/-!
# The context of a run

One context is handed from node to node.  Here it is followed through a whole run: every step is
given what the step before it put out, only the last step may fail, and a step that succeeds changes
nothing but the keys that its activity writes.

## Main definitions

* `Step.Threads` — steps that succeeded lead from one context to another.
* `Walk.Handed` — a context has been handed on by steps that succeeded, to one that may have failed.
* `Run.Threaded` — what there is to know of the contexts of a whole run.

## Main results

* `Outcome.Of.get?_of_notMem` — an outcome keeps the keys that its node does not write.
* `Walk.Handed.turn` — every turn hands the context on.
* `Workflow.run_threads` — **every run threads its context** from its input to its output.
-/

namespace Flowgraph

/-! ### Fields that are not written -/

namespace Fields

variable {key : String}

@[simp] theorem setAll_cons (fields others : Fields) (name : String) (value : Json) :
    fields.setAll ((name, value) :: others) = (fields.set name value).setAll others := rfl

theorem has_set (fields : Fields) (name : String) (value : Json) (h : fields.has key = true) :
    (fields.set name value).has key = true := by
  unfold has at h ⊢
  rw [get?_set]
  split
  · rfl
  · exact h

theorem get?_setAll_of_notMem : ∀ (others fields : Fields), key ∉ others.map Prod.fst →
    (fields.setAll others).get? key = fields.get? key := by
  intro others
  induction others with
  | nil => exact fun fields _ => rfl
  | cons field others ih =>
    obtain ⟨name, value⟩ := field
    intro fields h
    rw [List.map_cons, List.mem_cons, not_or] at h
    rw [setAll_cons, ih _ h.2, get?_set, if_neg (Ne.symm h.1)]

theorem has_setAll : ∀ (others fields : Fields), fields.has key = true →
    (fields.setAll others).has key = true := by
  intro others
  induction others with
  | nil => exact fun fields h => h
  | cons field others ih =>
    intro fields h
    exact ih _ (has_set fields field.1 field.2 h)

end Fields

namespace Outcome.Of

variable {o : Outcome} {node : Node} {context : Fields} {key : String}

/-- An outcome keeps the keys that its node does not write. -/
theorem get?_of_notMem (h : o.Of node context) (hkey : key ∉ node.settings.written) :
    o.context.get? key = context.get? key := by
  obtain ⟨values, hvalues, hcontext⟩ := h.context_eq
  rw [hcontext, Fields.get?_setAll_of_notMem values context (hvalues ▸ hkey)]

/-- No key is lost to an outcome. -/
theorem has (h : o.Of node context) (hkey : context.has key = true) :
    o.context.has key = true := by
  obtain ⟨values, -, hcontext⟩ := h.context_eq
  rw [hcontext]
  exact Fields.has_setAll values context hkey

end Outcome.Of

/-! ### Steps in a row -/

namespace Step

theorem isFailed_eq_false {step : Step} : step.isFailed = false ↔ step.fault? = none := by
  rw [isFailed, Option.isSome_eq_false_iff, Option.isNone_iff_eq_none]

/-- The output of a failed step is the wording of its fault. -/
theorem output_of_fault {step : Step} {fault : Fault} (h : step.fault? = some fault) :
    step.output = [("error", .str fault.report)] := by
  cases hresult : step.result with
  | success outcome next => simp [fault?, hresult] at h
  | failed fault' =>
    obtain rfl : fault' = fault := by simpa [fault?, hresult] using h
    rw [output, hresult]

/-- The steps lead from one context to another: the first is given the one, each other what the step
before it put out, the last puts out the other, and none of them failed. -/
def Threads : Fields → List Step → Fields → Prop
  | c, [], d => c = d
  | c, step :: rest, d => step.input = c ∧ step.isFailed = false ∧ Threads step.output rest d

namespace Threads

theorem snoc {step : Step} (hfine : step.isFailed = false) : ∀ {done : List Step} {c : Fields},
    Threads c done step.input → Threads c (done ++ [step]) step.output := by
  intro done
  induction done with
  | nil => exact fun h => ⟨h.symm, hfine, rfl⟩
  | cons first done ih => exact fun h => ⟨h.1, h.2.1, ih h.2.2⟩

theorem isFailed_eq_false : ∀ {done : List Step} {c d : Fields}, Threads c done d →
    ∀ step ∈ done, step.isFailed = false := by
  intro done
  induction done with
  | nil => exact fun _ _ hmem => absurd hmem List.not_mem_nil
  | cons first done ih =>
    intro c d h step hmem
    rcases List.mem_cons.mp hmem with rfl | hmem
    · exact h.2.1
    · exact ih h.2.2 step hmem

/-- The context reached is the output of the last step. -/
theorem eq_getLast : ∀ {done : List Step} {c d : Fields}, Threads c done d →
    d = (done.getLast?.map Step.output).getD c := by
  intro done
  induction done with
  | nil => exact fun h => h.symm
  | cons first done ih =>
    intro c d h
    rw [ih h.2.2, List.getLast?_cons]
    cases done.getLast? <;> rfl

/-- The first step is given the first context. -/
theorem head_input {done : List Step} {c d : Fields} (h : Threads c done d) :
    ∀ first ∈ done.head?, first.input = c := by
  cases done with
  | nil => intro first hfirst; simp at hfirst
  | cons step done =>
    intro first hfirst
    obtain rfl : step = first := by simpa using hfirst
    exact h.1

theorem isChain : ∀ {done : List Step} {c d : Fields}, Threads c done d →
    done.IsChain fun before after => after.input = before.output := by
  intro done
  induction done with
  | nil => exact fun _ => .nil
  | cons first done ih => exact fun h => (ih h.2.2).cons (head_input h.2.2)

end Threads
end Step

/-! ### Turns -/

namespace Walk

variable {σ : Type} {setting : Setting σ} {node : Node} {state state' : Progress × σ}

/-- What a turn makes of the context: a step is added that was given the context, and unless it
failed its output is the context from now on. -/
theorem Turn.hands_on (h : Turn setting node state state') (hfault : state.1.fault = none) :
    ∃ step : Step, step.input = state.1.context ∧ state'.1.steps = state.1.steps ++ [step] ∧
      state'.1.fault = step.fault? ∧
      state'.1.context = if step.isFailed then state.1.context else step.output := by
  cases h with
  | succeeded p s s' outcome h =>
    exact ⟨⟨node, p.context, .success outcome _⟩, rfl, rfl, hfault, rfl⟩
  | failed p s s' fault h =>
    exact ⟨⟨node, p.context, .failed fault⟩, rfl, rfl, rfl, rfl⟩

/-- A context has been handed on from `first`: by the steps `done`, which succeeded and lead to
`context`, and to one step behind them if that failed. -/
structure Handed (first : Fields) (steps : List Step) (context : Fields) (fault : Option Fault)
    (done : List Step) (failed? : Option Step) : Prop where
  /-- There are no other steps. -/
  steps_eq : steps = done ++ failed?.toList
  /-- The steps that succeeded lead from context to context. -/
  threads : Step.Threads first done context
  /-- A fault is the fault of the step that failed. -/
  fault_eq : fault = failed?.bind Step.fault?
  /-- The step that failed was given the context reached. -/
  failed : ∀ step ∈ failed?, step.input = context ∧ step.isFailed = true

theorem handed_begun (setting : Setting σ) (input : Json) (s : σ) :
    Handed [("input", input)] (begun setting input s).1.steps (begun setting input s).1.context
      (begun setting input s).1.fault [] none :=
  ⟨rfl, rfl, rfl, fun _ hmem => absurd hmem (Option.not_mem_none _)⟩

namespace Handed

variable {first context : Fields} {steps done : List Step} {fault : Option Fault}
  {failed? : Option Step}

/-- Where there is no fault, no step has failed. -/
theorem failed_eq_none (h : Handed first steps context none done failed?) : failed? = none := by
  cases hfailed : failed? with
  | none => rfl
  | some step =>
    have hbad := (h.failed step hfailed).2
    have hfine : step.fault? = none := by
      have hfault := h.fault_eq
      rw [hfailed] at hfault
      exact hfault.symm
    rw [Step.isFailed_eq_false.mpr hfine] at hbad
    exact absurd hbad Bool.false_ne_true

/-- **Every turn hands the context on.** -/
theorem turn (h : Handed first state.1.steps state.1.context state.1.fault done failed?)
    (hfault : state.1.fault = none) (hturn : Turn setting node state state') :
    ∃ done failed?, Handed first state'.1.steps state'.1.context state'.1.fault done failed? := by
  rw [hfault] at h
  obtain rfl := h.failed_eq_none
  obtain ⟨step, hinput, hadded, hfault', hcontext⟩ := hturn.hands_on hfault
  rw [h.steps_eq, Option.toList_none, List.append_nil] at hadded
  rw [hadded, hfault']
  cases hfine : step.isFailed with
  | false =>
    rw [hfine, if_neg Bool.false_ne_true] at hcontext
    rw [hcontext]
    exact ⟨done ++ [step], none, by rw [Option.toList_none, List.append_nil],
      Step.Threads.snoc hfine (hinput ▸ h.threads), Step.isFailed_eq_false.mp hfine,
      fun _ hmem => absurd hmem (Option.not_mem_none _)⟩
  | true =>
    rw [hfine, if_pos rfl] at hcontext
    rw [hcontext]
    refine ⟨done, some step, rfl, h.threads, rfl, fun other hother => ?_⟩
    obtain rfl : step = other := Option.some.inj hother
    exact ⟨hinput, hfine⟩

/-! ### What the row of steps tells -/

theorem mem_failed {step : Step} (h : Handed first steps context fault done failed?)
    (hstep : step ∈ steps) (hbad : step.isFailed = true) : step ∈ failed? := by
  rw [h.steps_eq, List.mem_append] at hstep
  rcases hstep with hstep | hstep
  · rw [h.threads.isFailed_eq_false step hstep] at hbad
    exact absurd hbad Bool.false_ne_true
  · exact Option.mem_toList.mp hstep

theorem head_input (h : Handed first steps context fault done failed?) :
    ∀ step ∈ steps.head?, step.input = first := by
  intro step hstep
  rw [h.steps_eq, List.head?_append, Option.mem_def, Option.or_eq_some_iff] at hstep
  rcases hstep with hstep | ⟨hnone, hstep⟩
  · exact h.threads.head_input step hstep
  · -- no step succeeded, so the first one is the one that failed
    obtain rfl := List.head?_eq_none_iff.mp hnone
    rw [(h.failed step (Option.mem_toList.mp (List.mem_of_head? hstep))).1]
    exact Eq.symm h.threads

theorem isChain (h : Handed first steps context fault done failed?) :
    steps.IsChain fun before after => after.input = before.output := by
  rw [h.steps_eq, List.isChain_append]
  -- the step that failed stands behind those that led to the context it was given
  refine ⟨h.threads.isChain, by cases failed? <;> simp, fun before hbefore after hafter => ?_⟩
  rw [(h.failed after (Option.mem_toList.mp (List.mem_of_head? hafter))).1, h.threads.eq_getLast,
    Option.mem_def.mp hbefore]
  rfl

theorem isFailed_of_mem_dropLast (h : Handed first steps context fault done failed?) :
    ∀ step ∈ steps.dropLast, step.isFailed = false := by
  intro step hstep
  refine h.threads.isFailed_eq_false step ?_
  cases failed? with
  | none =>
    rw [h.steps_eq, Option.toList_none, List.append_nil] at hstep
    exact List.mem_of_mem_dropLast hstep
  | some failed => simpa [h.steps_eq] using hstep

/-- There is a fault exactly if the last step failed. -/
theorem isSome_fault_iff (h : Handed first steps context fault done failed?) :
    fault.isSome = true ↔ ∃ last ∈ steps.getLast?, last.isFailed = true := by
  constructor
  · intro hsome
    cases hfailed : failed? with
    | none =>
      rw [h.fault_eq, hfailed] at hsome
      simp at hsome
    | some failed =>
      refine ⟨failed, ?_, (h.failed failed hfailed).2⟩
      rw [h.steps_eq, hfailed]
      simp
  · rintro ⟨last, hlast, hbad⟩
    have hfailed := h.mem_failed (List.mem_of_getLast? hlast) hbad
    rw [h.fault_eq, Option.mem_def.mp hfailed]
    exact hbad

/-- The context reached is what the last step that succeeded put out. -/
theorem context_eq (h : Handed first steps context fault done failed?) :
    context = ((steps.filter fun step => !step.isFailed).getLast?.map Step.output).getD first := by
  have hdone : done.filter (fun step => !step.isFailed) = done :=
    List.filter_eq_self.mpr fun step hstep => by rw [h.threads.isFailed_eq_false step hstep]; rfl
  have hrest : failed?.toList.filter (fun step => !step.isFailed) = [] := by
    rw [List.filter_eq_nil_iff]
    intro step hstep
    rw [(h.failed step (Option.mem_toList.mp hstep)).2]
    exact Bool.false_ne_true
  rw [h.steps_eq, List.filter_append, hdone, hrest, List.append_nil]
  exact h.threads.eq_getLast

/-- A step that failed was given the context reached, and puts out the fault. -/
theorem failure (h : Handed first steps context fault done failed?) :
    ∀ step ∈ steps, step.isFailed = true → step.input = context ∧
      ∃ cause, fault = some cause ∧ step.output = [("error", .str cause.report)] := by
  intro step hstep hbad
  have hfailed := h.mem_failed hstep hbad
  obtain ⟨cause, hcause⟩ := Option.isSome_iff_exists.mp hbad
  refine ⟨(h.failed step hfailed).1, cause, ?_, Step.output_of_fault hcause⟩
  rw [h.fault_eq, Option.mem_def.mp hfailed]
  exact hcause

end Handed
end Walk

/-! ### Runs -/

/-- What there is to know of the contexts of a run. -/
structure Run.Threaded (r : Run) : Prop where
  /-- The first step is given the input of the run. -/
  first : ∀ step ∈ r.steps.head?, step.input = [("input", r.initialInput)]
  /-- Every other step is given what the step before it put out. -/
  chain : r.steps.IsChain fun before after => after.input = before.output
  /-- Every step but the last succeeded. -/
  succeeded : ∀ step ∈ r.steps.dropLast, step.isFailed = false
  /-- The run failed exactly if its last step did. -/
  status : r.status = "failed" ↔ ∃ last ∈ r.steps.getLast?, last.isFailed = true
  /-- The run puts out what the last step that succeeded put out, and its first context if there is
  none. -/
  output : r.output = ((r.steps.filter fun step => !step.isFailed).getLast?.map Step.output).getD
    [("input", r.initialInput)]
  /-- A step that failed was given the output of the run, and puts out the error of the run. -/
  failure : ∀ step ∈ r.steps, step.isFailed = true → step.input = r.output ∧
    ∃ error, r.error? = some error ∧ step.output = [("error", .str error)]
  /-- A step that succeeded keeps the value of every key that its activity does not write. -/
  frame : ∀ step ∈ r.steps, step.isFailed = false → ∀ key, key ∉ step.node.settings.written →
    step.output.get? key = step.input.get? key
  /-- No key is lost to a step that succeeded. -/
  keeps : ∀ step ∈ r.steps, step.isFailed = false → ∀ key, step.input.has key = true →
    step.output.has key = true

namespace Workflow

variable {σ : Type} {w : Workflow} {registry : List NodeType} {backend : Backend σ}
  {listener : Listener σ} {copies : Json → Bool} {id : String} {given : Json} {s : σ} {r : Run}

/-- A run hands its context on, from its input to its output. -/
theorem handed_of_run (h : (w.run registry backend listener copies id given s).1 = .ok r) :
    ∃ done failed?,
      Walk.Handed [("input", r.initialInput)] r.steps r.output r.fault done failed? := by
  obtain ⟨ended, hhanded, hr, -⟩ := run_ended
    (fun input state => ∃ done failed?, Walk.Handed [("input", input)] state.1.steps
      state.1.context state.1.fault done failed?) (Prod.ext h rfl)
    (fun input => ⟨[], none, Walk.handed_begun _ input s⟩)
    (fun _ _ _ _ ⟨_, _, hinv⟩ hfault hturn => hinv.turn hfault hturn)
  rw [hr]
  exact hhanded

/-- An outcome of the activity stands behind every step that succeeded. -/
theorem outcome_of_run (h : (w.run registry backend listener copies id given s).1 = .ok r)
    {step : Step} (hstep : step ∈ r.steps) (hfine : step.isFailed = false) :
    ∃ outcome : Outcome, outcome.Of step.node step.input ∧ step.output = outcome.context := by
  obtain ⟨outcome, hof, hresult⟩ :=
    (taken_of_run h step hstep).1.outcome (Step.isFailed_eq_false.mp hfine)
  exact ⟨outcome, hof, by rw [Step.output, hresult]⟩

/-- **Every run threads its context** from its input to its output, whatever its workflow is and
whatever the backend and the listener do. -/
theorem run_threads (w : Workflow) (registry : List NodeType) (backend : Backend σ)
    (listener : Listener σ) (copies : Json → Bool) (id : String) (given : Json) (s : σ) (r : Run)
    (h : (w.run registry backend listener copies id given s).1 = .ok r) : r.Threaded := by
  obtain ⟨done, failed?, hhanded⟩ := handed_of_run h
  refine ⟨hhanded.head_input, hhanded.isChain, hhanded.isFailed_of_mem_dropLast, ?_,
    hhanded.context_eq, fun step hstep hbad => ?_, fun step hstep hfine key hkey => ?_,
    fun step hstep hfine key hkey => ?_⟩
  · rw [← hhanded.isSome_fault_iff, Run.status]
    cases r.fault <;> simp [statusName]
  · obtain ⟨hinput, cause, hcause, houtput⟩ := hhanded.failure step hstep hbad
    exact ⟨hinput, cause.report, by rw [Run.error?, hcause]; rfl, houtput⟩
  · obtain ⟨outcome, hof, houtput⟩ := outcome_of_run h hstep hfine
    rw [houtput, hof.get?_of_notMem hkey]
  · obtain ⟨outcome, hof, houtput⟩ := outcome_of_run h hstep hfine
    rw [houtput]
    exact hof.has hkey

/-- A record that is saved and a file that is written. -/
def archive : Workflow where
  id := "wf_archive"
  name := "Archive"
  description := "Keeps what it is given."
  tags := []
  entryNodeId := "start"
  freeData := []
  nodes := [
    NodeType.manual.fresh "start" ⟨.whole 0, .whole 0⟩,
    NodeType.save.fresh "keep" ⟨.whole 240, .whole 0⟩,
    NodeType.exporter.fresh "file" ⟨.whole 480, .whole 0⟩]
  edges := [
    ⟨"e1", ⟨"start", "out"⟩, ⟨"keep", "in"⟩, none, none⟩,
    ⟨"e2", ⟨"keep", "out"⟩, ⟨"file", "in"⟩, none, none⟩]

/-- A store that takes records but no files. -/
def recordsOnly : Collaborators Unit where
  saveTable := "va_items"
  complete _ := Effect.fail (.foreign "RuntimeError" "no model")
  insert table _ :=
    if table = "va_items" then pure "row" else Effect.fail (.foreign "OSError" "disk full")

/-- The archive saves its record and then cannot write its file; the context stays what it was. -/
theorem run_threads_archive :
    ∃ r, (archive.run NodeType.all (.live recordsOnly "wf_archive") Listener.silent
        (Json.isWithin 490) "run" .null ()).1 = .ok r ∧ r.status = "failed" ∧ r.steps.length = 3 ∧
      r.Threaded := by
  have harchive : (archive.run NodeType.all (.live recordsOnly "wf_archive") Listener.silent
      (Json.isWithin 490) "run" .null ()).1.toOption.map (fun r => (r.status, r.steps.length)) =
        some ("failed", 3) := by
    decide +kernel
  obtain ⟨r, hrun, hr⟩ := Except.exists_ok_of_map harchive
  obtain ⟨hstatus, hlength⟩ := Prod.mk.inj hr
  exact ⟨r, hrun, hstatus, hlength, run_threads archive NodeType.all (.live recordsOnly "wf_archive")
    Listener.silent (Json.isWithin 490) "run" .null () r hrun⟩

end Workflow
end Flowgraph
