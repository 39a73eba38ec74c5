import Flowgraph.Run.Walk

/-!
# Runs that are broken off

A run keeps copies of its input and of the contexts around its steps, and is broken off at the first
of them that cannot be copied.  Here it is compared with the run in which everything can be copied,
which is never broken off: as far as both of them go they are the same.  So what a run gives is
found out by looking at the unbroken one.  If everything that one keeps can be copied it is the
result, and otherwise there is none.

## Main definitions

* `Walk.Setting.unbroken` — the setting in which everything can be copied.
* `Walk.stepOf` — the step that a node makes.

## Main results

* `Walk.settle_eq_ite` — what a node leaves behind, by whether its step can be copied.
* `Walk.through_cases`, `Walk.whole_cases` — the same for the turns of many nodes.
* `Workflow.run_cases` — **what a run gives, by what the unbroken one gives.**
-/

/-- What a function makes of the value of a computation is what it makes of a value. -/
theorem Except.exists_ok_of_map {ε α β : Type} {m : Except ε α} {f : α → β} {b : β}
    (h : m.toOption.map f = some b) : ∃ a, m = .ok a ∧ f a = b := by
  cases m with
  | error e => cases h
  | ok a => exact ⟨a, rfl, Option.some.inj h⟩

namespace Flowgraph

variable {σ : Type}

namespace Walk

variable {setting : Setting σ} {node : Node} {p : Progress} {s : σ} {state : Progress × σ}

/-- The setting in which everything can be copied. -/
def Setting.unbroken (setting : Setting σ) : Setting σ :=
  { setting with copies := fun _ => true }

/-- The step that a node makes of its outcome or its fault. -/
def stepOf (setting : Setting σ) (node : Node) (p : Progress) : Except Fault Outcome → Step
  | .error fault => ⟨node, p.context, .failed fault⟩
  | .ok outcome =>
    ⟨node, p.context,
      .success outcome (Schedule.follow setting.workflow node.id outcome.selectedPort)⟩

/-- A node leaves behind what it does where everything can be copied, if its step can be. -/
theorem settle_eq_ite (setting : Setting σ) (node : Node) (p : Progress)
    (result : Except Fault Outcome) (s : σ) :
    settle setting node p (result, s) =
      if (stepOf setting node p result).isCopied setting.copies then
        settle setting.unbroken node p (result, s)
      else (p.breakOff, s) := by
  cases result <;> rfl

theorem steps_settle_unbroken (setting : Setting σ) (node : Node) (p : Progress)
    (result : Except Fault Outcome) (s : σ) :
    (settle setting.unbroken node p (result, s)).1.steps =
      p.steps ++ [stepOf setting node p result] := by
  cases result <;> rfl

theorem broken_settle_unbroken (setting : Setting σ) (node : Node) (p : Progress)
    (result : Except Fault Outcome) (s : σ) :
    (settle setting.unbroken node p (result, s)).1.broken = p.broken := by
  cases result <;> rfl

/-- A turn adds a step where everything can be copied; it is the same turn if that step can be, and
else it breaks the run off. -/
theorem visit_cases (setting : Setting σ) (node : Node) (state : Progress × σ) :
    ∃ step : Step, (visit setting.unbroken node state).1.steps = state.1.steps ++ [step] ∧
      (visit setting.unbroken node state).1.broken = state.1.broken ∧
      (step.isCopied setting.copies = true →
        visit setting node state = visit setting.unbroken node state) ∧
      (step.isCopied setting.copies = false → (visit setting node state).1.broken = true) := by
  -- the node acts in the same way, on what the listener leaves behind
  let started := tell setting (.nodeStarted node (setting.tally state.1.steps.length)) state
  let acted := node.execute setting.registry setting.backend started.1.context started.2
  have hvisit : visit setting node state = _ :=
    settle_eq_ite setting node started.1 acted.1 acted.2
  refine ⟨stepOf setting node started.1 acted.1,
    steps_settle_unbroken setting node started.1 acted.1 acted.2,
    broken_settle_unbroken setting node started.1 acted.1 acted.2, fun hcopied => ?_,
    fun hcopied => ?_⟩
  · rw [hvisit, if_pos hcopied]
    rfl
  · rw [hvisit, if_neg (Bool.eq_false_iff.mp hcopied)]
    rfl

theorem through_skip {rest : List Node} (h : node.id ∉ state.1.active) :
    through setting (node :: rest) state = through setting rest state := by
  rw [through, if_neg (mt List.contains_iff_mem.mp h)]

theorem through_over {rest : List Node} (h : node.id ∈ state.1.active)
    (hover : (visit setting node state).1.isOver = true) :
    through setting (node :: rest) state = visit setting node state := by
  rw [through, if_pos (List.contains_iff_mem.mpr h)]
  exact if_pos hover

theorem through_step {rest : List Node} (h : node.id ∈ state.1.active)
    (hopen : (visit setting node state).1.isOver = false) :
    through setting (node :: rest) state = through setting rest (visit setting node state) := by
  rw [through, if_pos (List.contains_iff_mem.mpr h)]
  exact if_neg (Bool.eq_false_iff.mp hopen)

/-- A row of turns adds steps where everything can be copied; they are the same turns if these steps
can be, and else the run is broken off. -/
theorem through_cases (setting : Setting σ) : ∀ (order : List Node) (state : Progress × σ),
    ∃ steps : List Step,
      (through setting.unbroken order state).1.steps = state.1.steps ++ steps ∧
      (through setting.unbroken order state).1.broken = state.1.broken ∧
      ((∀ step ∈ steps, step.isCopied setting.copies = true) →
        through setting order state = through setting.unbroken order state) ∧
      ((∃ step ∈ steps, step.isCopied setting.copies = false) →
        (through setting order state).1.broken = true) := by
  intro order
  induction order with
  | nil => exact fun state => ⟨[], by simp [through]⟩
  | cons node order ih =>
    intro state
    by_cases hactive : node.id ∈ state.1.active
    case neg =>
      rw [through_skip hactive, through_skip hactive]
      exact ih state
    obtain ⟨step, hstep, hbroken, hsame, hbreaks⟩ := visit_cases setting node state
    have hover : step.isCopied setting.copies = false →
        through setting (node :: order) state = visit setting node state := fun hcopied => by
      refine through_over hactive ?_
      rw [Progress.isOver, hbreaks hcopied, Bool.or_true]
    cases hend : (visit setting.unbroken node state).1.isOver with
    | true =>
      refine ⟨[step], ?_, ?_, fun hall => ?_, ?_⟩
      · rw [through_over hactive hend, hstep]
      · rw [through_over hactive hend, hbroken]
      · have hvisit := hsame (hall step (List.mem_singleton_self step))
        rw [through_over hactive hend, through_over hactive (hvisit ▸ hend), hvisit]
      · rintro ⟨_, hmem, hcopied⟩
        rw [List.mem_singleton.mp hmem] at hcopied
        rw [hover hcopied]
        exact hbreaks hcopied
    | false =>
      obtain ⟨steps, hsteps, hbroken', hsames, hbreak⟩ := ih (visit setting.unbroken node state)
      rw [through_step hactive hend]
      refine ⟨step :: steps, ?_, hbroken'.trans hbroken, fun hall => ?_, ?_⟩
      · rw [hsteps, hstep, List.append_assoc, List.singleton_append]
      · obtain ⟨hcopied, hall⟩ := List.forall_mem_cons.mp hall
        rw [through_step hactive (hsame hcopied ▸ hend), hsame hcopied]
        exact hsames hall
      · rintro ⟨other, hmem, hother⟩
        cases hcopied : step.isCopied setting.copies with
        | true =>
          -- the first step can be copied, so that it is one of the others that cannot
          have hmem' : other ∈ steps := (List.mem_cons.mp hmem).resolve_left fun heq => by
            rw [heq, hcopied] at hother
            cases hother
          rw [through_step hactive (hsame hcopied ▸ hend), hsame hcopied]
          exact hbreak ⟨other, hmem', hother⟩
        | false =>
          rw [hover hcopied]
          exact hbreaks hcopied

/-- The state in which the turns of a run begin. -/
def begun (setting : Setting σ) (input : Json) (s : σ) : Progress × σ :=
  tell setting (.runStarted (setting.tally 0)) (Progress.start setting.workflow input, s)

/-- A run that is broken off has no last event. -/
theorem whole_of_broken {order : List Node} {input : Json}
    (h : (through setting order (begun setting input s)).1.broken = true) :
    whole setting order input s = through setting order (begun setting input s) :=
  if_pos h

/-- A run that is not broken off ends with an event. -/
theorem whole_of_unbroken {order : List Node} {input : Json}
    (h : (through setting order (begun setting input s)).1.broken = false) :
    whole setting order input s =
      tell setting (closing setting (through setting order (begun setting input s)).1)
        (through setting order (begun setting input s)) :=
  if_neg (Bool.eq_false_iff.mp h)

/-- A whole run where everything can be copied is not broken off; it is the same run if all of its
steps can be copied, and else that one is broken off. -/
theorem whole_cases (setting : Setting σ) (order : List Node) (input : Json) (s : σ) :
    (whole setting.unbroken order input s).1.broken = false ∧
    ((∀ step ∈ (whole setting.unbroken order input s).1.steps,
        step.isCopied setting.copies = true) →
      whole setting order input s = whole setting.unbroken order input s) ∧
    ((∃ step ∈ (whole setting.unbroken order input s).1.steps,
        step.isCopied setting.copies = false) →
      (whole setting order input s).1.broken = true) := by
  obtain ⟨steps, hsteps, hbroken, hsame, hbreak⟩ :=
    through_cases setting order (begun setting input s)
  have hwhole : whole setting.unbroken order input s = _ := whole_of_unbroken hbroken
  have hsteps' : (whole setting.unbroken order input s).1.steps = steps := by
    rw [hwhole]
    exact hsteps.trans (List.nil_append steps)
  rw [hsteps']
  refine ⟨?_, fun hall => ?_, fun hsome => ?_⟩
  · rw [hwhole]
    exact hbroken
  · have hkept : (through setting order (begun setting input s)).1.broken = false := by
      rw [hsame hall]
      exact hbroken
    rw [hwhole, whole_of_unbroken hkept, hsame hall]
    rfl
  · rw [whole_of_broken (hbreak hsome)]
    exact hbreak hsome

end Walk

/-- Where everything can be copied, so can all that a run keeps. -/
theorem Run.isCopied_true (r : Run) : r.isCopied (fun _ => true) = true := by
  simp [isCopied, Step.isCopied]

namespace Workflow

variable {w : Workflow} {registry : List NodeType} {backend : Backend σ} {listener : Listener σ}
  {copies : Json → Bool} {id : String} {given : Json} {s s' : σ} {r : Run}

/-- Why there is no input to begin with. -/
theorem initialInput_eq_error {e : RunError} (h : w.initialInput given = .error e) :
    (∃ title, e = .noPayload title) ∨ ∃ kind, e = .payloadField kind := by
  cases given with
  | null =>
    rw [initialInput, offeredInput] at h
    split at h
    · cases h
    · split at h
      · cases h
      · split at h
        · exact .inr ⟨_, (Except.error.inj h).symm⟩
        · exact .inl ⟨_, (Except.error.inj h).symm⟩
  | _ => cases h

/-- A run whose input cannot be copied does not even begin. -/
theorem run_of_uncopied {order : List Node} {input : Json} (hplan : Schedule.plan? w = some order)
    (hinput : w.initialInput given = .ok input) (h : copies input = false) :
    w.run registry backend listener copies id given s = (.error .uncopied, s) := by
  rw [run, hplan, hinput]
  exact if_neg (Bool.eq_false_iff.mp h)

/-- **What a run gives, by what the unbroken one gives**: the same run with the same state behind
it, if all that is kept can be copied; and else nothing, as that cannot be copied.  Where the unbroken
one gives nothing either, neither of them has begun. -/
theorem run_cases (w : Workflow) (registry : List NodeType) (backend : Backend σ)
    (listener : Listener σ) (copies : Json → Bool) (id : String) (given : Json) (s : σ) :
    (∃ e, e ≠ .uncopied ∧
      w.run registry backend listener (fun _ => true) id given s = (.error e, s) ∧
      w.run registry backend listener copies id given s = (.error e, s)) ∨
    ∃ r, (w.run registry backend listener (fun _ => true) id given s).1 = .ok r ∧
      (r.isCopied copies = true →
        w.run registry backend listener copies id given s =
          w.run registry backend listener (fun _ => true) id given s) ∧
      (r.isCopied copies = false →
        (w.run registry backend listener copies id given s).1 = .error .uncopied) := by
  unfold run
  cases Schedule.plan? w with
  | none => exact .inl ⟨_, by simp, rfl, rfl⟩
  | some order =>
    cases hinput : w.initialInput given with
    | error e =>
      refine .inl ⟨e, ?_, rfl, rfl⟩
      rcases initialInput_eq_error hinput with ⟨_, rfl⟩ | ⟨_, rfl⟩ <;> simp
    | ok input =>
      obtain ⟨hbroken, hsame, hbreak⟩ :=
        Walk.whole_cases ⟨w, registry, backend, listener, copies⟩ order input s
      simp only [Walk.Setting.unbroken] at hbroken hsame hbreak
      simp only [if_true, hbroken, Bool.false_eq_true, if_false]
      refine .inr ⟨_, rfl, fun hcopied => ?_, fun hlost => ?_⟩
      · rw [Run.isCopied, Bool.and_eq_true, List.all_eq_true] at hcopied
        rw [if_pos hcopied.1, hsame hcopied.2, hbroken]
        rfl
      · rw [Run.isCopied, Bool.and_eq_false_iff, List.all_eq_false] at hlost
        cases hcopied : copies input with
        | false => rfl
        | true =>
          rw [hcopied] at hlost
          obtain ⟨step, hstep, hlost⟩ := hlost.resolve_left Bool.true_eq_false.mp
          rw [if_pos rfl, hbreak ⟨step, hstep, Bool.eq_false_iff.mpr hlost⟩]
          rfl

/-- A run that gives something is the unbroken one, and all that it keeps could be copied. -/
theorem run_eq_unbroken (h : w.run registry backend listener copies id given s = (.ok r, s')) :
    w.run registry backend listener (fun _ => true) id given s = (.ok r, s') ∧
      r.isCopied copies = true := by
  rcases run_cases w registry backend listener copies id given s with
    ⟨e, -, -, herror⟩ | ⟨r', hr', hsame, hlost⟩
  · rw [h] at herror
    cases herror
  · cases hcopied : r'.isCopied copies with
    | true =>
      rw [← hsame hcopied, h] at hr'
      obtain rfl := Except.ok.inj hr'
      exact ⟨(hsame hcopied).symm.trans h, hcopied⟩
    | false =>
      rw [h] at hlost
      cases hlost hcopied

end Workflow
end Flowgraph
