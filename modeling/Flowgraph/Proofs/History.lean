import Flowgraph.Json.Reader
import Flowgraph.Proofs.Atomic

/-!
# Runs on record

Whoever starts a run is told its name, and under that name history tells later what the run was.
For this the name must be the run's alone: names come from a counter that only grows, and no two
counts are written alike, so that every run in the table has a name given out before the next one.
A run that is recorded then stands at the end of the table, where it is among those that are kept,
and no other row is found under its name.

## Main definitions

* `World.Named` — the runs in the table have names that were given out.
* `World.Underway` — what a world can come to while a run goes on.
* `Run.ToldIn` — data tells of a run how it went, and what it was started by and with.

## Main results

* `RowId.write_injective` — no two counts are written alike.
* `World.named_behind` — every run in the table has a name that was given out.
* `World.recordedRun_of_runWorkflow` — **what history tells right after a run is that very run.**
* `World.recorded_of_calls` — **a run is recorded, a refused one is not, and a trial never is.**
-/

namespace Flowgraph

/-! ### Names -/

namespace RowId

/-- The count that hexadecimal digits stand for. -/
def read (digits : List Char) : Nat :=
  digits.foldl (fun n c => 16 * n + (Json.Reader.hexValue? c).getD 0) 0

theorem hexValue?_digitChar : ∀ d < 16, Json.Reader.hexValue? d.digitChar = some d := by
  decide

theorem read_concat (digits : List Char) {d : Nat} (h : d < 16) :
    read (digits ++ [d.digitChar]) = 16 * read digits + d := by
  rw [read, List.foldl_append, List.foldl_cons, List.foldl_nil, hexValue?_digitChar d h]
  rfl

theorem read_zeros (n : Nat) : read (List.replicate n '0') = 0 := by
  induction n with
  | zero => rfl
  | succ n ih =>
    rw [List.replicate_succ', show '0' = Nat.digitChar 0 from rfl, read_concat _ (by decide)]
    exact congrArg (16 * · + 0) ih

/-- The digits of a count, with zeros before them, stand for it. -/
theorem read_toDigits (zeros count : Nat) :
    read (List.replicate zeros '0' ++ Nat.toDigits 16 count) = count := by
  -- by induction on the count, from its last digit to the ones before
  induction count using Nat.strongRecOn with
  | ind count ih =>
    rw [Nat.toDigits_eq_if (by decide)]
    by_cases hsmall : count < 16
    · rw [if_pos hsmall, read_concat _ hsmall, read_zeros, Nat.mul_zero, Nat.zero_add]
    · rw [if_neg hsmall, ← List.append_assoc, read_concat _ (Nat.mod_lt _ (by decide)),
        ih _ (by omega)]
      exact Nat.div_add_mod count 16

/-- No two counts are written alike. -/
theorem write_injective : Function.Injective write := by
  intro a b h
  have hdigits := congrArg String.toList h
  rw [write, write, String.toList_ofList, String.toList_ofList] at hdigits
  rw [← read_toDigits _ a, hdigits, read_toDigits]

end RowId

/-! ### What goes on during a run -/

namespace Database

variable {db : Database}

theorem readable_of_insertRecord (h : db.isBlocked = false) (table id : String)
    (values : Fields) : (db.insertRecord table id values).2.isBlocked = false := by
  rcases db.insertRecord_cases table id values with hsame | hsame | ⟨db', hadded, hsame⟩ <;>
    rw [hsame]
  · exact h
  · rfl
  · obtain ⟨items, exports, rfl⟩ := addRecord_frame hadded
    exact h

/-- A change of the stored workflows touches no run. -/
theorem Changed.runs {now : Moment} {c : WorkflowChange}
    {outcome : Except ServiceError (Option Document) × Database} (h : db.Changed now c outcome) :
    outcome.2.runs = db.runs := by
  cases h <;> rfl

/-- What is found under a name that one row alone carries. -/
theorem recordedRun_eq_ok {row : RunRow} (hreadable : db.isBlocked = false) (hrow : row ∈ db.runs)
    (halone : ∀ other ∈ db.runs, other.run.id = row.run.id → other = row) :
    db.recordedRun row.run.id = .ok row := by
  have hfound : db.run? row.run.id = some row := by
    cases hfind : db.run? row.run.id with
    | none => exact absurd (List.find?_eq_none.mp hfind row hrow) (by simp)
    | some other =>
      have hname : other.run.id = row.run.id := by simpa using List.find?_some hfind
      rw [halone other (List.mem_of_find?_eq_some hfind) hname]
  simp [recordedRun, reach, hreadable, hfound, bind, Except.bind]

end Database

namespace World

variable {τ : Type} {complete : Prompt → Effect τ String} {policy : RunPolicy} {w w' : World τ}
  {now : Stamp} {mode id : String} {d : Document} {input : Json} {asked : Option String}
  {run : Run} {result : Except ServiceError Run}

/-- What a world can come to while a run goes on: the table of runs is the same, names are given
out, and the database can still be read. -/
structure Underway (w w' : World τ) : Prop where
  /-- No run is recorded. -/
  runs : w'.database.runs = w.database.runs
  /-- No name is given back. -/
  issued : w.issued ≤ w'.issued
  /-- A change that fails is taken back. -/
  readable : w.database.isBlocked = false → w'.database.isBlocked = false

theorem underway_refl (w : World τ) : w.Underway w :=
  ⟨rfl, Nat.le_refl _, fun h => h⟩

theorem Underway.insertRecord (h : w.Underway w') (table : String) (values : Fields) :
    w.Underway (insertRecord table values w').2 := by
  have hdatabase : ∀ id, w.Underway
      (w'.withDatabase (w'.database.insertRecord table id values).2) := fun id =>
    ⟨(w'.database.insertRecord_frame table id values).1.trans h.runs, h.issued,
      fun hw => Database.readable_of_insertRecord (h.readable hw) table id values⟩
  unfold World.insertRecord
  -- a name is given out if the table is there
  by_cases htable : Record.isTable table
  · obtain ⟨hruns, hissued, hreadable⟩ := hdatabase w'.issue.1
    simp only [htable, ↓reduceIte]
    exact ⟨hruns, Nat.le_succ_of_le hissued, hreadable⟩
  · simp only [htable, Bool.false_eq_true, ↓reduceIte]
    exact hdatabase ""

/-- A run has the mode that was chosen, if that is one of the two. -/
theorem mode_of_runDocument (h : runDocument policy complete mode id d input w = (.ok run, w'))
    (hmode : mode = "live" ∨ mode = "simulate") : run.mode = mode := by
  rw [(named_of_runDocument h).2.2]
  rcases hmode with rfl | rfl <;> rfl

/-- A run takes a name, and from there on the world is under way. -/
theorem underway_of_runDocument (h : runDocument policy complete mode id d input w = (result, w')) :
    w.issue.2.Underway w' :=
  runDocument_keeps (P := w.issue.2.Underway) (fun _ _ hw => ⟨hw.runs, hw.issued, hw.readable⟩)
    (fun _ table values hw => hw.insertRecord table values) (underway_refl _) h

/-- A trial changes no table. -/
theorem simulate_database (w : World τ) (policy : RunPolicy) (complete : Prompt → Effect τ String)
    (data input : Json) :
    (w.simulate policy complete data input).2.database = w.database := by
  unfold simulate
  cases hcheck : Document.check data with
  | error errors => rfl
  | ok d =>
    -- nodes have no effects, and so the run has none
    have hsilent : ∀ node context, (Node.execute node NodeType.all
        (backend policy complete "simulate" d.workflow.id) context).Keeps
          fun w' : World τ => w'.database = w.database := by
      intro node context
      rw [show backend policy complete "simulate" d.workflow.id = .simulated from if_neg (by decide)]
      exact node.execute_keeps _ Backend.askingKeeps_simulated
        (fun _ => Backend.insert_keeps_simulated) context
    have hissued : w.issue.2.database = w.database := rfl
    exact d.workflow.run_keeps hsilent (fun _ => Effect.keeps_pure ()) hissued

/-! ### Names of runs -/

/-- The runs in the table have names that were given out. -/
def Named (w : World τ) : Prop :=
  ∀ row ∈ w.database.runs, ∃ count ≤ w.issued, row.run.id = RowId.write count

/-- The next name is not that of a run in the table. -/
theorem Named.ne_next (h : w.Named) :
    ∀ row ∈ w.database.runs, row.run.id ≠ RowId.write (w.issued + 1) := by
  intro row hrow hname
  obtain ⟨count, hle, hcount⟩ := h row hrow
  have hsame := RowId.write_injective (hcount.symm.trans hname)
  omega

theorem Named.of_runs_eq (h : w.Named) (hruns : w'.database.runs = w.database.runs)
    (hissued : w.issued ≤ w'.issued) : w'.Named := by
  intro row hrow
  obtain ⟨count, hle, hcount⟩ := h row (hruns ▸ hrow)
  exact ⟨count, hle.trans hissued, hcount⟩

theorem Named.runDocument (h : w.Named)
    (hrun : runDocument policy complete mode id d input w = (result, w')) : w'.Named := by
  have hway := underway_of_runDocument hrun
  exact h.of_runs_eq hway.runs (Nat.le_of_succ_le hway.issued)

/-- A run that is recorded takes the name that it was given into the table. -/
theorem Named.runWorkflow (h : w.Named)
    (hrun : w.runWorkflow policy complete now id input asked = (result, w')) : w'.Named := by
  cases runWorkflow_outcome hrun with
  | unread => exact h
  | exhausted => exact h
  | unstarted s e w' hstored hrun => exact h.runDocument hrun
  | ended s run mid w' result hstored hmay hended hrecord =>
    have hnamed : mid.Named := h.runDocument hended
    obtain ⟨-, rfl | rfl⟩ := record_cases hrecord
    · exact hnamed
    obtain ⟨runs, hframe, hsub⟩ := mid.database.recordRun_frame policy.maxRecords
      ⟨run, "run-" ++ chosenMode policy asked, now.moment⟩
    rw [hframe]
    intro row hrow
    rcases List.mem_append.mp (hsub.subset hrow) with hearlier | hnew
    · exact hnamed row hearlier
    · rw [List.mem_singleton.mp hnew]
      exact ⟨w.issued + 1, (underway_of_runDocument hended).issued, (named_of_runDocument hended).1⟩

theorem Named.simulate (h : w.Named) (data input : Json) :
    (w.simulate policy complete data input).2.Named := by
  unfold World.simulate
  cases hcheck : Document.check data with
  | error errors => exact h
  | ok d => exact h.runDocument rfl

theorem Named.after (h : w.Named) (call : ServiceCall) : (w.after policy complete call).Named := by
  unfold World.after
  split
  · rename_i c _
    exact h.of_runs_eq (w.database.change_changed call.now.moment c).runs (Nat.le_refl _)
  · exact h.runWorkflow rfl
  · exact h.simulate _ _

/-- **Every run in the table has a name that was given out**, whatever was called. -/
theorem named_behind (policy : RunPolicy) (complete : Prompt → Effect τ String) (model : τ)
    (calls : List ServiceCall) : (behind policy complete model calls).Named := by
  -- by induction on the calls from the last one on
  induction calls using List.reverseRecOn with
  | nil => exact fun row hrow => absurd hrow List.not_mem_nil
  | append_singleton calls call ih =>
    rw [behind, afterAll, List.foldl_append]
    exact Named.after ih call

end World

/-! ### What is told -/

/-- Fields tell of a run how it went, and what it was started by and with. -/
structure Run.ToldIn (run : Run) (source : String) (moment : Moment) (fields : Fields) : Prop where
  /-- The name. -/
  id : ("id", .str run.id) ∈ fields
  /-- The workflow. -/
  workflow : ("workflow_id", .str run.workflowId) ∈ fields
  /-- Whether a node failed. -/
  status : ("status", .str run.status) ∈ fields
  /-- The mode. -/
  mode : ("mode", .str run.mode) ∈ fields
  /-- What started the run, and the input that it was started with. -/
  input : ("input_json", .obj [("source", .str source), ("payload", run.initialInput)]) ∈ fields
  /-- The context that the run left. -/
  output : ("output_json", .obj run.output) ∈ fields
  /-- All steps in their order. -/
  steps : ("steps", .arr (run.steps.map fun step => step.report moment)) ∈ fields
  /-- The wording of the fault, if a node failed. -/
  error : ("error", .ofOption run.error?) ∈ fields
  /-- Nothing else is told under these names. -/
  names : (fields.map Prod.fst).Nodup

/-- What is told of a recorded run tells of the run. -/
theorem RunRow.toldIn_detail (row : RunRow) :
    ∃ fields, row.detail = .obj fields ∧ row.run.ToldIn row.source row.createdAt fields := by
  refine ⟨_, rfl, ?_⟩
  constructor <;> simp [RunRow.input]

/-- Whoever started a run is told its name. -/
theorem Run.id_mem_reply (run : Run) :
    ∃ answer, run.reply = .obj answer ∧ ("run_id", .str run.id) ∈ answer := by
  unfold reply
  cases run.error? <;> exact ⟨_, rfl, by simp⟩

namespace World

variable {τ : Type} {complete : Prompt → Effect τ String} {policy : RunPolicy} {w w' : World τ}
  {now : Stamp} {id : String} {input : Json} {asked : Option String} {run : Run} {max : Nat}

/-- **What history tells right after a run is that very run.**  In a world whose runs have names
that were given out and are not of later moments, a call that gives a run has run the stored
document; the run has a new name, and under that name its row is found. -/
theorem recordedRun_of_runWorkflow (hmax : policy.maxRecords = .int max) (hroom : 1 ≤ max)
    (hnamed : w.Named) (horder : Database.Chronological w.database.runs)
    (hlatest : ∀ row ∈ w.database.runs, row.createdAt ≤ now.moment)
    (h : w.runWorkflow policy complete now id input asked = (.ok run, w')) :
    (∃ s mid, w.database.stored id = .ok s ∧
      runDocument policy complete (chosenMode policy asked) id s.document input w =
        (.ok run, mid)) ∧
    (∀ row ∈ w.database.runs, row.run.id ≠ run.id) ∧
    ⟨run, "run-" ++ chosenMode policy asked, now.moment⟩ ∈ w'.database.runs ∧
    w'.database.recordedRun run.id =
      .ok ⟨run, "run-" ++ chosenMode policy asked, now.moment⟩ := by
  generalize hrow : (⟨run, "run-" ++ chosenMode policy asked, now.moment⟩ : RunRow) = row
  cases runWorkflow_outcome h with
  | ended s ran mid w' result hstored hmay hrun hrecord =>
    have hway := underway_of_runDocument hrun
    have hruns : mid.database.runs = w.database.runs := hway.runs
    rw [← hruns] at horder hlatest
    obtain ⟨runs, hresult, hw', hlast, hsub⟩ :=
      (record_of_latest rfl hmax horder hlatest hrecord).resolve_left (by simp)
    obtain rfl : run = ran := Except.ok.inj hresult
    rw [hrow] at hlast hsub
    have hid : row.run.id = run.id := by rw [← hrow]
    have hnew : ∀ other ∈ w.database.runs, other.run.id ≠ run.id := by
      rw [(named_of_runDocument hrun).1]
      exact hnamed.ne_next
    -- the last row is kept, since at least one is
    have hkept : row ∈ runs := by
      obtain ⟨count, rfl⟩ : ∃ count, max = count + 1 := ⟨max - 1, by omega⟩
      rw [List.rtake_concat_succ] at hlast
      exact hlast.subset (List.mem_append_right _ (List.mem_singleton_self row))
    have halone : ∀ other ∈ runs, other.run.id = row.run.id → other = row := by
      intro other hother hname
      rcases List.mem_append.mp (hsub.subset hother) with hearlier | hlast
      · exact absurd (hname.trans hid) (hnew other (hruns ▸ hearlier))
      · exact List.mem_singleton.mp hlast
    have hreadable : mid.database.isBlocked = false :=
      hway.readable (Database.stored_eq_ok_iff.mp hstored).1
    refine ⟨⟨s, mid, hstored, hrun⟩, hnew, ?_⟩
    rw [hw', ← hid]
    exact ⟨hkept, Database.recordedRun_eq_ok hreadable hkept halone⟩

/-- A call for a workflow that is not there, or that has been run as often as it may be, changes
nothing, and no model is asked: it comes to the same whatever the model would answer. -/
theorem runWorkflow_of_refusal {e : ServiceError}
    (h : w.runWorkflow policy complete now id input asked = (.error e, w'))
    (hrefused : (∃ other, e = .unknownWorkflow other) ∨ ∃ limit since, e = .limitReached limit since) :
    w' = w ∧ ∀ complete' : Prompt → Effect τ String,
      w.runWorkflow policy complete' now id input asked = (.error e, w) := by
  cases runWorkflow_outcome h with
  | unread e hstored =>
    exact ⟨rfl, fun complete' => by rw [World.runWorkflow, hstored]⟩
  | exhausted s hstored hmay =>
    exact ⟨rfl, fun complete' => by simp [World.runWorkflow, hstored, hmay]⟩
  | unstarted s e w' hstored hrun =>
    -- a run that cannot begin is refused for another reason, and so is one that is broken off
    obtain ⟨reason, rfl⟩ := runDocument_eq_error hrun
    rcases hrefused with ⟨other, hother⟩ | ⟨limit, since, hother⟩ <;> cases reason <;> cases hother
  | ended s run mid w' result hstored hmay hrun hrecord =>
    -- and so is one that cannot be recorded
    obtain ⟨f, rfl⟩ := record_eq_error hrecord
    rcases hrefused with ⟨other, hother⟩ | ⟨limit, since, hother⟩ <;> cases hother

/-- **A run is recorded, a refused one is not, and a trial never is.**  Whatever was called before
on an empty database, where at least one run is kept and no run in the table is of a later moment:
when a call gives a run, it has run the stored document, the name of the run is new, and under this
name history tells how that very run went and what it was started by and with.  When a call is
refused, because there is no such workflow or it has been run as often as it may be, nothing has
changed and no model was asked.  A trial of a document leaves all tables as they are. -/
theorem recorded_of_calls (policy : RunPolicy) (complete : Prompt → Effect τ String) (model : τ)
    (calls : List ServiceCall) (w : World τ) (hw : behind policy complete model calls = w)
    (max : Nat) (hmax : policy.maxRecords = .int max) (hroom : 1 ≤ max) (now : Stamp)
    (horder : Database.Chronological w.database.runs)
    (hlatest : ∀ row ∈ w.database.runs, row.createdAt ≤ now.moment)
    (id : String) (input : Json) (asked : Option String) :
    (∀ run w', w.runWorkflow policy complete now id input asked = (.ok run, w') →
      (∃ s mid, w.database.stored id = .ok s ∧
        runDocument policy complete (chosenMode policy asked) id s.document input w =
          (.ok run, mid)) ∧
      (chosenMode policy asked = "live" ∨ chosenMode policy asked = "simulate" →
        run.mode = chosenMode policy asked) ∧
      (∃ answer, run.reply = .obj answer ∧ ("run_id", .str run.id) ∈ answer) ∧
      (∀ row ∈ w.database.runs, row.run.id ≠ run.id) ∧
      ∃ row ∈ w'.database.runs, w'.database.recordedRun run.id = .ok row ∧
        ∃ fields, row.detail = .obj fields ∧
          run.ToldIn ("run-" ++ chosenMode policy asked) now.moment fields) ∧
    (∀ e w', w.runWorkflow policy complete now id input asked = (.error e, w') →
      ((∃ other, e = .unknownWorkflow other) ∨ ∃ limit since, e = .limitReached limit since) →
        w' = w ∧ ∀ complete' : Prompt → Effect τ String,
          w.runWorkflow policy complete' now id input asked = (.error e, w)) ∧
    ∀ data, (w.simulate policy complete data input).2.database = w.database := by
  have hnamed : w.Named := hw ▸ named_behind policy complete model calls
  refine ⟨fun run w' h => ?_, fun e w' => runWorkflow_of_refusal, fun data =>
    w.simulate_database policy complete data input⟩
  obtain ⟨⟨s, mid, hstored, hran⟩, hnew, hkept, hfound⟩ :=
    recordedRun_of_runWorkflow hmax hroom hnamed horder hlatest h
  obtain ⟨fields, hdetail, htold⟩ :=
    RunRow.toldIn_detail ⟨run, "run-" ++ chosenMode policy asked, now.moment⟩
  exact ⟨⟨s, mid, hstored, hran⟩, mode_of_runDocument hran, run.id_mem_reply, hnew, _, hkept, hfound,
    fields, hdetail, htold⟩

/-- The world in which two workflows are stored and the first one has been run, where one run of a
workflow is allowed in a month and one run is kept. -/
def ranOnce : World Unit :=
  behind (tight 1) (fun _ => pure "") () (creations ++ [⟨january 2, .run "wf_a" .null none⟩])

/-- Behind these calls the second workflow is run, another run of the first one is refused, and a
trial leaves no trace. -/
theorem recorded_of_calls_ranOnce :
    ranOnce.database.runs.length = 1 ∧
    (∃ run w', ranOnce.runWorkflow (tight 1) (fun _ => pure "") (january 3) "wf_b" (.int 7)
        (some "live") = (.ok run, w') ∧
      run.mode = "live" ∧ (∀ row ∈ ranOnce.database.runs, row.run.id ≠ run.id) ∧
      ∃ row ∈ w'.database.runs, w'.database.recordedRun run.id = .ok row ∧
        ∃ fields, row.detail = .obj fields ∧
          run.ToldIn "run-live" (january 3).moment fields) ∧
    (∃ e, ∀ answer, ranOnce.runWorkflow (tight 1) (fun _ => pure answer) (january 3) "wf_a" .null
      none = (.error e, ranOnce)) ∧
    (ranOnce.simulate (tight 1) (fun _ => pure "") (idle "wf_c").toJson .null).2.database =
      ranOnce.database := by
  have hruns : ranOnce.database.runs.map RunRow.createdAt = [(january 2).moment] := by
    decide +kernel
  obtain ⟨row, hsingle, hmoment⟩ := List.map_eq_singleton_iff.mp hruns
  have horder : Database.Chronological ranOnce.database.runs := by
    rw [hsingle]
    exact List.pairwise_singleton _ _
  have hlatest : ∀ row ∈ ranOnce.database.runs, row.createdAt ≤ (january 3).moment := by
    intro other hother
    rw [hsingle, List.mem_singleton] at hother
    rw [hother, hmoment]
    decide
  refine ⟨by rw [hsingle, List.length_singleton], ?_, ?_, ?_⟩
  · obtain ⟨hran, -, -⟩ := recorded_of_calls (tight 1) (fun _ => pure "") () _ ranOnce rfl 1 rfl
      (by decide) (january 3) horder hlatest "wf_b" (.int 7) (some "live")
    have hgranted : (ranOnce.runWorkflow (tight 1) (fun _ => pure "") (january 3) "wf_b" (.int 7)
        (some "live")).1.isOk = true := by
      decide +kernel
    rcases hrun : ranOnce.runWorkflow (tight 1) (fun _ => pure "") (january 3) "wf_b" (.int 7)
      (some "live") with ⟨e | run, w'⟩
    · rw [hrun] at hgranted
      exact absurd hgranted (by simp [Except.isOk, Except.toBool])
    · obtain ⟨-, hmode, -, hnew, htold⟩ := hran run w' hrun
      exact ⟨run, w', rfl, hmode (.inl rfl), hnew, htold⟩
  · obtain ⟨-, hrefused, -⟩ := recorded_of_calls (tight 1) (fun _ => pure "") () _ ranOnce rfl 1
      rfl (by decide) (january 3) horder hlatest "wf_a" .null none
    have hlimit : mayRun ranOnce.database (tight 1) "wf_a" (january 3).moment = false := by
      decide +kernel
    have hread : (ranOnce.database.stored "wf_a").isOk = true := by
      decide +kernel
    cases hstored : ranOnce.database.stored "wf_a" with
    | error e =>
      rw [hstored] at hread
      exact absurd hread (by simp [Except.isOk, Except.toBool])
    | ok s =>
      have hcall : ranOnce.runWorkflow (tight 1) (fun _ => pure "") (january 3) "wf_a" .null none =
          (.error (.limitReached 1 (january 3).monthStart), ranOnce) := by
        simp only [runWorkflow, hstored, hlimit, Bool.false_eq_true, ↓reduceIte]
        rfl
      exact ⟨_, fun answer => (hrefused _ _ hcall (.inr ⟨_, _, rfl⟩)).2 fun _ => pure answer⟩
  · obtain ⟨-, -, htrial⟩ := recorded_of_calls (tight 1) (fun _ => pure "") () _ ranOnce rfl 1 rfl
      (by decide) (january 3) horder hlatest "wf_c" .null none
    exact htrial _

end World
end Flowgraph
