import Flowgraph.Proofs.Footprint
import Flowgraph.Proofs.Retention
import Flowgraph.Service.Runs
import Mathlib.Tactic.SplitIfs

/-!
# The monthly limit

Whether a workflow may be run once more is told by the runs of it that are in the table, and the
table gives up its earliest runs, of whatever workflow they are, when there are too many.  So the
limit holds as long as the table has room for all runs that the limit allows in one month, to all
the workflows that are called; with less room it does not.

## Main definitions

* `RunCall`, `World.granted` — calls, and those of them that give a run.
* `Database.Keyed` — the documents of the stored workflows carry the names of their rows.
* `Database.Remembers` — the table still holds the last of the runs that were ever made.
* `World.RunOutcome` — what a call for a run comes to.

## Main results

* `World.runWorkflow_cases` — what one call can do.
* `Database.Remembers.countIn_le_countRuns` — the runs of a month are all in the table while there
  is room.
* `World.granted_le_monthlyLimit` — **with room enough, no workflow is run more often in a month
  than it may be.**
* `World.granted_exceeds` — with less room, one is.
-/

namespace List

variable {α β : Type}

/-- What stays true from some place of a list on holds of a last part of it. -/
theorem filter_suffix {p : α → Bool} : ∀ {l : List α},
    l.Pairwise (fun a b => p a = true → p b = true) → l.filter p <:+ l := by
  intro l
  induction l with
  | nil => exact fun _ => suffix_rfl
  | cons a l ih =>
    intro h
    rw [pairwise_cons] at h
    cases ha : p a with
    | false =>
      rw [filter_cons_of_neg (by simp [ha])]
      exact (ih h.2).trans (suffix_cons a l)
    | true =>
      -- from here on nothing is filtered out
      rw [filter_cons_of_pos ha, filter_eq_self.mpr fun b hb => h.1 b hb ha]

/-- A list has at most so many members of each key times the number of keys. -/
theorem length_le_mul_of_countP_le [DecidableEq β] (key : α → β) (bound : Nat) :
    ∀ (keys : List β) (l : List α), (∀ a ∈ l, key a ∈ keys) →
      (∀ b, l.countP (fun a => key a == b) ≤ bound) → l.length ≤ bound * keys.length := by
  intro keys
  induction keys with
  | nil =>
    intro l hkeys _
    rw [eq_nil_iff_forall_not_mem.mpr fun a ha => not_mem_nil (hkeys a ha)]
    exact Nat.zero_le _
  | cons b keys ih =>
    intro l hkeys hcount
    -- the members with another key than the first one are counted by the other keys
    have hrest := ih (l.filter fun a => !(key a == b))
      (fun a ha => by
        obtain ⟨ha, hne⟩ := mem_filter.mp ha
        exact (mem_cons.mp (hkeys a ha)).resolve_left (by simpa using hne))
      (fun c => Nat.le_trans (filter_sublist.countP_le) (hcount c))
    have hsplit := length_eq_countP_add_countP (fun a => key a == b) (l := l)
    rw [← countP_eq_length_filter] at hrest
    have hb := hcount b
    rw [length_cons, Nat.mul_succ]
    simp only [Bool.not_eq_true, Bool.decide_eq_false] at hsplit
    omega

theorem length_rtake_le (l : List α) (n : Nat) : (l.rtake n).length ≤ n := by
  rw [rtake, length_drop]
  omega

/-- A last part of a list that is short enough is among its last members. -/
theorem suffix_rtake {l₁ l₂ : List α} {n : Nat} (h : l₁ <:+ l₂) (hlength : l₁.length ≤ n) :
    l₁ <:+ l₂.rtake n := by
  refine suffix_of_suffix_length_le h (drop_suffix _ _) ?_
  have hle := h.length_le
  rw [rtake, length_drop]
  omega

/-- The last members of a longer list are among those before and the new one. -/
theorem rtake_concat_suffix (l : List α) (a : α) (n : Nat) :
    (l ++ [a]).rtake n <:+ l.rtake n ++ [a] := by
  refine suffix_of_suffix_length_le (drop_suffix _ _)
    (suffix_append_self_iff.mpr (drop_suffix (l.length - n) l)) ?_
  rw [rtake, rtake, length_drop, length_append, length_append, length_drop, length_singleton]
  omega

end List

namespace Flowgraph

/-! ### Stored workflows -/

/-- The document of a row carries the name of the row. -/
def WorkflowRow.Keyed (row : WorkflowRow) : Prop :=
  ∀ d, row.document = .ok d → d.workflow.id = row.id

namespace Database

variable {db : Database}

/-- The documents of the stored workflows carry the names of their rows, also those that a change
that is taken back leaves behind. -/
structure Keyed (db : Database) : Prop where
  /-- The rows of the present table do. -/
  workflows : ∀ row ∈ db.workflows, row.Keyed
  /-- So do those that were there before changes that are not lasting. -/
  lasting : ∀ rows ∈ db.lasting, ∀ row ∈ rows, row.Keyed

theorem Keyed.keepChanges (h : db.Keyed) : db.keepChanges.Keyed :=
  ⟨h.workflows, fun _ hmem => absurd hmem (Option.not_mem_none _)⟩

theorem Keyed.recover (h : db.Keyed) : db.recover.Keyed := by
  refine ⟨?_, fun _ hmem => absurd hmem (Option.not_mem_none _)⟩
  cases hlasting : db.lasting with
  | none => simpa [Database.recover, takeBack, hlasting] using h.workflows
  | some rows => simpa [Database.recover, takeBack, hlasting] using h.lasting rows hlasting

theorem Keyed.block (h : db.Keyed) : db.block.Keyed :=
  ⟨h.recover.workflows, h.recover.lasting⟩

theorem workflow?_eq_some {id : String} {row : WorkflowRow} (h : db.workflow? id = some row) :
    row ∈ db.workflows ∧ row.id = id :=
  ⟨List.mem_of_find?_eq_some h, by simpa using List.find?_some h⟩

theorem reachWorkflow?_eq_ok {id : String} {row? : Option WorkflowRow} :
    db.reachWorkflow? id = .ok row? ↔ db.isBlocked = false ∧ db.workflow? id = row? := by
  unfold reachWorkflow? reach
  cases db.isBlocked <;> simp [bind, Except.bind, pure, Except.pure]

/-- What is read under a name is the document of the row of that name, and nothing is read while a
change has failed. -/
theorem stored_eq_ok_iff {id : String} {s : StoredWorkflow} : db.stored id = .ok s ↔
    db.isBlocked = false ∧ db.workflow? id = some s.row ∧ s.row.document = .ok s.document := by
  constructor
  · intro h
    cases hreach : db.reachWorkflow? id with
    | error e => simp [stored, hreach, bind, Except.bind] at h
    | ok row? =>
      obtain ⟨hopen, hrow⟩ := reachWorkflow?_eq_ok.mp hreach
      cases row? with
      | none => simp [stored, hreach, bind, Except.bind] at h
      | some row =>
        cases hdocument : row.document with
        | error errors =>
          simp [stored, hreach, bind, Except.bind, StoredWorkflow.ofRow, hdocument] at h
        | ok document =>
          obtain rfl : ⟨row, document⟩ = s := by
            simpa [stored, hreach, bind, Except.bind, StoredWorkflow.ofRow, hdocument] using h
          exact ⟨hopen, hrow, hdocument⟩
  · rintro ⟨hopen, hrow, hdocument⟩
    have hreach := reachWorkflow?_eq_ok.mpr ⟨hopen, hrow⟩
    simp [stored, hreach, bind, Except.bind, StoredWorkflow.ofRow, hdocument]

/-- A stored workflow carries the name that it is found by. -/
theorem Keyed.id_of_stored (h : db.Keyed) {id : String} {s : StoredWorkflow}
    (hs : db.stored id = .ok s) : s.document.workflow.id = id := by
  obtain ⟨-, hfound, hdocument⟩ := stored_eq_ok_iff.mp hs
  obtain ⟨hrow, hid⟩ := workflow?_eq_some hfound
  rw [h.workflows _ hrow _ hdocument, hid]

/-- Storing a record touches none but the tables of records. -/
theorem addRecord_frame {db' : Database} {table id : String} {values : Fields}
    (h : db.addRecord table id values = .ok db') :
    ∃ items exports, db' = { db with items := items, exports := exports } := by
  unfold addRecord at h
  split_ifs at h with hmoment htable
  · cases hitem : Record.item id values <;> rw [hitem] at h <;> cases h
    exact ⟨_, db.exports, rfl⟩
  · cases hfile : Record.file id values <;> rw [hfile] at h <;> cases h
    exact ⟨db.items, _, rfl⟩

/-- What storing a record leaves: the same database, the one before changes that are taken back, or
one with a record more. -/
theorem insertRecord_cases (db : Database) (table id : String) (values : Fields) :
    (db.insertRecord table id values).2 = db ∨
      (db.insertRecord table id values).2 = db.recover ∨
      ∃ db', db.addRecord table id values = .ok db' ∧
        (db.insertRecord table id values).2 = db'.keepChanges := by
  unfold insertRecord
  cases Record.modelOf? table with
  | none => exact .inl rfl
  | some model =>
    simp only []
    split_ifs
    · exact .inl rfl
    · exact .inl rfl
    · exact .inr (.inl rfl)
    · cases db.addRecord table id values with
      | ok db' => exact .inr (.inr ⟨db', rfl, rfl⟩)
      | error e => exact .inr (.inl rfl)

/-- Storing a record touches no run and no workflow, but for a change that is taken back. -/
theorem insertRecord_frame (db : Database) (table id : String) (values : Fields) :
    (db.insertRecord table id values).2.runs = db.runs ∧
      (db.Keyed → (db.insertRecord table id values).2.Keyed) := by
  rcases db.insertRecord_cases table id values with h | h | ⟨db', hadded, h⟩ <;> rw [h]
  · exact ⟨rfl, fun h => h⟩
  · exact ⟨rfl, Keyed.recover⟩
  · obtain ⟨items, exports, rfl⟩ := addRecord_frame hadded
    exact ⟨rfl, fun h => Keyed.keepChanges ⟨h.workflows, h.lasting⟩⟩

end Database

/-! ### Calls -/

namespace World

variable {τ : Type} {policy : RunPolicy} {complete : Prompt → Effect τ String} {w w' : World τ}

/-- The runs of a world are these, and its workflows are found by the names that they carry. -/
def Holds (runs : List RunRow) (w : World τ) : Prop :=
  w.database.runs = runs ∧ w.database.Keyed

section Keeping

variable {P : World τ → Prop} (hmodel : ∀ w model, P w → P { w with model := model })
  (hinsert : ∀ w table values, P w → P (insertRecord table values w).2)

include hmodel in
theorem complete_keeps (policy : RunPolicy) (complete : Prompt → Effect τ String)
    (prompt : Prompt) :
    ((collaborators policy complete).complete prompt).Keeps P := by
  intro w hw
  unfold collaborators
  rcases hrun : complete prompt w.model with ⟨fault | answer, model⟩ <;> simp only [hrun] <;>
    exact hmodel w model hw

include hinsert in
theorem insert_keeps (policy : RunPolicy) (complete : Prompt → Effect τ String) (table : String)
    (values : Fields) :
    ((collaborators policy complete).insert table values).Keeps P := by
  intro w hw
  have hinserted := hinsert w table values hw
  unfold collaborators
  rcases hrun : insertRecord table values w with ⟨e | id, w'⟩ <;> rw [hrun] at hinserted <;>
    simp only [hrun] <;> exact hinserted

include hmodel hinsert

/-- A node does to the world what an answer of the model and storing a record do, in whatever mode
it acts. -/
theorem execute_keeps (policy : RunPolicy) (complete : Prompt → Effect τ String)
    (mode id : String) (node : Node) (context : Fields) :
    (node.execute NodeType.all (backend policy complete mode id) context).Keeps P := by
  unfold backend
  split
  · exact node.execute_keeps _ (Backend.askingKeeps_live (complete_keeps hmodel policy complete) id)
      (fun _ => Backend.insert_keeps_live (insert_keeps hinsert policy complete) id) context
  · exact node.execute_keeps _ Backend.askingKeeps_simulated
      (fun _ => Backend.insert_keeps_simulated) context

/-- So does a run that is not yet recorded, from the name that it is given on. -/
theorem runDocument_keeps {mode id : String} {d : Document} {input : Json}
    {result : Except ServiceError Run} (hw : P w.issue.2)
    (h : runDocument policy complete mode id d input w = (result, w')) : P w' := by
  rw [← (Prod.mk.inj h).2]
  exact d.workflow.run_keeps (execute_keeps hmodel hinsert policy complete mode id)
    (fun _ => Effect.keeps_pure ()) hw

end Keeping

section KeepingDatabase

variable {P : Database → Prop}
  (hP : ∀ db table id values, P db → P (db.insertRecord table id values).2)

include hP

theorem insertRecord_keeps_database (hw : P w.database) (table : String) (values : Fields) :
    P (insertRecord table values w).2.database := by
  unfold insertRecord
  split
  rename_i id w' hissued
  -- issuing an id leaves the database alone
  have hsame : w'.database = w.database := by
    split_ifs at hissued <;> rw [← (Prod.mk.inj hissued).2]
  have hkept := hP _ table id values (hsame ▸ hw)
  split
  rename_i result db hinserted
  rw [hinserted] at hkept
  exact hkept

/-- A run that is not yet recorded does to the database what storing a record does. -/
theorem runDocument_keeps_database {mode id : String} {d : Document} {input : Json}
    {result : Except ServiceError Run} (hw : P w.database)
    (h : runDocument policy complete mode id d input w = (result, w')) : P w'.database :=
  runDocument_keeps (P := fun w => P w.database) (fun _ _ hw => hw)
    (fun _ table values hw => insertRecord_keeps_database hP hw table values) hw h

end KeepingDatabase

variable {max : Nat} {now : Stamp} {mode id : String} {d : Document}
  {input : Json} {asked : Option String} {runs : List RunRow} {run : Run} {moment : Moment}
  {result : Except ServiceError Run}

/-- A run that is not yet recorded leaves the table of runs as it is. -/
theorem runDocument_holds (hw : w.Holds runs)
    (h : runDocument policy complete mode id d input w = (result, w')) : w'.Holds runs := by
  refine runDocument_keeps_database (P := fun db => db.runs = runs ∧ db.Keyed) ?_ hw h
  intro db table id values hdb
  obtain ⟨hruns, hkeyed⟩ := db.insertRecord_frame table id values
  exact ⟨hruns.trans hdb.1, hkeyed hdb.2⟩

/-- A run that ends is one of the document, under a new name and with the effects of its mode. -/
theorem named_of_runDocument (h : runDocument policy complete mode id d input w = (.ok run, w')) :
    run.id = RowId.write (w.issued + 1) ∧ run.workflowId = d.workflow.id ∧
      run.mode = (backend policy complete mode id).mode := by
  have hmapped : (d.workflow.run NodeType.all (backend policy complete mode id) Listener.silent
      (Json.isWithin policy.copyLevels) w.issue.1 input w.issue.2).1.mapError runFailure =
        .ok run := (Prod.mk.inj h).1
  cases hrun : (d.workflow.run NodeType.all (backend policy complete mode id) Listener.silent
      (Json.isWithin policy.copyLevels) w.issue.1 input w.issue.2).1 with
  | error e => rw [hrun] at hmapped; cases hmapped
  | ok r =>
    rw [hrun] at hmapped
    obtain rfl : r = run := Except.ok.inj hmapped
    obtain ⟨order, given, -, -, rfl⟩ := Workflow.run_eq_ok hrun
    exact ⟨rfl, rfl, rfl⟩

/-- A run that does not end could not begin or is broken off. -/
theorem runDocument_eq_error {e : ServiceError}
    (h : runDocument policy complete mode id d input w = (.error e, w')) :
    ∃ reason, e = runFailure reason := by
  have hmapped : (d.workflow.run NodeType.all (backend policy complete mode id) Listener.silent
      (Json.isWithin policy.copyLevels) w.issue.1 input w.issue.2).1.mapError runFailure =
        .error e := (Prod.mk.inj h).1
  cases hrun : (d.workflow.run NodeType.all (backend policy complete mode id) Listener.silent
      (Json.isWithin policy.copyLevels) w.issue.1 input w.issue.2).1 with
  | error reason =>
    rw [hrun] at hmapped
    exact ⟨reason, (Except.error.inj hmapped).symm⟩
  | ok r => rw [hrun] at hmapped; cases hmapped

/-- A record is at fault, or the run is recorded; and the database is blocked, or the run is put into
its table. -/
theorem record_cases (h : record policy mode moment run w = (result, w')) :
    (result = .ok run ∨ ∃ f, result = .error (.fault f)) ∧
      (w' = w.withDatabase w.database.block ∨ w' = w.withDatabase
        (w.database.recordRun policy.maxRecords ⟨run, "run-" ++ mode, moment⟩).2) := by
  unfold record at h
  cases hwritable : isWritable run with
  | false =>
    obtain ⟨rfl, rfl⟩ : .error _ = result ∧ _ = w' := by simpa [hwritable] using h
    exact ⟨.inr ⟨_, rfl⟩, .inl rfl⟩
  | true =>
    simp only [hwritable, if_true] at h
    obtain ⟨rfl, rfl⟩ := Prod.mk.inj h
    refine ⟨?_, .inr rfl⟩
    cases (w.database.recordRun policy.maxRecords ⟨run, "run-" ++ mode, moment⟩).1 with
    | ok _ => exact .inl rfl
    | error raw => exact .inr ⟨_, rfl⟩

theorem record_eq_error {e : ServiceError}
    (h : record policy mode moment run w = (.error e, w')) : ∃ f, e = .fault f := by
  obtain ⟨hdone | ⟨f, hf⟩, -⟩ := record_cases h
  · cases hdone
  · exact ⟨f, Except.error.inj hf⟩

/-- A run that is not earlier than those in the table is recorded behind them, if it can be
written. -/
theorem record_of_latest {row : RunRow} (hrow : row = ⟨run, "run-" ++ mode, moment⟩)
    (hmax : policy.maxRecords = .int max) (horder : Database.Chronological w.database.runs)
    (hlatest : ∀ earlier ∈ w.database.runs, earlier.createdAt ≤ moment)
    (h : record policy mode moment run w = (result, w')) :
    (∃ e, result = .error e ∧ w' = w.withDatabase w.database.block) ∨
    ∃ runs, result = .ok run ∧
      w' = w.withDatabase { w.database.keepChanges with runs := runs } ∧
      (w.database.runs ++ [row]).rtake max <:+ runs ∧
      runs.Sublist (w.database.runs ++ [row]) := by
  subst hrow
  have horder' : Database.Chronological
      (w.database.runs ++ [(⟨run, "run-" ++ mode, moment⟩ : RunRow)]) := horder.snoc hlatest
  obtain ⟨runs, hrecorded, hlast, hsub⟩ := Database.recordRun_eq_ok horder' max
  unfold record at h
  cases hwritable : isWritable run with
  | false =>
    obtain ⟨rfl, rfl⟩ : .error _ = result ∧ _ = w' := by simpa [hwritable] using h
    exact .inl ⟨_, rfl, rfl⟩
  | true =>
    rw [if_pos hwritable, hmax, hrecorded] at h
    obtain ⟨rfl, rfl⟩ := Prod.mk.inj h
    exact .inr ⟨runs, rfl, rfl, hlast, hsub⟩

/-- What a call for a run comes to. -/
inductive RunOutcome (policy : RunPolicy) (complete : Prompt → Effect τ String) (now : Stamp)
    (id : String) (input : Json) (asked : Option String) (w : World τ) :
    Except ServiceError Run → World τ → Prop where
  /-- Nothing is read under the name. -/
  | unread (e : ServiceError) (hstored : w.database.stored id = .error e) :
      RunOutcome policy complete now id input asked w (.error e) w
  /-- The workflow has been run as often as it may be. -/
  | exhausted (s : StoredWorkflow) (hstored : w.database.stored id = .ok s)
      (hmay : mayRun w.database policy id now.moment = false) :
      RunOutcome policy complete now id input asked w
        (.error (.limitReached policy.monthlyLimit now.monthStart)) w
  /-- The run cannot begin, or is broken off. -/
  | unstarted (s : StoredWorkflow) (e : ServiceError) (w' : World τ)
      (hstored : w.database.stored id = .ok s)
      (hrun : runDocument policy complete (chosenMode policy asked) id s.document input w =
        (.error e, w')) :
      RunOutcome policy complete now id input asked w (.error e) w'
  /-- The run has ended and is to be recorded. -/
  | ended (s : StoredWorkflow) (run : Run) (mid w' : World τ) (result : Except ServiceError Run)
      (hstored : w.database.stored id = .ok s)
      (hmay : mayRun w.database policy id now.moment = true)
      (hrun : runDocument policy complete (chosenMode policy asked) id s.document input w =
        (.ok run, mid))
      (hrecord : record policy (chosenMode policy asked) now.moment run mid = (result, w')) :
      RunOutcome policy complete now id input asked w result w'

theorem runWorkflow_outcome
    (h : w.runWorkflow policy complete now id input asked = (result, w')) :
    RunOutcome policy complete now id input asked w result w' := by
  unfold runWorkflow at h
  cases hstored : w.database.stored id with
  | error e =>
    obtain ⟨rfl, rfl⟩ : .error e = result ∧ w = w' := by simpa [hstored] using h
    exact .unread e hstored
  | ok s =>
    cases hmay : mayRun w.database policy id now.moment with
    | false =>
      obtain ⟨rfl, rfl⟩ : .error _ = result ∧ w = w' := by simpa [hstored, hmay] using h
      exact .exhausted s hstored hmay
    | true =>
      rcases hrun : runDocument policy complete (chosenMode policy asked) id s.document input w with
        ⟨e | run, mid⟩
      · obtain ⟨rfl, rfl⟩ : .error e = result ∧ mid = w' := by
          simpa [hstored, hmay, hrun] using h
        exact .unstarted s e mid hstored hrun
      · exact .ended s run mid w' result hstored hmay hrun
          (by simpa [hstored, hmay, hrun] using h)

/-- **What one call can do.**  It gives no run and leaves the table of runs as it is, or the
workflow may be run once more and a run of it is recorded under the present moment. -/
theorem runWorkflow_cases (hmax : policy.maxRecords = .int max) (hw : w.Holds runs)
    (horder : Database.Chronological runs) (hlatest : ∀ row ∈ runs, row.createdAt ≤ now.moment)
    (h : w.runWorkflow policy complete now id input asked = (result, w')) :
    (∃ e, result = .error e ∧ w'.Holds runs) ∨
      ∃ run row runs', result = .ok run ∧ mayRun w.database policy id now.moment = true ∧
        row.run.workflowId = id ∧ row.createdAt = now.moment ∧ w'.Holds runs' ∧
        (runs ++ [row]).rtake max <:+ runs' ∧ runs'.Sublist (runs ++ [row]) := by
  cases runWorkflow_outcome h with
  | unread e => exact .inl ⟨e, rfl, hw⟩
  | exhausted => exact .inl ⟨_, rfl, hw⟩
  | unstarted s e w' hstored hrun => exact .inl ⟨e, rfl, runDocument_holds hw hrun⟩
  | ended s run mid w' result hstored hmay hrun hrecord =>
    obtain ⟨hruns, hkeyed⟩ := runDocument_holds hw hrun
    subst hruns
    rcases record_of_latest rfl hmax horder hlatest hrecord with
      ⟨e, rfl, rfl⟩ | ⟨runs', hresult, rfl, hlast, hsub⟩
    · exact .inl ⟨e, rfl, rfl, hkeyed.block⟩
    have hid : run.workflowId = id := by
      rw [(named_of_runDocument hrun).2.1, hw.2.id_of_stored hstored]
    have hkeyed' := hkeyed.keepChanges
    exact .inr ⟨run, _, runs', hresult, hmay, hid, rfl,
      ⟨rfl, hkeyed'.workflows, hkeyed'.lasting⟩, hlast, hsub⟩

end World

/-! ### The runs of a month -/

/-- How many of some runs are of a workflow and of a month. -/
def RunRow.countIn (rows : List RunRow) (id : String) (month : Nat) : Nat :=
  rows.countP fun row => row.run.workflowId == id && row.createdAt.month == month

theorem RunRow.countIn_concat (rows : List RunRow) (row : RunRow) (id : String) (month : Nat) :
    countIn (rows ++ [row]) id month = countIn rows id month +
      if row.run.workflowId == id && row.createdAt.month == month then 1 else 0 := by
  rw [countIn, List.countP_append, List.countP_singleton, countIn]

namespace Database

variable {max limit : Nat} {made runs : List RunRow} {ids : List String} {row : RunRow}
  {now : Moment} {id : String}

/-- A table of runs still holds the last of the runs that were ever made.  These are of known
workflows, and none has been run more often in a month than it may be. -/
structure Remembers (max limit : Nat) (ids : List String) (made runs : List RunRow) : Prop where
  /-- The last runs that were made are in the table. -/
  last : made.rtake max <:+ runs
  /-- There are no other runs in the table than those that were made. -/
  sublist : runs.Sublist made
  /-- The runs were made in the order of time. -/
  order : Chronological made
  /-- The workflows are known. -/
  known : ∀ row ∈ made, row.run.workflowId ∈ ids
  /-- No workflow has been run too often. -/
  within : ∀ id month, RunRow.countIn made id month ≤ limit

theorem remembers_nil : Remembers max limit ids [] [] where
  last := by rw [List.rtake_nil]
  sublist := .slnil
  order := .nil
  known _ hrow := absurd hrow List.not_mem_nil
  within _ _ := Nat.zero_le _

namespace Remembers

/-- The runs of the present month are the last ones that were made. -/
theorem month_suffix (h : Remembers max limit ids made runs)
    (hlatest : ∀ row ∈ made, row.createdAt ≤ now) :
    made.filter (fun row => row.createdAt.month == now.month) <:+ made := by
  refine List.filter_suffix (h.order.imp_of_mem fun {a b} _ hb hab ha => ?_)
  have hnow := hlatest b hb
  rw [Moment.le_def] at hab hnow
  rw [beq_iff_eq] at ha ⊢
  omega

/-- There are not more runs of a month than the limit allows to all workflows. -/
theorem length_month_le (h : Remembers max limit ids made runs) (month : Nat) :
    (made.filter fun row => row.createdAt.month == month).length ≤ limit * ids.length := by
  refine List.length_le_mul_of_countP_le (fun row => row.run.workflowId) limit ids _
    (fun row hrow => h.known row (List.mem_of_mem_filter hrow)) fun id => ?_
  rw [List.countP_filter]
  exact h.within id month

/-- **The runs of the present month are all in the table** while there is room for those that the
limit allows to all workflows. -/
theorem countIn_le_countRuns {db : Database} (h : Remembers max limit ids made db.runs)
    (hlatest : ∀ row ∈ made, row.createdAt ≤ now) (hroom : limit * ids.length ≤ max) (id : String) :
    RunRow.countIn made id now.month ≤ db.countRuns id now.monthStart := by
  have hlast : made.filter (fun row => row.createdAt.month == now.month) <:+ made.rtake max :=
    List.suffix_rtake (h.month_suffix hlatest) ((h.length_month_le now.month).trans hroom)
  calc RunRow.countIn made id now.month
      = (made.filter fun row => row.createdAt.month == now.month).countP
          fun row => row.run.workflowId == id := List.countP_filter.symm
    _ ≤ (made.filter fun row => row.createdAt.month == now.month).countP fun row =>
          row.run.workflowId == id && decide (now.monthStart ≤ row.createdAt) := by
        refine Nat.le_of_eq (List.countP_congr fun row hrow => ?_)
        have hmonth : row.createdAt.month = now.month := by simpa using (List.mem_filter.mp hrow).2
        have hstart : now.monthStart ≤ row.createdAt := by
          rw [Moment.le_def]
          exact .inr ⟨hmonth.symm, Nat.zero_le _⟩
        simp [hstart]
    _ ≤ db.countRuns id now.monthStart := (hlast.trans h.last).sublist.countP_le

/-- The table remembers one more run, if that may be made. -/
theorem snoc {runs' : List RunRow} (h : Remembers max limit ids made runs)
    (hlatest : ∀ earlier ∈ made, earlier.createdAt ≤ row.createdAt)
    (hknown : row.run.workflowId ∈ ids)
    (hmay : RunRow.countIn made row.run.workflowId row.createdAt.month < limit)
    (hlast : (runs ++ [row]).rtake max <:+ runs') (hsub : runs'.Sublist (runs ++ [row])) :
    Remembers max limit ids (made ++ [row]) runs' := by
  refine ⟨?_, hsub.trans (h.sublist.append_right [row]), h.order.snoc hlatest, ?_, ?_⟩
  · have hbefore := (List.rtake_concat_suffix made row max).trans
      (List.suffix_append_self_iff.mpr h.last)
    exact (List.suffix_rtake hbefore (List.length_rtake_le _ max)).trans hlast
  · intro other hother
    rcases List.mem_append.mp hother with hother | hother
    · exact h.known other hother
    · rw [List.mem_singleton.mp hother]
      exact hknown
  · intro id month
    have hwithin := h.within id month
    rw [RunRow.countIn_concat]
    split
    · rename_i hrow
      obtain ⟨rfl, rfl⟩ : row.run.workflowId = id ∧ row.createdAt.month = month := by
        simpa using hrow
      omega
    · omega

end Remembers
end Database

/-! ### Calls in a row -/

/-- A call that asks for a run of a stored workflow. -/
structure RunCall where
  /-- The present moment. -/
  now : Stamp
  /-- The name of the workflow. -/
  id : String
  /-- The input. -/
  input : Json
  /-- The mode that is asked for. -/
  asked : Option String

/-- How many of some calls are for a workflow and in a month. -/
def RunCall.countIn (calls : List RunCall) (id : String) (month : Nat) : Nat :=
  calls.countP fun call => call.id == id && call.now.moment.month == month

theorem RunCall.countIn_cons (call : RunCall) (calls : List RunCall) (id : String) (month : Nat) :
    countIn (call :: calls) id month = countIn calls id month +
      if call.id == id && call.now.moment.month == month then 1 else 0 := by
  rw [countIn, List.countP_cons, countIn]

namespace World

variable {τ : Type}

/-- Those of some calls, made one after another, that give a run. -/
def granted (policy : RunPolicy) (complete : Prompt → Effect τ String) :
    List RunCall → World τ → List RunCall
  | [], _ => []
  | call :: rest, w =>
    match w.runWorkflow policy complete call.now call.id call.input call.asked with
    | (.ok _, w') => call :: granted policy complete rest w'
    | (.error _, w') => granted policy complete rest w'

variable {policy : RunPolicy} {max : Nat} {ids : List String}

/-- Together with the runs that were made before, the calls that give a run are not too many. -/
theorem countIn_add_granted_le (complete : Prompt → Effect τ String)
    (hmax : policy.maxRecords = .int max)
    (hroom : policy.monthlyLimit.toNat * ids.length ≤ max) (id : String) (month : Nat) :
    ∀ (calls : List RunCall) (made runs : List RunRow) (w : World τ), w.Holds runs →
      Database.Remembers max policy.monthlyLimit.toNat ids made runs →
      (∀ call ∈ calls, call.id ∈ ids ∧ ∀ row ∈ made, row.createdAt ≤ call.now.moment) →
      calls.Pairwise (fun a b => a.now.moment ≤ b.now.moment) →
      RunRow.countIn made id month + RunCall.countIn (w.granted policy complete calls) id month ≤
        policy.monthlyLimit.toNat := by
  -- by induction on the calls: a run that is granted joins those that were made before
  intro calls
  induction calls with
  | nil => exact fun made runs w _ hremembers _ _ => hremembers.within id month
  | cons call calls ih =>
    intro made runs w hw hremembers hcalls hclock
    rw [List.pairwise_cons] at hclock
    obtain ⟨hknown, hlatest⟩ := hcalls call List.mem_cons_self
    have hothers : ∀ other ∈ calls, other.id ∈ ids ∧
        ∀ row ∈ made, row.createdAt ≤ other.now.moment :=
      fun other hother => hcalls other (List.mem_cons_of_mem call hother)
    rcases hrun : w.runWorkflow policy complete call.now call.id call.input call.asked with
      ⟨result, w'⟩
    rw [granted, hrun]
    rcases runWorkflow_cases hmax hw (hremembers.order.sublist hremembers.sublist)
        (fun row hrow => hlatest row (hremembers.sublist.subset hrow)) hrun with
      ⟨e, rfl, hw'⟩ | ⟨run, row, runs', rfl, hmay, hid, hmoment, hw', hlast, hsub⟩
    · exact ih made runs w' hw' hremembers hothers hclock.2
    · -- the table tells of all runs of the month, so that one more is not too many
      have hcount : RunRow.countIn made call.id call.now.moment.month <
          policy.monthlyLimit.toNat := by
        rw [← hw.1] at hremembers
        have hall := hremembers.countIn_le_countRuns hlatest hroom call.id
        have hfew := of_decide_eq_true hmay
        omega
      have hremembers' :
          Database.Remembers max policy.monthlyLimit.toNat ids (made ++ [row]) runs' :=
        hremembers.snoc (fun earlier hearlier => hmoment ▸ hlatest earlier hearlier) (hid ▸ hknown)
          (by rw [hid, hmoment]; exact hcount) hlast hsub
      have hothers' : ∀ other ∈ calls, other.id ∈ ids ∧
          ∀ earlier ∈ made ++ [row], earlier.createdAt ≤ other.now.moment := by
        refine fun other hother => ⟨(hothers other hother).1, fun earlier hearlier => ?_⟩
        rcases List.mem_append.mp hearlier with hearlier | hearlier
        · exact (hothers other hother).2 earlier hearlier
        · rw [List.mem_singleton.mp hearlier, hmoment]
          exact hclock.1 other hother
      have hrest := ih (made ++ [row]) runs' w' hw' hremembers' hothers' hclock.2
      rw [RunRow.countIn_concat, hid, hmoment] at hrest
      rw [RunCall.countIn_cons]
      omega

/-- **With room enough, no workflow is run more often in a month than it may be.**  In whatever
order workflows are called, with whatever input and in whatever mode, by a clock that does not go
back: as long as the table of runs has room for all runs that the limit allows to those workflows
in a month, the calls for one workflow in one month that give a run are not more than the limit. -/
theorem granted_le_monthlyLimit (policy : RunPolicy) (complete : Prompt → Effect τ String)
    (max : Nat) (hmax : policy.maxRecords = .int max) (w : World τ) (hruns : w.database.runs = [])
    (hkeyed : w.database.Keyed) (calls : List RunCall)
    (hclock : calls.Pairwise fun a b => a.now.moment ≤ b.now.moment)
    (hroom : policy.monthlyLimit.toNat * (calls.map RunCall.id).dedup.length ≤ max)
    (id : String) (month : Nat) :
    RunCall.countIn (w.granted policy complete calls) id month ≤ policy.monthlyLimit.toNat := by
  have hnone : RunRow.countIn [] id month = 0 := rfl
  -- at first no runs are made, and the table is empty
  have hall := countIn_add_granted_le complete hmax hroom id month calls [] [] w ⟨hruns, hkeyed⟩
    Database.remembers_nil
    (fun call hcall => ⟨List.mem_dedup.mpr (List.mem_map_of_mem hcall),
      fun row hrow => absurd hrow List.not_mem_nil⟩) hclock
  omega

/-! ### A table with too little room -/

/-- The document of a workflow in which nothing is done. -/
def idle (id : String) : Document where
  workflow := {
    id := id
    name := id
    description := "Does nothing."
    tags := []
    entryNodeId := "start"
    freeData := []
    nodes := [NodeType.manual.fresh "start" ⟨.whole 0, .whole 0⟩]
    edges := [] }

/-- The moments of a month. -/
def january (micros : Nat) : Stamp :=
  ⟨⟨24312, micros⟩, none⟩

/-- A world with two workflows in which nothing is done. -/
def twoIdle : World Unit where
  database := {
    workflows := [
      .ofDocument (idle "wf_a") none (january 0).moment,
      .ofDocument (idle "wf_b") none (january 0).moment] }
  model := ()

/-- One workflow is called, then the other, then the first again. -/
def threeCalls : List RunCall := [
  ⟨january 1, "wf_a", .null, none⟩,
  ⟨january 2, "wf_b", .null, none⟩,
  ⟨january 3, "wf_a", .null, none⟩]

theorem keyed_twoIdle : twoIdle.database.Keyed := by
  refine ⟨fun row hrow d hd => ?_, fun _ hmem => absurd hmem (Option.not_mem_none _)⟩
  have hrows : row = .ofDocument (idle "wf_a") none (january 0).moment ∨
      row = .ofDocument (idle "wf_b") none (january 0).moment := by
    simpa [twoIdle] using hrow
  rcases hrows with rfl | rfl
  · rw [← Except.ok.inj ((rfl : _ = Except.ok _).symm.trans hd)]
    rfl
  · rw [← Except.ok.inj ((rfl : _ = Except.ok _).symm.trans hd)]
    rfl

/-- The tightest policy: one run of a workflow in a month, and so many runs are kept. -/
def tight (max : Nat) : RunPolicy where
  monthlyLimit := 1
  maxRecords := .int max

/-- With room for a run of each workflow, the third call is refused. -/
theorem granted_le_monthlyLimit_twoIdle :
    (twoIdle.granted (tight 2) (fun _ => pure "") threeCalls).map RunCall.id = ["wf_a", "wf_b"] ∧
      RunCall.countIn (twoIdle.granted (tight 2) (fun _ => pure "") threeCalls) "wf_a" 24312 ≤ 1 :=
  ⟨by decide +kernel, granted_le_monthlyLimit (tight 2) (fun _ => pure "") 2 rfl twoIdle rfl
    keyed_twoIdle threeCalls (by decide) (by decide) "wf_a" 24312⟩

/-- The two workflows behind a first call, where one run is kept. -/
def calledOnce : World Unit :=
  (twoIdle.runWorkflow (tight 1) (fun _ => pure "") (january 1) "wf_a" .null none).2

/-- The second run, and the two workflows before it is recorded. -/
def secondRun : Except ServiceError Run × World Unit :=
  runDocument (tight 1) (fun _ => pure "") "simulate" "wf_b" (idle "wf_b") .null calledOnce

/-- The two workflows behind a second call, where the table holds the second run alone. -/
def calledTwice : World Unit :=
  secondRun.2.withDatabase { secondRun.2.database.keepChanges with
    runs := secondRun.1.toOption.toList.map fun run =>
      ⟨run, "run-simulate", (january 2).moment⟩ }

/-- The second run takes the place of the first one. -/
theorem calledOnce_runWorkflow : ∃ run,
    calledOnce.runWorkflow (tight 1) (fun _ => pure "") (january 2) "wf_b" .null none =
      (.ok run, calledTwice) := by
  obtain ⟨run, hrun⟩ : ∃ run, secondRun.1 = .ok run := ⟨_, rfl⟩
  have hrecord : calledOnce.runWorkflow (tight 1) (fun _ => pure "") (january 2) "wf_b" .null none =
      record (tight 1) "simulate" (january 2).moment run secondRun.2 := by
    obtain rfl := Except.ok.inj hrun
    rfl
  have hwritable : isWritable run = true := by
    have hall : (secondRun.1.toOption.map isWritable) = some true := by decide +kernel
    simpa [hrun, Except.toOption] using hall
  refine ⟨run, ?_⟩
  rw [hrecord, record, if_pos hwritable, show (tight 1).maxRecords = .int (1 : Nat) from rfl,
    Database.recordRun_one rfl ?_ ?_, calledTwice, hrun]
  · rfl
  · exact .inr ⟨rfl, Nat.le_succ 1⟩
  · obtain rfl := Except.ok.inj hrun
    decide

/-- **With less room, one is**: where one run of a workflow is allowed in a month and one run is
kept, the run of another workflow makes the first one forgotten, and all three calls are granted. -/
theorem granted_exceeds :
    twoIdle.granted (tight 1) (fun _ => pure "") threeCalls = threeCalls ∧
      ¬ RunCall.countIn (twoIdle.granted (tight 1) (fun _ => pure "") threeCalls) "wf_a" 24312 ≤
        (tight 1).monthlyLimit.toNat := by
  -- the first call and the third evaluate; the second sorts the runs, which does not
  have hfirst : ∃ run, twoIdle.runWorkflow (tight 1) (fun _ => pure "") (january 1) "wf_a" .null
      none = (.ok run, calledOnce) := ⟨_, rfl⟩
  have hthird : ∃ run w, calledTwice.runWorkflow (tight 1) (fun _ => pure "") (january 3) "wf_a"
      .null none = (.ok run, w) := ⟨_, _, rfl⟩
  obtain ⟨first, hfirst⟩ := hfirst
  obtain ⟨second, hsecond⟩ := calledOnce_runWorkflow
  obtain ⟨third, w, hthird⟩ := hthird
  have hgranted : twoIdle.granted (tight 1) (fun _ => pure "") threeCalls = threeCalls := by
    simp only [threeCalls, granted, hfirst, hsecond, hthird]
  exact ⟨hgranted, by rw [hgranted]; decide⟩

end World
end Flowgraph
