import Flowgraph.Proofs.Retention

/-!
# The newest runs

However many runs are recorded, and of whatever workflows: where each is later than those before it,
the table holds the last ones, as many as are to be kept, and each of them as it was put in.  What
is asked of the table is then an answer about these.

The invariant is that the table holds the last of the runs that were ever made.  Recording one run
more sorts the whole table and takes a part of it away by the names of the runs; since no two runs
have one name, that part is exactly what is no longer among the last.

## Main definitions

* `Database.recordAll` — runs recorded one after another.
* `Database.Advancing` — each run is later than those before it.

## Main results

* `Database.recordAll_eq_rtake` — the table holds the last of the runs, however many come.
* `Database.newest_of_recordAll` — **the table holds exactly the newest runs.**
-/

namespace Flowgraph.Database

variable {runs : List RunRow}

/-! ### The order of time -/

/-- Each run is later than those before it. -/
def Advancing (runs : List RunRow) : Prop :=
  runs.Pairwise fun a b => ¬ b.createdAt ≤ a.createdAt

instance (runs : List RunRow) : Decidable (Advancing runs) :=
  inferInstanceAs (Decidable (runs.Pairwise _))

theorem Advancing.sublist (h : Advancing runs) {part : List RunRow} (hsub : part.Sublist runs) :
    Advancing part :=
  List.Pairwise.sublist hsub h

theorem Advancing.chronological (h : Advancing runs) : Chronological runs :=
  h.imp fun {a b} hlater => (Moment.le_total a.createdAt b.createdAt).resolve_right hlater

/-- Of two runs, one is later than the other. -/
theorem Advancing.eq_of_le (h : Advancing runs) {a b : RunRow} (ha : a ∈ runs) (hb : b ∈ runs)
    (hab : a.createdAt ≤ b.createdAt) (hba : b.createdAt ≤ a.createdAt) : a = b := by
  obtain ⟨i, hi, rfl⟩ := List.mem_iff_getElem.mp ha
  obtain ⟨j, hj, rfl⟩ := List.mem_iff_getElem.mp hb
  have hlater := List.pairwise_iff_getElem.mp h
  rcases Nat.lt_trichotomy i j with hij | rfl | hji
  · exact absurd hba (hlater i j hi hj hij)
  · rfl
  · exact absurd hab (hlater j i hj hi hji)

/-- The latest run in front: the other way round. -/
theorem Advancing.latestFirst (h : Advancing runs) :
    latestFirst RunRow.createdAt runs = runs.reverse := by
  have hsorted : (Flowgraph.latestFirst RunRow.createdAt runs).Pairwise
      fun a b => b.createdAt ≤ a.createdAt := by
    refine (List.pairwise_mergeSort ?_ ?_ runs).imp of_decide_eq_true
    · intro a b c hab hbc
      exact decide_eq_true (Moment.le_trans (of_decide_eq_true hbc) (of_decide_eq_true hab))
    · intro a b
      simpa using Moment.le_total b.createdAt a.createdAt
  have hperm : (Flowgraph.latestFirst RunRow.createdAt runs).Perm runs.reverse :=
    (List.mergeSort_perm runs _).trans (List.reverse_perm runs).symm
  refine List.Perm.eq_of_pairwise ?_ hsorted (List.pairwise_reverse.mpr h.chronological) hperm
  intro a b ha hb hba hab
  exact h.eq_of_le ((List.mergeSort_perm runs _).mem_iff.mp ha) (List.mem_reverse.mp hb) hab hba

/-! ### Runs recorded one after another -/

/-- The database behind some runs that are recorded one after another, up to one that cannot be. -/
def recordAll (max : Json) : List RunRow → Database → Except RawError Unit × Database
  | [], db => (.ok (), db)
  | row :: rest, db =>
    match db.recordRun max row with
    | (.ok (), db') => recordAll max rest db'
    | (.error e, db') => (.error e, db')

/-- Behind runs that were made before, a table that holds the last of them holds the last of all
when more are recorded. -/
theorem recordAll_eq_rtake {max : Nat} : ∀ {rows made : List RunRow} {db : Database},
    db.runs = made.rtake max → Chronological (made ++ rows) →
    ((made ++ rows).map fun row => row.run.id).Nodup →
    ∃ lasting, db.recordAll (.int max) rows =
      (.ok (), { db with runs := (made ++ rows).rtake max, lasting := lasting }) := by
  -- by induction on the runs that are still to come: the first of them joins those made before
  intro rows
  induction rows with
  | nil =>
    intro made db hruns _ _
    refine ⟨db.lasting, ?_⟩
    rw [recordAll, List.append_nil, ← hruns]
  | cons row rows ih =>
    intro made db hruns horder hids
    have hsplit : made ++ row :: rows = made ++ [row] ++ rows := by
      rw [List.append_assoc, List.singleton_append]
    rw [hsplit] at horder hids ⊢
    have hfirst : (made ++ [row]).Sublist (made ++ [row] ++ rows) := List.sublist_append_left _ _
    have hrecord := recordRun_eq_rtake hruns (List.Pairwise.sublist hfirst horder)
      (hids.sublist (hfirst.map _))
    rw [recordAll, hrecord]
    obtain ⟨lasting, hall⟩ := @ih (made ++ [row])
      { db.keepChanges with runs := (made ++ [row]).rtake max } rfl horder hids
    exact ⟨lasting, hall⟩

/-- **The table holds exactly the newest runs.**  When runs of different names are recorded in an
empty table, each later than those before it, all of them are recorded, and in the end the table
holds the last ones, as many as are to be kept or as there are, just as they were put in.  The list
of all runs has them with the latest in front; the list for a workflow is the part of that list
which is about the workflow; and as many are counted for a workflow since a moment as there are
among them. -/
theorem newest_of_recordAll (max : Nat) (rows : List RunRow) (db : Database) (hempty : db.runs = [])
    (horder : Advancing rows) (hids : (rows.map fun row => row.run.id).Nodup) :
    (rows.rtake max).length = min rows.length max ∧
    ∃ db', db.recordAll (.int max) rows = (.ok (), db') ∧
      db'.runs = rows.rtake max ∧
      db'.listRuns "" = (rows.rtake max).reverse ∧
      (∀ id, id ≠ "" → db'.listRuns id =
        (db'.listRuns "").filter fun row => row.run.workflowId == id) ∧
      (∀ id since, db'.countRuns id since = ((rows.rtake max).filter fun row =>
        row.run.workflowId == id && decide (since ≤ row.createdAt)).length) ∧
      ∃ lasting, db' = { db with runs := rows.rtake max, lasting := lasting } := by
  refine ⟨List.length_rtake rows max, ?_⟩
  obtain ⟨lasting, hall⟩ := @recordAll_eq_rtake max rows [] db
    (by rw [hempty, List.rtake_nil]) horder.chronological hids
  rw [List.nil_append] at hall
  have hkept : Advancing (rows.rtake max) := horder.sublist (List.rtake_suffix rows max).sublist
  have hlist : ({ db with runs := rows.rtake max, lasting := lasting } : Database).listRuns "" =
      (rows.rtake max).reverse := allRuns_eq_reverse hkept.chronological
  refine ⟨_, hall, rfl, hlist, ?_, ?_, lasting, rfl⟩
  · intro id hid
    have hworkflow : Advancing ((rows.rtake max).filter fun row => row.run.workflowId == id) :=
      hkept.sublist List.filter_sublist
    rw [hlist, listRuns, if_neg (by simpa using hid), runsOf, hworkflow.latestFirst,
      List.filter_reverse]
  · intro id since
    exact List.countP_eq_length_filter

/-- A run of a workflow that did nothing, at the microseconds of some month. -/
def idleRun (id workflowId : String) (micros : Nat) : RunRow where
  run := { (default : Run) with id := id, workflowId := workflowId }
  source := "run-simulate"
  createdAt := ⟨24312, micros⟩

/-- Runs of two workflows in turn. -/
def threeRuns : List RunRow :=
  [idleRun "r1" "wf_a" 1, idleRun "r2" "wf_b" 2, idleRun "r3" "wf_a" 3]

/-- Of three runs in a table for two, the first one is gone, whatever workflow it is of. -/
theorem newest_of_recordAll_threeRuns :
    Advancing threeRuns ∧ (threeRuns.map fun row => row.run.id).Nodup ∧
    ∃ db', recordAll (.int (2 : Nat)) threeRuns {} = (.ok (), db') ∧
      db'.listRuns "" = [idleRun "r3" "wf_a" 3, idleRun "r2" "wf_b" 2] ∧
      db'.listRuns "wf_a" = [idleRun "r3" "wf_a" 3] ∧
      db'.countRuns "wf_a" ⟨24312, 0⟩ = 1 := by
  have horder : Advancing threeRuns := by decide
  have hids : (threeRuns.map fun row => row.run.id).Nodup := by decide
  obtain ⟨-, db', hall, -, hlist, hworkflow, hcount, -⟩ :=
    newest_of_recordAll 2 threeRuns {} rfl horder hids
  refine ⟨horder, hids, db', hall, hlist, ?_, hcount "wf_a" ⟨24312, 0⟩⟩
  rw [hworkflow "wf_a" (by decide), hlist]
  rfl

end Flowgraph.Database
