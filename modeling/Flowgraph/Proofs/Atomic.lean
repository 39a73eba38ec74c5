import Flowgraph.Proofs.Stored

/-!
# Changes are whole

A change of the stored workflows is made to one row or not at all.  When it is made, the other rows
and the other tables are as before, a row that is written anew keeps its name, its request and the
moment at which it was put in, and what is read under its name next is the document that was given.
When it is refused, nothing is changed.

That a document cannot leave is no refusal: it is found when its name and tags have been taken over.
As long as no such document comes in the place of another, nothing is changed by a change that
fails in any way, and there is nothing to go back to.

## Main definitions

* `ServiceError.IsRefusal` — a change is refused.
* `Database.SameBeside`, `SameTables` — the tables beside the workflows are the same, or all four.
* `WorkflowChange.Made` — a change is made to one row.

## Main results

* `Database.change_of_refusal` — a refusal leaves the database as it is.
* `Database.sameTables_of_change`, `made_of_change` — what a change leaves when it fails, and when
  it does not.
* `World.lasting_behind` — there is nothing to go back to.
* `World.change_of_calls` — **a change is made to one row or not at all, whatever was called.**
* `World.change_spoiled` — a change that fails and renames a row.
-/

namespace Flowgraph

/-- A change is refused: there is no such workflow, the document breaks rules or has the wrong name,
or the command cannot be carried out. -/
def ServiceError.IsRefusal : ServiceError → Prop
  | invalid _ => True
  | unknownWorkflow _ => True
  | refused _ => True
  | _ => False

/-- The tables beside the workflows are the same. -/
structure Database.SameBeside (db db' : Database) : Prop where
  /-- The finished runs are. -/
  runs : db'.runs = db.runs
  /-- So are the saved records. -/
  items : db'.items = db.items
  /-- So are the written files. -/
  exports : db'.exports = db.exports

/-- All four tables are the same. -/
structure Database.SameTables (db db' : Database) : Prop extends db.SameBeside db' where
  /-- The workflows are the same as well. -/
  workflows : db'.workflows = db.workflows

/-- A row holds a document, which carries the name of the row. -/
structure WorkflowRow.Holds (row : WorkflowRow) (d : Document) : Prop where
  /-- The document is read from the row. -/
  document : row.document = .ok d
  /-- It carries the name. -/
  id : d.workflow.id = row.id

/-- A row is another one written anew. -/
structure WorkflowRow.Anew (old new : WorkflowRow) : Prop where
  /-- The name is kept. -/
  id : new.id = old.id
  /-- So is the request. -/
  prompt : new.prompt = old.prompt
  /-- So is the moment at which it was put in. -/
  createdAt : new.createdAt = old.createdAt

/-- The workflow whose document a change exchanges. -/
def WorkflowChange.exchanges? : WorkflowChange → Option String
  | update id _ => some id
  | edit id _ => some id
  | _ => none

/-- A change is made to one row of a table, and leaves a document unless it removes one. -/
inductive WorkflowChange.Made :
    WorkflowChange → Option Document → List WorkflowRow → List WorkflowRow → Prop where
  /-- A row is put in, under a new name. -/
  | inserted (data prompt : Json) (d : Document) (rows : List WorkflowRow) (new : WorkflowRow)
      (hholds : new.Holds d) (hnew : ∀ row ∈ rows, row.id ≠ new.id) :
      Made (.create data prompt) (some d) rows (rows ++ [new])
  /-- A row is written anew. -/
  | exchanged (c : WorkflowChange) (d : Document) (before after : List WorkflowRow)
      (old new : WorkflowRow) (hc : c.exchanges? = some old.id) (hholds : new.Holds d)
      (hanew : old.Anew new) : Made c (some d) (before ++ old :: after) (before ++ new :: after)
  /-- A row is removed. -/
  | removed (before after : List WorkflowRow) (old : WorkflowRow) :
      Made (.delete old.id) none (before ++ old :: after) (before ++ after)

namespace Database

variable {db db' : Database} {now : Moment} {c : WorkflowChange} {id : String} {d : Document}
  {old : WorkflowRow} {e : ServiceError}

/-! ### Changes that are not made -/

theorem sameTables_refl (db : Database) : db.SameTables db :=
  ⟨⟨rfl, rfl, rfl⟩, rfl⟩

/-- **A refusal leaves the database as it is.** -/
theorem change_of_refusal (h : db.change now c = (.error e, db')) (he : e.IsRefusal) :
    db' = db := by
  have hchanged := h ▸ db.change_changed now c
  cases hchanged with
  | refused c e => rfl
  | unwritten c e => exact False.elim he
  | spoiled id data d f hcheck hstays => exact False.elim he

/-- Where there is nothing to go back to, a change that fails leaves all tables as they are, unless
it is for a document that cannot leave. -/
theorem sameTables_of_change (h : db.change now c = (.error e, db')) (hlasting : db.lasting = none)
    (hstorable : c.Storable) : db.SameTables db' := by
  have hchanged := h ▸ db.change_changed now c
  cases hchanged with
  | refused c e => exact db.sameTables_refl
  | unwritten c e => exact ⟨⟨rfl, rfl, rfl⟩, by simp [block, takeBack, hlasting]⟩
  | spoiled id data d f hcheck hstays => exact absurd (hstorable d hcheck) hstays

/-! ### Changes that are made -/

/-- The row of a name is the only one of its name, so that the table is taken apart at it. -/
theorem exists_split (hnodup : (db.workflows.map WorkflowRow.id).Nodup)
    (hold : db.workflow? id = some old) : ∃ before after, db.workflows = before ++ old :: after ∧
      (∀ row ∈ before, row.id ≠ id) ∧ ∀ row ∈ after, row.id ≠ id := by
  obtain ⟨hmem, rfl⟩ := workflow?_eq_some hold
  obtain ⟨before, after, hsplit⟩ := List.append_of_mem hmem
  -- a row around it with its name would be a second one of that name
  rw [hsplit, List.map_append, List.map_cons, List.nodup_middle, List.nodup_cons, List.mem_append,
    not_or] at hnodup
  refine ⟨before, after, hsplit, fun row hrow hsame => hnodup.1.1 ?_,
    fun row hrow hsame => hnodup.1.2 ?_⟩
  · exact hsame ▸ List.mem_map_of_mem hrow
  · exact hsame ▸ List.mem_map_of_mem hrow

/-- A row that is written anew stands where it stood, among the rows that stood around it. -/
theorem replaceWorkflow_split (hnodup : (db.workflows.map WorkflowRow.id).Nodup)
    (hold : db.workflow? id = some old) : ∃ before after, db.workflows = before ++ old :: after ∧
      (db.replaceWorkflow id d now).workflows = before ++ old.withDocument d now :: after := by
  obtain ⟨before, after, hsplit, hbefore, hafter⟩ := exists_split hnodup hold
  have hsame : ∀ rows : List WorkflowRow, (∀ row ∈ rows, row.id ≠ id) →
      rows.map (fun row => if row.id = id then row.withDocument d now else row) = rows := by
    intro rows hrows
    conv_rhs => rw [← List.map_id rows]
    exact List.map_congr_left fun row hrow => if_neg (hrows row hrow)
  refine ⟨before, after, hsplit, ?_⟩
  rw [replaceWorkflow, keepChanges, hsplit, List.map_append, List.map_cons, hsame before hbefore,
    hsame after hafter, if_pos (workflow?_eq_some hold).2]

/-- A row that is removed leaves the rows that stood around it. -/
theorem removeWorkflow_split (hnodup : (db.workflows.map WorkflowRow.id).Nodup)
    (hold : db.workflow? id = some old) : ∃ before after, db.workflows = before ++ old :: after ∧
      (db.removeWorkflow id).workflows = before ++ after := by
  obtain ⟨before, after, hsplit, hbefore, hafter⟩ := exists_split hnodup hold
  refine ⟨before, after, hsplit, ?_⟩
  have hothers : ∀ row ∈ before ++ after, (row.id != id) = true := by
    intro row hrow
    rcases List.mem_append.mp hrow with hrow | hrow
    · simpa using hbefore row hrow
    · simpa using hafter row hrow
  have hgone : (old.id != id) = false := by simpa using (workflow?_eq_some hold).2
  rw [removeWorkflow, keepChanges, hsplit, List.filter_append,
    List.filter_cons_of_neg (by simp [hgone]), ← List.filter_append,
    List.filter_eq_self.mpr hothers]

/-- The row of a name is found where it has been written anew. -/
theorem workflow?_replaceWorkflow (hold : db.workflow? id = some old) :
    (db.replaceWorkflow id d now).workflow? id = some (old.withDocument d now) := by
  -- rows are looked for by names, which stay as they are
  have hnames : ((fun row : WorkflowRow => row.id == id) ∘ fun row : WorkflowRow =>
      if row.id = id then row.withDocument d now else row) = fun row => row.id == id := by
    funext row
    by_cases hname : row.id = id <;> simp [hname, WorkflowRow.withDocument]
  rw [workflow?] at hold
  rw [workflow?, replaceWorkflow, keepChanges, List.find?_map, hnames, hold, Option.map_some,
    if_pos (by simpa using List.find?_some hold)]

/-- A new row is found under its name. -/
theorem workflow?_insertWorkflow {new : WorkflowRow}
    (hnew : ∀ row ∈ db.workflows, row.id ≠ new.id) :
    (db.insertWorkflow new).workflow? new.id = some new := by
  have hnone : db.workflows.find? (fun row => row.id == new.id) = none := by simpa using hnew
  rw [workflow?, insertWorkflow, keepChanges, List.find?_append, hnone]
  simp

/-- The exchange of an accepted document for another of the same name is made to one row, and the
document is read back with finite numbers. -/
theorem made_of_replaceWorkflow (now : Moment) (hnodup : (db.workflows.map WorkflowRow.id).Nodup)
    (hopen : db.isBlocked = false) (hold : db.workflow? id = some old) (haccepted : d.Accepted)
    (hid : d.workflow.id = id) (hc : c.exchanges? = some id) :
    c.Made (some d.finite) db.workflows (db.replaceWorkflow id d now).workflows ∧
      (db.replaceWorkflow id d now).stored id = .ok ⟨old.withDocument d now, d.finite⟩ := by
  have hname : old.id = id := (workflow?_eq_some hold).2
  have hholds : (old.withDocument d now).Holds d.finite :=
    ⟨(WorkflowRow.document_of_accepted haccepted rfl).1, hid.trans hname.symm⟩
  constructor
  · obtain ⟨before, after, hsplit, hanew⟩ := replaceWorkflow_split hnodup hold
    rw [hsplit, hanew]
    exact .exchanged c d.finite before after old _ (hname ▸ hc) hholds ⟨rfl, rfl, rfl⟩
  · exact stored_eq_ok_iff.mpr ⟨hopen, workflow?_replaceWorkflow hold, hholds.document⟩

/-- What is done is done to one row, the other tables are as before, and the document that is left
is read back. -/
theorem made_of_change {d? : Option Document} (h : db.change now c = (.ok d?, db'))
    (hsound : ∀ row ∈ db.workflows, row.Sound)
    (hnodup : (db.workflows.map WorkflowRow.id).Nodup) :
    c.Made d? db.workflows db'.workflows ∧ db.SameBeside db' ∧
      ∀ d ∈ d?, ∃ s, db'.stored d.workflow.id = .ok s ∧ s.document = d := by
  have hchanged := h ▸ db.change_changed now c
  cases hchanged with
  | created data prompt d request? hcheck hopen hnew =>
    have hholds : (WorkflowRow.ofDocument d request? now).Holds d.finite :=
      ⟨(WorkflowRow.document_of_accepted ⟨data, hcheck⟩ rfl).1, rfl⟩
    refine ⟨.inserted data prompt d.finite _ _ hholds hnew, ⟨rfl, rfl, rfl⟩, ?_⟩
    rintro _ ⟨rfl⟩
    exact ⟨⟨_, d.finite⟩, stored_eq_ok_iff.mpr
      ⟨hopen, workflow?_insertWorkflow hnew, hholds.document⟩, rfl⟩
  | updated id data d old hcheck hopen hold hid =>
    have hname : d.finite.workflow.id = id := hid
    obtain ⟨hmade, hstored⟩ := made_of_replaceWorkflow (c := .update id data) now hnodup hopen hold
      ⟨data, hcheck⟩ hid rfl
    refine ⟨hmade, ⟨rfl, rfl, rfl⟩, ?_⟩
    rintro _ ⟨rfl⟩
    exact ⟨⟨old.withDocument d now, d.finite⟩, by rw [hname]; exact hstored, rfl⟩
  | edited id command d old hcheck hold hid =>
    obtain ⟨hopen, hfound, hdocument⟩ := stored_eq_ok_iff.mp hold
    obtain ⟨hrow, hname⟩ := workflow?_eq_some hfound
    have hsame : d.workflow.id = id := by
      rw [hid, ((hsound old.row hrow).of_document hdocument).2, hname]
    obtain ⟨hmade, hstored⟩ := made_of_replaceWorkflow (c := .edit id command) now hnodup hopen
      hfound ⟨_, hcheck⟩ hsame rfl
    -- the outcome of an edit has finite numbers already
    rw [← Document.eq_finite_of_check_toJson hcheck] at hmade hstored
    refine ⟨hmade, ⟨rfl, rfl, rfl⟩, ?_⟩
    rintro _ ⟨rfl⟩
    exact ⟨⟨old.row.withDocument d now, d⟩, by rw [hsame]; exact hstored, rfl⟩
  | deleted id old hold =>
    obtain ⟨before, after, hsplit, hgone⟩ := removeWorkflow_split hnodup hold
    obtain ⟨-, rfl⟩ := workflow?_eq_some hold
    refine ⟨?_, ⟨rfl, rfl, rfl⟩, by simp⟩
    rw [hsplit, hgone]
    exact .removed before after old

/-! ### Changes that are lasting -/

theorem lasting_of_change (db : Database) (now : Moment) (h : db.lasting = none)
    (hstorable : c.Storable) : (db.change now c).2.lasting = none := by
  have hchanged := db.change_changed now c
  generalize db.change now c = outcome at hchanged
  cases hchanged with
  | refused c e => exact h
  | spoiled id data d f hcheck hstays => exact absurd (hstorable d hcheck) hstays
  | _ => rfl

theorem lasting_of_insertRecord (h : db.lasting = none) (table id : String) (values : Fields) :
    (db.insertRecord table id values).2.lasting = none := by
  rcases db.insertRecord_cases table id values with hsame | hsame | ⟨db', -, hsame⟩ <;> rw [hsame]
  · exact h
  · rfl
  · rfl

theorem lasting_of_recordRun (db : Database) (max : Json) (row : RunRow) :
    (db.recordRun max row).2.lasting = none := by
  obtain ⟨runs, hframe, -⟩ := db.recordRun_frame max row
  rw [hframe, keepChanges]

end Database

namespace World

variable {τ : Type} {policy : RunPolicy} {complete : Prompt → Effect τ String} {model : τ}
  {w : World τ} {calls : List ServiceCall}

theorem after_lasting {call : ServiceCall} (h : w.database.lasting = none)
    (hstorable : call.request.Storable) :
    (w.after policy complete call).database.lasting = none := by
  unfold after
  split
  · rename_i c hcall
    rw [hcall] at hstorable
    exact w.database.lasting_of_change call.now.moment h hstorable
  · exact runWorkflow_keeps_database (P := fun db => db.lasting = none)
      (fun db table id values hdb => Database.lasting_of_insertRecord hdb table id values)
      (fun db max row _ => db.lasting_of_recordRun max row) (fun _ _ => rfl) h _ _ _ _
  · exact simulate_keeps_database (P := fun db => db.lasting = none)
      (fun db table id values hdb => Database.lasting_of_insertRecord hdb table id values) h _ _

/-- Where no document comes in the place of another that cannot leave, all changes are lasting. -/
theorem lasting_behind (h : ∀ call ∈ calls, call.request.Storable) :
    (behind policy complete model calls).database.lasting = none := by
  -- by induction on the calls from the last one on
  induction calls using List.reverseRecOn with
  | nil => rfl
  | append_singleton calls call ih =>
    rw [behind, afterAll, List.foldl_append]
    have hearlier := ih fun other hother => h other (List.mem_append_left _ hother)
    exact after_lasting hearlier (h call (List.mem_append_right _ (List.mem_singleton_self call)))

/-- **A change is made to one row or not at all.**  Whatever was called before on an empty database:
when the change is refused the database is as it was; if no document was to come in the place of
another that cannot leave, all tables are as they were whenever the change fails; and when it does
not fail, it is made to one row, the other tables are as they were, and the document that it gives
is read back. -/
theorem change_of_calls (policy : RunPolicy) (complete : Prompt → Effect τ String) (model : τ)
    (calls : List ServiceCall) (now : Moment) (c : WorkflowChange) (db : Database)
    (hdb : (behind policy complete model calls).database = db) :
    (∀ e db', db.change now c = (.error e, db') →
      (e.IsRefusal → db' = db) ∧
      ((∀ call ∈ calls, call.request.Storable) → c.Storable → db.SameTables db')) ∧
    ∀ d? db', db.change now c = (.ok d?, db') →
      c.Made d? db.workflows db'.workflows ∧ db.SameBeside db' ∧
        ∀ d ∈ d?, ∃ s, db'.stored d.workflow.id = .ok s ∧ s.document = d := by
  subst hdb
  have hpresent := Database.workflows_mem_tables (behind policy complete model calls).database
  constructor
  · intro e db' hchange
    exact ⟨Database.change_of_refusal hchange, fun hcalls hstorable =>
      Database.sameTables_of_change hchange (lasting_behind hcalls) hstorable⟩
  · intro d? db' hchange
    exact Database.made_of_change hchange (sound_behind hpresent) (nodup_behind hpresent)

/-- Two workflows are stored. -/
def creations : List ServiceCall := [
  ⟨january 0, .change (.create (idle "wf_a").toJson .null)⟩,
  ⟨january 1, .change (.create (idle "wf_b").toJson (.str "Do nothing."))⟩]

/-- The database behind this. -/
def twoCreated : Database :=
  (behind {} (fun _ => pure "") () creations).database

/-- A third workflow cannot be removed, and the second one can be renamed. -/
theorem change_of_calls_creations :
    (∃ db', twoCreated.change (january 2).moment (.delete "wf_c") =
        (.error (.unknownWorkflow "wf_c"), db') ∧ db' = twoCreated ∧ twoCreated.SameTables db') ∧
      ∃ d db', twoCreated.change (january 2).moment (.update "wf_b" (renamed "wf_b" "New").toJson) =
        (.ok (some d), db') ∧ d.workflow.name = "New" ∧
        (WorkflowChange.update "wf_b" (renamed "wf_b" "New").toJson).Made (some d)
          twoCreated.workflows db'.workflows ∧
        ∃ s, db'.stored d.workflow.id = .ok s ∧ s.document = d := by
  constructor
  · have hstorable : ∀ call ∈ creations, call.request.Storable := by
      simp [creations, ServiceRequest.Storable, WorkflowChange.Storable]
    obtain ⟨hfails, -⟩ := change_of_calls {} (fun _ => pure "") () creations (january 2).moment
      (.delete "wf_c") twoCreated rfl
    have hreach : twoCreated.reachWorkflow? "wf_c" = .ok none := by
      refine Database.reachWorkflow?_eq_ok.mpr ⟨by decide +kernel, ?_⟩
      exact Option.isNone_iff_eq_none.mp (by decide +kernel)
    have hrefused : twoCreated.change (january 2).moment (.delete "wf_c") =
        (.error (.unknownWorkflow "wf_c"), twoCreated) := by
      rw [Database.change, Database.deleteWorkflow, hreach, Database.leaving]
    obtain ⟨hsame, htables⟩ := hfails _ twoCreated hrefused
    exact ⟨_, hrefused, hsame trivial, htables hstorable trivial⟩
  · obtain ⟨-, hmade⟩ := change_of_calls {} (fun _ => pure "") () creations (january 2).moment
      (.update "wf_b" (renamed "wf_b" "New").toJson) twoCreated rfl
    have hname : (twoCreated.change (january 2).moment
        (.update "wf_b" (renamed "wf_b" "New").toJson)).1.toOption.join.map
          (fun d => d.workflow.name) = some "New" := by
      decide +kernel
    rcases hchange : twoCreated.change (january 2).moment
      (.update "wf_b" (renamed "wf_b" "New").toJson) with ⟨e | _ | d, db'⟩
    · simp [hchange, Except.toOption] at hname
    · simp [hchange, Except.toOption] at hname
    · obtain ⟨hrow, -, hback⟩ := hmade _ _ hchange
      refine ⟨d, db', rfl, ?_, hrow, hback d rfl⟩
      simpa [hchange, Except.toOption] using hname

/-- **A change that fails and renames a row**: the document that is to come in the place of another
cannot leave. -/
theorem change_spoiled :
    ∃ e db', twoCreated.change (january 2).moment (.update "wf_a" (deep "wf_a" "New").toJson) =
      (.error e, db') ∧ ¬ twoCreated.SameTables db' := by
  have hfails : (twoCreated.change (january 2).moment
      (.update "wf_a" (deep "wf_a" "New").toJson)).1.toOption.isNone = true := by
    decide +kernel
  have hrenamed : (twoCreated.change (january 2).moment
      (.update "wf_a" (deep "wf_a" "New").toJson)).2.workflows.map WorkflowRow.name =
        ["New", "wf_b"] := by
    decide +kernel
  have hnames : twoCreated.workflows.map WorkflowRow.name = ["wf_a", "wf_b"] := by
    decide +kernel
  rcases hchange : twoCreated.change (january 2).moment
    (.update "wf_a" (deep "wf_a" "New").toJson) with ⟨e | d?, db'⟩
  · refine ⟨e, db', rfl, fun hsame => ?_⟩
    rw [hchange, hsame.workflows, hnames] at hrenamed
    exact absurd hrenamed (by decide)
  · simp [hchange, Except.toOption] at hfails

end World
end Flowgraph
