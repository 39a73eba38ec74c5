import Flowgraph.Proofs.Operations
import Flowgraph.Proofs.Safety

/-!
# What is stored

Whatever is asked of the services, in whatever order and of whatever data: every row of the table of
workflows holds a document that keeps all rules under its own name, no two rows share a name, and by
a clock that does not go back no row was changed before it was put in.  So no run of a stored workflow
is refused for its document.

What a row tells beside its definition agrees with the definition as well, as long as no document is
put in the place of another that cannot leave.  That one cannot leave is found only when the row has
been given its name, and then the row keeps that name and its old definition.

A change that is not lasting leaves two tables behind, the present one and the one to go back to, so
that all of this is shown of both.

## Main definitions

* `ServiceCall`, `World.afterAll` — calls of the services, and the world behind them.
* `ServiceRequest.Storable` — a document that comes in the place of another can leave.
* `ServiceCall.Rewrites` — what a call can make of a table of workflows.
* `WorkflowRow.Titled` — what a row tells beside its definition agrees with it.

## Main results

* `World.after_tables` — a call does nothing else to a table.
* `World.afterAll_tables` — what calls keep holds of every table behind them.
* `World.stored_of_calls` — **what holds of every row, whatever was called.**
* `World.stored_mistitled` — a row whose name is not that of its definition.
-/

namespace Flowgraph

/-! ### Calls -/

/-- What is asked of the services. -/
inductive ServiceRequest where
  /-- A change of the stored workflows. -/
  | change (change : WorkflowChange)
  /-- A run of a stored workflow. -/
  | run (id : String) (input : Json) (asked : Option String)
  /-- A run of data that is not stored. -/
  | simulate (data input : Json)

/-- A call of the services. -/
structure ServiceCall where
  /-- The present moment. -/
  now : Stamp
  /-- What is asked. -/
  request : ServiceRequest

/-- A document that comes in the place of another can leave. -/
def ServiceRequest.Storable : ServiceRequest → Prop
  | change c => c.Storable
  | _ => True

namespace World

variable {τ : Type}

/-- The world behind a call. -/
def after (policy : RunPolicy) (complete : Prompt → Effect τ String) (call : ServiceCall)
    (w : World τ) : World τ :=
  match call.request with
  | .change c => w.withDatabase (w.database.change call.now.moment c).2
  | .run id input asked => (w.runWorkflow policy complete call.now id input asked).2
  | .simulate data input => (w.simulate policy complete data input).2

/-- The world behind calls that are made one after another. -/
def afterAll (policy : RunPolicy) (complete : Prompt → Effect τ String) (calls : List ServiceCall)
    (w : World τ) : World τ :=
  calls.foldl (fun w call => w.after policy complete call) w

end World

/-! ### Tables of workflows -/

/-- What a call can make of the rows of a table of workflows. -/
inductive ServiceCall.Rewrites (call : ServiceCall) (rows : List WorkflowRow) :
    List WorkflowRow → Prop where
  /-- It leaves them alone. -/
  | same : call.Rewrites rows rows
  /-- It puts a row behind them. -/
  | inserted (d : Document) (prompt : Option String) (haccepted : d.Accepted)
      (hnew : ∀ row ∈ rows, row.id ≠ d.workflow.id) :
      call.Rewrites rows (rows ++ [.ofDocument d prompt call.now.moment])
  /-- It puts a document in the place of another, of the same name where names have been kept. -/
  | replaced (id : String) (d : Document) (haccepted : d.Accepted)
      (hid : (∀ row ∈ rows, row.Sound) → d.workflow.id = id) :
      call.Rewrites rows
        (rows.map fun row => if row.id = id then row.withDocument d call.now.moment else row)
  /-- It takes over the names and tags of a document that cannot leave. -/
  | retitled (id : String) (d : Document) (hstays : ¬ call.request.Storable) :
      call.Rewrites rows (rows.map fun row => if row.id = id then row.withTitles d else row)
  /-- It removes rows. -/
  | removed (id : String) : call.Rewrites rows (rows.filter fun row => row.id != id)

namespace Database

variable {db : Database} {rows : List WorkflowRow}

/-- The table of workflows, and the one that takes its place when changes are taken back. -/
def tables (db : Database) : List (List WorkflowRow) :=
  db.workflows :: db.lasting.toList

theorem workflows_mem_tables (db : Database) : db.workflows ∈ db.tables :=
  List.mem_cons_self

/-- The table behind changes that are taken back is one of the two. -/
theorem takeBack_mem_tables (db : Database) : db.lasting.getD db.workflows ∈ db.tables := by
  cases hlasting : db.lasting <;> simp [tables, hlasting]

theorem tables_of_keepChanges (h : rows ∈ db.keepChanges.tables) : rows = db.workflows := by
  simpa [keepChanges, tables] using h

theorem tables_of_block (h : rows ∈ db.block.tables) : rows ∈ db.tables := by
  have hrows : rows = db.lasting.getD db.workflows := by simpa [block, takeBack, tables] using h
  exact hrows ▸ db.takeBack_mem_tables

theorem tables_of_recover (h : rows ∈ db.recover.tables) : rows ∈ db.tables :=
  tables_of_block h

theorem insertRecord_tables_subset (db : Database) (table id : String) (values : Fields) :
    (db.insertRecord table id values).2.tables ⊆ db.tables := by
  intro rows h
  rcases db.insertRecord_cases table id values with hsame | hsame | ⟨db', hadded, hsame⟩ <;>
    rw [hsame] at h
  · exact h
  · exact tables_of_recover h
  · obtain ⟨items, exports, rfl⟩ := addRecord_frame hadded
    exact tables_of_keepChanges h ▸ db.workflows_mem_tables

/-- Recording a run touches runs alone, puts in no other one, and makes the changes lasting. -/
theorem recordRun_frame (db : Database) (max : Json) (row : RunRow) :
    ∃ runs, (db.recordRun max row).2 = { db.keepChanges with runs := runs } ∧
      runs.Sublist (db.runs ++ [row]) := by
  rw [recordRun]
  -- where the number of runs to be kept is of no use, all of them are
  cases hretained : (keepChanges { db with runs := db.runs ++ [row] }).retainRuns max with
  | error e => exact ⟨db.runs ++ [row], rfl, List.Sublist.refl _⟩
  | ok retained =>
    obtain ⟨tooMany, -, hkept⟩ := Except.bind_eq_ok_iff.mp hretained
    cases tooMany with
    | false =>
      obtain rfl := Except.ok.inj hkept
      exact ⟨db.runs ++ [row], rfl, List.Sublist.refl _⟩
    | true =>
      obtain ⟨count, -, hcut⟩ := Except.bind_eq_ok_iff.mp hkept
      obtain rfl := Except.ok.inj hcut
      exact ⟨_, rfl, keepRuns_sublist _ count⟩

theorem recordRun_tables_subset (db : Database) (max : Json) (row : RunRow) :
    (db.recordRun max row).2.tables ⊆ db.tables := by
  intro rows h
  obtain ⟨runs, hframe, -⟩ := db.recordRun_frame max row
  have hrows : rows = db.workflows := by simpa [hframe, tables, keepChanges] using h
  exact hrows ▸ db.workflows_mem_tables

theorem tables_of_retitleWorkflow {id : String} {d : Document}
    (h : rows ∈ (db.retitleWorkflow id d).tables) :
    rows = (db.workflows.map fun row => if row.id = id then row.withTitles d else row) ∨
      rows ∈ db.tables := by
  rcases List.mem_cons.mp h with h | h
  · exact .inl h
  · have hrows : rows = db.lasting.getD db.workflows := by simpa [retitleWorkflow] using h
    exact .inr (hrows ▸ db.takeBack_mem_tables)

/-- A change rewrites the present table, or it leaves one of the two that there are. -/
theorem tables_of_change {call : ServiceCall} {c : WorkflowChange}
    (hcall : call.request = .change c) (h : rows ∈ (db.change call.now.moment c).2.tables) :
    ∃ before ∈ db.tables, call.Rewrites before rows := by
  have hpresent := db.workflows_mem_tables
  have hchanged := db.change_changed call.now.moment c
  generalize db.change call.now.moment c = outcome at h hchanged
  cases hchanged with
  | refused c e => exact ⟨rows, h, .same⟩
  | unwritten c e => exact ⟨rows, tables_of_block h, .same⟩
  | spoiled id data d f hcheck hstays =>
    rcases tables_of_retitleWorkflow h with rfl | h
    · refine ⟨_, hpresent, .retitled id d fun hstorable => hstays ?_⟩
      rw [hcall] at hstorable
      exact hstorable d hcheck
    · exact ⟨rows, h, .same⟩
  | created data prompt d request? hcheck hopen hnew =>
    rw [tables_of_keepChanges h]
    exact ⟨_, hpresent, .inserted d request? ⟨data, hcheck⟩ hnew⟩
  | updated id data d old hcheck hopen hold hid =>
    rw [tables_of_keepChanges h]
    exact ⟨_, hpresent, .replaced id d ⟨data, hcheck⟩ fun _ => hid⟩
  | edited id command d old hcheck hold hid =>
    rw [tables_of_keepChanges h]
    refine ⟨_, hpresent, .replaced id d ⟨_, hcheck⟩ fun hsound => ?_⟩
    obtain ⟨-, hfound, hdocument⟩ := stored_eq_ok_iff.mp hold
    obtain ⟨hrow, hname⟩ := workflow?_eq_some hfound
    rw [hid, ((hsound old.row hrow).of_document hdocument).2, hname]
  | deleted id old hold =>
    rw [tables_of_keepChanges h]
    exact ⟨_, hpresent, .removed id⟩

/-- Where all rows are sound, what is in the table can be read unless a change has failed. -/
theorem exists_stored (hopen : db.isBlocked = false) {row : WorkflowRow} (hrow : row ∈ db.workflows)
    (hsound : ∀ row ∈ db.workflows, row.Sound) :
    ∃ s, db.stored row.id = .ok s ∧ Document.check s.row.definition = .ok s.document := by
  cases hfound : db.workflow? row.id with
  | none => exact absurd rfl (workflow?_eq_none.mp hfound row hrow)
  | some found =>
    obtain ⟨d, hdocument, hcheck, -⟩ := hsound found (workflow?_eq_some hfound).1
    exact ⟨⟨found, d⟩, stored_eq_ok_iff.mpr ⟨hopen, hfound, hdocument⟩, hcheck⟩

theorem stored_of_isBlocked (h : db.isBlocked = true) (id : String) :
    db.stored id = .error .blocked := by
  simp [stored, reachWorkflow?, reach, h, bind, Except.bind]

end Database

/-! ### Worlds -/

namespace World

variable {τ : Type} {policy : RunPolicy} {complete : Prompt → Effect τ String} {w : World τ}
  {rows : List WorkflowRow}

section Keeping

variable {P : Database → Prop}
  (hinsert : ∀ db table id values, P db → P (db.insertRecord table id values).2)

include hinsert

/-- A call for a run does to the database what storing a record and recording a run do, and it may
leave it blocked. -/
theorem runWorkflow_keeps_database (hrecord : ∀ db max row, P db → P (db.recordRun max row).2)
    (hblock : ∀ db, P db → P db.block) (hw : P w.database) (now : Stamp) (id : String)
    (input : Json) (asked : Option String) :
    P (w.runWorkflow policy complete now id input asked).2.database := by
  rcases hcall : w.runWorkflow policy complete now id input asked with ⟨result, w'⟩
  cases runWorkflow_outcome hcall with
  | unread => exact hw
  | exhausted => exact hw
  | unstarted s e w' hstored hrun => exact runDocument_keeps_database hinsert hw hrun
  | ended s run mid w' result hstored hmay hrun hrecorded =>
    have hmid := runDocument_keeps_database hinsert hw hrun
    obtain ⟨-, rfl | rfl⟩ := record_cases hrecorded
    · exact hblock _ hmid
    · exact hrecord _ _ _ hmid

theorem simulate_keeps_database (hw : P w.database) (data input : Json) :
    P (w.simulate policy complete data input).2.database := by
  unfold simulate
  cases hcheck : Document.check data with
  | error errors => exact hw
  | ok d => exact runDocument_keeps_database hinsert hw rfl

end Keeping

/-- **What a call can do to the tables**: each of those behind it is one before it, rewritten. -/
theorem after_tables {call : ServiceCall}
    (h : rows ∈ (w.after policy complete call).database.tables) :
    ∃ before ∈ w.database.tables, call.Rewrites before rows := by
  unfold after at h
  split at h
  · rename_i c hcall
    exact Database.tables_of_change hcall h
  · refine ⟨rows, ?_, .same⟩
    -- a run leaves one of the tables that there are, whether it is recorded or not
    exact runWorkflow_keeps_database (P := fun db => db.tables ⊆ w.database.tables)
      (fun db table id values => List.Subset.trans (db.insertRecord_tables_subset table id values))
      (fun db max row => List.Subset.trans (db.recordRun_tables_subset max row))
      (fun db => List.Subset.trans fun _ => Database.tables_of_block) (List.Subset.refl _) _ _ _ _ h
  · refine ⟨rows, ?_, .same⟩
    exact simulate_keeps_database (P := fun db => db.tables ⊆ w.database.tables)
      (fun db table id values => List.Subset.trans (db.insertRecord_tables_subset table id values))
      (List.Subset.refl _) _ _ h

/-- What holds of an empty table, and is kept by the calls that are made, holds of every table
behind them. -/
theorem afterAll_tables {P : List ServiceCall → List WorkflowRow → Prop} (hempty : P [] [])
    (model : τ) (calls : List ServiceCall)
    (hstep : ∀ earlier call rows rows', (earlier ++ [call]) <+: calls → call.Rewrites rows rows' →
      P earlier rows → P (earlier ++ [call]) rows') :
    ∀ rows ∈ (afterAll policy complete calls { model := model }).database.tables, P calls rows := by
  -- by induction on the calls from the last one on
  induction calls using List.reverseRecOn with
  | nil =>
    intro rows hrows
    obtain rfl : rows = [] := by simpa [afterAll, Database.tables] using hrows
    exact hempty
  | append_singleton calls call ih =>
    intro rows hrows
    rw [afterAll, List.foldl_append] at hrows
    obtain ⟨before, hbefore, hrewrites⟩ := after_tables hrows
    have hearlier := ih (fun earlier call rows rows' hbegin =>
      hstep earlier call rows rows' (hbegin.trans (List.prefix_append calls _))) before hbefore
    exact hstep calls call before rows List.prefix_rfl hrewrites hearlier

end World

/-! ### What calls keep -/

namespace WorkflowRow

variable {row : WorkflowRow} {d : Document} {now : Moment}

/-- The name, the description and the tags of a row are those of its definition. -/
def Titled (row : WorkflowRow) : Prop :=
  ∀ d, row.document = .ok d →
    row.name = d.workflow.name ∧ row.description = d.workflow.description ∧
      row.tags = d.workflow.tags

/-- A row that is written from a document tells what the document tells. -/
theorem titled_of_accepted (h : d.Accepted) (hrow : row.definition = d.toJson)
    (hname : row.name = d.workflow.name) (hdescription : row.description = d.workflow.description)
    (htags : row.tags = d.workflow.tags) : row.Titled := by
  intro d' hd'
  obtain rfl := Except.ok.inj ((document_of_accepted h hrow).1.symm.trans hd')
  exact ⟨hname, hdescription, htags⟩

end WorkflowRow

namespace ServiceCall

variable {call : ServiceCall} {rows rows' : List WorkflowRow} {f : WorkflowRow → WorkflowRow}

theorem forall_of_map_if {P : WorkflowRow → Prop} {id : String} (hrows : ∀ row ∈ rows, P row)
    (hf : ∀ row ∈ rows, row.id = id → P (f row)) :
    ∀ row ∈ rows.map fun row => if row.id = id then f row else row, P row := by
  intro row hrow
  obtain ⟨old, hold, rfl⟩ := List.mem_map.mp hrow
  by_cases hname : old.id = id
  · rw [if_pos hname]
    exact hf old hold hname
  · rw [if_neg hname]
    exact hrows old hold

theorem map_id_map_if (hf : ∀ row, (f row).id = row.id) (id : String) :
    (rows.map fun row => if row.id = id then f row else row).map WorkflowRow.id =
      rows.map WorkflowRow.id := by
  rw [List.map_map]
  refine List.map_congr_left fun row _ => ?_
  by_cases hname : row.id = id <;> simp [hname, hf]

/-- Where every row has a property, and new and changed rows have it, every row behind has it. -/
theorem Rewrites.forall {P : WorkflowRow → Prop} (h : call.Rewrites rows rows')
    (hrows : ∀ row ∈ rows, P row)
    (hnew : ∀ d prompt, d.Accepted → P (.ofDocument d prompt call.now.moment))
    (hdocument : ∀ row ∈ rows, ∀ d, d.Accepted →
      ((∀ row ∈ rows, row.Sound) → d.workflow.id = row.id) →
        P (row.withDocument d call.now.moment))
    (htitles : ¬ call.request.Storable → ∀ row ∈ rows, ∀ d, P (row.withTitles d)) :
    ∀ row ∈ rows', P row := by
  cases h with
  | same => exact hrows
  | inserted d prompt haccepted =>
    intro row hrow
    rcases List.mem_append.mp hrow with hrow | hrow
    · exact hrows row hrow
    · rw [List.mem_singleton.mp hrow]
      exact hnew d prompt haccepted
  | replaced id d haccepted hid =>
    exact forall_of_map_if hrows fun old hold hname =>
      hdocument old hold d haccepted fun hsound => (hid hsound).trans hname.symm
  | retitled id d hstays =>
    exact forall_of_map_if hrows fun old hold _ => htitles hstays old hold d
  | removed id => exact fun row hrow => hrows row (List.mem_of_mem_filter hrow)

theorem Rewrites.sound (h : call.Rewrites rows rows') (hrows : ∀ row ∈ rows, row.Sound) :
    ∀ row ∈ rows', row.Sound :=
  h.forall hrows (fun _ _ haccepted => WorkflowRow.sound_of_accepted haccepted rfl rfl)
    (fun _ _ _ haccepted hid => WorkflowRow.sound_of_accepted haccepted rfl (hid hrows))
    (fun _ row hrow _ => hrows row hrow)

theorem Rewrites.titled (h : call.Rewrites rows rows') (hstorable : call.request.Storable)
    (hrows : ∀ row ∈ rows, row.Titled) : ∀ row ∈ rows', row.Titled :=
  h.forall hrows
    (fun _ _ haccepted => WorkflowRow.titled_of_accepted haccepted rfl rfl rfl rfl)
    (fun _ _ _ haccepted _ => WorkflowRow.titled_of_accepted haccepted rfl rfl rfl rfl)
    (fun hstays => absurd hstorable hstays)

/-- Rows that share no name are rewritten to such rows. -/
theorem Rewrites.nodup (h : call.Rewrites rows rows') (hrows : (rows.map WorkflowRow.id).Nodup) :
    (rows'.map WorkflowRow.id).Nodup := by
  cases h with
  | same => exact hrows
  | inserted d prompt haccepted hnew =>
    rw [List.map_append]
    refine List.nodup_append.mpr ⟨hrows, List.nodup_singleton _, fun name hname other hother => ?_⟩
    obtain ⟨row, hrow, rfl⟩ := List.mem_map.mp hname
    rw [List.mem_singleton.mp hother]
    exact hnew row hrow
  | replaced id d haccepted hid =>
    rwa [map_id_map_if (f := fun row => row.withDocument d call.now.moment) fun _ => rfl]
  | retitled id d hstays =>
    rwa [map_id_map_if (f := fun row => row.withTitles d) fun _ => rfl]
  | removed id => exact hrows.sublist (List.filter_sublist.map _)

/-- Rows that were put in by now and not changed before are rewritten to such rows. -/
theorem Rewrites.dated (h : call.Rewrites rows rows')
    (hrows : ∀ row ∈ rows, row.createdAt ≤ row.updatedAt ∧ row.createdAt ≤ call.now.moment) :
    ∀ row ∈ rows', row.createdAt ≤ row.updatedAt ∧ row.createdAt ≤ call.now.moment :=
  h.forall hrows (fun _ _ _ => ⟨Moment.le_refl _, Moment.le_refl _⟩)
    (fun row hrow _ _ _ => ⟨(hrows row hrow).2, (hrows row hrow).2⟩)
    (fun _ row hrow _ => hrows row hrow)

end ServiceCall

namespace World

variable {τ : Type} {policy : RunPolicy} {complete : Prompt → Effect τ String} {model : τ}
  {calls : List ServiceCall} {rows : List WorkflowRow}

/-- The world behind calls that are made on an empty database. -/
def behind (policy : RunPolicy) (complete : Prompt → Effect τ String) (model : τ)
    (calls : List ServiceCall) : World τ :=
  afterAll policy complete calls { model := model }

theorem sound_behind (hrows : rows ∈ (behind policy complete model calls).database.tables) :
    ∀ row ∈ rows, row.Sound :=
  afterAll_tables (P := fun _ rows => ∀ row ∈ rows, row.Sound)
    (fun _ hrow => absurd hrow List.not_mem_nil) model calls
    (fun _ _ _ _ _ hrewrites => hrewrites.sound) rows hrows

theorem nodup_behind (hrows : rows ∈ (behind policy complete model calls).database.tables) :
    (rows.map WorkflowRow.id).Nodup :=
  afterAll_tables (P := fun _ rows => (rows.map WorkflowRow.id).Nodup) List.nodup_nil model calls
    (fun _ _ _ _ _ hrewrites => hrewrites.nodup) rows hrows

theorem titled_behind (hstorable : ∀ call ∈ calls, call.request.Storable)
    (hrows : rows ∈ (behind policy complete model calls).database.tables) :
    ∀ row ∈ rows, row.Titled := by
  refine afterAll_tables (P := fun _ rows => ∀ row ∈ rows, row.Titled)
    (fun _ hrow => absurd hrow List.not_mem_nil) model calls
    (fun earlier call _ _ hbegin hrewrites => hrewrites.titled (hstorable call ?_)) rows hrows
  exact hbegin.subset (List.mem_append_right earlier (List.mem_singleton_self call))

theorem dated_behind (hclock : calls.Pairwise fun a b => a.now.moment ≤ b.now.moment)
    (hrows : rows ∈ (behind policy complete model calls).database.tables) :
    ∀ row ∈ rows, row.createdAt ≤ row.updatedAt := by
  -- a row was put in at the moment of one of the calls so far
  have hdated : ∀ row ∈ rows, row.createdAt ≤ row.updatedAt ∧
      ∀ moment, (∀ call ∈ calls, call.now.moment ≤ moment) → row.createdAt ≤ moment := by
    refine afterAll_tables (P := fun earlier rows => ∀ row ∈ rows, row.createdAt ≤ row.updatedAt ∧
      ∀ moment, (∀ call ∈ earlier, call.now.moment ≤ moment) → row.createdAt ≤ moment)
      (fun _ hrow => absurd hrow List.not_mem_nil) model calls ?_ rows hrows
    intro earlier call before after hbegin hrewrites hbefore
    have horder := hclock.sublist hbegin.sublist
    rw [List.pairwise_append] at horder
    have hnow : ∀ other ∈ earlier, other.now.moment ≤ call.now.moment :=
      fun other hother => horder.2.2 other hother call (List.mem_singleton_self call)
    have hafter := hrewrites.dated fun row hrow =>
      ⟨(hbefore row hrow).1, (hbefore row hrow).2 call.now.moment hnow⟩
    refine fun row hrow => ⟨(hafter row hrow).1, fun moment hmoment => ?_⟩
    exact Moment.le_trans (hafter row hrow).2
      (hmoment call (List.mem_append_right earlier (List.mem_singleton_self call)))
  exact fun row hrow => (hdated row hrow).1

/-- A document that keeps all rules gives a run, in whatever mode, unless a value in it is nested too
deeply to be copied. -/
theorem runDocument_cases (policy : RunPolicy) (complete : Prompt → Effect τ String) {d : Document}
    (h : d.workflow.Coherent) (mode id : String) (input : Json) (w : World τ) :
    (∃ run, (runDocument policy complete mode id d input w).1 = .ok run) ∨
      (runDocument policy complete mode id d input w).1 = .error (.fault (.data .copyTooDeep)) := by
  obtain ⟨run, hrun⟩ := h.exists_run (backend policy complete mode id) Listener.silent w.issue.1
    input w.issue.2
  have hmapped : (runDocument policy complete mode id d input w).1 =
      (d.workflow.run NodeType.all (backend policy complete mode id) Listener.silent
        (Json.isWithin policy.copyLevels) w.issue.1 input w.issue.2).1.mapError runFailure := rfl
  rw [hmapped, hrun]
  split
  · exact .inl ⟨run, rfl⟩
  · exact .inr rfl

/-- Where all rows are sound, a run under the name of a row can always begin: it is refused only
while a change has failed, or when there have been as many in the month as there may be, and else a
value in it is nested too deeply or the record of it is at fault. -/
theorem error_of_runWorkflow {w w' : World τ} {row : WorkflowRow}
    (hrow : row ∈ w.database.workflows) (hsound : ∀ row ∈ w.database.workflows, row.Sound)
    {now : Stamp} {input : Json} {asked : Option String} {e : ServiceError}
    (h : w.runWorkflow policy complete now row.id input asked = (.error e, w')) :
    e = .blocked ∨ e = .limitReached policy.monthlyLimit now.monthStart ∨ ∃ f, e = .fault f := by
  cases hblocked : w.database.isBlocked with
  | true =>
    have hunread := Database.stored_of_isBlocked hblocked row.id
    cases runWorkflow_outcome h with
    | unread e hstored => exact .inl (Except.error.inj (hstored.symm.trans hunread))
    | exhausted s hstored => exact absurd (hstored.symm.trans hunread) (by simp)
    | unstarted s e w' hstored => exact absurd (hstored.symm.trans hunread) (by simp)
    | ended s run mid w' result hstored => exact absurd (hstored.symm.trans hunread) (by simp)
  | false =>
    obtain ⟨s, hread, hcheck⟩ := Database.exists_stored hblocked hrow hsound
    cases runWorkflow_outcome h with
    | unread e hstored => exact absurd (hread.symm.trans hstored) (by simp)
    | exhausted => exact .inr (.inl rfl)
    | unstarted s' e w' hstored hrun =>
      -- a run of the document ends, if it can be copied
      obtain rfl := Except.ok.inj (hread.symm.trans hstored)
      have hended := runDocument_cases policy complete (Document.check_eq_ok_iff.mp hcheck).2
        (chosenMode policy asked) row.id input w
      rw [hrun] at hended
      rcases hended with ⟨run, hended⟩ | hended
      · cases hended
      · exact .inr (.inr ⟨_, Except.error.inj hended⟩)
    | ended s' run mid w' result hstored hmay hrun hrecord =>
      -- so that only the record of it is left to go wrong
      exact .inr (.inr (record_eq_error hrecord))

/-- **What holds of every row, whatever was called.**  Behind calls of the services on an empty
database, with whatever data and a language model that may answer anything: the definition of every
row keeps all rules and is a document of the name of the row, and no two rows share a name.  By a
clock that does not go back, no row was changed before it was put in.  If no document was to come in
the place of another that cannot leave, every row tells the name, the description and the tags of
its definition.  And a run of a stored workflow is not refused for its document. -/
theorem stored_of_calls (policy : RunPolicy) (complete : Prompt → Effect τ String) (model : τ)
    (calls : List ServiceCall) (w : World τ) (hw : behind policy complete model calls = w) :
    (∀ row ∈ w.database.workflows, row.Sound) ∧
    (w.database.workflows.map WorkflowRow.id).Nodup ∧
    (calls.Pairwise (fun a b => a.now.moment ≤ b.now.moment) →
      ∀ row ∈ w.database.workflows, row.createdAt ≤ row.updatedAt) ∧
    ((∀ call ∈ calls, call.request.Storable) → ∀ row ∈ w.database.workflows, row.Titled) ∧
    ∀ row ∈ w.database.workflows, ∀ now input asked e w',
      w.runWorkflow policy complete now row.id input asked = (.error e, w') →
        e = .blocked ∨ e = .limitReached policy.monthlyLimit now.monthStart ∨
          ∃ f, e = .fault f := by
  subst hw
  have hpresent := Database.workflows_mem_tables (behind policy complete model calls).database
  have hsound := sound_behind hpresent
  exact ⟨hsound, nodup_behind hpresent, fun hclock => dated_behind hclock hpresent,
    fun hstorable => titled_behind hstorable hpresent,
    fun row hrow now input asked e w' => error_of_runWorkflow hrow hsound⟩

/-- The document of a workflow in which nothing is done, under another name for people. -/
def renamed (id name : String) : Document :=
  ⟨{ (idle id).workflow with name := name }⟩

/-- A workflow is stored, another document comes in its place, a command adds to it, and it is
run. -/
def renamings : List ServiceCall := [
  ⟨january 0, .change (.create (idle "wf_a").toJson .null)⟩,
  ⟨january 1, .change (.update "wf_a" (renamed "wf_a" "New").toJson)⟩,
  ⟨january 2, .change (.edit "wf_a" (.str "add delay 5 seconds"))⟩,
  ⟨january 3, .run "wf_a" .null none⟩]

theorem storable_renamings : ∀ call ∈ renamings, call.request.Storable := by
  intro call hcall
  simp only [renamings, List.mem_cons, List.not_mem_nil, or_false] at hcall
  rcases hcall with rfl | rfl | rfl | rfl
  · trivial
  · intro d hd
    have hleave : (renamed "wf_a" "New").CanLeave := (Document.serialize_eq_ok.mp rfl).1
    rw [Document.eq_finite_of_check_toJson hd]
    exact hleave.finite
  · trivial
  · trivial

/-- Behind these calls there is one row, with the name of the other document; and where one run is
allowed in a month, it is for this that another one is refused. -/
theorem stored_of_calls_renamings :
    (behind (tight 1) (fun _ => pure "") () renamings).database.workflows.map
      (fun row => (row.id, row.name, row.updatedAt)) = [("wf_a", "New", (january 2).moment)] ∧
    (∀ row ∈ (behind (tight 1) (fun _ => pure "") () renamings).database.workflows,
      row.Sound ∧ row.createdAt ≤ row.updatedAt ∧ row.Titled) ∧
    ∃ e w', (behind (tight 1) (fun _ => pure "") () renamings).runWorkflow (tight 1)
        (fun _ => pure "") (january 4) "wf_a" .null none = (.error e, w') ∧
      (e = .blocked ∨ e = .limitReached 1 (january 4).monthStart ∨ ∃ f, e = .fault f) := by
  obtain ⟨hsound, -, hdated, htitled, hruns⟩ :=
    stored_of_calls (tight 1) (fun _ => pure "") () renamings _ rfl
  have hrows : (behind (tight 1) (fun _ => pure "") () renamings).database.workflows.map
      (fun row => (row.id, row.name, row.updatedAt)) = [("wf_a", "New", (january 2).moment)] := by
    decide +kernel
  have hrefused : ((behind (tight 1) (fun _ => pure "") () renamings).runWorkflow (tight 1)
      (fun _ => pure "") (january 4) "wf_a" .null none).1.isOk = false := by
    decide +kernel
  refine ⟨hrows, fun row hrow => ⟨hsound row hrow, hdated (by decide) row hrow,
    htitled storable_renamings row hrow⟩, ?_⟩
  obtain ⟨row, hworkflows, hrow⟩ := List.map_eq_singleton_iff.mp hrows
  have hid : row.id = "wf_a" := (Prod.mk.inj hrow).1
  rcases hrun : (behind (tight 1) (fun _ => pure "") () renamings).runWorkflow (tight 1)
      (fun _ => pure "") (january 4) "wf_a" .null none with ⟨e | run, w'⟩
  · exact ⟨e, w', rfl, hruns row (hworkflows ▸ List.mem_singleton_self row) (january 4) .null none e
      w' (hid ▸ hrun)⟩
  · rw [hrun] at hrefused
    exact absurd hrefused (by simp [Except.isOk, Except.toBool])

/-! ### A row that is mistitled -/

/-- The document of a workflow in which nothing is done, nested too deeply to leave. -/
def deep (id name : String) : Document :=
  ⟨{ (renamed id name).workflow with freeData := [("deep", .nested 300)] }⟩

/-- A workflow is stored, a document that cannot leave is to come in its place, and it is run. -/
def spoiling : List ServiceCall := [
  ⟨january 0, .change (.create (idle "wf_a").toJson .null)⟩,
  ⟨january 1, .change (.update "wf_a" (deep "wf_a" "New").toJson)⟩,
  ⟨january 2, .run "wf_a" .null none⟩]

/-- **A row that is mistitled**: behind these calls a row has the name of a document that it does
not hold, and that it does is lasting. -/
theorem stored_mistitled :
    (behind {} (fun _ => pure "") () spoiling).database.lasting.isNone ∧
      ¬ ∀ row ∈ (behind {} (fun _ => pure "") () spoiling).database.workflows, row.Titled := by
  refine ⟨by decide +kernel, fun htitled => ?_⟩
  have hnames : (behind {} (fun _ => pure "") () spoiling).database.workflows.map
      (fun row => (row.name, row.document.toOption.map fun d => d.workflow.name)) =
        [("New", some "wf_a")] := by
    decide +kernel
  obtain ⟨row, hrows, hrow⟩ := List.map_eq_singleton_iff.mp hnames
  obtain ⟨hname, hdocument⟩ := Prod.mk.inj hrow
  cases hread : row.document with
  | error errors => simp [hread, Except.toOption] at hdocument
  | ok d =>
    -- the row would have the name of the document that it holds
    have hagrees := (htitled row (hrows ▸ List.mem_singleton_self row) d hread).1
    have hheld : d.workflow.name = "wf_a" := by simpa [hread, Except.toOption] using hdocument
    rw [hname, hheld] at hagrees
    exact absurd hagrees (by decide)

end World
end Flowgraph
