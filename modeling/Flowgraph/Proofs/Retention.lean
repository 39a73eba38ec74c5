import Flowgraph.Store.Runs
import Mathlib.Data.List.DropRight

/-!
# The runs that are kept

Runs are put in at the end of their table, so that a table whose clock does not go back holds them
in the order of time, and the latest runs are the last ones.  Keeping some runs takes others out of
the table and never touches the last ones.  A run is taken out by its name, so that exactly the last
ones are left where no two runs have one name.

## Main definitions

* `Database.Chronological` — the runs stand in the order of time.

## Main results

* `Database.rtake_suffix_keepRuns` — as many of the last runs as are to be kept are kept.
* `Database.recordRun_eq_ok` — **what recording a run does to the table of runs.**
* `Database.keepRuns_eq_rtake` — keeping some runs of different names keeps exactly the last ones.
* `Database.recordRun_eq_rtake` — **one run more, where the table holds the last ones.**
-/

namespace List

variable {α β : Type} {p : α → Bool}

/-- What holds of a last part of a list is not filtered out of it. -/
theorem suffix_filter_of_suffix {l₁ l₂ : List α} (h : l₁ <:+ l₂) (hp : ∀ a ∈ l₁, p a = true) :
    l₁ <:+ l₂.filter p := by
  have hfilter := h.filter p
  rwa [filter_eq_self.mpr hp] at hfilter

/-- Where no two members of a list have one key, a last part of it is what has the keys of that
part. -/
theorem filter_key_eq_of_suffix [DecidableEq β] {key : α → β} {part l : List α} (h : part <:+ l)
    (hnodup : (l.map key).Nodup) {keys : List β} (hkeys : ∀ b, b ∈ keys ↔ b ∈ part.map key) :
    l.filter (fun a => keys.contains (key a)) = part := by
  obtain ⟨front, rfl⟩ := h
  rw [map_append, nodup_append] at hnodup
  have hfront : front.filter (fun a => keys.contains (key a)) = [] := by
    refine filter_eq_nil_iff.mpr fun a ha hmem => ?_
    have hpart := (hkeys (key a)).mp (contains_iff_mem.mp hmem)
    exact hnodup.2.2 _ (mem_map_of_mem ha) _ hpart rfl
  have hpart : part.filter (fun a => keys.contains (key a)) = part := by
    refine filter_eq_self.mpr fun a ha => ?_
    exact contains_iff_mem.mpr ((hkeys (key a)).mpr (mem_map_of_mem ha))
  rw [filter_append, hfront, hpart, nil_append]

theorem length_rtake (l : List α) (n : Nat) : (l.rtake n).length = min l.length n := by
  rw [rtake, length_drop]
  omega

theorem rtake_suffix (l : List α) (n : Nat) : l.rtake n <:+ l :=
  drop_suffix _ _

theorem rtake_of_length_le {l : List α} {n : Nat} (h : l.length ≤ n) : l.rtake n = l := by
  rw [rtake, Nat.sub_eq_zero_of_le h, drop_zero]

/-- The last members of a list with one more are found among the last ones before it. -/
theorem rtake_rtake_concat (l : List α) (a : α) (n : Nat) :
    (l.rtake n ++ [a]).rtake n = (l ++ [a]).rtake n := by
  -- both are last parts of the whole list, and equally long
  have hsuffix : (l.rtake n ++ [a]).rtake n <:+ l ++ [a] :=
    (rtake_suffix _ n).trans (suffix_append_self_iff.mpr (rtake_suffix l n))
  have hlength : ((l.rtake n ++ [a]).rtake n).length = ((l ++ [a]).rtake n).length := by
    rw [length_rtake, length_rtake, length_append, length_append, length_rtake, length_singleton]
    omega
  exact (suffix_of_suffix_length_le hsuffix (rtake_suffix _ n) (Nat.le_of_eq hlength)).eq_of_length
    hlength

end List

namespace Flowgraph.Database

variable {db : Database} {row : RunRow} {made : List RunRow}

/-- The runs of a table stand in the order of time. -/
def Chronological (runs : List RunRow) : Prop :=
  runs.Pairwise fun a b => a.createdAt ≤ b.createdAt

theorem Chronological.snoc {runs : List RunRow} (h : Chronological runs)
    (hlatest : ∀ earlier ∈ runs, earlier.createdAt ≤ row.createdAt) :
    Chronological (runs ++ [row]) :=
  List.pairwise_append.mpr ⟨h, List.pairwise_singleton _ _, fun earlier hearlier _ hlast =>
    List.mem_singleton.mp hlast ▸ hlatest earlier hearlier⟩

/-- In the order of time, the latest run is the last one. -/
theorem allRuns_eq_reverse (h : Chronological db.runs) : db.allRuns = db.runs.reverse := by
  refine List.mergeSort_of_pairwise (List.pairwise_reverse.mpr ?_)
  exact List.Pairwise.imp (fun hle => decide_eq_true hle) h

theorem keepRuns_sublist (db : Database) (max : Int) :
    (db.keepRuns max).runs.Sublist db.runs :=
  List.filter_sublist

/-- As many of the last runs as are to be kept are kept. -/
theorem rtake_suffix_keepRuns (h : Chronological db.runs) (max : Nat) :
    db.runs.rtake max <:+ (db.keepRuns max).runs := by
  refine List.suffix_filter_of_suffix (List.rtake_suffix _ _) fun row hrow => ?_
  rw [List.rtake_eq_reverse_take_reverse, List.mem_reverse] at hrow
  rw [allRuns_eq_reverse h, keepFirst, if_pos (Int.natCast_nonneg max), Int.toNat_natCast,
    List.contains_iff_mem]
  exact List.mem_map_of_mem hrow

/-- With a number of runs to be kept, nothing stands in the way of keeping only so many. -/
theorem retainRuns_int (db : Database) (max : Nat) :
    db.retainRuns (.int max) = .ok (if max < db.runs.length then db.keepRuns max else db) := by
  by_cases hfull : max < db.runs.length <;>
    simp [retainRuns, Json.isBelow, Json.cut, hfull, bind, Except.bind, pure, Except.pure]

/-- As many of the last runs as are to be kept are kept, and nothing but runs is taken out. -/
theorem retainRuns_eq_ok (db : Database) (h : Chronological db.runs) (max : Nat) :
    ∃ runs, db.retainRuns (.int max) = .ok { db with runs := runs } ∧
      db.runs.rtake max <:+ runs ∧ runs.Sublist db.runs := by
  rw [retainRuns_int]
  split
  · exact ⟨_, rfl, rtake_suffix_keepRuns h max, keepRuns_sublist db max⟩
  · exact ⟨_, rfl, List.rtake_suffix _ _, List.Sublist.refl _⟩

/-- **Recording a run** that is not earlier than those before it puts it at the end, and takes some
runs out of the table but none of the last ones.  The changes are made lasting, and nothing else
is changed. -/
theorem recordRun_eq_ok (h : Chronological (db.runs ++ [row])) (max : Nat) :
    ∃ runs, db.recordRun (.int max) row = (.ok (), { db.keepChanges with runs := runs }) ∧
      (db.runs ++ [row]).rtake max <:+ runs ∧ runs.Sublist (db.runs ++ [row]) := by
  obtain ⟨runs, hretained, hlast, hsub⟩ :=
    retainRuns_eq_ok (keepChanges { db with runs := db.runs ++ [row] }) h max
  refine ⟨runs, ?_, hlast, hsub⟩
  rw [recordRun, hretained]
  rfl

/-! ### Runs of different names -/

/-- Keeping some runs keeps exactly the last ones. -/
theorem keepRuns_eq_rtake (horder : Chronological db.runs)
    (hids : (db.runs.map fun row => row.run.id).Nodup) (max : Nat) :
    db.keepRuns max = { db with runs := db.runs.rtake max } := by
  have hkept : keepFirst (max : Int) db.allRuns = (db.runs.rtake max).reverse := by
    rw [allRuns_eq_reverse horder, keepFirst, if_pos (Int.natCast_nonneg max), Int.toNat_natCast,
      List.rtake_eq_reverse_take_reverse, List.reverse_reverse]
  rw [keepRuns, hkept]
  refine congrArg (fun runs => { db with runs := runs }) ?_
  exact List.filter_key_eq_of_suffix (List.rtake_suffix db.runs max) hids fun id => by
    rw [List.map_reverse, List.mem_reverse]

theorem retainRuns_eq_rtake (horder : Chronological db.runs)
    (hids : (db.runs.map fun row => row.run.id).Nodup) (max : Nat) :
    db.retainRuns (.int max) = .ok { db with runs := db.runs.rtake max } := by
  rw [retainRuns_int]
  split
  · rw [keepRuns_eq_rtake horder hids]
  · rename_i hroom
    rw [List.rtake_of_length_le (Nat.le_of_not_lt hroom)]

/-- **One run more, where the table holds the last of the runs that were made**: it holds the last
ones still, and nothing else is changed but that changes are made lasting. -/
theorem recordRun_eq_rtake {max : Nat} (hruns : db.runs = made.rtake max)
    (horder : Chronological (made ++ [row]))
    (hids : ((made ++ [row]).map fun row => row.run.id).Nodup) :
    db.recordRun (.int max) row =
      (.ok (), { db.keepChanges with runs := (made ++ [row]).rtake max }) := by
  have hsub : (db.runs ++ [row]).Sublist (made ++ [row]) := by
    rw [hruns]
    exact (List.rtake_suffix made max).sublist.append_right [row]
  have hretained := @retainRuns_eq_rtake (keepChanges { db with runs := db.runs ++ [row] })
    (List.Pairwise.sublist hsub horder) (hids.sublist (hsub.map _)) max
  rw [recordRun, hretained]
  simp only [keepChanges, hruns, List.rtake_rtake_concat]

/-- Where one run is to be kept, a later one takes the place of the one that is there. -/
theorem recordRun_one {first : RunRow} (hruns : db.runs = [first])
    (hle : first.createdAt ≤ row.createdAt) (hne : first.run.id ≠ row.run.id) :
    db.recordRun (.int (1 : Nat)) row = (.ok (), { db.keepChanges with runs := [row] }) := by
  have hmade : db.runs = [first].rtake 1 := hruns
  exact recordRun_eq_rtake hmade (List.pairwise_pair.mpr hle) (by simpa using hne)

end Flowgraph.Database
