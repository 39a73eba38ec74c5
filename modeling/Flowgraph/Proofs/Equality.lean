import Flowgraph.Json.Equality
import Flowgraph.Proofs.Rounding
import Mathlib.Data.List.Nodup
import Mathlib.Data.List.Perm.Subperm
import Mathlib.Tactic.SplitIfs

/-!
# What it is for two values to be equal

Two values are equal if they are of one kind and have equal parts: lists item by item, objects field
by field, numbers by their exact size.  A truth value is equal to no number.

The comparison of whole values keeps to that where it looks at a value as a whole.  Inside lists and
objects it takes truth values for the numbers zero and one, so that it finds some values equal that
are not.  This is the only way for it to go wrong.

## Main definitions

* `Json.Equal` — two values are equal.
* `Json.Clash` — a truth value in one of them stands where something else stands in the other.

## Main results

* `Json.equal_iff_strictEquals` — **values are equal exactly if they are found equal and no truth
  value in one of them stands where something else stands in the other.**
* `Json.strictEquals_clash` — without the second condition they need not be.
-/

namespace Flowgraph

/-- The exact size of a number. -/
inductive Quantity where
  /-- A finite one; the two zeros are one. -/
  | finite (value : Dyadic)
  /-- An infinite one, and whether it is negative. -/
  | infinite (negative : Bool)
deriving DecidableEq

/-- The exact size of a number of double precision; `nan` has none. -/
def Double.quantity? : Double → Option Quantity
  | finite v => some (.finite v)
  | negZero => some (.finite 0)
  | infinite s => some (.infinite s)
  | nan _ => none

namespace Json

/-- The exact size of a value that is a number. -/
def quantity? : Json → Option Quantity
  | int n => some (.finite (.ofInt n))
  | float x => x.quantity?
  | _ => none

/-- Whether a value is a truth value. -/
def isBool : Json → Bool
  | bool _ => true
  | _ => false

/-- No number in a value is `nan`. -/
inductive NaNFree : Json → Prop where
  /-- The absent value. -/
  | null : NaNFree null
  /-- A truth value. -/
  | bool (b : Bool) : NaNFree (bool b)
  /-- An integer. -/
  | int (n : Int) : NaNFree (int n)
  /-- A number of double precision that is none. -/
  | float (x : Double) (h : x.isNaN = false) : NaNFree (float x)
  /-- A text. -/
  | str (s : String) : NaNFree (str s)
  /-- A list without one in its items. -/
  | arr (items : List Json) (h : ∀ x ∈ items, NaNFree x) : NaNFree (arr items)
  /-- An object without one in its fields. -/
  | obj (fields : Fields) (h : ∀ field ∈ fields, NaNFree field.2) : NaNFree (obj fields)

/-- Two values are of one kind and have equal parts. -/
inductive Equal : Json → Json → Prop where
  /-- The absent value. -/
  | null : Equal null null
  /-- A truth value. -/
  | bool (b : Bool) : Equal (bool b) (bool b)
  /-- Two numbers of one size. -/
  | number (a b : Json) (q : Quantity) (ha : a.quantity? = some q) (hb : b.quantity? = some q) :
      Equal a b
  /-- A text. -/
  | str (s : String) : Equal (str s) (str s)
  /-- Lists of one length, with equal items in every place. -/
  | arr (xs ys : List Json) (hlength : xs.length = ys.length)
      (hitems : ∀ (i : Nat) x y, xs[i]? = some x → ys[i]? = some y → Equal x y) :
      Equal (arr xs) (arr ys)
  /-- Objects with the same names, and equal values under every name. -/
  | obj (fs gs : Fields) (hnames : ∀ name, fs.has name = gs.has name)
      (hfields : ∀ name x y, fs.get? name = some x → gs.get? name = some y → Equal x y) :
      Equal (obj fs) (obj gs)

/-- A truth value in one of two values stands where something else stands in the other. -/
inductive Clash : Json → Json → Prop where
  /-- One of them is a truth value. -/
  | here (a b : Json) (h : a.isBool ≠ b.isBool) : Clash a b
  /-- It is in an item. -/
  | item (xs ys : List Json) (i : Nat) (x y : Json) (hx : xs[i]? = some x) (hy : ys[i]? = some y)
      (h : Clash x y) : Clash (arr xs) (arr ys)
  /-- It is in a field. -/
  | field (fs gs : Fields) (name : String) (x y : Json) (hx : fs.get? name = some x)
      (hy : gs.get? name = some y) (h : Clash x y) : Clash (obj fs) (obj gs)

variable {a b x : Json} {xs ys items : List Json} {fs gs fields : Fields} {name : String}
  {p q : Quantity}

/-! ### Parts of lists and objects -/

theorem WellFormedItems.of_mem (h : WellFormedItems items) (hx : x ∈ items) : x.WellFormed := by
  induction items with
  | nil => cases hx
  | cons item items ih =>
    rcases List.mem_cons.mp hx with rfl | hx
    · exact h.1
    · exact ih h.2 hx

theorem WellFormedFields.of_mem (h : WellFormedFields fields) (hx : (name, x) ∈ fields) :
    x.WellFormed := by
  induction fields with
  | nil => cases hx
  | cons field fields ih =>
    rcases List.mem_cons.mp hx with rfl | hx
    · exact h.1
    · exact ih h.2 hx

/-- Lists are found equal if they are so item by item. -/
theorem sameItems_iff : sameItems xs ys = true ↔ xs.length = ys.length ∧
    ∀ (i : Nat) x y, xs[i]? = some x → ys[i]? = some y → same x y = true := by
  induction xs generalizing ys with
  | nil => cases ys <;> simp [sameItems]
  | cons x xs ih =>
    cases ys with
    | nil => simp [sameItems]
    | cons y ys =>
      rw [sameItems, Bool.and_eq_true, ih, List.length_cons, List.length_cons,
        Nat.add_right_cancel_iff]
      constructor
      · rintro ⟨hhead, hlength, hitems⟩
        refine ⟨hlength, fun i x' y' hx hy => ?_⟩
        cases i with
        | zero =>
          obtain rfl := Option.some.inj hx
          obtain rfl := Option.some.inj hy
          exact hhead
        | succ i => exact hitems i x' y' hx hy
      · rintro ⟨hlength, hitems⟩
        exact ⟨hitems 0 x y rfl rfl, hlength, fun i => hitems (i + 1)⟩

/-- The fields of an object are found in another if each of them is. -/
theorem sameFields_iff : sameFields fs gs = true ↔
    ∀ field ∈ fs, ∃ y, Fields.get? gs field.1 = some y ∧ same field.2 y = true := by
  induction fs with
  | nil => simp [sameFields]
  | cons field fs ih =>
    rw [sameFields, Bool.and_eq_true, ih, List.forall_mem_cons]
    cases Fields.get? gs field.1 <;> simp

end Json

namespace Fields

variable {fs gs fields : Fields} {name : String} {x : Json}

theorem mem_of_get? (h : get? fields name = some x) : (name, x) ∈ fields := by
  induction fields with
  | nil => cases h
  | cons field fields ih =>
    rw [get?_cons] at h
    split_ifs at h with hname
    · obtain rfl := Option.some.inj h
      exact hname ▸ List.mem_cons_self
    · exact List.mem_cons_of_mem field (ih h)

/-- A field is found under its name, the name being its alone. -/
theorem get?_of_mem (hnodup : (fields.map Prod.fst).Nodup) (h : (name, x) ∈ fields) :
    get? fields name = some x := by
  induction fields with
  | nil => cases h
  | cons field fields ih =>
    rw [List.map_cons, List.nodup_cons] at hnodup
    rw [get?_cons]
    rcases List.mem_cons.mp h with rfl | h
    · rw [if_pos rfl]
    · have hname : field.1 ≠ name := fun hname =>
        hnodup.1 (hname ▸ List.mem_map.mpr ⟨_, h, rfl⟩)
      rw [if_neg hname, ih hnodup.2 h]

theorem has_iff : has fields name = true ↔ name ∈ fields.map Prod.fst := by
  induction fields with
  | nil => simp [has]
  | cons field fields ih =>
    obtain ⟨key, value⟩ := field
    rw [List.map_cons, List.mem_cons, ← ih, has, has, get?_cons]
    by_cases hname : key = name
    · simp [hname]
    · simp [hname, Ne.symm hname]

/-- Of two objects with as many fields, one has the names of the other if it has them all. -/
theorem names_perm (hnodup : (fs.map Prod.fst).Nodup) (hlength : fs.length = gs.length)
    (hsub : ∀ field ∈ fs, has gs field.1 = true) : (fs.map Prod.fst).Perm (gs.map Prod.fst) := by
  have hsubset : fs.map Prod.fst ⊆ gs.map Prod.fst := by
    intro name hname
    obtain ⟨field, hfield, rfl⟩ := List.mem_map.mp hname
    exact has_iff.mp (hsub field hfield)
  refine (hnodup.subperm hsubset).perm_of_length_le ?_
  rw [List.length_map, List.length_map, hlength]

end Fields

/-! ### Numbers -/

namespace Double

variable {x y : Double} {p q : Quantity}

theorem quantity?_eq_finite {v : Dyadic} :
    x.quantity? = some (.finite v) ↔ x.value? = some v := by
  cases x <;> simp [quantity?, value?]

theorem quantity?_eq_infinite {s : Bool} :
    x.quantity? = some (.infinite s) ↔ x = .infinite s := by
  cases x <;> simp [quantity?]

theorem exists_quantity (h : x.isNaN = false) : ∃ p, x.quantity? = some p := by
  cases x with
  | nan origin => cases h
  | _ => exact ⟨_, rfl⟩

/-- What is equal to a number in the arithmetic is a number of its size. -/
theorem eq_iff (hx : x.quantity? = some p) : x.eq y = true ↔ y.quantity? = some p := by
  cases p with
  | finite v =>
    rw [quantity?_eq_finite] at hx ⊢
    cases hy : y.value? with
    | some w => rw [eq_of_value hx hy, decide_eq_true_iff, Option.some.injEq, eq_comm]
    | none => cases x <;> cases hx <;> cases y <;> cases hy <;> simp [eq]
  | infinite s =>
    obtain rfl := quantity?_eq_infinite.mp hx
    cases y with
    | infinite t => simpa [eq, quantity?] using eq_comm
    | _ => simp [eq, quantity?]

theorem eqInt_iff {n : Int} : x.eqInt n = true ↔ x.quantity? = some (.finite (.ofInt n)) := by
  cases x <;> simp [eqInt, value?, quantity?]

end Double

namespace Json

variable {a b x : Json} {xs ys items : List Json} {fs gs fields : Fields} {name : String}
  {p q : Quantity}

/-- Objects are found equal if they have the same names, and equal values under every name. -/
theorem same_obj_iff (hfs : (fs.map Prod.fst).Nodup) (hgs : (gs.map Prod.fst).Nodup) :
    same (obj fs) (obj gs) = true ↔ (∀ name, fs.has name = gs.has name) ∧
      ∀ name x y, fs.get? name = some x → gs.get? name = some y → same x y = true := by
  rw [same, Bool.and_eq_true, beq_iff_eq, sameFields_iff]
  constructor
  · rintro ⟨hlength, hfields⟩
    have hperm : (fs.map Prod.fst).Perm (gs.map Prod.fst) := by
      refine Fields.names_perm hfs hlength fun field hfield => ?_
      obtain ⟨y, hy, -⟩ := hfields field hfield
      rw [Fields.has, hy, Option.isSome_some]
    refine ⟨fun name => ?_, fun name x y hx hy => ?_⟩
    · rw [Bool.eq_iff_iff, Fields.has_iff, Fields.has_iff, hperm.mem_iff]
    · obtain ⟨y', hy', hsame⟩ := hfields (name, x) (Fields.mem_of_get? hx)
      obtain rfl := Option.some.inj (hy'.symm.trans hy)
      exact hsame
  · rintro ⟨hnames, hfields⟩
    have hperm : (fs.map Prod.fst).Perm (gs.map Prod.fst) := by
      rw [List.perm_ext_iff_of_nodup hfs hgs]
      exact fun name => by rw [← Fields.has_iff, hnames, Fields.has_iff]
    refine ⟨by simpa using hperm.length_eq, fun ⟨name, x⟩ hfield => ?_⟩
    have hx : fs.get? name = some x := Fields.get?_of_mem hfs hfield
    have hhas : gs.has name = true := by rw [← hnames, Fields.has, hx, Option.isSome_some]
    obtain ⟨y, hy⟩ := Option.isSome_iff_exists.mp hhas
    exact ⟨y, hy, hfields name x y hx hy⟩

/-- A number is compared with numbers, and truth values are taken for some. -/
theorem same_of_quantity (ha : a.quantity? = some p) :
    same a b = (sameNumbers a b.boolAsInt).getD false := by
  cases a with
  | int n => cases b <;> rfl
  | float x =>
    cases x with
    | nan origin => cases ha
    | _ =>
      cases b with
      | float y => cases y <;> rfl
      | _ => rfl
  | _ => cases ha

/-- What is found equal to a number is one of its size, or a truth value that is taken for it. -/
theorem same_iff_of_quantity (ha : a.quantity? = some p) :
    same a b = true ↔ b.boolAsInt.quantity? = some p := by
  rw [same_of_quantity ha]
  generalize b.boolAsInt = b
  cases a with
  | int m =>
    obtain rfl := Option.some.inj ha
    cases b with
    | int n => simpa [sameNumbers, quantity?, Double.ofInt_inj] using eq_comm
    | float y => exact Double.eqInt_iff
    | _ => simp [sameNumbers, quantity?]
  | float x =>
    have hx : x.quantity? = some p := ha
    cases b with
    | int n =>
      rw [sameNumbers, Option.getD_some, Double.eqInt_iff, hx]
      exact eq_comm
    | float y => exact Double.eq_iff hx
    | _ => simp [sameNumbers, quantity?]
  | _ => cases ha

/-! ### Equal values -/

theorem not_isBool_of_quantity (ha : a.quantity? = some p) : a.isBool = false := by
  cases a <;> first | rfl | cases ha

theorem boolAsInt_of_not_isBool (ha : a.isBool = false) : a.boolAsInt = a := by
  cases a <;> first | rfl | cases ha

/-- Equal values are found equal. -/
theorem same_of_equal (h : Equal a b) (ha : a.WellFormed) (hb : b.WellFormed) :
    same a b = true := by
  induction h with
  | null => rfl
  | bool b => simp [same, sameAtoms, sameNumbers, boolAsInt]
  | number a b q hqa hqb =>
    rwa [same_iff_of_quantity hqa, boolAsInt_of_not_isBool (not_isBool_of_quantity hqb)]
  | str s => simp [same, sameAtoms, boolAsInt]
  | arr xs ys hlength hitems ih =>
    rw [same, sameItems_iff]
    refine ⟨hlength, fun i x y hx hy => ih i x y hx hy ?_ ?_⟩
    · exact WellFormedItems.of_mem ha (List.mem_of_getElem? hx)
    · exact WellFormedItems.of_mem hb (List.mem_of_getElem? hy)
  | obj fs gs hnames hfields ih =>
    rw [same_obj_iff ha.1 hb.1]
    refine ⟨hnames, fun name x y hx hy => ih name x y hx hy ?_ ?_⟩
    · exact WellFormedFields.of_mem ha.2 (Fields.mem_of_get? hx)
    · exact WellFormedFields.of_mem hb.2 (Fields.mem_of_get? hy)

/-- Equal values are truth values both, or none of them is. -/
theorem isBool_of_equal (h : Equal a b) : a.isBool = b.isBool := by
  cases h with
  | number a b q ha hb => rw [not_isBool_of_quantity ha, not_isBool_of_quantity hb]
  | _ => rfl

/-- No truth value in one of two equal values stands where something else stands in the other. -/
theorem not_clash_of_equal (h : Equal a b) : ¬ Clash a b := by
  intro hclash
  induction hclash with
  | here a b hbool => exact hbool (isBool_of_equal h)
  | item xs ys i x y hx hy _ ih =>
    cases h with
    | number _ _ q ha _ => cases ha
    | arr _ _ _ hitems => exact ih (hitems i x y hx hy)
  | field fs gs name x y hx hy _ ih =>
    cases h with
    | number _ _ q ha _ => cases ha
    | obj _ _ _ hfields => exact ih (hfields name x y hx hy)

/-- A number that is found equal to a value is equal to it, if that is no truth value. -/
theorem equal_of_quantity (ha : a.quantity? = some p) (h : same a b = true)
    (hclash : ¬ Clash a b) : Equal a b := by
  have hbool : b.isBool = false := by
    rw [← not_isBool_of_quantity ha]
    exact (not_not.mp fun hbool => hclash (.here a b hbool)).symm
  rw [same_iff_of_quantity ha, boolAsInt_of_not_isBool hbool] at h
  exact .number a b p ha h

/-- Values that are found equal are so, if no truth value is taken for a number. -/
theorem equal_of_same (hnan : a.NaNFree) (ha : a.WellFormed) (hb : b.WellFormed)
    (h : same a b = true) (hclash : ¬ Clash a b) : Equal a b := by
  induction hnan generalizing b with
  | null =>
    cases b with
    | null => exact .null
    | _ => simp [same, sameAtoms, sameNumbers, boolAsInt] at h
  | bool p =>
    cases b with
    | bool q =>
      obtain rfl : p = q := by
        cases p <;> cases q <;> simp [same, sameAtoms, sameNumbers, boolAsInt] at h ⊢
      exact .bool p
    | _ => exact absurd (.here _ _ (by simp [isBool])) hclash
  | int n => exact equal_of_quantity rfl h hclash
  | float x hx =>
    obtain ⟨p, hp⟩ := Double.exists_quantity hx
    exact equal_of_quantity hp h hclash
  | str s =>
    cases b with
    | str t =>
      obtain rfl : s = t := by simpa [same, sameAtoms, boolAsInt] using h
      exact .str s
    | _ => simp [same, sameAtoms, sameNumbers, boolAsInt] at h
  | arr xs _ ih =>
    cases b with
    | arr ys =>
      rw [same, sameItems_iff] at h
      refine .arr xs ys h.1 fun i x y hx hy => ?_
      have hxs := List.mem_of_getElem? hx
      exact ih x hxs (WellFormedItems.of_mem ha hxs)
        (WellFormedItems.of_mem hb (List.mem_of_getElem? hy)) (h.2 i x y hx hy)
        fun hpart => hclash (.item xs ys i x y hx hy hpart)
    | _ => simp [same, sameAtoms, sameNumbers, boolAsInt] at h
  | obj fs _ ih =>
    cases b with
    | obj gs =>
      rw [same_obj_iff ha.1 hb.1] at h
      refine .obj fs gs h.1 fun name x y hx hy => ?_
      have hxs := Fields.mem_of_get? hx
      exact ih (name, x) hxs (WellFormedFields.of_mem ha.2 hxs)
        (WellFormedFields.of_mem hb.2 (Fields.mem_of_get? hy)) (h.2 name x y hx hy)
        fun hpart => hclash (.field fs gs name x y hx hy hpart)
    | _ => simp [same, sameAtoms, sameNumbers, boolAsInt] at h

/-- Whole values are compared like parts, if neither or both are truth values. -/
theorem strictEquals_eq_same (hnan : a.NaNFree) (hbool : a.isBool = b.isBool) :
    a.strictEquals b = same a b := by
  cases hnan with
  | bool p =>
    cases b with
    | bool q => cases p <;> cases q <;> rfl
    | _ => cases hbool
  | float x hx =>
    obtain ⟨p, hp⟩ := Double.exists_quantity hx
    cases b with
    | bool q => cases hbool
    | float y =>
      have hsame : same (float x) (float y) = true ↔ y.quantity? = some p := same_iff_of_quantity hp
      rw [strictEquals, Bool.eq_iff_iff, hsame, Double.eq_iff hp]
    | _ => rfl
  | _ =>
    cases b with
    | bool q => cases hbool
    | _ => rfl

/-- Where one of two whole values is a truth value, both are if they are found equal. -/
theorem isBool_of_strictEquals (h : a.strictEquals b = true) : a.isBool = b.isBool := by
  cases a <;> cases b <;> first | rfl | cases h

/-- **Values are equal exactly if they are found equal and no truth value in one of them stands
where something else stands in the other.** -/
theorem equal_iff_strictEquals (a b : Json) (ha : a.WellFormed) (hb : b.WellFormed)
    (hnan : a.NaNFree) : Equal a b ↔ a.strictEquals b = true ∧ ¬ Clash a b := by
  constructor
  · intro h
    rw [strictEquals_eq_same hnan (isBool_of_equal h)]
    exact ⟨same_of_equal h ha hb, not_clash_of_equal h⟩
  · rintro ⟨h, hclash⟩
    rw [strictEquals_eq_same hnan (isBool_of_strictEquals h)] at h
    exact equal_of_same hnan ha hb h hclash

/-- An order of two items. -/
def twoItems : Json :=
  obj [("count", int 2), ("open", arr [bool true])]

/-- The same order with its fields the other way round, and a number of double precision. -/
def twoItemsReordered : Json :=
  obj [("open", arr [bool true]), ("count", float (.finite 2))]

/-- Neither the order of the fields nor the kind of a number makes a difference. -/
theorem equal_iff_strictEquals_twoItems :
    (twoItems.WellFormed ∧ twoItemsReordered.WellFormed ∧ twoItems.NaNFree) ∧
      Equal twoItems twoItemsReordered ∧ twoItems.strictEquals twoItemsReordered = true ∧
      ¬ Clash twoItems twoItemsReordered := by
  have hwell : twoItems.WellFormed := by
    simp [twoItems, WellFormed, WellFormedFields, WellFormedItems]
  have hreordered : twoItemsReordered.WellFormed := by
    simp [twoItemsReordered, WellFormed, WellFormedFields, WellFormedItems]
  have hnan : twoItems.NaNFree := by
    refine .obj _ fun field hfield => ?_
    simp only [List.mem_cons, List.not_mem_nil, or_false] at hfield
    rcases hfield with rfl | rfl
    · exact .int 2
    · exact .arr _ fun x hx => List.mem_singleton.mp hx ▸ .bool true
  have hcount : Equal (int 2) (float (.finite 2)) := .number _ _ (.finite 2) rfl rfl
  have hopen : Equal (arr [bool true]) (arr [bool true]) := by
    refine .arr _ _ rfl fun i x y hx hy => ?_
    obtain rfl : x = bool true := by simpa using List.mem_of_getElem? hx
    obtain rfl : y = bool true := by simpa using List.mem_of_getElem? hy
    exact .bool true
  have hequal : Equal twoItems twoItemsReordered := by
    refine .obj _ _ (fun name => ?_) fun name x y hx hy => ?_
    · simp only [Fields.has, Fields.get?_cons, Fields.get?_nil]
      split_ifs <;> rfl
    · simp only [Fields.get?_cons, Fields.get?_nil] at hx hy
      split_ifs at hx hy with hname hname'
      · exact absurd (hname.trans hname'.symm) (by decide)
      · rwa [← Option.some.inj hx, ← Option.some.inj hy]
      · rwa [← Option.some.inj hx, ← Option.some.inj hy]
  exact ⟨⟨hwell, hreordered, hnan⟩, hequal,
    (equal_iff_strictEquals twoItems twoItemsReordered hwell hreordered hnan).mp hequal⟩

/-- **Values that are found equal need not be equal**: a truth value in one list is taken for a
number in the other. -/
theorem strictEquals_clash :
    (arr [bool true]).strictEquals (arr [int 1]) = true ∧
      ¬ Equal (arr [bool true]) (arr [int 1]) := by
  refine ⟨rfl, fun h => ?_⟩
  cases h with
  | number _ _ q ha _ => cases ha
  | arr _ _ _ hitems => exact absurd (isBool_of_equal (hitems 0 _ _ rfl rfl)) (by decide)

end Json
end Flowgraph
