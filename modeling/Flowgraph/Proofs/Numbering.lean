import Flowgraph.Edit.Change
import Flowgraph.Proofs.Literals
import Flowgraph.Proofs.Truncation

/-!
# Numbers of new ids

A new id goes on from the largest number in the ids that are there.  The numbers are doubles, so two
things could bring an old id back: the largest could be cut off too far, or a number could be read
as something smaller than it is.  Cutting off does no harm, since the double of an integer is not
below an integer that it has passed.  Reading does: the number of a new id may have the integer
before it as its double.  Then this id is not counted as what it is, and it is given once more.

Only numbers beyond `2 ^ 53` are read like that.

## Main definitions

* `Uncounted` — an id cannot be numbered.
* `Greatest` — an exact value is that of one of some numbers, and no other is above it.

## Main results

* `Except.exists_mapM_iff`, `Except.mem_of_mapM` — whether a list has results, and which.
* `idNumber_append` — the number of a numbered id is the double of its number.
* `exists_nextId_iff` — there is a new id exactly if all ids can be numbered.
* `idAbove_eq` — the number of a new id is the one behind the integer part of the greatest.
* `fresh_of_nextId` — **a new id is none of the ids**, unless its number falls short; and then it is
  given again behind itself.
* `nextId_taken` — an id that is given where it is there.
-/

namespace Except

variable {ε α β : Type} {f : α → Except ε β} {as : List α} {bs : List β}

/-- A computation that only changes its value gives one exactly if the first part of it does. -/
theorem exists_bind_pure_iff {m : Except ε α} {g : α → β} :
    (∃ b, (m >>= fun a => pure (g a)) = .ok b) ↔ ∃ a, m = .ok a := by
  cases m <;> simp [bind, Except.bind, pure, Except.pure]

/-- A list has results exactly if each of its elements has one. -/
theorem exists_mapM_iff : (∃ bs, as.mapM f = .ok bs) ↔ ∀ a ∈ as, ∃ b, f a = .ok b := by
  induction as with
  | nil => exact iff_of_true ⟨[], rfl⟩ (by simp)
  | cons a as ih =>
    rw [List.forall_mem_cons, ← ih]
    constructor
    · rintro ⟨bs, h⟩
      rw [List.mapM_cons, Except.bind_eq_ok_iff] at h
      obtain ⟨b, hb, h⟩ := h
      obtain ⟨bs', hbs', -⟩ := Except.bind_eq_ok_iff.mp h
      exact ⟨⟨b, hb⟩, bs', hbs'⟩
    · rintro ⟨⟨b, hb⟩, bs, hbs⟩
      rw [List.mapM_cons, hb, hbs]
      exact ⟨b :: bs, rfl⟩

/-- The results of a list are those of its elements. -/
theorem mem_of_mapM {b : β} (h : as.mapM f = .ok bs) : b ∈ bs ↔ ∃ a ∈ as, f a = .ok b := by
  induction as generalizing bs with
  | nil =>
    cases h
    simp
  | cons a as ih =>
    rw [List.mapM_cons, Except.bind_eq_ok_iff] at h
    obtain ⟨b', hb', h⟩ := h
    obtain ⟨bs', hbs', h⟩ := Except.bind_eq_ok_iff.mp h
    cases h
    rw [List.mem_cons, ih hbs', List.exists_mem_cons_iff, hb', Except.ok.injEq, eq_comm]

end Except

namespace Flowgraph

variable {mark id : String} {ids : List String} {numbers : List Double} {x y : Double}
  {v w : Dyadic} {k : Int}

/-! ### Numbers of ids -/

theorem Text.exists_of_decimal? {cs : List Char} (h : decimal? cs = some x) :
    ∃ negative digits exponent, x = .ofDecimal negative digits exponent := by
  unfold decimal? at h
  simp only [] at h
  split_ifs at h
  obtain ⟨power, -, rfl⟩ := Option.map_eq_some_iff.mp h
  exact ⟨_, _, _, rfl⟩

theorem Text.representable_of_numeral? {cs : List Char} (h : numeral? cs = .ok (some x))
    (hv : x.value? = some v) : Double.Representable v := by
  unfold numeral? at h
  simp only [] at h
  split_ifs at h
  · cases h
    cases hv
    exact Double.representable_zero
  · cases h
    cases hv
  · cases h
    cases hv
  · cases hbased : basedNatural? (strip cs) with
    | some n =>
      simp only [hbased] at h
      cases hn : Double.ofInt? n with
      | none =>
        rw [hn] at h
        cases h
      | some x' =>
        rw [hn] at h
        cases h
        exact Double.representable_of_ofInt? hn hv
    | none =>
      simp only [hbased, Except.ok.injEq] at h
      obtain ⟨negative, digits, exponent, rfl⟩ := Text.exists_of_decimal? h
      exact Double.representable_of_ofDecimal hv

/-- The number of a value that is no double itself is that of a double. -/
theorem Json.representable_of_toDouble {value : Json} (hvalue : ∀ y, value ≠ .float y)
    (h : value.toDouble = .ok x) (hv : x.value? = some v) : Double.Representable v := by
  cases value with
  | null =>
    cases h
    cases hv
    exact Double.representable_zero
  | bool b =>
    cases h
    cases hv
    cases b
    · exact Double.representable_zero
    · exact Double.representable_ofInt (n := 1) (by decide)
  | int n =>
    cases hn : Double.ofInt? n with
    | none => simp [toDouble, hn] at h
    | some y =>
      obtain rfl : y = x := by simpa [toDouble, hn] using h
      exact Double.representable_of_ofInt? hn hv
  | float y => exact absurd rfl (hvalue y)
  | str s =>
    obtain ⟨x?, hx, h⟩ := Except.bind_eq_ok_iff.mp h
    cases h
    cases x? with
    | none => cases hv
    | some x => exact Text.representable_of_numeral? hx hv
  | arr items =>
    cases h
    cases hv
  | obj fields =>
    cases h
    cases hv

/-- The number of an id is that of a double. -/
theorem representable_of_idNumber (h : idNumber mark id = .ok x) (hv : x.value? = some v) :
    Double.Representable v :=
  Json.representable_of_toDouble (by simp) h hv

/-- A decimal without places is an integer. -/
theorem Double.ofDecimal_of_ofInt? (hx : ofInt? k = some x) :
    ofDecimal (decide (k < 0)) k.natAbs 0 = x := by
  have hsmall : k.natAbs < firstTooLarge := by
    by_contra hlarge
    rw [(ofInt?_eq_none_iff k).mpr (Nat.le_of_not_lt hlarge)] at hx
    cases hx
  have hwidth : decimalWidth k.natAbs ≤ 330 := by
    refine (Nat.length_toDigits_le_iff (by decide) (by decide)).mpr (hsmall.trans ?_)
    decide +kernel
  have hratio : ofRatio (decide (k < 0)) k.natAbs 1 = x := by
    rw [ofInt?] at hx
    split at hx
    · cases hx
    · exact Option.some.inj hx
  rw [ofDecimal]
  split_ifs with hzero hinfinite
  · rcases hzero with hzero | hsmall
    · rw [← hratio, ofRatio, if_pos hzero]
    · omega
  · omega
  · simpa using hratio

/-- Behind the mark an id may be a number. -/
theorem idNumeral_append (mark text : String) : idNumeral mark (mark ++ text) = text.toList := by
  rw [idNumeral, String.toList_append, if_pos (List.isPrefixOf_iff_prefix.mpr ⟨_, rfl⟩)]
  exact List.drop_left' (String.length_toList)

/-- The number of a numbered id is the double of its number. -/
theorem idNumber_append (mark : String) (hx : Double.ofInt? k = some x) :
    idNumber mark (mark ++ toString k) = .ok x := by
  have hread := Text.numeral?_of_isInteger (Condition.strip_toString k) (Text.isInteger_toString k)
  rw [Text.splitSign_toString, Text.digitsValue_toDigits, Double.ofDecimal_of_ofInt? hx] at hread
  rw [idNumber, idNumeral_append, Json.toDouble, String.toList_ofList, hread]
  rfl

/-- An id cannot be numbered: it is an integer in base sixteen, eight or two that is too large. -/
def Uncounted (mark id : String) : Prop :=
  ∃ n, Text.basedNatural? (Text.strip (idNumeral mark id)) = some n ∧ Double.firstTooLarge ≤ n

theorem exists_idNumber_iff : (∃ x, idNumber mark id = .ok x) ↔ ¬ Uncounted mark id := by
  have herror : (∃ e, idNumber mark id = .error e) ↔ Uncounted mark id := by
    simp only [idNumber, Json.toDouble_eq_error_iff, Json.tooLarge_str, String.toList_ofList,
      exists_eq_left, Uncounted]
  rw [← herror]
  cases idNumber mark id <;> simp

/-- There is a new id exactly if all ids can be numbered. -/
theorem exists_nextId_iff :
    (∃ id, nextId mark ids = .ok id) ↔ ∀ id ∈ ids, ¬ Uncounted mark id := by
  simp only [← exists_idNumber_iff, ← Except.exists_mapM_iff, nextId, Except.exists_bind_pure_iff]

/-! ### The greatest number -/

/-- An exact value is that of one of some numbers, and no other is above it. -/
structure Greatest (numbers : List Double) (x : Double) (v : Dyadic) : Prop where
  /-- One of the numbers is meant. -/
  mem : x ∈ numbers
  /-- It has this value. -/
  value : x.value? = some v
  /-- No other is above it. -/
  le : ∀ y ∈ numbers, ∀ w ∈ y.value?, w ≤ v

/-- Going on with the larger one of two numbers leads to the greatest. -/
theorem greatest_foldl {best : Double} {rest : List Double} (hbest : best.value? = some v)
    (hrest : ∀ y ∈ rest, y.isFinite = true) :
    ∃ w, Greatest (best :: rest)
      (rest.foldl (fun best y => if Double.lt best y then y else best) best) w := by
  induction rest generalizing best v with
  | nil => exact ⟨v, List.mem_cons_self, hbest, by simp [hbest]⟩
  | cons y rest ih =>
    rw [List.forall_mem_cons] at hrest
    obtain ⟨u, hu⟩ := Option.isSome_iff_exists.mp hrest.1
    rw [List.foldl_cons, Double.lt_of_value hbest hu]
    by_cases hlt : v < u
    · obtain ⟨w, hmem, hvalue, hle⟩ := ih hu hrest.2
      have huw : u ≤ w := hle y List.mem_cons_self u hu
      rw [decide_eq_true hlt]
      refine ⟨w, List.mem_cons_of_mem _ hmem, hvalue, ?_⟩
      rw [List.forall_mem_cons]
      refine ⟨fun z hz => ?_, hle⟩
      obtain rfl : v = z := Option.some.inj (hbest.symm.trans hz)
      exact Std.le_trans (Std.le_of_lt hlt) huw
    · obtain ⟨w, hmem, hvalue, hle⟩ := ih hbest hrest.2
      rw [List.forall_mem_cons] at hle
      rw [decide_eq_false hlt]
      refine ⟨w, ?_, hvalue, ?_⟩
      · rcases List.mem_cons.mp hmem with hfirst | hmem
        · exact List.mem_cons.mpr (.inl hfirst)
        · exact List.mem_cons_of_mem _ (List.mem_cons_of_mem _ hmem)
      · rw [List.forall_mem_cons, List.forall_mem_cons]
        refine ⟨hle.1, fun z hz => ?_, hle.2⟩
        obtain rfl : u = z := Option.some.inj (hu.symm.trans hz)
        exact Std.le_trans (Std.not_lt.mp hlt) (hle.1 v hbest)

/-- Of some finite numbers, if there are any, one is the greatest. -/
theorem greatest_of_largest? (hfinite : ∀ y ∈ numbers, y.isFinite = true) :
    numbers = [] ∨ ∃ x v, largest? numbers = some x ∧ Greatest numbers x v := by
  cases numbers with
  | nil => exact .inl rfl
  | cons best rest =>
    rw [List.forall_mem_cons] at hfinite
    obtain ⟨v, hv⟩ := Option.isSome_iff_exists.mp hfinite.1
    obtain ⟨w, hgreatest⟩ := greatest_foldl hv hfinite.2
    exact .inr ⟨_, w, rfl, hgreatest⟩

/-- A number that the largest one is not below changes nothing. -/
theorem largest?_append (hx : largest? numbers = some x) (hlt : x.lt y = false) :
    largest? (numbers ++ [y]) = some x := by
  cases numbers with
  | nil => cases hx
  | cons best rest =>
    rw [largest?, Option.some.injEq] at hx
    rw [List.cons_append, largest?, List.foldl_append, hx, List.foldl_cons, hlt]
    rfl

/-- **The number of a new id** is one, if no number counts, or it is the integer behind the integer
part of the greatest. -/
theorem idAbove_eq (mark : String) (numbers : List Double) :
    (numbers.filter Double.isFinite = [] ∧ idAbove mark numbers = mark ++ toString (1 : Int)) ∨
      ∃ x v, largest? (numbers.filter Double.isFinite) = some x ∧
        Greatest (numbers.filter Double.isFinite) x v ∧
        idAbove mark numbers = mark ++ toString (Double.truncateDyadic v + 1) := by
  have hfinite : ∀ y ∈ numbers.filter Double.isFinite, y.isFinite = true := fun y hy =>
    (List.mem_filter.mp hy).2
  rcases greatest_of_largest? hfinite with hnone | ⟨x, v, hx, hgreatest⟩
  · refine .inl ⟨hnone, ?_⟩
    rw [idAbove, hnone]
    rfl
  · refine .inr ⟨x, v, hx, hgreatest, ?_⟩
    rw [idAbove, hx, Option.bind_some, Double.truncate?, hgreatest.value]
    rfl

/-- The number of an id that is there has no value above the greatest one. -/
theorem Greatest.le_of_mem (hgreatest : Greatest (numbers.filter Double.isFinite) x v)
    (hy : y ∈ numbers) (hw : y.value? = some w) : w ≤ v := by
  refine hgreatest.le y (List.mem_filter.mpr ⟨hy, ?_⟩) w hw
  rw [Double.isFinite, hw]
  rfl

/-! ### New ids -/

/-- A number that is taken although it is above the greatest value falls short, and the greatest
value is the integer before it. -/
theorem fallsShort_of_le (hrepresentable : Double.Representable v)
    (hx : Double.ofInt? (Double.truncateDyadic v + 1) = some x) (hw : x.value? = some w)
    (hle : w ≤ v) : Double.FallsShort (Double.truncateDyadic v + 1) := by
  obtain ⟨k, hk⟩ : ∃ k, Double.truncateDyadic v = k := ⟨_, rfl⟩
  have hlt : v < .ofInt (k + 1) := hk ▸ Double.lt_ofInt_truncate v
  rw [hk] at hx ⊢
  -- the number is not its own double, so that it is large, and the greatest value is an integer
  have hlarge : 2 ^ 53 < (k + 1).natAbs := by
    by_contra hsmall
    rw [Double.ofInt?_of_representable (Double.representable_ofInt (by omega)),
      Option.some.injEq] at hx
    subst hx
    obtain rfl := Option.some.inj hw
    exact absurd (Std.lt_of_le_of_lt hle hlt) (Std.lt_irrefl)
  have hv : v = .ofInt k := hk ▸ Double.eq_ofInt_truncate hrepresentable (by omega)
  have hge : Dyadic.ofInt k ≤ w :=
    Double.ofInt_le_of_representable (hv ▸ hrepresentable) (by omega) hx hw
  have hwk : w = .ofInt k := Std.le_antisymm (hv ▸ hle) hge
  exact ⟨x, hx, by rw [hw, hwk, Int.add_sub_cancel]⟩

/-- If the number of a new id falls short, the greatest value is the integer before it. -/
theorem eq_ofInt_of_fallsShort (hrepresentable : Double.Representable v)
    (h : Double.FallsShort (Double.truncateDyadic v + 1)) :
    v = .ofInt (Double.truncateDyadic v) := by
  have hlarge := Double.lt_natAbs_of_fallsShort h
  exact Double.eq_ofInt_truncate hrepresentable (by omega)

/-- A number with the greatest value changes nothing behind the others. -/
theorem idAbove_append (hx : largest? (numbers.filter Double.isFinite) = some x)
    (hv : x.value? = some v) (hy : y.value? = some v) :
    idAbove mark (numbers ++ [y]) = idAbove mark numbers := by
  have hlt : x.lt y = false := by
    rw [Double.lt_of_value hv hy, decide_eq_false Std.lt_irrefl]
  have hfinite : y.isFinite = true := by
    rw [Double.isFinite, hy, Option.isSome_some]
  rw [idAbove, idAbove, List.filter_append, List.filter_singleton, hfinite, cond_true,
    largest?_append hx hlt, hx]

/-- An id behind the others comes with its number. -/
theorem nextId_append (hnumbers : ids.mapM (idNumber mark) = .ok numbers)
    (hx : idNumber mark id = .ok x) :
    nextId mark (ids ++ [id]) = .ok (idAbove mark (numbers ++ [x])) := by
  rw [nextId, List.mapM_append, hnumbers, List.mapM_cons, hx]
  rfl

/-- **A new id is none of the ids**, unless its number falls short, which takes a number beyond
`2 ^ 53`; and then it is given again as soon as it is one of the ids. -/
theorem fresh_of_nextId (h : nextId mark ids = .ok id) :
    ∃ k : Int, id = mark ++ toString k ∧ (¬ Double.FallsShort k → id ∉ ids) ∧
      (Double.FallsShort k → 2 ^ 53 < k.natAbs ∧ nextId mark (ids ++ [id]) = .ok id) := by
  obtain ⟨numbers, hnumbers, h⟩ := Except.bind_eq_ok_iff.mp h
  obtain rfl : idAbove mark numbers = id := Except.ok.inj h
  have hmem {k : Int} {x : Double} (hx : Double.ofInt? k = some x)
      (hid : mark ++ toString k ∈ ids) : x ∈ numbers :=
    (Except.mem_of_mapM hnumbers).mpr ⟨_, hid, idNumber_append mark hx⟩
  rcases idAbove_eq mark numbers with ⟨hnone, hid⟩ | ⟨x, v, hx, hgreatest, hid⟩
  · -- the number one is its own double, which would count
    have hone : Double.ofInt? 1 = some (.finite (.ofInt 1)) :=
      Double.ofInt?_of_representable (Double.representable_ofInt (by decide))
    refine ⟨1, hid, fun _ htaken => ?_, fun hshort => ?_⟩
    · exact List.filter_eq_nil_iff.mp hnone _ (hmem hone (hid ▸ htaken)) rfl
    · exact absurd (Double.lt_natAbs_of_fallsShort hshort) (by decide)
  · obtain ⟨source, -, hsource⟩ :=
      (Except.mem_of_mapM hnumbers).mp (List.mem_filter.mp hgreatest.mem).1
    have hrepresentable := representable_of_idNumber hsource hgreatest.value
    obtain ⟨y, w, hy, hw⟩ := Double.exists_ofInt?_truncate hrepresentable
    refine ⟨_, hid, fun hshort htaken => ?_, fun hshort => ?_⟩
    · have hle : w ≤ v := hgreatest.le_of_mem (hmem hy (hid ▸ htaken)) hw
      exact hshort (fallsShort_of_le hrepresentable hy hw hle)
    · have hv := eq_ofInt_of_fallsShort hrepresentable hshort
      refine ⟨Double.lt_natAbs_of_fallsShort hshort, ?_⟩
      obtain ⟨x', hx', hvalue⟩ := hshort
      obtain rfl := Option.some.inj (hy.symm.trans hx')
      rw [Int.add_sub_cancel, ← hv] at hvalue
      rw [nextId_append hnumbers (hid ▸ idNumber_append mark hy),
        idAbove_append hx hgreatest.value hvalue]

/-- Blanks around a number, a base, a sign and a fraction do not matter: the largest of these numbers is
the one in base sixteen. -/
theorem fresh_of_nextId_mixed :
    nextId "n" ["n1", " 0x1F", "entry", "-7", "n3.9"] = .ok "n32" ∧
      "n32" ∉ ["n1", " 0x1F", "entry", "-7", "n3.9"] := by
  have hnext : nextId "n" ["n1", " 0x1F", "entry", "-7", "n3.9"] = .ok "n32" := by
    decide +kernel
  obtain ⟨k, hk, hfresh, hshort⟩ := fresh_of_nextId hnext
  refine ⟨hnext, hfresh fun h => ?_⟩
  exact absurd (hshort h).2 (by decide +kernel)

/-- **A new id may be one of the ids**: its number is read as the integer before it. -/
theorem nextId_taken : nextId "n" ["n9007199254740993"] = .ok "n9007199254740993" := by
  decide +kernel

end Flowgraph
