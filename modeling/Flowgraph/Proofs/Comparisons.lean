import Flowgraph.Proofs.Equality
import Flowgraph.Proofs.Limits

/-!
# How the comparisons of numbers hang together

Six operators compare two numbers.  Two of them ask whether the numbers are equal, and go by their
exact values; the other four ask which one is above, and go by their doubles.  Both ways agree on
what is the negation of what, and on what becomes of an operator when its operands are swapped.

They need not agree on which of two numbers is above.  Two different integers beyond `2 ^ 53` may
have one double: then they are not equal, and neither is above the other.  Apart from such pairs
exactly one of the three is the case.

## Main definitions

* `Condition.Operator.negated`, `Condition.Operator.mirrored` — the operator that says the opposite,
  and the one that says the same of the swapped operands.
* `Json.IsNumber` — a value is an integer with a double, or a finite double.
* `Json.Blurred` — two different values have one double.

## Main results

* `Json.exists_large_of_blurred` — two numbers are blurred only if one is an integer beyond
  `2 ^ 53`.
* `Condition.holds_coherent` — **the six operators are coherent, and exactly one of three holds of
  numbers that are not blurred.**
* `Condition.holds_blurred` — none of the three need hold.
-/

namespace Flowgraph

namespace Condition.Operator

/-- The operator that holds exactly where another does not. -/
def negated : Operator → Operator
  | equal => different
  | different => equal
  | atLeast => below
  | atMost => above
  | above => atMost
  | below => atLeast

/-- The operator that holds of the swapped operands. -/
def mirrored : Operator → Operator
  | equal => equal
  | different => different
  | atLeast => atMost
  | atMost => atLeast
  | above => below
  | below => above

end Condition.Operator

/-! ### Numbers and their doubles -/

namespace Json

/-- A value is an integer that is not too large for a double, or a finite double.  Not every dyadic
rational is the value of a double. -/
inductive IsNumber : Json → Prop where
  /-- An integer. -/
  | int (n : Int) (h : n.natAbs < 2 ^ 1023) : IsNumber (int n)
  /-- A finite number of double precision. -/
  | float (x : Double) (v : Dyadic) (hvalue : x.value? = some v) (h : Double.Representable v) :
      IsNumber (float x)

/-- Two values are different, and have one double. -/
def Blurred (a b : Json) : Prop :=
  a.quantity? ≠ b.quantity? ∧
    ∃ x y, a.toDouble = .ok x ∧ b.toDouble = .ok y ∧ x.eq y = true

/-- The exact value of a number, and that of its double. -/
structure Measure where
  /-- The exact value. -/
  exact : Dyadic
  /-- The value of the double. -/
  rounded : Dyadic

/-- A number has a measure. -/
structure Measured (a : Json) (m : Measure) : Prop where
  /-- It has the exact value. -/
  quantity : a.quantity? = some (.finite m.exact)
  /-- Its double has the value. -/
  double : ∃ x, a.toDouble = .ok x ∧ x.value? = some m.rounded
  /-- The double is the number itself where it can be. -/
  rounded_eq : Double.Representable m.exact → m.rounded = m.exact

variable {a b : Json} {m l r : Measure}

theorem IsNumber.exists_measured (h : a.IsNumber) : ∃ m, a.Measured m := by
  cases h with
  | int n hsmall =>
    have hlarge : ¬ Double.firstTooLarge ≤ n.natAbs := by
      have hbound : 2 ^ 1023 ≤ Double.firstTooLarge := by decide +kernel
      omega
    rw [← Double.ofInt?_eq_none_iff] at hlarge
    obtain ⟨x, hx⟩ := Option.ne_none_iff_exists'.mp hlarge
    obtain ⟨w, hw⟩ := Double.exists_value_of_ofInt? hx
    refine ⟨⟨.ofInt n, w⟩, rfl, ⟨x, by rw [toDouble, hx], hw⟩, fun hn => ?_⟩
    rw [Double.ofInt?_of_representable hn, Option.some.injEq] at hx
    subst hx
    exact (Option.some.inj hw).symm
  | float x v hvalue hv =>
    exact ⟨⟨v, v⟩, Double.quantity?_eq_finite.mpr hvalue, ⟨x, rfl, hvalue⟩, fun _ => rfl⟩

/-- A number whose exact value is not that of a double is an integer. -/
theorem IsNumber.int_or_representable (h : a.IsNumber) (hm : a.Measured m) :
    (∃ n, a = .int n ∧ m.exact = .ofInt n) ∨ Double.Representable m.exact := by
  have hquantity := hm.quantity
  cases h with
  | int n hsmall =>
    rw [quantity?, Option.some.injEq, Quantity.finite.injEq] at hquantity
    exact .inl ⟨n, rfl, hquantity.symm⟩
  | float x v hvalue hv =>
    rw [quantity?, Double.quantity?_eq_finite, hvalue, Option.some.injEq] at hquantity
    exact .inr (hquantity ▸ hv)

/-- Only integers beyond `2 ^ 53` have doubles that differ from them. -/
theorem IsNumber.exists_large (h : a.IsNumber) (hm : a.Measured m) (hne : m.rounded ≠ m.exact) :
    ∃ n : Int, a = .int n ∧ 2 ^ 53 < n.natAbs := by
  rcases h.int_or_representable hm with ⟨n, rfl, hn⟩ | hdouble
  · refine ⟨n, rfl, Nat.lt_of_not_le fun hle => hne (hm.rounded_eq ?_)⟩
    rw [hn]
    exact Double.representable_ofInt hle
  · exact absurd (hm.rounded_eq hdouble) hne

/-- Numbers of one exact value have doubles of one value: they are one integer, or the value is
that of a double. -/
theorem rounded_eq_of_exact_eq (ha : a.IsNumber) (hb : b.IsNumber) (hl : a.Measured l)
    (hr : b.Measured r) (hexact : l.exact = r.exact) : l.rounded = r.rounded := by
  have hdouble (h : Double.Representable l.exact) : l.rounded = r.rounded := by
    rw [hl.rounded_eq h, hr.rounded_eq (hexact ▸ h), hexact]
  rcases ha.int_or_representable hl with ⟨m, rfl, hm⟩ | h
  · rcases hb.int_or_representable hr with ⟨n, rfl, hn⟩ | h
    · obtain rfl : m = n := Double.ofInt_inj.mp (by rw [← hm, ← hn, hexact])
      obtain ⟨x, hx, hlx⟩ := hl.double
      obtain ⟨y, hy, hry⟩ := hr.double
      obtain rfl := Except.ok.inj (hx.symm.trans hy)
      exact Option.some.inj (hlx.symm.trans hry)
    · exact hdouble (hexact ▸ h)
  · exact hdouble h

theorem blurred_iff (hl : a.Measured l) (hr : b.Measured r) :
    Blurred a b ↔ l.exact ≠ r.exact ∧ l.rounded = r.rounded := by
  obtain ⟨x, hx, hlx⟩ := hl.double
  obtain ⟨y, hy, hry⟩ := hr.double
  have heq : x.eq y = true ↔ l.rounded = r.rounded := by
    rw [Double.eq_of_value hlx hry, decide_eq_true_iff]
  simp [Blurred, hl.quantity, hr.quantity, hx, hy, heq]

/-- Two numbers are blurred only if one of them is an integer beyond `2 ^ 53`. -/
theorem exists_large_of_blurred (ha : a.IsNumber) (hb : b.IsNumber) (h : Blurred a b) :
    ∃ n : Int, (a = .int n ∨ b = .int n) ∧ 2 ^ 53 < n.natAbs := by
  obtain ⟨l, hl⟩ := ha.exists_measured
  obtain ⟨r, hr⟩ := hb.exists_measured
  obtain ⟨hexact, hrounded⟩ := (blurred_iff hl hr).mp h
  by_cases hleft : l.rounded = l.exact
  · have hright : r.rounded ≠ r.exact := fun hright =>
      hexact (by rw [← hleft, ← hright, hrounded])
    obtain ⟨n, hn, hlarge⟩ := hb.exists_large hr hright
    exact ⟨n, .inr hn, hlarge⟩
  · obtain ⟨n, hn, hlarge⟩ := ha.exists_large hl hleft
    exact ⟨n, .inl hn, hlarge⟩

/-- Numbers are found equal if their exact values are. -/
theorem Measured.strictEquals (hl : a.Measured l) (hr : b.Measured r) :
    a.strictEquals b = decide (l.exact = r.exact) := by
  have hnan : a.NaNFree := by
    have hquantity := hl.quantity
    cases a with
    | int n => exact .int n
    | float x =>
      cases x with
      | nan origin => cases hquantity
      | _ => exact .float _ rfl
    | _ => cases hquantity
  have hbool : a.isBool = b.isBool := by
    rw [not_isBool_of_quantity hl.quantity, not_isBool_of_quantity hr.quantity]
  rw [strictEquals_eq_same hnan hbool, Bool.eq_iff_iff, same_iff_of_quantity hl.quantity,
    boolAsInt_of_not_isBool (not_isBool_of_quantity hr.quantity), hr.quantity]
  simp [eq_comm]

end Json

/-! ### Verdicts -/

namespace Condition

open Json (Measure Measured Blurred)

variable {context a b : Json} {l r : Measure}

namespace Operator

variable (op : Operator)

/-- Whether an operator holds between numbers of two measures. -/
def between (l r : Measure) : Operator → Bool
  | equal => l.exact = r.exact
  | different => l.exact ≠ r.exact
  | atLeast => r.rounded ≤ l.rounded
  | atMost => l.rounded ≤ r.rounded
  | above => r.rounded < l.rounded
  | below => l.rounded < r.rounded

theorem between_negated (l r : Measure) : op.negated.between l r = !op.between l r := by
  cases op <;> simp [negated, between, ← Dyadic.not_le]

theorem between_mirrored (l r : Measure) : op.mirrored.between r l = op.between l r := by
  cases op <;> simp [mirrored, between, eq_comm]

/-- One of three holds of numbers that are equal exactly if their doubles are, and no other. -/
theorem existsUnique_between (h : l.exact = r.exact ↔ l.rounded = r.rounded) :
    ∃! op : Operator, op ∈ [below, equal, above] ∧ op.between l r = true := by
  have hbelow : below.between l r = true ↔ l.rounded < r.rounded := decide_eq_true_iff
  have hequal : equal.between l r = true ↔ l.rounded = r.rounded := decide_eq_true_iff.trans h
  have habove : above.between l r = true ↔ r.rounded < l.rounded := decide_eq_true_iff
  have hthree : ∀ op ∈ [below, equal, above], op = below ∨ op = equal ∨ op = above := by decide
  rcases Std.lt_trichotomy l.rounded r.rounded with hlt | heq | hlt
  · refine ⟨below, ⟨by decide, hbelow.mpr hlt⟩, ?_⟩
    rintro op ⟨hmem, hop⟩
    obtain rfl | rfl | rfl := hthree op hmem <;> grind
  · refine ⟨equal, ⟨by decide, hequal.mpr heq⟩, ?_⟩
    rintro op ⟨hmem, hop⟩
    obtain rfl | rfl | rfl := hthree op hmem <;> grind
  · refine ⟨above, ⟨by decide, habove.mpr hlt⟩, ?_⟩
    rintro op ⟨hmem, hop⟩
    obtain rfl | rfl | rfl := hthree op hmem <;> grind

/-- None of the three holds of different numbers with equal doubles. -/
theorem between_blurred (hexact : l.exact ≠ r.exact) (hrounded : l.rounded = r.rounded) :
    ∀ op ∈ [below, equal, above], op.between l r = false := by
  simp [between, hexact, hrounded]

/-- The operators compare numbers by their measures. -/
theorem apply_of_measured (hl : a.Measured l) (hr : b.Measured r) :
    op.apply (some a) (some b) = .ok (op.between l r) := by
  obtain ⟨x, hx, hlx⟩ := hl.double
  obtain ⟨y, hy, hry⟩ := hr.double
  have hnumbers : op ≠ .equal → op ≠ .different →
      op.apply (some a) (some b) = .ok (op.compare x y) := by
    intro hequal hdifferent
    rw [apply_of_ordering hequal hdifferent, operandNumber, hx, operandNumber, hy]
    rfl
  cases op with
  | equal => rw [apply, operandsEqual, hl.strictEquals hr]; rfl
  | different => rw [apply, operandsEqual, hl.strictEquals hr]; simp [between]
  | atLeast => rw [hnumbers (by decide) (by decide), compare, Double.le_of_value hry hlx]; rfl
  | atMost => rw [hnumbers (by decide) (by decide), compare, Double.le_of_value hlx hry]; rfl
  | above => rw [hnumbers (by decide) (by decide), compare, Double.lt_of_value hry hlx]; rfl
  | below => rw [hnumbers (by decide) (by decide), compare, Double.lt_of_value hlx hry]; rfl

end Operator

/-! ### Conditions on two fields -/

/-- The condition that compares two operands. -/
def comparison (left : String) (op : Operator) (right : String) : String :=
  left ++ " " ++ op.sign ++ " " ++ right

/-- Whether it holds of the numbers that two paths lead to. -/
theorem holds_comparison (op : Operator) {left right : String} (hleft : PlainPath left)
    (hright : PlainPath right) (ha : Path.resolve context left = .ok (some a))
    (hb : Path.resolve context right = .ok (some b)) (hl : a.Measured l) (hr : b.Measured r) :
    holds context (comparison left op right) = .ok (op.between l r) := by
  rw [comparison, hleft.holds_eq context op hright.exists_not_isBlank hright.notMem_feed,
    hright.operand_eq, ha, hb]
  exact op.apply_of_measured hl hr

theorem plainPath_a : PlainPath "$.a" :=
  ⟨by decide, by decide, fun op => by cases op <;> decide⟩

theorem plainPath_b : PlainPath "$.b" :=
  ⟨by decide, by decide, fun op => by cases op <;> decide⟩

/-- **The six operators are coherent**: of two numbers an operator holds or does not hold, its
negation does the opposite, and its mirror image does the same with the operands swapped.  Exactly
one of three holds of numbers that are not blurred.  Blurred ones have an integer beyond `2 ^ 53`
among them, and none of the three holds of them. -/
theorem holds_coherent (context a b : Json) (ha : Path.resolve context "$.a" = .ok (some a))
    (hb : Path.resolve context "$.b" = .ok (some b)) (hanum : a.IsNumber) (hbnum : b.IsNumber) :
    (∀ op : Operator, ∃ verdict, holds context (comparison "$.a" op "$.b") = .ok verdict ∧
      holds context (comparison "$.a" op.negated "$.b") = .ok (!verdict) ∧
      holds context (comparison "$.b" op.mirrored "$.a") = .ok verdict) ∧
    (¬ Blurred a b → ∃! op : Operator, op ∈ [.below, .equal, .above] ∧
      holds context (comparison "$.a" op "$.b") = .ok true) ∧
    (Blurred a b → (∃ n : Int, (a = .int n ∨ b = .int n) ∧ 2 ^ 53 < n.natAbs) ∧
      ∀ op ∈ [Operator.below, .equal, .above],
        holds context (comparison "$.a" op "$.b") = .ok false) := by
  obtain ⟨l, hl⟩ := hanum.exists_measured
  obtain ⟨r, hr⟩ := hbnum.exists_measured
  have hholds (op : Operator) : holds context (comparison "$.a" op "$.b") = .ok (op.between l r) :=
    holds_comparison op plainPath_a plainPath_b ha hb hl hr
  have hswapped (op : Operator) :
      holds context (comparison "$.b" op "$.a") = .ok (op.between r l) :=
    holds_comparison op plainPath_b plainPath_a hb ha hr hl
  refine ⟨fun op => ⟨op.between l r, hholds op, ?_, ?_⟩, fun hblurred => ?_, fun hblurred => ?_⟩
  · rw [hholds, op.between_negated]
  · rw [hswapped, op.between_mirrored]
  · rw [Json.blurred_iff hl hr, not_and, not_imp_not] at hblurred
    simp only [hholds, Except.ok.injEq]
    exact Operator.existsUnique_between
      ⟨Json.rounded_eq_of_exact_eq hanum hbnum hl hr, hblurred⟩
  · refine ⟨Json.exists_large_of_blurred hanum hbnum hblurred, fun op hop => ?_⟩
    obtain ⟨hexact, hrounded⟩ := (Json.blurred_iff hl hr).mp hblurred
    rw [hholds, Operator.between_blurred hexact hrounded op hop]

/-- An integer and a number of double precision. -/
def oneAndHalf : Json :=
  .obj [("a", .int 1), ("b", .float (.finite (.ofIntWithPrec 3 1)))]

/-- Exactly one of the three holds of one and one and a half. -/
theorem holds_coherent_oneAndHalf :
    (Path.resolve oneAndHalf "$.a" = .ok (some (.int 1)) ∧
      Path.resolve oneAndHalf "$.b" = .ok (some (.float (.finite (.ofIntWithPrec 3 1))))) ∧
    ∃! op : Operator, op ∈ [.below, .equal, .above] ∧
      holds oneAndHalf (comparison "$.a" op "$.b") = .ok true := by
  have ha : Path.resolve oneAndHalf "$.a" = .ok (some (.int 1)) := rfl
  have hb : Path.resolve oneAndHalf "$.b" =
      .ok (some (.float (.finite (.ofIntWithPrec 3 1)))) := rfl
  have hanum : (Json.int 1).IsNumber := .int 1 (by decide +kernel)
  have hbnum : (Json.float (.finite (.ofIntWithPrec 3 1))).IsNumber :=
    .float _ _ rfl ⟨3, -1, by decide, by decide, by decide, rfl⟩
  have hsharp : ¬ Blurred (.int 1) (.float (.finite (.ofIntWithPrec 3 1))) := by
    intro hblurred
    obtain ⟨n, hn | hn, hlarge⟩ := Json.exists_large_of_blurred hanum hbnum hblurred
    · obtain rfl := Json.int.inj hn
      exact absurd hlarge (by decide)
    · cases hn
  exact ⟨⟨ha, hb⟩, (holds_coherent oneAndHalf _ _ ha hb hanum hbnum).2.1 hsharp⟩

/-- Two integers next to each other, the second one without a double of its own. -/
def neighbours : Json :=
  .obj [("a", .int (2 ^ 53)), ("b", .int (2 ^ 53 + 1))]

/-- **Two numbers may be neither equal nor one above the other.** -/
theorem holds_blurred :
    (Path.resolve neighbours "$.a" = .ok (some (.int (2 ^ 53))) ∧
      Path.resolve neighbours "$.b" = .ok (some (.int (2 ^ 53 + 1)))) ∧
    ((Json.int (2 ^ 53)).IsNumber ∧ (Json.int (2 ^ 53 + 1)).IsNumber) ∧
    holds neighbours "$.a < $.b" = .ok false ∧ holds neighbours "$.a == $.b" = .ok false ∧
      holds neighbours "$.a > $.b" = .ok false := by
  have hanum : (Json.int (2 ^ 53)).IsNumber := .int _ (by decide +kernel)
  have hbnum : (Json.int (2 ^ 53 + 1)).IsNumber := .int _ (by decide +kernel)
  have hblurred : Blurred (.int (2 ^ 53)) (.int (2 ^ 53 + 1)) :=
    ⟨by decide, .finite (2 ^ 53), .finite (2 ^ 53), by decide, by decide, by decide⟩
  obtain ⟨l, hl⟩ := hanum.exists_measured
  obtain ⟨r, hr⟩ := hbnum.exists_measured
  obtain ⟨hexact, hrounded⟩ := (Json.blurred_iff hl hr).mp hblurred
  have hnone : ∀ op ∈ [Operator.below, .equal, .above],
      holds neighbours (comparison "$.a" op "$.b") = .ok false := by
    intro op hop
    rw [holds_comparison op plainPath_a plainPath_b rfl rfl hl hr,
      Operator.between_blurred hexact hrounded op hop]
  exact ⟨⟨rfl, rfl⟩, ⟨hanum, hbnum⟩, hnone .below (by decide), hnone .equal (by decide),
    hnone .above (by decide)⟩

end Condition
end Flowgraph
