import Flowgraph.Proofs.Magnitude
import Mathlib.Algebra.Order.Field.Power
import Mathlib.Algebra.Order.Field.Rat

/-!
# What a rounded number is

A number of double precision has a significand of fifty-three bits at most, and its last place is
neither too low nor too high.  A quotient is rounded to such a number, or to an infinity.  An
integer that has no more bits, apart from zeros at its end, needs no rounding: its double is the
integer itself.

## Main definitions

* `Double.Representable` — an exact value is that of a number of double precision.

## Main results

* `Double.eq_of_value`, `Double.lt_of_value`, `Double.le_of_value` — finite numbers are compared by
  their exact values.
* `Double.representable_of_ofRatio` — **what a quotient is rounded to is a double.**
* `Double.ofInt?_of_representable` — **an integer that is a double is its own double.**
-/

namespace Flowgraph.Double

variable {x y : Double} {v w : Dyadic} {m n : Int}

/-! ### Exact values -/

theorem eq_of_value (hx : x.value? = some v) (hy : y.value? = some w) :
    x.eq y = decide (v = w) := by
  cases x <;> cases y <;> cases hx <;> cases hy <;> rfl

theorem lt_of_value (hx : x.value? = some v) (hy : y.value? = some w) :
    x.lt y = decide (v < w) := by
  cases x <;> cases y <;> cases hx <;> cases hy <;> rfl

theorem le_of_value (hx : x.value? = some v) (hy : y.value? = some w) :
    x.le y = decide (v ≤ w) := by
  rw [le, eq_of_value hx hy, lt_of_value hx hy, Bool.eq_iff_iff, Bool.or_eq_true,
    decide_eq_true_iff, decide_eq_true_iff, decide_eq_true_iff]
  exact Std.le_iff_lt_or_eq.symm

/-- A value has one numerator at a place. -/
theorem ofIntWithPrec_inj {place : Int} :
    Dyadic.ofIntWithPrec m place = .ofIntWithPrec n place ↔ m = n := by
  refine ⟨fun h => ?_, fun h => by rw [h]⟩
  have hrat := congrArg Dyadic.toRat h
  rw [Dyadic.toRat_ofIntWithPrec_eq_mul_two_pow, Dyadic.toRat_ofIntWithPrec_eq_mul_two_pow] at hrat
  have hpow : (2 : Rat) ^ (-place) ≠ 0 := zpow_ne_zero _ (by decide)
  exact_mod_cast mul_right_cancel₀ hpow hrat

theorem ofInt_inj : Dyadic.ofInt m = .ofInt n ↔ m = n :=
  ofIntWithPrec_inj

/-- A numerator with zeros behind it, as many places further on. -/
theorem ofIntWithPrec_mul_two_pow (m place : Int) (zeros : Nat) :
    Dyadic.ofIntWithPrec (m * 2 ^ zeros) (place + zeros) = .ofIntWithPrec m place := by
  rw [← Int.shiftLeft_eq]
  exact Dyadic.ofIntWithPrec_shiftLeft_add

/-- A numerator at a place is an integer if they are equal once the zeros behind both are written
out. -/
theorem ofIntWithPrec_eq_ofInt {place : Int} : Dyadic.ofIntWithPrec m (-place) = .ofInt n ↔
    m * 2 ^ place.toNat = n * 2 ^ (-place).toNat := by
  obtain ⟨zeros, rfl | rfl⟩ := place.eq_nat_or_neg
  · have hm := ofIntWithPrec_mul_two_pow m (-zeros) zeros
    rw [Int.add_left_neg] at hm
    rw [← hm, Dyadic.ofInt, ofIntWithPrec_inj]
    simp
  · have hn := ofIntWithPrec_mul_two_pow n 0 zeros
    rw [Int.zero_add] at hn
    rw [Int.neg_neg, Dyadic.ofInt, ← hn, ofIntWithPrec_inj]
    simp

/-- A value is that of a number of double precision. -/
def Representable (v : Dyadic) : Prop :=
  ∃ significand place : Int, significand.natAbs < 2 ^ 53 ∧ -1074 ≤ place ∧ place ≤ 971 ∧
    v = .ofIntWithPrec significand (-place)

/-- A numerator of fifty-three bits makes a double at any place that doubles have; the next one does
so before the last place. -/
theorem representable_ofIntWithPrec {place : Int} (hbits : m.natAbs ≤ 2 ^ 53)
    (hlow : -1074 ≤ place) (hhigh : ¬ (place > 971 ∨ place = 971 ∧ m.natAbs = 2 ^ 53)) :
    Representable (.ofIntWithPrec m (-place)) := by
  rcases Nat.lt_or_eq_of_le hbits with hlt | heq
  · exact ⟨m, place, hlt, hlow, by omega, rfl⟩
  · have hhalf := ofIntWithPrec_mul_two_pow (m / 2) (-(place + 1)) 1
    rw [show m / 2 * 2 ^ 1 = m by omega, show -(place + 1) + (1 : Nat) = -place by omega] at hhalf
    exact ⟨m / 2, place + 1, by omega, by omega, by omega, hhalf⟩

theorem representable_zero : Representable 0 :=
  ⟨0, 0, by decide, by decide, by decide, rfl⟩

/-- The integers of fifty-three bits are doubles, and the next one is. -/
theorem representable_ofInt (h : n.natAbs ≤ 2 ^ 53) : Representable (.ofInt n) :=
  @representable_ofIntWithPrec n 0 h (by decide) (by omega)

/-! ### Rounded quotients -/

/-- A quotient is compared with a power of two by whole numbers. -/
theorem lt_two_pow_iff {num den : Nat} {e : Int} :
    num * 2 ^ (-e).toNat < den * 2 ^ e.toNat ↔ (num : Rat) < den * 2 ^ e := by
  obtain ⟨n, rfl | rfl⟩ := e.eq_nat_or_neg
  · rw [show (-(n : Int)).toNat = 0 by omega, Int.toNat_natCast, zpow_natCast]
    exact_mod_cast Iff.of_eq (by rw [Nat.pow_zero, Nat.mul_one])
  · have hpow : (0 : Rat) < 2 ^ n := pow_pos (by decide) n
    rw [Int.neg_neg, Int.toNat_natCast, show (-(n : Int)).toNat = 0 by omega, zpow_neg,
      zpow_natCast, ← div_eq_mul_inv, lt_div_iff₀ hpow, Nat.pow_zero, Nat.mul_one]
    exact_mod_cast Iff.rfl

/-- A quotient is below the power of two behind its exponent. -/
theorem lt_floorLog2 {num den : Nat} (hden : den ≠ 0) :
    (num : Rat) < den * 2 ^ (floorLog2 num den + 1) := by
  rw [floorLog2]
  split_ifs with h
  · have hnum : (num : Rat) < 2 ^ ((num.log2 : Int) + 1) := by
      exact_mod_cast (Nat.lt_log2_self : num < 2 ^ (num.log2 + 1))
    have hlow : (2 : Rat) ^ (den.log2 : Int) ≤ den := by
      exact_mod_cast Nat.log2_self_le hden
    calc (num : Rat) < 2 ^ ((num.log2 : Int) + 1) := hnum
      _ = 2 ^ (den.log2 : Int) * 2 ^ ((num.log2 : Int) - den.log2 + 1) := by
        rw [← zpow_add₀ (by decide)]
        congr 1
        omega
      _ ≤ den * 2 ^ ((num.log2 : Int) - den.log2 + 1) :=
        mul_le_mul_of_nonneg_right hlow (zpow_pos (by decide) _).le
  · rw [Nat.pow_eq, Nat.pow_eq, Nat.not_le, lt_two_pow_iff] at h
    rwa [Int.sub_add_cancel]

theorem roundQuotient_le {num den k : Nat} (hden : 0 < den) (h : num ≤ k * den) :
    roundQuotient num den ≤ k := by
  have hquotient : num / den ≤ k := Nat.div_le_of_le_mul (by rwa [Nat.mul_comm])
  have hsplit := Nat.div_add_mod num den
  have hrest := Nat.mod_lt num hden
  rcases Nat.lt_or_eq_of_le hquotient with hlt | heq
  · rw [roundQuotient]
    split_ifs <;> omega
  · have hzero : num % den = 0 := by
      rw [heq, Nat.mul_comm] at hsplit
      omega
    rw [roundQuotient, hzero, if_pos (by omega)]
    omega

/-- A quotient that is a whole number is rounded to it. -/
theorem roundQuotient_mul {num den k : Nat} (hden : 0 < den) (h : num = k * den) :
    roundQuotient num den = k := by
  refine Nat.le_antisymm (roundQuotient_le hden h.le) ?_
  calc k = num / den := by rw [h, Nat.mul_div_cancel _ hden]
    _ ≤ roundQuotient num den := div_le_roundQuotient num den

/-- **What a quotient is rounded to is a double.** -/
theorem representable_of_ofRatio {negative : Bool} {num den : Nat} (hden : den ≠ 0)
    (h : ofRatio negative num den = finite v) : Representable v := by
  obtain ⟨place, hlast⟩ : ∃ place, lastPlace num den = place := ⟨_, rfl⟩
  obtain ⟨k, hk⟩ : ∃ k, roundQuotient (num * 2 ^ (-place).toNat) (den * 2 ^ place.toNat) = k :=
    ⟨_, rfl⟩
  obtain ⟨hplace, hlow⟩ : floorLog2 num den + 1 ≤ 53 + place ∧ -1074 ≤ place := by
    rw [← hlast, lastPlace]
    omega
  have hle : k ≤ 2 ^ 53 := by
    have hnum : (num : Rat) < (2 ^ 53 * den : Nat) * 2 ^ place := by
      calc (num : Rat) < den * 2 ^ (floorLog2 num den + 1) := lt_floorLog2 hden
        _ ≤ den * 2 ^ (53 + place) :=
          mul_le_mul_of_nonneg_left (zpow_le_zpow_right₀ (by decide) hplace) den.cast_nonneg
        _ = (2 ^ 53 * den : Nat) * 2 ^ place := by
          rw [zpow_add₀ (by decide)]
          push_cast
          ring
    rw [← lt_two_pow_iff, Nat.mul_assoc] at hnum
    rw [← hk]
    exact roundQuotient_le (Nat.mul_pos (Nat.pos_of_ne_zero hden) (Nat.two_pow_pos _)) hnum.le
  simp only [ofRatio, hlast, Nat.pow_eq, hk] at h
  have hnone : ∀ w, zero negative = finite w → Representable w := by
    intro w hw
    cases negative <;> cases hw
    exact representable_zero
  split_ifs at h with hnum hzero hlarge hsign
  · exact hnone v h
  · exact hnone v h
  · rw [← finite.inj h]
    exact representable_ofIntWithPrec (by omega) hlow (by omega)
  · rw [← finite.inj h]
    exact representable_ofIntWithPrec (by omega) hlow (by omega)

/-- A quotient is rounded to a finite number or to an infinity. -/
theorem exists_value_of_ofRatio (negative : Bool) (num den : Nat) :
    (∃ w, (ofRatio negative num den).value? = some w) ∨
      ∃ sign, ofRatio negative num den = infinite sign := by
  have hzero : ∃ w, (zero negative).value? = some w := by
    cases negative <;> exact ⟨0, rfl⟩
  unfold ofRatio
  dsimp only
  split_ifs
  · exact .inl hzero
  · exact .inl hzero
  · exact .inr ⟨negative, rfl⟩
  all_goals exact .inl ⟨_, rfl⟩

/-! ### Integers -/

/-- The double of an integer is finite. -/
theorem exists_value_of_ofInt? (h : ofInt? n = some x) : ∃ w, x.value? = some w := by
  rw [ofInt?] at h
  rcases exists_value_of_ofRatio (n < 0) n.natAbs 1 with hvalue | ⟨sign, hinfinite⟩
  · split at h
    · cases h
    · rwa [← Option.some.inj h]
  · rw [hinfinite] at h
    cases h

/-- An integer that is a double has fifty-three bits and zeros behind them. -/
theorem exists_natAbs_eq (h : Representable (.ofInt n)) :
    ∃ significand zeros : Nat, significand < 2 ^ 53 ∧ zeros ≤ 971 ∧
      n.natAbs = significand * 2 ^ zeros := by
  obtain ⟨significand, place, hbits, -, hplace, hn⟩ := h
  have hsize := congrArg Int.natAbs (ofIntWithPrec_eq_ofInt.mp hn.symm)
  rw [Int.natAbs_mul, Int.natAbs_mul, Int.natAbs_pow, Int.natAbs_pow] at hsize
  obtain ⟨zeros, rfl | rfl⟩ := place.eq_nat_or_neg
  · exact ⟨significand.natAbs, zeros, hbits, by omega, by simpa using hsize.symm⟩
  · refine ⟨n.natAbs, 0, Nat.lt_of_le_of_lt ?_ hbits, by omega, by simp⟩
    have hle : n.natAbs ≤ n.natAbs * 2 ^ zeros := Nat.le_mul_of_pos_right _ (Nat.two_pow_pos zeros)
    have hbehind : significand.natAbs = n.natAbs * 2 ^ zeros := by simpa using hsize
    rwa [hbehind]

/-- A number with its last place where its double has it: what stands before that place is a whole
number. -/
theorem exists_numerator {num significand zeros : Nat} {place : Int} (hne : num ≠ 0)
    (hbits : significand < 2 ^ 53) (hnum : num = significand * 2 ^ zeros)
    (hplace : (num.log2 : Int) - 52 = place) :
    place ≤ zeros ∧ ∃ k, num * 2 ^ (-place).toNat = k * 2 ^ place.toNat := by
  have hlog : num.log2 < 53 + zeros := by
    rw [Nat.log2_lt hne, hnum, Nat.pow_add]
    exact Nat.mul_lt_mul_of_pos_right hbits (Nat.two_pow_pos zeros)
  refine ⟨by omega, ?_⟩
  rcases Int.le_total 0 place with hle | hle
  · -- the place is among the zeros
    obtain ⟨more, hmore⟩ := Nat.exists_eq_add_of_le (show place.toNat ≤ zeros by omega)
    refine ⟨significand * 2 ^ more, ?_⟩
    rw [show (-place).toNat = 0 by omega, hnum, hmore]
    ring
  · -- the place is behind the point
    refine ⟨num * 2 ^ (-place).toNat, ?_⟩
    rw [show place.toNat = 0 by omega, Nat.pow_zero, Nat.mul_one]

/-- It has fifty-three bits. -/
theorem numerator_lt {num k : Nat} {place : Int} (hplace : (num.log2 : Int) - 52 = place)
    (hk : num * 2 ^ (-place).toNat = k * 2 ^ place.toNat) : k < 2 ^ 53 := by
  have hbits : num.log2 + 1 + (-place).toNat = 53 + place.toNat := by omega
  have hlt : k * 2 ^ place.toNat < 2 ^ 53 * 2 ^ place.toNat := by
    calc k * 2 ^ place.toNat = num * 2 ^ (-place).toNat := hk.symm
      _ < 2 ^ (num.log2 + 1) * 2 ^ (-place).toNat :=
        Nat.mul_lt_mul_of_pos_right Nat.lt_log2_self (Nat.two_pow_pos _)
      _ = 2 ^ 53 * 2 ^ place.toNat := by rw [← Nat.pow_add, hbits, Nat.pow_add]
  exact Nat.lt_of_mul_lt_mul_right hlt

/-- **An integer that is a double is its own double.** -/
theorem ofInt?_of_representable (h : Representable (.ofInt n)) :
    ofInt? n = some (.finite (.ofInt n)) := by
  by_cases hzero : n = 0
  · subst hzero
    rfl
  obtain ⟨significand, zeros, hbits, hzeros, hnum⟩ := exists_natAbs_eq h
  have hne : n.natAbs ≠ 0 := Int.natAbs_ne_zero.mpr hzero
  obtain ⟨place, hplace⟩ : ∃ place : Int, (n.natAbs.log2 : Int) - 52 = place := ⟨_, rfl⟩
  have hlast : lastPlace n.natAbs 1 = place := (lastPlace_one hne).trans hplace
  obtain ⟨hle, k, hk⟩ := exists_numerator hne hbits hnum hplace
  have hlt : k < 2 ^ 53 := numerator_lt hplace hk
  have hround : roundQuotient (n.natAbs * 2 ^ (-place).toNat) (1 * 2 ^ place.toNat) = k := by
    rw [Nat.one_mul]
    exact roundQuotient_mul (Nat.two_pow_pos _) hk
  have hpos : k ≠ 0 := by
    rintro rfl
    rw [Nat.zero_mul, Nat.mul_eq_zero] at hk
    exact hk.elim hne (Nat.two_pow_pos _).ne'
  have hfinite : ¬ (place > 971 ∨ place = 971 ∧ k = 2 ^ 53) := by omega
  have hvalue : Dyadic.ofIntWithPrec (if n < 0 then -k else k) (-place) = .ofInt n := by
    rw [ofIntWithPrec_eq_ofInt]
    have hcast : (n.natAbs : Int) * 2 ^ (-place).toNat = k * 2 ^ place.toNat := by exact_mod_cast hk
    split_ifs with hsign
    · rw [Int.neg_mul, ← hcast, ← Int.neg_mul, Int.ofNat_natAbs_of_nonpos (by omega), Int.neg_neg]
    · rw [← hcast, Int.natAbs_of_nonneg (by omega)]
  have hratio : ofRatio (n < 0) n.natAbs 1 = .finite (.ofInt n) := by
    simp only [ofRatio, if_neg hne, hlast, Nat.pow_eq, hround, if_neg hpos, if_neg hfinite,
      decide_eq_true_eq, hvalue]
  rw [ofInt?, hratio]

end Flowgraph.Double
