import Flowgraph.Proofs.Rounding
import Mathlib.Tactic.Linarith

/-!
# The integers around a double

A double is cut off to an integer, which is the double itself from `2 ^ 53` on, since there a double
has no places behind the point.  Up to there every integer is a double; beyond, an integer is
rounded to a double, and rounding passes no double on its way.  So the double of an integer may be
the integer before it, but only beyond `2 ^ 53`.

## Main definitions

* `Double.FallsShort` — the double of an integer is the integer before it.

## Main results

* `Double.lt_ofInt_truncate` — a value is below the integer behind its integer part.
* `Double.eq_ofInt_truncate` — **a double beyond `2 ^ 53` is an integer.**
* `Double.ofInt_le_of_representable` — **rounding passes no double.**
* `Double.lt_natAbs_of_fallsShort` — only integers beyond `2 ^ 53` fall short.
-/

namespace Flowgraph.Double

variable {x : Double} {v : Dyadic} {m n : Int}

/-! ### Integer parts -/

theorem ofInt_le : Dyadic.ofInt m ≤ .ofInt n ↔ m ≤ n := by
  rw [← Dyadic.toRat_le_toRat_iff]
  change (m : Dyadic).toRat ≤ (n : Dyadic).toRat ↔ m ≤ n
  rw [Dyadic.toRat_intCast, Dyadic.toRat_intCast, Int.cast_le]

/-- A value is a quotient, and its integer part is that of the quotient. -/
theorem exists_quotient (v : Dyadic) :
    ∃ num den : Int, 0 < den ∧ v.toRat * den = num ∧ truncateDyadic v = num.tdiv den := by
  cases v with
  | zero => exact ⟨0, 1, by decide, by simp [Dyadic.toRat], rfl⟩
  | ofOdd k place hodd =>
    refine ⟨k * 2 ^ (-place).toNat, 2 ^ place.toNat, Int.pow_pos (by decide), ?_, rfl⟩
    rw [Dyadic.toRat_ofOdd_eq_mul_two_pow]
    push_cast
    rw [mul_assoc, ← zpow_natCast, ← zpow_natCast, ← zpow_add₀ (by decide)]
    congr 2
    omega

/-- A value is below the integer behind its integer part. -/
theorem lt_ofInt_truncate (v : Dyadic) : v < .ofInt (truncateDyadic v + 1) := by
  obtain ⟨num, den, hden, hvalue, htruncate⟩ := exists_quotient v
  have hrest := Int.tmod_lt_of_pos num hden
  have hsplit := Int.mul_tdiv_add_tmod num den
  have hnum : num < (num.tdiv den + 1) * den := by linarith
  rw [← Dyadic.toRat_lt_toRat_iff, htruncate]
  have hpos : (0 : Rat) < den := by exact_mod_cast hden
  have hlt : v.toRat * den < ((num.tdiv den + 1 : Int) : Rat) * den := by
    rw [hvalue]
    exact_mod_cast hnum
  exact (lt_of_mul_lt_mul_right hlt hpos.le).trans_eq (Dyadic.toRat_intCast _).symm

theorem truncateDyadic_ofInt (n : Int) : truncateDyadic (.ofInt n) = n := by
  obtain ⟨num, den, hden, hvalue, htruncate⟩ := exists_quotient (.ofInt n)
  have hnum : n * den = num := by
    rw [show (Dyadic.ofInt n).toRat = n from Dyadic.toRat_intCast n] at hvalue
    exact_mod_cast hvalue
  rw [htruncate, ← hnum, Int.mul_tdiv_cancel _ hden.ne']

/-- The integer part of a value is no larger than the value. -/
theorem natAbs_truncate_le {bound : Nat} (h : |v.toRat| ≤ bound) :
    (truncateDyadic v).natAbs ≤ bound := by
  obtain ⟨num, den, hden, hvalue, htruncate⟩ := exists_quotient v
  have hpos : (0 : Rat) < den := by exact_mod_cast hden
  have hnum : |num| ≤ bound * den := by
    have hscaled : |v.toRat| * den ≤ bound * den := mul_le_mul_of_nonneg_right h hpos.le
    rw [← abs_of_pos hpos, ← abs_mul, hvalue, abs_of_pos hpos] at hscaled
    exact_mod_cast hscaled
  rw [htruncate, Int.natAbs_tdiv]
  refine Nat.div_le_of_le_mul ?_
  zify
  rwa [abs_of_pos hden, mul_comm]

/-- The value of a double is an integer, or its integer part is below `2 ^ 53`. -/
theorem Representable.integer_or_small (h : Representable v) :
    (∃ n, v = .ofInt n ∧ n.natAbs + 1 < firstTooLarge) ∨ (truncateDyadic v).natAbs < 2 ^ 53 := by
  obtain ⟨significand, place, hbits, -, hhigh, rfl⟩ := h
  obtain ⟨zeros, rfl | rfl⟩ := place.eq_nat_or_neg
  · refine .inl ⟨significand * 2 ^ zeros, ofIntWithPrec_eq_ofInt.mpr (by simp), ?_⟩
    calc (significand * 2 ^ zeros).natAbs + 1 = significand.natAbs * 2 ^ zeros + 1 := by
          rw [Int.natAbs_mul, Int.natAbs_pow]
          rfl
      _ ≤ (2 ^ 53 - 1) * 2 ^ 971 + 1 :=
        Nat.succ_le_succ (Nat.mul_le_mul (Nat.le_sub_one_of_lt hbits)
          (Nat.pow_le_pow_right (by decide) (by omega)))
      _ < firstTooLarge := by decide +kernel
  · -- the places behind the point make the value smaller than its significand
    refine .inr (Nat.lt_of_le_of_lt (natAbs_truncate_le ?_) hbits)
    have hpow : (2 : Rat) ^ (-(zeros : Int)) ≤ 1 := zpow_le_one_of_nonpos₀ (by decide) (by omega)
    rw [Dyadic.toRat_ofIntWithPrec_eq_mul_two_pow, Int.neg_neg, abs_mul,
      abs_of_pos (zpow_pos (by decide : (0 : Rat) < 2) _), Nat.cast_natAbs, Int.cast_abs]
    exact mul_le_of_le_one_right (abs_nonneg _) hpow

/-- **A double beyond `2 ^ 53` is an integer.** -/
theorem eq_ofInt_truncate (h : Representable v) (hlarge : 2 ^ 53 ≤ (truncateDyadic v).natAbs) :
    v = .ofInt (truncateDyadic v) := by
  rcases h.integer_or_small with ⟨n, rfl, -⟩ | hsmall
  · rw [truncateDyadic_ofInt]
  · exact absurd hlarge (Nat.not_le_of_lt hsmall)

/-- The integer part of a double has neighbours that are not too large for a double. -/
theorem natAbs_truncate_lt (h : Representable v) :
    (truncateDyadic v).natAbs + 1 < firstTooLarge := by
  rcases h.integer_or_small with ⟨n, rfl, hn⟩ | hsmall
  · rw [truncateDyadic_ofInt]
    exact hn
  · exact Nat.lt_of_le_of_lt hsmall (by decide +kernel)

/-! ### Rounding of integers -/

/-- A natural number rounded to fifty-three bits. -/
def rounded (n : Nat) : Nat :=
  roundQuotient n (2 ^ (n.log2 - 52)) * 2 ^ (n.log2 - 52)

/-- The double of an integer beyond `2 ^ 53` is the integer rounded in size. -/
theorem value_of_ofInt? (hlarge : 2 ^ 53 ≤ n.natAbs) (hx : ofInt? n = some x) :
    x.value? = some (.ofInt (if n < 0 then -rounded n.natAbs else rounded n.natAbs)) := by
  have hne : n.natAbs ≠ 0 := by omega
  have hlog : 53 ≤ n.natAbs.log2 := (Nat.le_log2 hne).mpr hlarge
  rw [rounded]
  obtain ⟨zeros, hzeros⟩ : ∃ zeros, n.natAbs.log2 - 52 = zeros := ⟨_, rfl⟩
  obtain ⟨k, hk⟩ : ∃ k, roundQuotient n.natAbs (2 ^ zeros) = k := ⟨_, rfl⟩
  have hplace : lastPlace n.natAbs 1 = zeros := by
    rw [lastPlace_one hne]
    omega
  have hnone : (-(zeros : Int)).toNat = 0 := by omega
  rw [hzeros, hk]
  simp only [ofInt?, ofRatio, if_neg hne, hplace, Int.toNat_natCast, hnone, Nat.pow_eq, Nat.pow_zero,
    Nat.mul_one, Nat.one_mul, hk, decide_eq_true_eq] at hx
  split_ifs at hx with hzero hinfinite hnegative
  · have hvalue : x.value? = some (.ofInt 0) := by
      rcases hsign : decide (n < 0) <;> rw [hsign] at hx <;> cases hx <;> rfl
    simpa [hzero] using hvalue
  · rw [← Option.some.inj hx, if_pos hnegative, value?, Option.some.injEq, ofIntWithPrec_eq_ofInt]
    simp
  · rw [← Option.some.inj hx, if_neg hnegative, value?, Option.some.injEq, ofIntWithPrec_eq_ofInt]
    simp

/-- A number with fifty-three bits and zeros behind them is a multiple of the last place of another
number, or it is below the first power of two that the other one is not below. -/
theorem exists_multiple_or_lt {num significand place : Nat} (hbits : significand < 2 ^ 53)
    (zeros : Nat) (hplace : num.log2 - 52 = place) :
    (∃ k, significand * 2 ^ zeros = k * 2 ^ place) ∨
      significand * 2 ^ zeros < 2 ^ 52 * 2 ^ place ∧ 2 ^ 52 * 2 ^ place ≤ num := by
  rcases Nat.lt_or_ge zeros place with hzeros | hzeros
  · refine .inr ⟨?_, ?_⟩
    · calc significand * 2 ^ zeros < 2 ^ 53 * 2 ^ zeros :=
          Nat.mul_lt_mul_of_pos_right hbits (Nat.two_pow_pos zeros)
        _ = 2 ^ 52 * 2 ^ (zeros + 1) := by ring
        _ ≤ 2 ^ 52 * 2 ^ place := Nat.mul_le_mul_left _ (Nat.pow_le_pow_right (by decide) hzeros)
    · have hlog : 52 + place = num.log2 := by omega
      have hne : num ≠ 0 := by
        rintro rfl
        rw [Nat.log2_zero] at hlog
        omega
      rw [← Nat.pow_add, hlog]
      exact Nat.log2_self_le hne
  · obtain ⟨more, rfl⟩ := Nat.exists_eq_add_of_le hzeros
    exact .inl ⟨significand * 2 ^ more, by ring⟩

/-- On its way down rounding passes no number with fifty-three bits before its zeros. -/
theorem le_rounded {num significand zeros : Nat} (hbits : significand < 2 ^ 53)
    (hle : significand * 2 ^ zeros ≤ num) : significand * 2 ^ zeros ≤ rounded num := by
  obtain ⟨place, hplace⟩ : ∃ place, num.log2 - 52 = place := ⟨_, rfl⟩
  have hround : ∀ k, k * 2 ^ place ≤ num → k * 2 ^ place ≤ rounded num := by
    intro k hk
    rw [rounded, hplace]
    refine Nat.mul_le_mul_right _ (le_trans ?_ (div_le_roundQuotient num (2 ^ place)))
    exact (Nat.le_div_iff_mul_le (Nat.two_pow_pos place)).mpr hk
  rcases exists_multiple_or_lt hbits zeros hplace with ⟨k, hk⟩ | ⟨hlt, hlow⟩
  · rw [hk] at hle ⊢
    exact hround k hle
  · exact hlt.le.trans (hround _ hlow)

/-- Neither does it on its way up. -/
theorem rounded_le {num significand zeros : Nat} (hbits : significand < 2 ^ 53)
    (hle : num ≤ significand * 2 ^ zeros) : rounded num ≤ significand * 2 ^ zeros := by
  obtain ⟨place, hplace⟩ : ∃ place, num.log2 - 52 = place := ⟨_, rfl⟩
  rcases exists_multiple_or_lt hbits zeros hplace with ⟨k, hk⟩ | ⟨hlt, hlow⟩
  · rw [rounded, hplace, hk]
    rw [hk] at hle
    exact Nat.mul_le_mul_right _ (roundQuotient_le (Nat.two_pow_pos place) hle)
  · omega

/-- **Rounding passes no double**: the double of an integer is not below a double that the integer is
not below. -/
theorem ofInt_le_of_representable (hm : Representable (.ofInt m)) (hle : m ≤ n)
    (hx : ofInt? n = some x) (hv : x.value? = some v) : Dyadic.ofInt m ≤ v := by
  rcases Nat.lt_or_ge n.natAbs (2 ^ 53) with hsmall | hlarge
  · -- the integer is its own double
    rw [ofInt?_of_representable (representable_ofInt hsmall.le), Option.some.injEq] at hx
    subst hx
    obtain rfl := Option.some.inj hv
    exact ofInt_le.mpr hle
  · rw [value_of_ofInt? hlarge hx, Option.some.injEq] at hv
    subst hv
    obtain ⟨significand, zeros, hbits, -, hsize⟩ := exists_natAbs_eq hm
    rw [ofInt_le]
    split_ifs with hnegative
    · -- below zero the integer is smaller in size than the double
      have hrounded : rounded n.natAbs ≤ m.natAbs := by
        rw [hsize]
        exact rounded_le hbits (hsize ▸ by omega)
      omega
    · rcases lt_or_ge m 0 with hsign | hsign
      · omega
      · have hrounded : m.natAbs ≤ rounded n.natAbs := by
          rw [hsize]
          exact le_rounded hbits (hsize ▸ by omega)
        omega

/-- What a quotient is rounded to has the value of a double, if it is finite. -/
theorem representable_of_value {negative : Bool} {num den : Nat} (hden : den ≠ 0)
    (hv : (ofRatio negative num den).value? = some v) : Representable v := by
  cases hratio : ofRatio negative num den with
  | finite w =>
    rw [hratio] at hv
    obtain rfl := Option.some.inj hv
    exact representable_of_ofRatio hden hratio
  | negZero =>
    rw [hratio] at hv
    obtain rfl := Option.some.inj hv
    exact representable_zero
  | _ =>
    rw [hratio] at hv
    cases hv

theorem representable_of_ofInt? (hx : ofInt? n = some x) (hv : x.value? = some v) :
    Representable v := by
  rw [ofInt?] at hx
  split at hx
  · cases hx
  · cases hx
    exact representable_of_value (by decide) hv

theorem representable_of_ofDecimal {negative : Bool} {digits : Nat} {exponent : Int}
    (hv : (ofDecimal negative digits exponent).value? = some v) : Representable v := by
  rw [ofDecimal] at hv
  split_ifs at hv
  · cases negative <;> cases hv <;> exact representable_zero
  · cases hv
  · exact representable_of_value (Nat.pow_pos (by decide)).ne' hv

/-- The integer behind the integer part of a double has a double. -/
theorem exists_ofInt?_truncate (h : Representable v) :
    ∃ x w, ofInt? (truncateDyadic v + 1) = some x ∧ x.value? = some w := by
  have hsome : ofInt? (truncateDyadic v + 1) ≠ none := by
    have hsmall := natAbs_truncate_lt h
    rw [Ne, ofInt?_eq_none_iff]
    omega
  obtain ⟨x, hx⟩ := Option.ne_none_iff_exists'.mp hsome
  obtain ⟨w, hw⟩ := exists_value_of_ofInt? hx
  exact ⟨x, w, hx, hw⟩

/-- The double of an integer is the integer before it. -/
def FallsShort (n : Int) : Prop :=
  ∃ x, ofInt? n = some x ∧ x.value? = some (.ofInt (n - 1))

/-- Only integers beyond `2 ^ 53` fall short. -/
theorem lt_natAbs_of_fallsShort (h : FallsShort n) : 2 ^ 53 < n.natAbs := by
  obtain ⟨x, hx, hv⟩ := h
  by_contra hsmall
  rw [ofInt?_of_representable (representable_ofInt (by omega)), Option.some.injEq] at hx
  subst hx
  have heq : n = n - 1 := ofInt_inj.mp (Option.some.inj hv)
  omega

end Flowgraph.Double
