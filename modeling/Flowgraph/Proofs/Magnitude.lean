import Flowgraph.Number.Double
import Mathlib.Tactic.Ring
import Mathlib.Tactic.SplitIfs

/-!
# Integers that are too large

The doubles have a largest finite one, and an integer is rounded to it as long as it is nearer to it
than to the next power of two.  From the middle between the two on, an integer has no double.

## Main definitions

* `Double.firstTooLarge` — the first natural number that is too large.

## Main results

* `Double.ofInt?_eq_none_iff` — **an integer has no double exactly if it is too large.**
-/

namespace Flowgraph.Double

/-- The first natural number that has no double: the middle between the largest finite double and
the next power of two, `2 ^ 1024`. -/
def firstTooLarge : Nat :=
  2 ^ 1024 - 2 ^ 970

/-! ### Rounding of natural numbers -/

theorem floorLog2_one {num : Nat} (h : num ≠ 0) : floorLog2 num 1 = num.log2 := by
  have hlog : Nat.log2 1 = 0 := by decide
  have hle : 1 * Nat.pow 2 ((num.log2 : Int) - (0 : Nat)).toNat ≤
      num * Nat.pow 2 (-((num.log2 : Int) - (0 : Nat))).toNat := by
    rw [show ((num.log2 : Int) - (0 : Nat)).toNat = num.log2 by omega,
      show (-((num.log2 : Int) - (0 : Nat))).toNat = 0 by omega, Nat.one_mul, Nat.pow_eq,
      Nat.pow_eq, Nat.pow_zero, Nat.mul_one]
    exact Nat.log2_self_le h
  rw [floorLog2, hlog, if_pos hle]
  omega

/-- A quotient is rounded up to an even number that it is below from the middle before it on. -/
theorem roundQuotient_eq_iff {num half k : Nat} (hhalf : 0 < half) (heven : k % 2 = 0)
    (hlt : num < k * (2 * half)) :
    roundQuotient num (2 * half) = k ↔ (2 * k - 1) * half ≤ num := by
  have hk : num / (2 * half) < k := Nat.div_lt_of_lt_mul (by rwa [Nat.mul_comm])
  have hsplit := Nat.div_add_mod num (2 * half)
  have hrest := Nat.mod_lt num (show 0 < 2 * half by omega)
  rw [roundQuotient]
  generalize num / (2 * half) = q at *
  generalize num % (2 * half) = r at *
  rcases Nat.lt_or_ge (q + 1) k with hbelow | habove
  · -- the number is below the even one by more than a whole place
    have hplaces : (q + 1) * (2 * half) ≤ (k - 1) * (2 * half) :=
      Nat.mul_le_mul_right _ (by omega)
    have hnum : num < (2 * k - 1) * half := by
      calc num < (q + 1) * (2 * half) := by rw [Nat.add_mul, Nat.mul_comm q]; omega
        _ ≤ (k - 1) * (2 * half) := hplaces
        _ = (2 * (k - 1)) * half := by ring
        _ ≤ (2 * k - 1) * half := Nat.mul_le_mul_right _ (by omega)
    refine iff_of_false ?_ (Nat.not_le_of_lt hnum)
    split
    · omega
    · split <;> omega
  · obtain rfl : k = q + 1 := by omega
    -- the middle is half a place above `q` places, so the remainder decides
    have hmiddle : (2 * (q + 1) - 1) * half = 2 * half * q + half := by
      rw [show 2 * (q + 1) - 1 = 2 * q + 1 by omega]
      ring
    rw [hmiddle, ← hsplit, Nat.add_le_add_iff_left]
    split
    · omega
    · split <;> omega

/-- The doubles of a number with fifty-four bits more than a last place: it is rounded up to the
next power of two from the middle before that on. -/
theorem roundQuotient_eq_two_pow_iff {num k : Nat} (h : num.log2 = k + 53) :
    roundQuotient num (2 ^ (k + 1)) = 2 ^ 53 ↔ (2 * 2 ^ 53 - 1) * 2 ^ k ≤ num := by
  have hlt : num < 2 ^ 53 * (2 * 2 ^ k) := by
    calc num < 2 ^ (num.log2 + 1) := Nat.lt_log2_self
      _ = 2 ^ 53 * (2 * 2 ^ k) := by rw [h]; ring
  rw [Nat.pow_succ']
  exact roundQuotient_eq_iff (Nat.two_pow_pos k) rfl hlt

theorem div_le_roundQuotient (num den : Nat) : num / den ≤ roundQuotient num den := by
  rw [roundQuotient]
  split
  · exact Nat.le_refl _
  · split <;> omega

/-- A quotient is rounded to an infinity if its last place is too high, or it is rounded up to a
power of two whose last place is. -/
theorem ofRatio_eq_infinite_iff {negative sign : Bool} {num den significand : Nat} {place : Int}
    (hnum : num ≠ 0) (hplace : lastPlace num den = place)
    (hsignificand :
      roundQuotient (num * 2 ^ (-place).toNat) (den * 2 ^ place.toNat) = significand) :
    ofRatio negative num den = infinite sign ↔ sign = negative ∧ significand ≠ 0 ∧
      (place > 971 ∨ (place = 971 ∧ significand = 2 ^ 53)) := by
  have hzero : zero negative ≠ infinite sign := by cases negative <;> simp [zero]
  simp only [ofRatio, if_neg hnum, hplace, Nat.pow_eq, hsignificand]
  split_ifs with hnone hlarge
  · simp [hzero, hnone]
  · simp only [infinite.injEq, hnone, hlarge, ne_eq, not_false_eq_true, and_true]
    exact eq_comm
  · simp [hlarge]

/-! ### Integers -/

theorem lastPlace_one {num : Nat} (h : num ≠ 0) : lastPlace num 1 = (num.log2 : Int) - 52 := by
  rw [lastPlace, floorLog2_one h]
  omega

/-- The first number that is too large is the middle between two numbers with their last places at
`2 ^ 971`. -/
theorem firstTooLarge_eq : firstTooLarge = (2 * 2 ^ 53 - 1) * 2 ^ 970 := by
  decide +kernel

theorem firstTooLarge_pos : 0 < firstTooLarge := by
  decide +kernel

/-- A natural number is rounded to an infinity exactly if it is too large. -/
theorem ofRatio_one_eq_infinite_iff {negative sign : Bool} {num : Nat} :
    ofRatio negative num 1 = infinite sign ↔ sign = negative ∧ firstTooLarge ≤ num := by
  by_cases hnum : num = 0
  · have hzero : ofRatio negative 0 1 ≠ infinite sign := by cases negative <;> simp [ofRatio, zero]
    simp [hnum, hzero, Nat.ne_of_gt firstTooLarge_pos]
  have hlow := Nat.log2_self_le hnum
  rw [ofRatio_eq_infinite_iff hnum (lastPlace_one hnum) rfl, and_congr_right_iff]
  intro _
  rcases Nat.lt_trichotomy num.log2 1023 with hlog | hlog | hlog
  · -- below the last power of two nothing is too large
    have hsmall : num < firstTooLarge := by
      calc num < 2 ^ 1023 := (Nat.log2_lt hnum).mp hlog
        _ ≤ firstTooLarge := by decide +kernel
    refine iff_of_false ?_ (Nat.not_le_of_lt hsmall)
    omega
  · -- among the last doubles, whose places are at `2 ^ 971`, rounding decides
    have hround := roundQuotient_eq_two_pow_iff hlog
    have hplace : ((num.log2 : Int) - 52).toNat = 970 + 1 := by omega
    have hnegative : (-((num.log2 : Int) - 52)).toNat = 0 := by omega
    rw [hplace, hnegative, Nat.pow_zero, Nat.mul_one, Nat.one_mul, firstTooLarge_eq, ← hround]
    constructor
    · rintro ⟨-, hlarge | ⟨-, hround⟩⟩
      · omega
      · exact hround
    · intro hround
      rw [hround]
      exact ⟨Nat.ne_of_gt (Nat.two_pow_pos 53), .inr ⟨by omega, rfl⟩⟩
  · -- above, all places are too high
    have hlarge : firstTooLarge ≤ num := by
      calc firstTooLarge ≤ 2 ^ 1024 := by decide +kernel
        _ ≤ num := by rwa [← Nat.le_log2 hnum]
    have hquotient : 0 < num * 2 ^ (-((num.log2 : Int) - 52)).toNat /
        (1 * 2 ^ ((num.log2 : Int) - 52).toNat) := by
      rw [Nat.one_mul, show (-((num.log2 : Int) - 52)).toNat = 0 by omega, Nat.pow_zero,
        Nat.mul_one]
      refine Nat.div_pos (le_trans (Nat.pow_le_pow_right (by decide) ?_) hlow) (Nat.two_pow_pos _)
      omega
    refine iff_of_true ⟨?_, .inl (by omega)⟩ hlarge
    exact Nat.ne_of_gt (lt_of_lt_of_le hquotient (div_le_roundQuotient _ _))

/-- **An integer has no double exactly if it is too large.** -/
theorem ofInt?_eq_none_iff (n : Int) : ofInt? n = none ↔ firstTooLarge ≤ n.natAbs := by
  rw [ofInt?]
  split
  · rename_i sign hinfinite
    simpa using (ofRatio_one_eq_infinite_iff.mp hinfinite).2
  · rename_i x hfinite
    refine iff_of_false (Option.some_ne_none _) fun hle => ?_
    exact hfinite _ (ofRatio_one_eq_infinite_iff.mpr ⟨rfl, hle⟩)

end Flowgraph.Double
