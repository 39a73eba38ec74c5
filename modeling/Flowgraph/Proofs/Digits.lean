import Flowgraph.Text.Integer
import Mathlib.Algebra.Group.Nat.Defs
import Mathlib.Data.List.Basic
import Mathlib.Data.List.Induction
import Mathlib.Tactic.SplitIfs

/-!
# Numbers in decimal digits

A number that is written in its decimal digits is read again, however large it is, as long as it
has no more digits than a text of a number may have.

## Main results

* `Text.digitsValue_toDigits` — the digits of a number have its value.
* `Text.readNatural_toDigits`, `Text.readInteger_toString` — **a number is read from its digits.**
* `Text.lt_of_readNatural` — a number that is read has not too many digits.
-/

namespace Flowgraph.Text

variable {c : Char} {n : Nat} {i : Int}

/-- A digit of ASCII has its place behind the zero as its value. -/
theorem digitValue?_of_isDigit (h : c.isDigit = true) : digitValue? c = some (c.toNat - 0x30) := by
  obtain ⟨hzero, hnine⟩ := Char.isDigit_iff_toNat.mp h
  have hascii : c.toNat < 0x80 := Nat.lt_of_le_of_lt hnine (by decide)
  have hrange : '0' ≤ c ∧ c ≤ '9' := ⟨hzero, hnine⟩
  rw [digitValue?, if_pos hascii, if_pos hrange]

theorem isDigit_of_mem_toDigits (h : c ∈ Nat.toDigits 10 n) : isDigit c = true := by
  have hdigit : c.isDigit = true := Nat.isDigit_of_mem_toDigits (by decide) (by decide) h
  rw [isDigit, digitValue?_of_isDigit hdigit, Option.isSome_some]

theorem isNatural_toDigits (n : Nat) : isNatural (Nat.toDigits 10 n) = true := by
  rw [isNatural, Bool.and_eq_true, List.all_eq_true]
  exact ⟨by simp [Nat.toDigits_ne_nil], fun c hc => isDigit_of_mem_toDigits hc⟩

/-- The digits of a number have its value. -/
theorem digitsValue_toDigits (n : Nat) : digitsValue (Nat.toDigits 10 n) = n := by
  have hvalues : digitsValue (Nat.toDigits 10 n) = Nat.ofDigitChars 10 (Nat.toDigits 10 n) 0 := by
    refine List.foldl_ext _ _ 0 fun value c hc => ?_
    have hdigit : c.isDigit = true := Nat.isDigit_of_mem_toDigits (by decide) (by decide) hc
    rw [digitValue?_of_isDigit hdigit]
    rfl
  rw [hvalues, Nat.ofDigitChars_ten_toDigits]

/-- **A natural number is read from its digits**, if there are not too many of them. -/
theorem readNatural_toDigits (h : n < 10 ^ maxDigits) :
    readNatural (Nat.toDigits 10 n) = .ok n := by
  have hlength : (Nat.toDigits 10 n).length ≤ maxDigits :=
    (Nat.length_toDigits_le_iff (by decide) (by decide)).mpr h
  rw [readNatural, if_neg (Nat.not_lt_of_le hlength), digitsValue_toDigits]

/-- A digit stands for less than ten. -/
theorem digitValue?_lt {value : Nat} (h : digitValue? c = some value) : value < 10 := by
  unfold digitValue? at h
  split_ifs at h with hascii hrange
  · obtain rfl := Option.some.inj h
    have hnine : c.toNat ≤ 57 := hrange.2
    omega
  · obtain ⟨start, hstart, rfl⟩ := Option.map_eq_some_iff.mp h
    have hwithin := List.find?_some hstart
    simp only [Bool.and_eq_true, decide_eq_true_eq] at hwithin
    omega

/-- A number has no more digits than those it is read from. -/
theorem digitsValue_lt (cs : List Char) : digitsValue cs < 10 ^ cs.length := by
  -- by induction on the digits from the last one on
  induction cs using List.reverseRecOn with
  | nil => exact Nat.one_pos
  | append_singleton cs c ih =>
    have hdigit : (digitValue? c).getD 0 < 10 := by
      cases hvalue : digitValue? c with
      | none => exact Nat.zero_lt_succ 9
      | some value => exact digitValue?_lt hvalue
    rw [digitsValue, List.foldl_append, List.foldl_cons, List.foldl_nil, ← digitsValue,
      List.length_append, List.length_singleton, Nat.pow_succ]
    omega

/-- A number that is read has not too many digits. -/
theorem lt_of_readNatural {digits : List Char} (h : readNatural digits = .ok n) :
    n < 10 ^ maxDigits := by
  unfold readNatural at h
  split_ifs at h with hlength
  have hmore : 10 ^ digits.length ≤ 10 ^ maxDigits :=
    Nat.pow_le_pow_right (by decide) (Nat.le_of_not_lt hlength)
  rw [← Except.ok.inj h]
  exact Nat.lt_of_lt_of_le (digitsValue_lt digits) hmore

/-- Digits have no sign before them. -/
theorem splitSign_of_digits {digits : List Char} (h : ∀ c ∈ digits, isDigit c = true) :
    splitSign digits = (false, digits) := by
  have hsigns : isDigit '-' = false ∧ isDigit '+' = false := by decide
  unfold splitSign
  split
  · exact absurd (h '-' List.mem_cons_self) (by simp [hsigns])
  · exact absurd (h '+' List.mem_cons_self) (by simp [hsigns])
  · rfl

theorem toList_toString (i : Int) : (toString i).toList =
    if i < 0 then '-' :: Nat.toDigits 10 i.natAbs else Nat.toDigits 10 i.natAbs := by
  cases i with
  | ofNat n => simp [toString, Int.repr, Nat.repr]
  | negSucc n => simp [toString, Int.repr, Nat.repr]

/-- An integer is written in the digits of its size, behind a sign if it is negative. -/
theorem splitSign_toString (i : Int) :
    splitSign (toString i).toList = (decide (i < 0), Nat.toDigits 10 i.natAbs) := by
  rw [toList_toString]
  split_ifs with h
  · simp [splitSign, h]
  · rw [splitSign_of_digits fun c hc => isDigit_of_mem_toDigits hc, decide_eq_false h]

theorem isInteger_toString (i : Int) : isInteger (toString i).toList = true := by
  rw [isInteger, splitSign_toString, isNatural_toDigits]

/-- **An integer is read from its digits**, if there are not too many of them. -/
theorem readInteger_toString (h : i.natAbs < 10 ^ maxDigits) :
    readInteger (toString i).toList = .ok i := by
  rw [readInteger, splitSign_toString]
  simp only [readNatural_toDigits h]
  change Except.ok _ = Except.ok _
  congr 1
  split_ifs with hneg <;> simp at hneg <;> omega

end Flowgraph.Text
