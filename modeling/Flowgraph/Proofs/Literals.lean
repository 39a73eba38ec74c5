import Flowgraph.Proofs.Digits
import Flowgraph.Proofs.Limits

/-!
# Literals as they are written

The absent value, truth values, integers and texts can be written in a condition: a text stands
between quotes, with nothing in it changed, the others stand for themselves.  A literal is looked at
for one form after another, and a text may look like any of them inside its quotes; yet what is read
is what has been written.

So a field can be compared with any such value, and the condition holds exactly if the field is
there and has that value.

## Main definitions

* `Condition.Scalar` — a value that can be written as a literal.
* `Condition.Scalar.written` — the literal that writes it.

## Main results

* `Condition.literal_of_written` — **a literal is read as it has been written.**
* `Condition.holds_written` — **a field is compared with the value that a literal writes.**
-/

namespace Flowgraph

namespace Text

/-- Digits are no blanks. -/
theorem not_isBlank_of_isDigit {c : Char} (h : c.isDigit = true) : isBlank c = false := by
  obtain ⟨hzero, hnine⟩ : 48 ≤ c.toNat ∧ c.toNat ≤ 57 := Char.isDigit_iff_toNat.mp h
  have hdigits : ∀ n < 58, 48 ≤ n → isBlank (Char.ofNat n) = false := by decide
  rw [← Char.ofNat_toNat c]
  exact hdigits c.toNat (by omega) hzero

theorem not_isBlank_of_mem_toString {i : Int} {c : Char} (h : c ∈ (toString i).toList) :
    isBlank c = false := by
  have hdigits : c ∈ Nat.toDigits 10 i.natAbs → isBlank c = false := fun hc =>
    not_isBlank_of_isDigit (Nat.isDigit_of_mem_toDigits (by decide) (by decide) hc)
  rw [toList_toString] at h
  split_ifs at h
  · rcases List.mem_cons.mp h with rfl | h
    · decide
    · exact hdigits h
  · exact hdigits h

end Text

namespace Condition

/-- A value that can be written as a literal. -/
inductive Scalar where
  /-- The absent value. -/
  | null
  /-- A truth value. -/
  | bool (b : Bool)
  /-- An integer of not too many digits. -/
  | int (n : Int) (h : n.natAbs < 10 ^ Text.maxDigits)
  /-- A text on one line. -/
  | str (s : String) (h : '\n' ∉ s.toList)

namespace Scalar

/-- The value itself. -/
def value : Scalar → Json
  | null => .null
  | bool b => .bool b
  | int n _ => .int n
  | str s _ => .str s

/-- The literal that writes the value. -/
def written : Scalar → String
  | null => "null"
  | bool b => if b then "true" else "false"
  | int n _ => toString n
  | str s _ => "'" ++ s ++ "'"

end Scalar

variable {context : Json} {text : String} {n : Int}

/-! ### Reading -/

theorem toList_quoted (text : String) :
    ("'" ++ text ++ "'").toList = '\'' :: (text.toList ++ ['\'']) := by
  simp

theorem strip_quoted (text : String) :
    Text.strip ("'" ++ text ++ "'").toList = ("'" ++ text ++ "'").toList := by
  have hquote : Text.isBlank '\'' = false := by decide
  rw [toList_quoted]
  refine Text.strip_eq_self ?_ ?_
  · simpa using hquote
  · rw [← List.cons_append, List.getLast?_concat]
    simpa using hquote

theorem strip_toString (n : Int) : Text.strip (toString n).toList = (toString n).toList :=
  Text.strip_eq_self_of_forall fun _ hc => Text.not_isBlank_of_mem_toString hc

/-- A text between quotes is read as it is. -/
theorem literal_quoted (text : String) : literal ("'" ++ text ++ "'") = .ok (.str text) := by
  have hinside : unquoted? ("'" ++ text ++ "'").toList = some text.toList := by
    rw [toList_quoted]
    simp [unquoted?]
  rw [literal]
  simp only [strip_quoted, hinside, String.ofList_toList]

/-- A text that is an integer is no other literal, and it is read exactly. -/
theorem literal_of_isInteger (hstrip : Text.strip text.toList = text.toList)
    (hinteger : Text.isInteger text.toList = true) (hread : Text.readInteger text.toList = .ok n) :
    literal text = .ok (.int n) := by
  have hquoted : unquoted? text.toList = none := by
    refine Option.eq_none_iff_forall_ne_some.mpr fun inside h => ?_
    rw [(not_integer_of_unquoted? h).1] at hinteger
    cases hinteger
  have hconstant : text.toList ∉ ["true".toList, "false".toList, "null".toList] := by
    intro h
    rw [(not_integer_of_constant h).1] at hinteger
    cases hinteger
  simp only [List.mem_cons, List.not_mem_nil, or_false, not_or] at hconstant
  obtain ⟨htrue, hfalse, hnull⟩ := hconstant
  -- it passes for a number of double precision first, however large it is
  have hnumeral := Text.numeral?_of_isInteger hstrip hinteger
  rw [literal]
  simp only [hstrip, hquoted, if_neg htrue, if_neg hfalse, if_neg hnull, hnumeral, hinteger, hread]
  rfl

/-- A literal is read as it has been written. -/
theorem literal_of_written (s : Scalar) : literal s.written = .ok s.value := by
  cases s with
  | null => rfl
  | bool b => cases b <;> rfl
  | int n h =>
    exact literal_of_isInteger (strip_toString n) (Text.isInteger_toString n)
      (Text.readInteger_toString h)
  | str text h => exact literal_quoted text

/-! ### Comparing -/

namespace Scalar

variable (s : Scalar)

/-- A literal has no blanks around it. -/
theorem strip_written : Text.strip s.written.toList = s.written.toList := by
  cases s with
  | null => decide
  | bool b => cases b <;> decide
  | int n h => exact strip_toString n
  | str text h => exact strip_quoted text

/-- A literal begins neither with a blank nor like a path. -/
theorem head_written :
    ∃ c, s.written.toList.head? = some c ∧ c ≠ '$' ∧ Text.isBlank c = false := by
  cases s with
  | null => exact ⟨'n', by decide⟩
  | bool b => cases b <;> exact ⟨_, rfl, by decide⟩
  | int n h =>
    have hinteger := Text.isInteger_toString n
    cases hchars : (toString n).toList with
    | nil =>
      rw [hchars] at hinteger
      cases hinteger
    | cons c cs =>
      refine ⟨c, by rw [written, hchars, List.head?_cons], ?_, ?_⟩
      · rintro rfl
        rw [(not_integer_of_root (by rw [hchars, List.head?_cons])).1] at hinteger
        cases hinteger
      · exact Text.not_isBlank_of_mem_toString (hchars ▸ List.mem_cons_self)
  | str text h => exact ⟨'\'', by rw [written, toList_quoted, List.head?_cons], by decide⟩

/-- A literal is on one line. -/
theorem line_written : '\n' ∉ s.written.toList := by
  cases s with
  | null => decide
  | bool b => cases b <;> decide
  | int n h =>
    intro hmem
    exact absurd (Text.not_isBlank_of_mem_toString hmem) (by decide)
  | str text h => simpa [written] using h

end Scalar

theorem operand_written (context : Json) (s : Scalar) :
    operand context s.written.toList = .ok (some s.value) := by
  obtain ⟨c, hhead, hc, -⟩ := s.head_written
  have hroot : ¬ s.written.toList.head? = some '$' := by simpa [hhead] using hc
  rw [operand, s.strip_written, if_neg hroot, String.ofList_toList, literal_of_written]
  rfl

theorem plainPath_x : PlainPath "$.x" :=
  ⟨by decide, by decide, fun op => by cases op <;> decide⟩

/-- A path of one name leads to the field of that name. -/
theorem resolve_x (context : Json) : Path.resolve context "$.x" = .ok (context.field? "x") := by
  have htokens : Path.tokens "$.x" = ["x"] := by decide
  have hindex : Path.indexDigits? "x" = none := by decide
  have hstep : Path.step context "x" = .ok (context.field? "x") := by
    cases context with
    | arr items => rw [Path.step, hindex]; rfl
    | _ => rfl
  rw [Path.resolve, if_neg (by decide), if_pos (by decide), htokens, Path.walk, hstep]
  cases context.field? "x" <;> rfl

/-- **A field is compared with the value that a literal writes**: the condition holds exactly if the
field is there and has that value. -/
theorem holds_written (context : Json) (s : Scalar) :
    literal s.written = .ok s.value ∧ holds context ("$.x == " ++ s.written) =
      .ok ((context.field? "x").any fun v => v.strictEquals s.value) := by
  refine ⟨literal_of_written s, ?_⟩
  obtain ⟨c, hhead, -, hblank⟩ := s.head_written
  have hright : ∃ c ∈ s.written.toList, Text.isBlank c = false :=
    ⟨c, List.mem_of_mem_head? hhead, hblank⟩
  have htext : "$.x == " ++ s.written = "$.x" ++ " " ++ Operator.equal.sign ++ " " ++ s.written :=
    rfl
  rw [htext, plainPath_x.holds_eq context .equal hright s.line_written, resolve_x, operand_written]
  cases context.field? "x" <;> rfl

end Condition
end Flowgraph
