import Flowgraph.Condition
import Flowgraph.Proofs.Blanks

/-!
# Where conditions are cut

A condition is written as two operands with an operator between them, and it is to be cut at the
first operator in it.  That is what happens where there is something on both sides of that operator:
the operands are the texts on its two sides, whatever operators the right one holds.

Where one side is blank there is no operand on that side, and the condition is not to hold.  But a
cut is looked for with more zeal than that.  A blank that is no line feed is taken for an operand,
which is the number zero; and where nothing stands before the first operator, that operator is taken
into the left operand if another one comes behind it.

## Main definitions

* `Condition.firstOperator?` — the first operator of a text, with what stands on its two sides.
* `Condition.PlainPath` — a path has neither blanks nor operators in it.

## Main results

* `Condition.split?_eq_some` — a cut is made at an operator, behind something.
* `Condition.split?_of_first` — it is made at the first one, if something stands before that.
* `Condition.holds_of_first`, `Condition.holds_join` — **a condition compares what stands on the two
  sides of its operator.**
* `Condition.PlainPath.holds_eq` — so does one that begins with a path.
* `Condition.holds_of_oneSided` — **a condition with nothing on one side does not hold.**
* `Condition.holds_of_blank_before`, `Condition.holds_of_blank_after` — with a blank on one side it
  compares the other one with zero, as `Condition.holds_blank` does.
-/

namespace Flowgraph.Condition

/-- The first operator of a text, with what stands before it and what stands behind it.  Where two
operators begin in one place it is the longer one. -/
def firstOperator? : List Char → Option (List Char × Operator × List Char)
  | [] => none
  | c :: rest =>
    match Operator.all.find? fun op => op.sign.toList.isPrefixOf (c :: rest) with
    | some op => some ([], op, (c :: rest).drop op.sign.length)
    | none => (firstOperator? rest).map fun (before, op, after) => (c :: before, op, after)

/-! ### Signs -/

namespace Operator

variable {op : Operator} {cs rest : List Char} {b : Char}

theorem mem_all (op : Operator) : op ∈ all := by
  cases op <;> decide

theorem sign_ne_nil (op : Operator) : op.sign.toList ≠ [] := by
  cases op <;> decide

theorem not_isBlank_of_mem_sign {c : Char} (h : c ∈ op.sign.toList) : Text.isBlank c = false := by
  have hsign : op.sign.toList.all (fun c => !Text.isBlank c) = true := by cases op <;> decide
  simpa using List.all_eq_true.mp hsign c h

/-- A sign does not reach over a blank. -/
theorem sign_prefix_of_append (hb : Text.isBlank b = true)
    (h : op.sign.toList <+: cs ++ b :: rest) : op.sign.toList <+: cs := by
  rcases List.prefix_or_prefix_of_prefix h (List.prefix_append cs _) with hsign | ⟨tail, htail⟩
  · exact hsign
  · rw [← htail, List.prefix_append_right_inj] at h
    cases tail with
    | nil => exact ⟨[], by rw [← htail, List.append_nil, List.append_nil]⟩
    | cons c tail =>
      obtain rfl : c = b := (List.cons_prefix_cons.mp h).1
      have hmem : c ∈ op.sign.toList := by simp [← htail]
      rw [not_isBlank_of_mem_sign hmem] at hb
      exact absurd hb Bool.false_ne_true

/-- Blanks before a sign are passed over, and the sign is not. -/
theorem dropWhile_sign (hblanks : ∀ c ∈ cs, Text.isBlank c = true) :
    (cs ++ (op.sign.toList ++ rest)).dropWhile Text.isBlank = op.sign.toList ++ rest := by
  rw [List.dropWhile_append_of_pos hblanks]
  obtain ⟨c, tail, hsign⟩ := List.exists_cons_of_ne_nil op.sign_ne_nil
  have hmem : c ∈ op.sign.toList := by simp [hsign]
  have hc : Text.isBlank c = false := not_isBlank_of_mem_sign hmem
  rw [hsign, List.cons_append, List.dropWhile_cons, if_neg (by simp [hc])]

/-- An operator that stands in a text leaves one of four signs in it. -/
theorem exists_sign_infix (op : Operator) :
    ∃ sign ∈ ["<", ">", "==", "!="], sign.toList <:+: op.sign.toList := by
  cases op <;> decide

/-- The other four operators compare numbers. -/
theorem apply_of_ordering {left right : Option Json} (hequal : op ≠ .equal)
    (hdifferent : op ≠ .different) : op.apply left right = (do
      let x ← operandNumber left
      let y ← operandNumber right
      pure (op.compare x y)) := by
  cases op <;> first | contradiction | rfl

end Operator

variable {cs before after left right : List Char} {op : Operator} {text : String} {context : Json}

/-! ### First operators -/

/-- The first operator stands between what is before it and what is behind it, and no operator
begins before it. -/
theorem firstOperator?_eq_some (h : firstOperator? cs = some (before, op, after)) :
    cs = before ++ (op.sign.toList ++ after) ∧
      ∀ y, y <:+ before → y ≠ [] → ∀ other : Operator,
        ¬ other.sign.toList <+: y ++ (op.sign.toList ++ after) := by
  induction cs generalizing before with
  | nil => cases h
  | cons c rest ih =>
    rw [firstOperator?] at h
    split at h
    · rename_i first hfind
      obtain ⟨rfl, rfl, rfl⟩ : [] = before ∧ first = op ∧
          (c :: rest).drop first.sign.length = after := by simpa using h
      have hsign : first.sign.toList <+: c :: rest := by simpa using List.find?_some hfind
      refine ⟨?_, fun y hy hne => absurd (List.suffix_nil.mp hy) hne⟩
      rw [List.nil_append, ← String.length_toList]
      exact (List.prefix_iff_eq_append.mp hsign).symm
    · rename_i hfind
      obtain ⟨⟨x, op', after'⟩, hrest, heq⟩ := Option.map_eq_some_iff.mp h
      obtain ⟨rfl, rfl, rfl⟩ : c :: x = before ∧ op' = op ∧ after' = after := by simpa using heq
      obtain ⟨rfl, hnone⟩ := ih hrest
      refine ⟨rfl, fun y hy hne other => ?_⟩
      rcases List.suffix_cons_iff.mp hy with rfl | hinside
      · have := List.find?_eq_none.mp hfind other other.mem_all
        simpa using this
      · exact hnone y hinside hne other

/-- Where no operator begins before it, the first operator of the rest is that of the whole. -/
theorem firstOperator?_append {part rest : List Char}
    (hnone : ∀ y, y <:+ part → y ≠ [] → ∀ other : Operator, ¬ other.sign.toList <+: y ++ rest) :
    firstOperator? (part ++ rest) =
      (firstOperator? rest).map fun (before, op, after) => (part ++ before, op, after) := by
  induction part with
  | nil => simp
  | cons c part ih =>
    have hhead : Operator.all.find? (fun op => op.sign.toList.isPrefixOf (c :: (part ++ rest))) =
        none := by
      refine List.find?_eq_none.mpr fun other _ => ?_
      simpa using hnone (c :: part) List.suffix_rfl (List.cons_ne_nil c part) other
    have hrest := ih fun y hy => hnone y (hy.trans (List.suffix_cons c part))
    rw [List.cons_append, firstOperator?, hhead, hrest, Option.map_map]
    rfl

/-- An operator with a blank behind it is read whole. -/
theorem firstOperator?_sign (op : Operator) {b : Char} {rest : List Char}
    (hb : Text.isBlank b = true) :
    firstOperator? (op.sign.toList ++ b :: rest) = some ([], op, b :: rest) := by
  have hequals : ¬ '=' = b := by
    rintro rfl
    exact absurd hb (by decide)
  have hlength (sign : String) : sign.length = sign.toList.length := String.length_toList.symm
  cases op <;> simp [firstOperator?, Operator.all, Operator.sign, hequals, hlength]

/-- The first operator of two texts with an operator between them is that one, if there is none in
the left text. -/
theorem firstOperator?_join (op : Operator)
    (hsigns : ∀ other : Operator, ¬ other.sign.toList <:+: left) :
    firstOperator? (left ++ ' ' :: (op.sign.toList ++ ' ' :: right)) =
      some (left ++ [' '], op, ' ' :: right) := by
  have hnone : ∀ y, y <:+ left ++ [' '] → y ≠ [] → ∀ other : Operator,
      ¬ other.sign.toList <+: y ++ (op.sign.toList ++ ' ' :: right) := by
    intro y hy hne other hother
    obtain rfl | ⟨y, rfl, hinside⟩ := List.suffix_concat_iff.mp hy
    · exact hne rfl
    · rw [List.append_assoc, List.singleton_append] at hother
      have hsign := Operator.sign_prefix_of_append Text.isBlank_space hother
      exact hsigns other (hsign.isInfix.trans hinside.isInfix)
  rw [List.append_cons, firstOperator?_append hnone, firstOperator?_sign op Text.isBlank_space]
  simp

/-- The first operator is read, if an operand follows. -/
theorem operatorAt?_of_first (h : firstOperator? cs = some (before, op, after))
    (hright : rightOperand? after = some right) :
    operatorAt? (op.sign.toList ++ after) = some (op, right) := by
  induction cs generalizing before with
  | nil => cases h
  | cons c rest ih =>
    rw [firstOperator?] at h
    split at h
    · rename_i first hfind
      obtain ⟨rfl, rfl, rfl⟩ : [] = before ∧ first = op ∧
          (c :: rest).drop first.sign.length = after := by simpa using h
      -- the operators before it in the order do not begin here
      obtain ⟨hsign, earlier, later, hall, hearlier⟩ := List.find?_eq_some_iff_append.mp hfind
      have hnone : ∀ other ∈ earlier, ¬ other.sign.toList.isPrefixOf (c :: rest) = true := by
        intro other hother
        simpa only [Bool.not_eq_true, Bool.not_eq_true'] using hearlier other hother
      rw [← String.length_toList,
        List.prefix_iff_eq_append.mp (List.isPrefixOf_iff_prefix.mp hsign), operatorAt?, hall,
        List.findSome?_append,
        List.findSome?_eq_none_iff.mpr fun other hother => if_neg (hnone other hother),
        Option.none_or, List.findSome?_cons, if_pos hsign, hright]
      rfl
    · obtain ⟨⟨x, op', after'⟩, hrest, heq⟩ := Option.map_eq_some_iff.mp h
      obtain ⟨-, rfl, rfl⟩ : c :: x = before ∧ op' = op ∧ after' = after := by simpa using heq
      exact ih hrest

/-! ### Operands -/

theorem operand_strip (context : Json) (cs : List Char) :
    operand context (Text.strip cs) = operand context cs := by
  rw [operand, Text.strip_strip, operand]

/-- The blanks around an operand make no difference. -/
theorem operand_of_strip {cs' : List Char} (h : Text.strip cs = Text.strip cs') :
    operand context cs = operand context cs' := by
  rw [← operand_strip, h, operand_strip]

/-- Nothing at all is the number zero. -/
theorem operand_nil (context : Json) : operand context [] = .ok (some (.float (.finite 0))) :=
  rfl

/-- A text on one line is an operand, without the blanks around it. -/
theorem rightOperand?_of_line (hline : '\n' ∉ cs) (hcs : ∃ c ∈ cs, Text.isBlank c = false) :
    rightOperand? cs = some (Text.strip cs) := by
  have hbody : cs.dropWhile Text.isBlank ≠ [] := by
    rw [ne_eq, List.dropWhile_eq_nil_iff]
    simpa using hcs
  have hall : ∀ c ∈ cs.dropWhile Text.isBlank, (c != '\n') = true := by
    intro c hc
    have hmem := (List.dropWhile_suffix _).mem hc
    exact bne_iff_ne.mpr fun hfeed => hline (hfeed ▸ hmem)
  unfold rightOperand?
  split
  · rename_i hnil
    exact absurd hnil hbody
  · rw [List.dropWhile_eq_nil_iff.mpr hall, List.takeWhile_eq_self_iff.mpr hall,
      Text.strip_dropWhile]
    rfl

/-- Blanks are an operand too, unless they are all line feeds. -/
theorem rightOperand?_of_blank (hcs : ∀ c ∈ cs, Text.isBlank c = true)
    (hfeed : ∃ c ∈ cs, c ≠ '\n') : rightOperand? cs = some [] := by
  rw [rightOperand?, List.dropWhile_eq_nil_iff.mpr hcs]
  simpa using hfeed

/-! ### Cuts -/

/-- Where no operator begins, none is read. -/
theorem operatorAt?_eq_none (h : ∀ op : Operator, ¬ op.sign.toList <+: cs) :
    operatorAt? cs = none := by
  refine List.findSome?_eq_none_iff.mpr fun op _ => ?_
  rw [if_neg (by simpa using h op)]

/-- An operator that is read begins the text, and its operand stands behind it. -/
theorem operatorAt?_eq_some (h : operatorAt? cs = some (op, right)) :
    ∃ rest, cs = op.sign.toList ++ rest ∧ rightOperand? rest = some right := by
  obtain ⟨other, -, hother⟩ := List.exists_of_findSome?_eq_some h
  split at hother
  · rename_i hsign
    obtain ⟨right', hright, heq⟩ := Option.map_eq_some_iff.mp hother
    obtain ⟨rfl, rfl⟩ : other = op ∧ right' = right := by simpa using heq
    refine ⟨_, ?_, hright⟩
    rw [← String.length_toList]
    exact (List.prefix_iff_eq_append.mp (List.isPrefixOf_iff_prefix.mp hsign)).symm
  · cases hother

/-- An operator that begins behind the first character of a text stands in the rest of it. -/
theorem infix_tail {y z : List Char} {other : Operator} (hz : z ≠ [])
    (hy : other.sign.toList <+: y) : other.sign.toList <:+: (z ++ y).tail := by
  rw [List.tail_append_of_ne_nil hz]
  exact hy.isInfix.trans (List.suffix_append _ y).isInfix

/-- A cut behind some characters is made at an operator, and leaves what stands before it. -/
theorem splitAfter?_eq_some {seen : List Char} (h : splitAfter? seen cs = some (left, op, right)) :
    ∃ x y, cs = x ++ y ∧ (∃ c ∈ x, c ≠ '\n') ∧ left = Text.strip (seen.reverse ++ x) ∧
      operatorAt? y = some (op, right) := by
  induction cs generalizing seen with
  | nil => cases h
  | cons c rest ih =>
    rw [splitAfter?] at h
    split at h
    · cases h
    · rename_i hfeed
      split at h
      · rename_i op' right' hcut
        obtain ⟨rfl, rfl, rfl⟩ : Text.strip (c :: seen).reverse = left ∧ op' = op ∧
            right' = right := by simpa using h
        have hblanks : ∀ b ∈ rest.takeWhile Text.isBlank, Text.isBlank b = true := fun _ =>
          List.mem_takeWhile_imp
        refine ⟨c :: rest.takeWhile Text.isBlank, _, ?_, ⟨c, List.mem_cons_self, hfeed⟩, ?_, hcut⟩
        · rw [List.cons_append, List.takeWhile_append_dropWhile]
        · -- the blanks before the operator are no part of the operand
          rw [List.reverse_cons, ← Text.strip_append_right hblanks, List.append_assoc,
            List.singleton_append]
      · obtain ⟨x, y, rfl, -, rfl, hcut⟩ := ih h
        exact ⟨c :: x, y, rfl, ⟨c, List.mem_cons_self, hfeed⟩, by simp, hcut⟩

/-- **A cut is made at an operator**, behind something that is no line feed. -/
theorem split?_eq_some {text : String} (h : split? text = some (left, op, right)) :
    ∃ x y, text.toList = x ++ y ∧ (∃ c ∈ x, c ≠ '\n') ∧ left = Text.strip x ∧
      operatorAt? y = some (op, right) := by
  have hsplit : text.toList.takeWhile Text.isBlank ++ text.toList.dropWhile Text.isBlank =
      text.toList := List.takeWhile_append_dropWhile
  have hblanks : ∀ c ∈ text.toList.takeWhile Text.isBlank, Text.isBlank c = true := fun _ =>
    List.mem_takeWhile_imp
  unfold split? at h
  simp only at h
  split at h
  · rename_i cut hcut
    obtain rfl := Option.some.inj h
    obtain ⟨x, y, hbody, ⟨c, hc, hfeed⟩, rfl, hop⟩ := splitAfter?_eq_some hcut
    refine ⟨text.toList.takeWhile Text.isBlank ++ x, y, ?_,
      ⟨c, List.mem_append_right _ hc, hfeed⟩, ?_, hop⟩
    · rw [List.append_assoc, ← hbody, hsplit]
    · rw [Text.strip_append_left hblanks]
      rfl
  · split at h
    · rename_i hfeed
      obtain ⟨⟨op', right'⟩, hop, heq⟩ := Option.map_eq_some_iff.mp h
      obtain ⟨rfl, rfl, rfl⟩ : [] = left ∧ op' = op ∧ right' = right := by simpa using heq
      exact ⟨_, _, hsplit.symm, by simpa using hfeed, (Text.strip_eq_nil_iff.mpr hblanks).symm, hop⟩
    · cases h

/-- A text that does not end with a blank is passed over if no operator begins in it, and a cut is
made at the operator that comes next. -/
theorem splitAfter?_append {part rest : List Char} (seen : List Char) (hne : part ≠ [])
    (hline : '\n' ∉ part)
    (hnone : ∀ y, y <:+ part → y ≠ [] → operatorAt? (y ++ rest) = none)
    (hlast : ∀ c ∈ part.getLast?, Text.isBlank c = false)
    (hcut : operatorAt? (rest.dropWhile Text.isBlank) = some (op, right)) :
    splitAfter? seen (part ++ rest) = some (Text.strip (seen.reverse ++ part), op, right) := by
  induction part generalizing seen with
  | nil => exact absurd rfl hne
  | cons c part ih =>
    obtain ⟨hfeed, hline⟩ : ¬ c = '\n' ∧ '\n' ∉ part := by simpa [eq_comm] using hline
    rw [List.cons_append, splitAfter?, if_neg hfeed]
    cases part with
    | nil => rw [List.nil_append, hcut, List.reverse_cons]
    | cons d part =>
      rw [List.getLast?_cons_cons] at hlast
      have hinside : (d :: part).dropWhile Text.isBlank ≠ [] := by
        intro hblank
        have hall := List.dropWhile_eq_nil_iff.mp hblank _
          (List.getLast_mem (List.cons_ne_nil d part))
        have hend := hlast _ (List.getLast?_eq_some_getLast (List.cons_ne_nil d part))
        rw [hend] at hall
        exact Bool.false_ne_true hall
      have hdrop : (d :: part ++ rest).dropWhile Text.isBlank =
          (d :: part).dropWhile Text.isBlank ++ rest := by
        rw [List.dropWhile_append, if_neg (by simpa using hinside)]
      have hpass : operatorAt? ((d :: part ++ rest).dropWhile Text.isBlank) = none := by
        rw [hdrop]
        exact hnone _ ((List.dropWhile_suffix _).trans (List.suffix_cons c _)) hinside
      rw [hpass]
      refine (ih (c :: seen) (List.cons_ne_nil d part) hline
        (fun y hy => hnone y (hy.trans (List.suffix_cons c _))) hlast).trans ?_
      simp

/-- **A text is cut at its first operator**, if something stands before it and an operand behind
it. -/
theorem split?_of_first (hfirst : firstOperator? text.toList = some (before, op, after))
    (hbefore : ∃ c ∈ before, Text.isBlank c = false) (hline : '\n' ∉ before)
    (hright : rightOperand? after = some right) :
    split? text = some (Text.strip before, op, right) := by
  obtain ⟨htext, hnone⟩ := firstOperator?_eq_some hfirst
  obtain ⟨blanks, hbody, hblanks⟩ := Text.exists_dropLeading_eq before
  have hdrop : (before ++ (op.sign.toList ++ after)).dropWhile Text.isBlank =
      Text.strip before ++ (blanks ++ (op.sign.toList ++ after)) := by
    rw [List.dropWhile_append, if_neg (by simpa using hbefore), hbody, List.append_assoc]
  have hpass : ∀ y, y <:+ Text.strip before → y ≠ [] →
      operatorAt? (y ++ (blanks ++ (op.sign.toList ++ after))) = none := by
    intro y hy hne
    have hsuffix : y ++ blanks <:+ before := by
      obtain ⟨x, hx⟩ := hy
      refine List.IsSuffix.trans ⟨x, ?_⟩ (List.dropWhile_suffix Text.isBlank)
      rw [hbody, ← hx, List.append_assoc]
    refine operatorAt?_eq_none fun other hother => ?_
    rw [← List.append_assoc] at hother
    exact hnone (y ++ blanks) hsuffix (List.append_ne_nil_of_left_ne_nil hne blanks) other hother
  have hcut : operatorAt? ((blanks ++ (op.sign.toList ++ after)).dropWhile Text.isBlank) =
      some (op, right) := by
    rw [Operator.dropWhile_sign hblanks]
    exact operatorAt?_of_first hfirst hright
  have hcutAfter := splitAfter?_append [] (Text.strip_ne_nil_iff.mpr hbefore)
    (fun hmem => hline ((Text.strip_infix _).mem hmem)) hpass
    (fun c hc => Text.not_isBlank_of_getLast hc) hcut
  unfold split?
  simp only [htext, hdrop, hcutAfter]
  rw [List.reverse_nil, List.nil_append, Text.strip_strip]

/-- Where only blanks stand before the first operator and no operator behind it, a blank that is no
line feed is enough of a left operand. -/
theorem split?_of_first_blank (hfirst : firstOperator? text.toList = some (before, op, after))
    (hbefore : ∀ c ∈ before, Text.isBlank c = true) (hfeed : ∃ c ∈ before, c ≠ '\n')
    (hlater : ∀ other : Operator, ¬ other.sign.toList <:+: (op.sign.toList ++ after).tail)
    (hright : rightOperand? after = some right) : split? text = some ([], op, right) := by
  obtain ⟨htext, -⟩ := firstOperator?_eq_some hfirst
  have hdrop : (before ++ (op.sign.toList ++ after)).dropWhile Text.isBlank =
      op.sign.toList ++ after := Operator.dropWhile_sign hbefore
  have htake : (before ++ (op.sign.toList ++ after)).takeWhile Text.isBlank = before := by
    have hsplit := List.takeWhile_append_dropWhile (p := Text.isBlank)
      (l := before ++ (op.sign.toList ++ after))
    rw [hdrop] at hsplit
    exact List.append_cancel_right hsplit
  have hnone : splitAfter? [] (op.sign.toList ++ after) = none := by
    refine Option.eq_none_iff_forall_not_mem.mpr fun ⟨left, other, right'⟩ hcut => ?_
    obtain ⟨x, y, hxy, ⟨c, hc, -⟩, -, hop⟩ := splitAfter?_eq_some hcut
    obtain ⟨rest, rfl, -⟩ := operatorAt?_eq_some hop
    refine hlater other ?_
    rw [hxy]
    exact infix_tail (List.ne_nil_of_mem hc) (List.prefix_append _ rest)
  have hany : before.any (· != '\n') = true := by simpa using hfeed
  unfold split?
  simp only [htext, hdrop, htake, hnone, hany, if_true, operatorAt?_of_first hfirst hright]
  rfl

/-! ### Operators between operands -/

/-- **A condition compares what stands on the two sides of its first operator.** -/
theorem holds_of_first (hfirst : firstOperator? text.toList = some (before, op, after))
    (hbefore : ∃ c ∈ before, Text.isBlank c = false) (hline : '\n' ∉ before)
    (hafter : ∃ c ∈ after, Text.isBlank c = false) (hafterLine : '\n' ∉ after) :
    holds context text = (do
      let l ← operand context before
      let r ← operand context after
      op.apply l r) := by
  rw [holds, split?_of_first hfirst hbefore hline (rightOperand?_of_line hafterLine hafter)]
  simp only [operand_strip]

/-- A path has neither blanks nor operators in it. -/
structure PlainPath (path : String) : Prop where
  /-- It begins with the sign of the root. -/
  root : path.toList.head? = some '$'
  /-- No blank is in it. -/
  blanks : path.toList.any Text.isBlank = false
  /-- No operator is in it. -/
  signs : ∀ op : Operator, ¬ op.sign.toList <:+: path.toList

namespace PlainPath

variable {path right : String}

theorem not_isBlank (h : PlainPath path) {c : Char} (hc : c ∈ path.toList) :
    Text.isBlank c = false := by
  simpa using List.any_eq_false.mp h.blanks c hc

theorem exists_not_isBlank (h : PlainPath path) : ∃ c ∈ path.toList, Text.isBlank c = false :=
  have hmem : '$' ∈ path.toList := List.mem_of_mem_head? h.root
  ⟨'$', hmem, h.not_isBlank hmem⟩

theorem notMem_feed (h : PlainPath path) : '\n' ∉ path.toList := fun hmem =>
  absurd (h.not_isBlank hmem) (by decide)

/-- As an operand it is read as it is. -/
theorem operand_eq (h : PlainPath path) :
    operand context path.toList = Path.resolve context path := by
  have hstrip : Text.strip path.toList = path.toList :=
    Text.strip_eq_self (fun _ hc => h.not_isBlank (List.mem_of_mem_head? hc))
      fun _ hc => h.not_isBlank (List.mem_of_getLast? hc)
  rw [operand, hstrip, if_pos h.root, String.ofList_toList]

/-- A condition that begins with it compares what it leads to. -/
theorem holds_eq (h : PlainPath path) (context : Json) (op : Operator)
    (hright : ∃ c ∈ right.toList, Text.isBlank c = false) (hline : '\n' ∉ right.toList) :
    holds context (path ++ " " ++ op.sign ++ " " ++ right) = (do
      let l ← Path.resolve context path
      let r ← operand context right.toList
      op.apply l r) := by
  have hspace : ∀ c ∈ [' '], Text.isBlank c = true :=
    List.forall_mem_singleton.mpr Text.isBlank_space
  have hfirst : firstOperator? (path ++ " " ++ op.sign ++ " " ++ right).toList =
      some (path.toList ++ [' '], op, ' ' :: right.toList) := by
    rw [← firstOperator?_join op h.signs]
    simp
  have hl : operand context (path.toList ++ [' ']) = Path.resolve context path := by
    rw [operand_of_strip (Text.strip_append_right hspace), h.operand_eq]
  have hr : operand context (' ' :: right.toList) = operand context right.toList :=
    operand_of_strip (Text.strip_append_left hspace)
  obtain ⟨c, hmem, hc⟩ := h.exists_not_isBlank
  rw [holds_of_first hfirst ⟨c, List.mem_append_left _ hmem, hc⟩ (by simpa using h.notMem_feed)
    (by simpa [Text.isBlank_space] using hright) (by simpa using hline), hl, hr]

end PlainPath

/-- **A condition compares what stands on the two sides of its operator**, whatever operators and
quotes stand in the right operand. -/
theorem holds_join (context : Json) (op : Operator) (left right : String)
    (hleft : ∃ c ∈ left.toList, Text.isBlank c = false)
    (hright : ∃ c ∈ right.toList, Text.isBlank c = false)
    (hleftLine : '\n' ∉ left.toList) (hrightLine : '\n' ∉ right.toList)
    (hsigns : ∀ sign ∈ ["<", ">", "==", "!="], ¬ sign.toList <:+: left.toList) :
    holds context (left ++ " " ++ op.sign ++ " " ++ right) = (do
      let l ← operand context left.toList
      let r ← operand context right.toList
      op.apply l r) := by
  have hnone : ∀ other : Operator, ¬ other.sign.toList <:+: left.toList := by
    intro other hother
    obtain ⟨sign, hsign, hinside⟩ := other.exists_sign_infix
    exact hsigns sign hsign (hinside.trans hother)
  have hfirst : firstOperator? (left ++ " " ++ op.sign ++ " " ++ right).toList =
      some (left.toList ++ [' '], op, ' ' :: right.toList) := by
    rw [← firstOperator?_join op hnone]
    simp
  have hspace : ∀ c ∈ [' '], Text.isBlank c = true :=
    List.forall_mem_singleton.mpr Text.isBlank_space
  have hl : operand context (left.toList ++ [' ']) = operand context left.toList :=
    operand_of_strip (Text.strip_append_right hspace)
  have hr : operand context (' ' :: right.toList) = operand context right.toList :=
    operand_of_strip (Text.strip_append_left hspace)
  rw [holds_of_first hfirst (by simpa [Text.isBlank_space] using hleft) (by simpa using hleftLine)
    (by simpa [Text.isBlank_space] using hright) (by simpa using hrightLine), hl, hr]

/-- A text in quotes may hold operators. -/
theorem holds_join_quoted :
    ((∃ c ∈ "$.score".toList, Text.isBlank c = false) ∧
      (∃ c ∈ "'== 1 > 2'".toList, Text.isBlank c = false) ∧
      '\n' ∉ "$.score".toList ∧ '\n' ∉ "'== 1 > 2'".toList ∧
      ∀ sign ∈ ["<", ">", "==", "!="], ¬ sign.toList <:+: "$.score".toList) ∧
    holds (.obj [("score", .str "== 1 > 2")]) "$.score == '== 1 > 2'" = .ok true := by
  have hleft : ∃ c ∈ "$.score".toList, Text.isBlank c = false := ⟨'$', by decide, by decide⟩
  have hright : ∃ c ∈ "'== 1 > 2'".toList, Text.isBlank c = false := ⟨'1', by decide, by decide⟩
  have hsigns : ∀ sign ∈ ["<", ">", "==", "!="], ¬ sign.toList <:+: "$.score".toList := by
    decide +kernel
  refine ⟨⟨hleft, hright, by decide, by decide, hsigns⟩, ?_⟩
  have htext : "$.score == '== 1 > 2'" =
      "$.score" ++ " " ++ Operator.equal.sign ++ " " ++ "'== 1 > 2'" := by decide
  have hfield : operand (.obj [("score", .str "== 1 > 2")]) "$.score".toList =
      .ok (some (.str "== 1 > 2")) := rfl
  have hquoted : operand (.obj [("score", .str "== 1 > 2")]) "'== 1 > 2'".toList =
      .ok (some (.str "== 1 > 2")) := rfl
  rw [htext, holds_join (.obj [("score", .str "== 1 > 2")]) .equal "$.score" "'== 1 > 2'" hleft
    hright (by decide) (by decide) hsigns, hfield, hquoted]
  rfl

/-! ### Operators with nothing on one side -/

/-- A text cut in two places: one cut stands before the other, in the same place or behind it. -/
theorem cut_cases {x y tail : List Char} (h : x ++ y = before ++ tail) :
    (∃ z, z ≠ [] ∧ before = x ++ z ∧ y = z ++ tail) ∨ (x = before ∧ y = tail) ∨
      ∃ z, z ≠ [] ∧ x = before ++ z ∧ tail = z ++ y := by
  obtain ⟨z, hbefore, hy⟩ | ⟨z, hx, htail⟩ := List.append_eq_append_iff.mp h
  · cases z with
    | nil => exact .inr (.inl ⟨by simpa using hbefore.symm, hy⟩)
    | cons c z => exact .inl ⟨c :: z, List.cons_ne_nil c z, hbefore, hy⟩
  · cases z with
    | nil => exact .inr (.inl ⟨by simpa using hx, htail.symm⟩)
    | cons c z => exact .inr (.inr ⟨c :: z, List.cons_ne_nil c z, hx, htail⟩)

/-- Where nothing but line feeds stand behind an operator, what stands in it without its first
character holds no operator. -/
theorem not_infix_of_feeds {other : Operator} (h : ∀ c ∈ after, c = '\n') :
    ¬ other.sign.toList <:+: (op.sign.toList ++ after).tail := by
  intro hinside
  have hsigns : ∀ op ∈ Operator.all, ∀ other ∈ Operator.all,
      ¬ (other.sign.toList.filter (· != '\n')).Sublist
        (op.sign.toList.tail.filter (· != '\n')) := by
    decide +kernel
  refine hsigns op op.mem_all other other.mem_all ?_
  have hfeeds : after.filter (· != '\n') = [] := List.filter_eq_nil_iff.mpr (by simpa using h)
  have hsublist := hinside.sublist.filter (· != '\n')
  rwa [List.tail_append_of_ne_nil op.sign_ne_nil, List.filter_append, hfeeds, List.append_nil]
    at hsublist

/-- Line feeds are no operand, but the second character of an operator may be one. -/
theorem rightOperand?_of_feeds (h : ∀ c ∈ after, c = '\n') : rightOperand? after = none := by
  have hblanks : after.dropWhile Text.isBlank = [] :=
    List.dropWhile_eq_nil_iff.mpr fun c hc => by
      rw [h c hc]
      decide
  rw [rightOperand?, hblanks]
  simpa using h

theorem rightOperand?_cons_of_feeds {c : Char} (hc : Text.isBlank c = false)
    (h : ∀ c ∈ after, c = '\n') : rightOperand? (c :: after) = some [c] := by
  have hfeed : c ≠ '\n' := by
    rintro rfl
    exact absurd hc (by decide)
  have hline : after.takeWhile (· != '\n') = [] ∧ after.dropWhile (· != '\n') = after := by
    cases after with
    | nil => exact ⟨rfl, rfl⟩
    | cons b after => simp [h b List.mem_cons_self]
  have hblanks : ∀ b ∈ after, Text.isBlank b = true := fun b hb => by
    rw [h b hb]
    decide
  have hstrip : Text.strip [c] = [c] := by
    simp [Text.strip, Text.dropLeading, Text.dropTrailing, hc]
  simpa [rightOperand?, hc, hfeed, hline, hstrip] using hblanks

/-- Where nothing but line feeds stand behind an operator, it is not read there, unless its first
character is an operator too, and then the second one is the operand. -/
theorem operatorAt?_of_feeds {other : Operator} (h : ∀ c ∈ after, c = '\n')
    (hcut : operatorAt? (op.sign.toList ++ after) = some (other, right)) :
    right = ['='] ∧ (op = .atLeast ∧ other = .above ∨ op = .atMost ∧ other = .below) := by
  obtain ⟨rest, heq, hright⟩ := operatorAt?_eq_some hcut
  have hprefix : other.sign.toList <+: op.sign.toList := by
    have hsign : other.sign.toList <+: op.sign.toList ++ after := ⟨rest, heq.symm⟩
    cases after with
    | nil => rwa [List.append_nil] at hsign
    | cons b after =>
      exact Operator.sign_prefix_of_append (by rw [h b List.mem_cons_self]; decide) hsign
  have hsigns : ∀ op ∈ Operator.all, ∀ other ∈ Operator.all, other.sign.toList <+: op.sign.toList →
      other = op ∨ op = .atLeast ∧ other = .above ∨ op = .atMost ∧ other = .below := by
    decide +kernel
  rcases hsigns op op.mem_all other other.mem_all hprefix with rfl | hpair
  · obtain rfl := List.append_cancel_left heq
    rw [rightOperand?_of_feeds h] at hright
    cases hright
  · refine ⟨?_, hpair⟩
    have hrest : rest = '=' :: after := by
      rcases hpair with ⟨rfl, rfl⟩ | ⟨rfl, rfl⟩ <;> simpa [Operator.sign] using heq.symm
    rw [hrest, rightOperand?_cons_of_feeds (by decide) h] at hright
    exact (Option.some.inj hright).symm

/-- The text `=` is no number, so that nothing is above or below it. -/
theorem apply_equals {context : Json} {x : Double}
    (hleft : (operand context before >>= operandNumber) = .ok x) (hop : op = .above ∨ op = .below) :
    (do
      let l ← operand context before
      let r ← operand context ['=']
      op.apply l r) = .ok false := by
  cases hl : operand context before with
  | error e =>
    rw [hl] at hleft
    cases hleft
  | ok l =>
    have hnumber : operandNumber l = .ok x := by rwa [hl] at hleft
    have hr : operand context ['='] = .ok (some (.str "=")) := rfl
    have hnan : operandNumber (some (.str "=")) = .ok (.nan Double.computed) := rfl
    have hlt : x.lt (.nan Double.computed) = false := by cases x <;> rfl
    rw [hr]
    change op.apply l (some (.str "=")) = _
    rcases hop with rfl | rfl
    · rw [Operator.apply_of_ordering (by decide) (by decide), hnumber, hnan]
      rfl
    · rw [Operator.apply_of_ordering (by decide) (by decide), hnumber, hnan]
      exact congrArg Except.ok hlt

/-- **A condition with nothing on one side does not hold**, where that side holds line feeds at
most.  If it is the left one, no operator may begin behind the first character of the first one; if
it is the right one and the operator has a shorter one in it, the left operand must have a
number. -/
theorem holds_of_oneSided (context : Json) (text : String) (before after : List Char)
    (op : Operator) (hfirst : firstOperator? text.toList = some (before, op, after))
    (hside : ((∀ c ∈ before, c = '\n') ∧
        ∀ other : Operator, ¬ other.sign.toList <:+: (op.sign.toList ++ after).tail) ∨
      ((∀ c ∈ after, c = '\n') ∧ (op = .atLeast ∨ op = .atMost →
        ∃ x, (operand context before >>= operandNumber) = .ok x))) :
    holds context text = .ok false := by
  obtain ⟨htext, hnone⟩ := firstOperator?_eq_some hfirst
  rw [holds]
  split
  · rfl
  rename_i left other right hcut
  obtain ⟨x, y, hxy, ⟨c, hc, hfeed⟩, rfl, hop⟩ := split?_eq_some hcut
  have hsign : other.sign.toList <+: y := by
    obtain ⟨rest, rfl, -⟩ := operatorAt?_eq_some hop
    exact List.prefix_append _ rest
  rcases hside with ⟨hbefore, hlater⟩ | ⟨hafter, hnumber⟩
  · -- the cut stands behind something that is no line feed, so behind the first operator
    rcases cut_cases (hxy.symm.trans htext) with ⟨z, -, rfl, -⟩ | ⟨rfl, -⟩ | ⟨z, hz, rfl, htail⟩
    · exact absurd (hbefore c (List.mem_append_left z hc)) hfeed
    · exact absurd (hbefore c hc) hfeed
    · exact absurd (htail ▸ infix_tail hz hsign) (hlater other)
  · rcases cut_cases (hxy.symm.trans htext) with
      ⟨z, hz, rfl, rfl⟩ | ⟨rfl, rfl⟩ | ⟨z, hz, rfl, htail⟩
    · exact absurd hsign (hnone z (List.suffix_append x z) hz other)
    · obtain ⟨rfl, hpair⟩ := operatorAt?_of_feeds hafter hop
      obtain ⟨number, hleft⟩ := hnumber (hpair.imp And.left And.left)
      rw [operand_strip]
      exact apply_equals hleft (hpair.imp And.right And.right)
    · exact absurd (htail ▸ infix_tail hz hsign) (not_infix_of_feeds hafter)

/-- Nothing stands before the operator of the first condition and behind the one of the second. -/
theorem holds_of_oneSided_bare :
    ((firstOperator? "> 1".toList = some ([], .above, [' ', '1']) ∧
        ∀ other : Operator, ¬ other.sign.toList <:+: [' ', '1']) ∧
      holds (.obj [("n", .int 5)]) "> 1" = .ok false) ∧
    (firstOperator? "$.n >=".toList = some (['$', '.', 'n', ' '], .atLeast, []) ∧
        ∃ x, (operand (.obj [("n", .int 5)]) ['$', '.', 'n', ' '] >>= operandNumber) = .ok x) ∧
      holds (.obj [("n", .int 5)]) "$.n >=" = .ok false := by
  have hleft : firstOperator? "> 1".toList = some ([], .above, [' ', '1']) := by decide
  have hlater : ∀ other : Operator, ¬ other.sign.toList <:+: [' ', '1'] := by
    intro other
    cases other <;> decide
  have hright : firstOperator? "$.n >=".toList = some (['$', '.', 'n', ' '], .atLeast, []) := by
    decide
  have hnumber : ∃ x,
      (operand (.obj [("n", .int 5)]) ['$', '.', 'n', ' '] >>= operandNumber) = .ok x := ⟨_, rfl⟩
  exact ⟨⟨⟨hleft, hlater⟩, holds_of_oneSided _ "> 1" [] [' ', '1'] .above hleft
      (.inl ⟨List.forall_mem_nil _, hlater⟩)⟩,
    ⟨hright, hnumber⟩, holds_of_oneSided _ "$.n >=" ['$', '.', 'n', ' '] [] .atLeast hright
      (.inr ⟨List.forall_mem_nil _, fun _ => hnumber⟩)⟩

/-! ### Blank operands -/

/-- With nothing but blanks behind the first operator, what stands before it is compared with zero,
unless the blanks are all line feeds. -/
theorem holds_of_blank_after (hfirst : firstOperator? text.toList = some (before, op, after))
    (hbefore : ∃ c ∈ before, Text.isBlank c = false) (hline : '\n' ∉ before)
    (hafter : ∀ c ∈ after, Text.isBlank c = true) (hfeed : ∃ c ∈ after, c ≠ '\n') :
    holds context text = (do
      let l ← operand context before
      op.apply l (some (.float (.finite 0)))) := by
  rw [holds, split?_of_first hfirst hbefore hline (rightOperand?_of_blank hafter hfeed)]
  simp only [operand_strip, operand_nil]
  rfl

/-- With nothing but blanks before the first operator and no operator behind it, what stands behind
it is compared with zero, unless the blanks are all line feeds. -/
theorem holds_of_blank_before (hfirst : firstOperator? text.toList = some (before, op, after))
    (hbefore : ∀ c ∈ before, Text.isBlank c = true) (hfeed : ∃ c ∈ before, c ≠ '\n')
    (hlater : ∀ other : Operator, ¬ other.sign.toList <:+: (op.sign.toList ++ after).tail)
    (hafter : ∃ c ∈ after, Text.isBlank c = false) (hline : '\n' ∉ after) :
    holds context text = (do
      let r ← operand context after
      op.apply (some (.float (.finite 0))) r) := by
  rw [holds, split?_of_first_blank hfirst hbefore hfeed hlater (rightOperand?_of_line hline hafter)]
  simp only [operand_strip, operand_nil]
  rfl

/-- **A condition with nothing but a blank on one side may hold**, since the blank counts as
zero. -/
theorem holds_blank :
    firstOperator? " == 0".toList = some ([' '], .equal, [' ', '0']) ∧
      holds (.obj []) " == 0" = .ok true := by
  have hfirst : firstOperator? " == 0".toList = some ([' '], .equal, [' ', '0']) := by decide
  have hlater : ∀ other : Operator, ¬ other.sign.toList <:+: ['=', ' ', '0'] := by
    intro other
    cases other <;> decide
  have hright : operand (.obj []) [' ', '0'] = .ok (some (.int 0)) := rfl
  refine ⟨hfirst, ?_⟩
  rw [holds_of_blank_before hfirst (List.forall_mem_singleton.mpr Text.isBlank_space)
    ⟨' ', List.mem_singleton_self _, by decide⟩ hlater ⟨'0', by decide, by decide⟩ (by decide),
    hright]
  rfl

end Flowgraph.Condition
