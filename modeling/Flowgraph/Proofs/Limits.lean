import Flowgraph.Proofs.Answers
import Flowgraph.Proofs.Cuts

/-!
# What a condition can ask too much of

A condition is to hold or not to hold, whatever its operands are; one that makes no sense does not
hold.  Missing data, texts, lists and objects are indeed no obstacle.  Long and large numbers are:
an integer of more than 4300 digits is not read, neither as an operand nor as an index of a path,
and an integer that has no double cannot be compared with another number.

Every function on the way is taken by itself, and it is said when it fails, and with which fault.

## Main definitions

* `Path.TooLong` — a path has an index of too many digits where it leads to a list.
* `Condition.Unreadable` — an operand cannot be read.
* `Condition.Overtaxed` — an operand of a condition cannot be read, or has no number where one is
  looked for.

## Main results

* `Path.resolve_eq_error_iff` — a path fails exactly if it is too long.
* `Condition.literal_eq_error_iff` — when a literal fails.
* `Condition.operand_eq_error_iff` — an operand fails exactly if it is unreadable.
* `Condition.exists_holds_iff` — **a condition holds or does not hold, exactly if it is not
  overtaxed.**
* `Condition.holds_huge` — one that does neither.
-/

namespace Flowgraph

/-! ### Texts of integers -/

namespace Text

variable {cs digits : List Char} {e : DataError}

theorem readNatural_eq_error_iff : readNatural digits = .error e ↔
    maxDigits < digits.length ∧ e = .tooManyDigits digits.length := by
  unfold readNatural
  split_ifs with h
  · simp [h, eq_comm]
  · simp [h]

theorem readInteger_eq_error_iff : readInteger cs = .error e ↔
    maxDigits < (splitSign cs).2.length ∧ e = .tooManyDigits (splitSign cs).2.length := by
  rw [readInteger, ← readNatural_eq_error_iff, Except.bind_eq_error_iff, or_iff_left]
  rintro ⟨magnitude, -, h⟩
  cases h

/-- A row of digits is a decimal without a fraction and an exponent. -/
theorem decimal?_of_isInteger (h : isInteger cs = true) :
    decimal? cs = some (.ofDecimal (splitSign cs).1 (digitsValue (splitSign cs).2) 0) := by
  obtain ⟨hne, hdigits⟩ : (splitSign cs).2 ≠ [] ∧ ∀ c ∈ (splitSign cs).2, isDigit c = true := by
    simpa [isInteger, isNatural] using h
  simp [decimal?, List.takeWhile_eq_self_iff.mpr hdigits, List.dropWhile_eq_nil_iff.mpr hdigits,
    hne, exponentOf?]

/-- It is not written in base sixteen, eight or two. -/
theorem basedNatural?_of_isInteger (h : isInteger cs = true) : basedNatural? cs = none := by
  unfold basedNatural?
  split
  · rename_i letter digit digits
    have hletter : isDigit letter = true := by
      have hdigits : ∀ c ∈ '0' :: letter :: digit :: digits, isDigit c = true := by
        simpa [isInteger, isNatural, splitSign] using h
      exact hdigits letter (by simp)
    have hbase : baseOf? letter = none := by
      unfold baseOf?
      split <;> first | rfl | exact absurd hletter (by decide)
    rw [hbase]
    rfl
  · rfl

theorem numeral?_of_isInteger (hstrip : strip cs = cs) (h : isInteger cs = true) :
    numeral? cs =
      .ok (some (.ofDecimal (splitSign cs).1 (digitsValue (splitSign cs).2) 0)) := by
  -- the words are no rows of digits
  have hnone : isInteger [] = false := by decide
  have hword : isInteger "Infinity".toList = false ∧ isInteger "+Infinity".toList = false := by
    decide
  have hnegative : isInteger "-Infinity".toList = false := by decide
  unfold numeral?
  simp only [hstrip, basedNatural?_of_isInteger h, decimal?_of_isInteger h]
  split_ifs with hblank hinfinite hbelow
  · rw [List.isEmpty_iff.mp hblank, hnone] at h
    cases h
  · rcases hinfinite with rfl | rfl
    · rw [hword.1] at h
      cases h
    · rw [hword.2] at h
      cases h
  · rw [hbelow, hnegative] at h
    cases h
  · rfl

end Text

/-! ### Paths -/

namespace Path

variable {data current : Json} {token path : String} {tokens : List String} {e : DataError}

/-- A path has an index of too many digits, and it is taken to an item of a list. -/
inductive TooLong : Json → List String → Nat → Prop where
  /-- The first token is such an index. -/
  | here (items : List Json) (token : String) (rest : List String) (digits : List Char)
      (hdigits : indexDigits? token = some digits) (h : Text.maxDigits < digits.length) :
      TooLong (.arr items) (token :: rest) digits.length
  /-- One is behind the first token. -/
  | there (current next : Json) (token : String) (rest : List String) (count : Nat)
      (hstep : step current token = .ok (some next)) (h : TooLong next rest count) :
      TooLong current (token :: rest) count

theorem step_eq_error_iff : step current token = .error e ↔
    ∃ items digits, current = .arr items ∧ indexDigits? token = some digits ∧
      Text.maxDigits < digits.length ∧ e = .tooManyDigits digits.length := by
  cases current with
  | arr items =>
    cases hdigits : indexDigits? token with
    | none => simp [step, hdigits]
    | some digits =>
      simp [step, hdigits, Except.bind_eq_error_iff, Text.readNatural_eq_error_iff, pure,
        Except.pure]
  | _ => simp [step]

theorem walk_eq_error_iff : walk current tokens = .error e ↔
    ∃ count, TooLong current tokens count ∧ e = .tooManyDigits count := by
  induction tokens generalizing current with
  | nil =>
    refine iff_of_false (by simp [walk]) ?_
    rintro ⟨count, h, -⟩
    cases h
  | cons token rest ih =>
    rw [walk, Except.bind_eq_error_iff, step_eq_error_iff]
    constructor
    · rintro (⟨items, digits, rfl, hdigits, hlong, rfl⟩ | ⟨next?, hstep, hnext⟩)
      · exact ⟨_, .here items token rest digits hdigits hlong, rfl⟩
      · cases next? with
        | none => cases hnext
        | some next =>
          obtain ⟨count, hlong, rfl⟩ := ih.mp hnext
          exact ⟨count, .there current next token rest count hstep hlong, rfl⟩
    · rintro ⟨count, hlong, rfl⟩
      cases hlong with
      | here items _ _ digits hdigits hlong =>
        exact .inl ⟨items, digits, rfl, hdigits, hlong, rfl⟩
      | there _ next _ _ _ hstep hlong => exact .inr ⟨some next, hstep, ih.mpr ⟨count, hlong, rfl⟩⟩

/-- **A path fails exactly if it is too long.** -/
theorem resolve_eq_error_iff (hroot : path.toList.head? = some '$') :
    resolve data path = .error e ↔
      ∃ count, TooLong data (Path.tokens path) count ∧ e = .tooManyDigits count := by
  rw [← walk_eq_error_iff, resolve, if_pos hroot]
  split_ifs with hwhole
  · rcases hwhole with rfl | rfl
    · cases hroot
    · simp [tokens, withoutRoot, tokensOf, walk]
  · rfl

end Path

namespace Condition

variable {context : Json} {raw : String} {cs : List Char} {op : Operator} {left right : Option Json}
  {e : DataError}

/-! ### Literals -/

/-- A text that begins like a path or like a text in quotes writes no integer. -/
theorem not_integer_of_mark {mark : Char} {rest : List Char} (h : mark ∈ ['$', '"', '\'']) :
    Text.isInteger (mark :: rest) = false ∧ Text.basedNatural? (mark :: rest) = none := by
  have hdigits : Text.isDigit '$' = false ∧ Text.isDigit '"' = false ∧
      Text.isDigit '\'' = false := by decide
  simp only [List.mem_cons, List.not_mem_nil, or_false] at h
  obtain rfl | rfl | rfl := h <;>
    simp [Text.isInteger, Text.isNatural, Text.splitSign, Text.basedNatural?, hdigits]

theorem not_integer_of_unquoted? {inside : List Char} (h : unquoted? cs = some inside) :
    Text.isInteger cs = false ∧ Text.basedNatural? cs = none := by
  cases cs with
  | nil => cases h
  | cons mark rest =>
    rw [unquoted?] at h
    split_ifs at h with hmark
    exact not_integer_of_mark (by simp [hmark.1])

theorem not_integer_of_root (h : cs.head? = some '$') :
    Text.isInteger cs = false ∧ Text.basedNatural? cs = none := by
  obtain ⟨rest, rfl⟩ := List.head?_eq_some_iff.mp h
  exact not_integer_of_mark (by decide)

theorem not_integer_of_constant (h : cs ∈ ["true".toList, "false".toList, "null".toList]) :
    Text.isInteger cs = false ∧ Text.basedNatural? cs = none := by
  revert cs
  decide

/-- **When a literal fails**: if it is an integer of too many digits, or a natural number in base
sixteen, eight or two that is too large. -/
theorem literal_eq_error_iff (hstrip : Text.strip raw.toList = cs) : literal raw = .error e ↔
    (Text.isInteger cs = true ∧ Text.maxDigits < (Text.splitSign cs).2.length ∧
      e = .tooManyDigits (Text.splitSign cs).2.length) ∨
    ∃ n, Text.basedNatural? cs = some n ∧ Double.firstTooLarge ≤ n ∧ e = .tooLarge := by
  have hcs : Text.strip cs = cs := by rw [← hstrip, Text.strip_strip]
  rw [literal]
  simp only [hstrip]
  cases hquoted : unquoted? cs with
  | some inside => simp [not_integer_of_unquoted? hquoted]
  | none =>
    by_cases hconstant : cs ∈ ["true".toList, "false".toList, "null".toList]
    · obtain ⟨hinteger, hbased⟩ := not_integer_of_constant hconstant
      rw [hinteger, hbased]
      simp only [List.mem_cons, List.not_mem_nil, or_false] at hconstant
      obtain rfl | rfl | rfl := hconstant <;> simp
    · simp only [List.mem_cons, List.not_mem_nil, or_false, not_or] at hconstant
      obtain ⟨htrue, hfalse, hnull⟩ := hconstant
      rw [if_neg htrue, if_neg hfalse, if_neg hnull, Except.bind_eq_error_iff,
        Text.numeral?_eq_error_iff, hcs]
      constructor
      · rintro (⟨rfl, n, hn, hlarge⟩ | ⟨number?, -, h⟩)
        · exact .inr ⟨n, hn, hlarge, rfl⟩
        · cases number? with
          | none => cases h
          | some x =>
            simp only [] at h
            split_ifs at h with hinteger
            · rw [Except.bind_eq_error_iff, or_iff_left (by rintro ⟨n, -, h⟩; cases h),
                Text.readInteger_eq_error_iff] at h
              exact .inl ⟨hinteger, h⟩
            · cases h
      · rintro (⟨hinteger, hlong⟩ | ⟨n, hn, hlarge, rfl⟩)
        · refine .inr ⟨_, Text.numeral?_of_isInteger hcs hinteger, ?_⟩
          simp only [hinteger, if_true]
          exact Except.bind_eq_error_iff.mpr (.inl (Text.readInteger_eq_error_iff.mpr hlong))
        · exact .inl ⟨rfl, n, hn, hlarge⟩

/-! ### Operands -/

/-- An operand cannot be read. -/
inductive Unreadable (context : Json) (raw : List Char) : DataError → Prop where
  /-- It is a path that is too long. -/
  | path (count : Nat) (hroot : (Text.strip raw).head? = some '$')
      (h : Path.TooLong context (Path.tokens (String.ofList (Text.strip raw))) count) :
      Unreadable context raw (.tooManyDigits count)
  /-- It is an integer of too many digits. -/
  | integer (hinteger : Text.isInteger (Text.strip raw) = true)
      (h : Text.maxDigits < (Text.splitSign (Text.strip raw)).2.length) :
      Unreadable context raw (.tooManyDigits (Text.splitSign (Text.strip raw)).2.length)
  /-- It is a natural number in base sixteen, eight or two that is too large. -/
  | based (n : Nat) (hn : Text.basedNatural? (Text.strip raw) = some n)
      (h : Double.firstTooLarge ≤ n) : Unreadable context raw .tooLarge

/-- **An operand fails exactly if it is unreadable.** -/
theorem operand_eq_error_iff : operand context cs = .error e ↔ Unreadable context cs e := by
  rw [operand]
  split_ifs with hroot
  · have hpath : (String.ofList (Text.strip cs)).toList.head? = some '$' := by
      rwa [String.toList_ofList]
    rw [Path.resolve_eq_error_iff hpath]
    constructor
    · rintro ⟨count, hlong, rfl⟩
      exact .path count hroot hlong
    · rintro (⟨count, -, hlong⟩ | ⟨hinteger, -⟩ | ⟨n, hn, -⟩)
      · exact ⟨count, hlong, rfl⟩
      · simp [not_integer_of_root hroot] at hinteger
      · simp [not_integer_of_root hroot] at hn
  · have hstrip : Text.strip (String.ofList (Text.strip cs)).toList = Text.strip cs := by
      rw [String.toList_ofList, Text.strip_strip]
    rw [Except.bind_eq_error_iff, or_iff_left (by rintro ⟨v, -, h⟩; cases h),
      literal_eq_error_iff hstrip]
    constructor
    · rintro (⟨hinteger, hlong, rfl⟩ | ⟨n, hn, hlarge, rfl⟩)
      · exact .integer hinteger hlong
      · exact .based n hn hlarge
    · rintro (⟨count, hpath, -⟩ | ⟨hinteger, hlong⟩ | ⟨n, hn, hlarge⟩)
      · exact absurd hpath hroot
      · exact .inl ⟨hinteger, hlong, rfl⟩
      · exact .inr ⟨n, hn, hlarge, rfl⟩

/-! ### Comparisons -/

/-- An operand has no number exactly if its value is too large; a missing one has. -/
theorem operandNumber_eq_error_iff {v? : Option Json} :
    operandNumber v? = .error e ↔ e = .tooLarge ∧ ∃ v ∈ v?, v.TooLarge := by
  cases v? with
  | none => simp [operandNumber]
  | some v => simp [operandNumber, Json.toDouble_eq_error_iff]

theorem Operator.apply_eq_error_iff : op.apply left right = .error e ↔
    op ≠ .equal ∧ op ≠ .different ∧ e = .tooLarge ∧
      ((∃ v ∈ left, v.TooLarge) ∨ ∃ v ∈ right, v.TooLarge) := by
  by_cases hequal : op = .equal
  · simp [hequal, apply]
  by_cases hdifferent : op = .different
  · simp [hdifferent, apply]
  rw [apply_of_ordering hequal hdifferent, Except.bind_eq_error_iff, operandNumber_eq_error_iff]
  simp only [Except.bind_eq_error_iff, operandNumber_eq_error_iff]
  constructor
  · rintro (⟨rfl, hlarge⟩ | ⟨x, -, ⟨rfl, hlarge⟩ | ⟨y, -, h⟩⟩)
    · exact ⟨hequal, hdifferent, rfl, .inl hlarge⟩
    · exact ⟨hequal, hdifferent, rfl, .inr hlarge⟩
    · cases h
  · rintro ⟨-, -, rfl, hlarge | hlarge⟩
    · exact .inl ⟨rfl, hlarge⟩
    · -- the left operand comes first, and may have no number either
      cases hleft : operandNumber left with
      | ok x => exact .inr ⟨x, rfl, .inl ⟨rfl, hlarge⟩⟩
      | error e => exact .inl (operandNumber_eq_error_iff.mp hleft |>.elim fun _ h => ⟨rfl, h⟩)

/-- An operand of a condition cannot be read, or a number is looked for and it has none. -/
inductive Overtaxed (context : Json) (text : String) : Prop where
  /-- An operand cannot be read. -/
  | operand (left right raw : List Char) (op : Operator) (e : DataError)
      (hcut : split? text = some (left, op, right)) (hraw : raw = left ∨ raw = right)
      (h : Unreadable context raw e) : Overtaxed context text
  /-- The value of an operand is compared by its number, and it is too large. -/
  | number (left right raw : List Char) (op : Operator) (v : Json)
      (hcut : split? text = some (left, op, right)) (hraw : raw = left ∨ raw = right)
      (hequal : op ≠ .equal) (hdifferent : op ≠ .different)
      (hv : Condition.operand context raw = .ok (some v)) (h : v.TooLarge) : Overtaxed context text

theorem overtaxed_of_error {text : String} (h : holds context text = .error e) :
    Overtaxed context text := by
  rw [holds] at h
  split at h
  · cases h
  · rename_i left op right hcut
    rw [Except.bind_eq_error_iff] at h
    obtain hl | ⟨l, hl, h⟩ := h
    · exact .operand left right left op e hcut (.inl rfl) (operand_eq_error_iff.mp hl)
    rw [Except.bind_eq_error_iff] at h
    obtain hr | ⟨r, hr, h⟩ := h
    · exact .operand left right right op e hcut (.inr rfl) (operand_eq_error_iff.mp hr)
    obtain ⟨hequal, hdifferent, -, ⟨v, rfl, hlarge⟩ | ⟨v, rfl, hlarge⟩⟩ :=
      Operator.apply_eq_error_iff.mp h
    · exact .number left right left op v hcut (.inl rfl) hequal hdifferent hl hlarge
    · exact .number left right right op v hcut (.inr rfl) hequal hdifferent hr hlarge

theorem not_overtaxed_of_ok {text : String} {b : Bool} (h : holds context text = .ok b) :
    ¬ Overtaxed context text := by
  intro hovertaxed
  have hread : ∀ {left op right}, split? text = some (left, op, right) →
      ∃ l r, operand context left = .ok l ∧ operand context right = .ok r ∧
        op.apply l r = .ok b := by
    intro left op right hcut
    rw [holds, hcut] at h
    cases hl : operand context left with
    | error e => simp [hl, bind, Except.bind] at h
    | ok l =>
      cases hr : operand context right with
      | error e => simp [hl, hr, bind, Except.bind] at h
      | ok r => exact ⟨l, r, rfl, rfl, by simpa [hl, hr, bind, Except.bind] using h⟩
  cases hovertaxed with
  | operand left right raw op e hcut hraw hbad =>
    obtain ⟨l, r, hl, hr, -⟩ := hread hcut
    rw [← operand_eq_error_iff] at hbad
    rcases hraw with rfl | rfl
    · rw [hl] at hbad
      cases hbad
    · rw [hr] at hbad
      cases hbad
  | number left right raw op v hcut hraw hequal hdifferent hv hlarge =>
    obtain ⟨l, r, hl, hr, happly⟩ := hread hcut
    have hfails : op.apply l r = .error .tooLarge := by
      refine Operator.apply_eq_error_iff.mpr ⟨hequal, hdifferent, rfl, ?_⟩
      rcases hraw with rfl | rfl
      · exact .inl ⟨v, Except.ok.inj (hl.symm.trans hv), hlarge⟩
      · exact .inr ⟨v, Except.ok.inj (hr.symm.trans hv), hlarge⟩
    rw [hfails] at happly
    cases happly

/-- **A condition holds or does not hold**, exactly if it is not overtaxed. -/
theorem exists_holds_iff (context : Json) (text : String) :
    (∃ b, holds context text = .ok b) ↔ ¬ Overtaxed context text := by
  constructor
  · rintro ⟨b, h⟩
    exact not_overtaxed_of_ok h
  · intro h
    cases hholds : holds context text with
    | ok b => exact ⟨b, rfl⟩
    | error e => exact absurd (overtaxed_of_error hholds) h

/-- **A condition may do neither**: a field is an integer that is too large for a comparison. -/
theorem holds_huge : holds (.obj [("n", .int (10 ^ 309))]) "$.n < 1" = .error .tooLarge := by
  have hcut : split? "$.n < 1" = some (['$', '.', 'n'], .below, ['1']) := by decide
  have hcompare (n : Int) : holds (.obj [("n", .int n)]) "$.n < 1" =
      Operator.below.apply (some (.int n)) (some (.int 1)) := by
    rw [holds, hcut]
    rfl
  rw [hcompare]
  exact Operator.apply_eq_error_iff.mpr ⟨by decide, by decide, rfl,
    .inl ⟨_, rfl, Node.tooLarge_huge⟩⟩

end Condition
end Flowgraph
