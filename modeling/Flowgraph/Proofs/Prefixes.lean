import Flowgraph.Proofs.Regions

/-!
# What stands behind a value

The reader reads a value in the same way whatever stands behind it, as long as it can tell where the
value ends.  A number and a word end where something stands that can belong to neither; everything
else has a mark at its end.

## Main definitions

* `Reader.Delimited` — what is left of a text begins with a character that ends numbers and words.
* `Reader.ValuesExtend`, `Reader.ItemsExtend`, `Reader.FieldsExtend` — values, items and fields are
  read in the same way whatever stands behind them.

## Main results

* `Reader.readText_append`, `Reader.readAtom_append` — the same of quoted texts, numbers and words.
* `Reader.readValue_append` — **whatever stands behind a value makes no difference to how it is
  read.**
-/

namespace Flowgraph.Json.Reader

open Embedded

/-- Whether a character ends a number or a word inside of a list or an object. -/
def isDelimiter (c : Char) : Bool :=
  isSpace c || c == ',' || c == ']' || c == '\x7d'

/-- What is left begins with a character that ends numbers and words. -/
def Delimited (left : List Char) : Prop :=
  ∃ c rest, left = c :: rest ∧ isDelimiter c = true

variable {cs left more : List Char}

theorem Delimited.ne_nil (h : Delimited left) : left ≠ [] := by
  rintro rfl
  obtain ⟨c, rest, h, -⟩ := h
  cases h

/-- A delimiter stands in a text that a delimiter is left of. -/
theorem Delimited.exists_mem (h : Delimited left) (hleft : left <:+ cs) :
    ∃ c ∈ cs, isDelimiter c = true := by
  obtain ⟨c, rest, rfl, hc⟩ := h
  exact ⟨c, hleft.subset List.mem_cons_self, hc⟩

theorem Delimited.head_ne (h : Delimited left) {c : Char} (hc : isDelimiter c = false) :
    left.head? ≠ some c := by
  obtain ⟨d, rest, rfl, hd⟩ := h
  rw [List.head?_cons, ne_eq, Option.some.injEq]
  rintro rfl
  rw [hd] at hc
  exact absurd hc (by decide)

/-! ### Parts of a text -/

/-- Where characters of a class end before the end of the text, more text makes no difference. -/
theorem span_append_of_ne_nil {p : Char → Bool} (h : cs.dropWhile p ≠ []) (more : List Char) :
    (cs ++ more).takeWhile p = cs.takeWhile p ∧
      (cs ++ more).dropWhile p = cs.dropWhile p ++ more := by
  induction cs with
  | nil => exact absurd rfl h
  | cons c cs ih =>
    by_cases hc : p c = true
    · rw [List.dropWhile_cons_of_pos hc] at h ⊢
      rw [List.cons_append, List.takeWhile_cons_of_pos hc, List.dropWhile_cons_of_pos hc,
        List.takeWhile_cons_of_pos hc, (ih h).1, (ih h).2]
      exact ⟨rfl, rfl⟩
    · rw [List.cons_append, List.takeWhile_cons_of_neg hc, List.dropWhile_cons_of_neg hc,
        List.takeWhile_cons_of_neg hc, List.dropWhile_cons_of_neg hc]
      exact ⟨rfl, rfl⟩

theorem skip_append (h : skip cs ≠ []) (more : List Char) : skip (cs ++ more) = skip cs ++ more :=
  (span_append_of_ne_nil h more).2

theorem skip_append_of_cons {c : Char} {rest : List Char} (h : skip cs = c :: rest)
    (more : List Char) : skip (cs ++ more) = c :: (rest ++ more) := by
  rw [skip_append (by simp [h]), h, List.cons_append]

/-- Blanks before a delimiter are delimiters too. -/
theorem delimited_of_skip {c : Char} {rest : List Char} (h : skip cs = c :: rest)
    (hc : isDelimiter c = true) : Delimited cs := by
  cases cs with
  | nil => cases h
  | cons d cs =>
    refine ⟨d, cs, rfl, ?_⟩
    by_cases hd : isSpace d = true
    · simp [isDelimiter, hd]
    · rw [skip, List.dropWhile_cons_of_neg hd] at h
      obtain ⟨rfl, -⟩ := List.cons.inj h
      exact hc

/-! ### Texts -/

section Texts

variable {opening acc : List Char} {fuel : ℕ} {s : String}

theorem readText_cons {ch : Char} {rest : List Char} (hquote : ch ≠ '"') (hslash : ch ≠ '\\') :
    readText opening (fuel + 1) acc (ch :: rest) =
      if ch.toNat < 0x20 then .error (.at .controlCharacter (ch :: rest))
      else readText opening fuel (ch :: acc) rest := by
  rw [readText.eq_def]
  split <;> simp_all

theorem readText_escape {e ch : Char} {rest : List Char} (he : e ≠ 'u')
    (hch : simpleEscape? e = some ch) :
    readText opening (fuel + 1) acc ('\\' :: e :: rest) =
      readText opening fuel (ch :: acc) rest := by
  simp [readText, he, hch]

/-- A text that goes on with a numeric escape goes on behind it. -/
theorem exists_of_readText_unit {rest : List Char}
    (h : readText opening fuel acc ('\\' :: 'u' :: rest) = .ok (s, left)) :
    ∃ a b c d next behind, rest = a :: b :: c :: d :: next :: behind := by
  cases fuel with
  | zero => cases h
  | succ fuel =>
    match rest, h with
    | a :: b :: c :: d :: next :: behind, _ => exact ⟨a, b, c, d, next, behind, rfl⟩
    | [], h | [_], h | [_, _], h | [_, _, _], h | [_, _, _, _], h => simp [readText] at h

theorem pair?_append {high : ℕ} {l : Text.Letter} (h : pair? high cs = .ok (some (l, left)))
    (more : List Char) : pair? high (cs ++ more) = .ok (some (l, left ++ more)) := by
  unfold pair? at h
  split at h
  · rename_i e a b c d next rest
    split_ifs at h with he
    · split at h
      · cases h
      · rename_i low hlow
        obtain ⟨l', hl, hpair⟩ : ∃ l', pairLetter? high low = some l' ∧
            (l', next :: rest) = (l, left) := by simpa using h
        obtain ⟨rfl, rfl⟩ := Prod.mk.inj hpair
        simp [pair?, he, hlow, hl]
    · cases h
  · cases h

/-- Where a unit has no partner in a text that can be read, more text gives it none. -/
theorem pair?_append_of_none {high : ℕ} (h : pair? high cs = .ok none)
    (hread : readText opening fuel acc cs = .ok (s, left)) (more : List Char) :
    pair? high (cs ++ more) = .ok none := by
  by_cases hunit : ∃ rest, cs = '\\' :: 'u' :: rest
  · obtain ⟨rest, rfl⟩ := hunit
    obtain ⟨a, b, c, d, next, behind, rfl⟩ := exists_of_readText_unit hread
    simp only [List.cons_append, pair?] at h ⊢
    split_ifs at h ⊢ with he
    · cases hlow : unit? a b c d with
      | none =>
        rw [hlow] at h
        cases h
      | some low =>
        rw [hlow] at h
        have hpair : pairLetter? high low = none := by simpa using h
        simp [hpair]
    · rfl
  · -- the text does not go on with a numeric escape, nor does it end where one might begin
    unfold pair?
    split
    · rename_i e a b c d next rest heq
      rw [if_neg]
      rintro ⟨rfl, -⟩
      match cs, hread with
      | [], hread => cases fuel <;> simp [readText] at hread
      | [c₁], hread =>
        obtain ⟨rfl, -⟩ := List.cons.inj heq
        cases fuel <;> simp [readText] at hread
      | c₁ :: c₂ :: cs, _ =>
        obtain ⟨rfl, htail⟩ := List.cons.inj heq
        obtain ⟨rfl, -⟩ := List.cons.inj htail
        exact hunit ⟨cs, rfl⟩
    · rfl

/-- A quoted text is read in the same way whatever stands behind it. -/
theorem readText_append (h : readText opening fuel acc cs = .ok (s, left))
    (opening' more : List Char) {fuel' : ℕ} (hle : fuel ≤ fuel') :
    readText opening' fuel' acc (cs ++ more) = .ok (s, left ++ more) := by
  fun_induction readText opening fuel acc cs generalizing fuel' with
  | case3 fuel acc rest =>
    obtain ⟨fuel', rfl⟩ : ∃ k, fuel' = k + 1 := ⟨fuel' - 1, by omega⟩
    obtain ⟨rfl, rfl⟩ := Prod.mk.inj (Except.ok.inj h)
    simp [readText]
  | case6 fuel acc a b c d next rest n hn l left' hpair ih =>
    obtain ⟨fuel', rfl⟩ : ∃ k, fuel' = k + 1 := ⟨fuel' - 1, by omega⟩
    have hpair' := pair?_append hpair more
    rw [List.cons_append] at hpair'
    simp only [List.cons_append, readText, hn, hpair']
    exact ih h (by omega)
  | case7 fuel acc a b c d next rest n hn hpair ih =>
    obtain ⟨fuel', rfl⟩ : ∃ k, fuel' = k + 1 := ⟨fuel' - 1, by omega⟩
    have hpair' := pair?_append_of_none hpair h more
    rw [List.cons_append] at hpair'
    simp only [List.cons_append, readText, hn, hpair']
    exact ih h (by omega)
  | case9 fuel acc e rest _ hunit ch hch ih =>
    obtain ⟨fuel', rfl⟩ : ∃ k, fuel' = k + 1 := ⟨fuel' - 1, by omega⟩
    rw [List.cons_append, List.cons_append, readText_escape hunit hch]
    exact ih h (by omega)
  | case13 fuel acc ch rest hquote _ _ hescape hend hcontrol ih =>
    obtain ⟨fuel', rfl⟩ : ∃ k, fuel' = k + 1 := ⟨fuel' - 1, by omega⟩
    have hslash : ch ≠ '\\' := by
      intro hch
      cases rest with
      | nil => exact hend hch rfl
      | cons e rest => exact hescape e rest hch rfl
    rw [List.cons_append, readText_cons hquote hslash, if_neg hcontrol]
    exact ih h (by omega)
  | _ => cases h

end Texts

/-! ### Numbers and words -/

theorem wholePart?_append {digits : List Char} (h : wholePart? cs = some (digits, left))
    (hleft : left ≠ []) (more : List Char) :
    wholePart? (cs ++ more) = some (digits, left ++ more) := by
  unfold wholePart? at h
  split at h
  · cases h
  · rename_i c rest
    rw [List.cons_append, wholePart?]
    split_ifs at h ⊢
    · obtain ⟨rfl, rfl⟩ : [c] = digits ∧ rest = left := by simpa using h
      rfl
    · obtain ⟨rfl, rfl⟩ : c :: rest.takeWhile isDigit = digits ∧ rest.dropWhile isDigit = left := by
        simpa using h
      obtain ⟨htake, hdrop⟩ := span_append_of_ne_nil hleft more
      rw [htake, hdrop]

theorem fraction?_append (hleft : ((fraction? cs).getD ([], cs)).2 ≠ [])
    (hpoint : fraction? cs = none → cs.head? ≠ some '.') (more : List Char) :
    fraction? (cs ++ more) = (fraction? cs).map fun part => (part.1, part.2 ++ more) := by
  cases cs with
  | nil => simp [fraction?] at hleft
  | cons c rest =>
    by_cases hc : c = '.'
    · subst hc
      by_cases hdigits : (rest.takeWhile isDigit).isEmpty = true
      · have hnone : fraction? ('.' :: rest) = none := by simp only [fraction?, if_pos hdigits]
        exact absurd rfl (hpoint hnone)
      · have hsome : fraction? ('.' :: rest) =
            some (rest.takeWhile isDigit, rest.dropWhile isDigit) := by
          simp only [fraction?, if_neg hdigits]
        rw [hsome] at hleft ⊢
        obtain ⟨htake, hdrop⟩ := span_append_of_ne_nil hleft more
        simp only [List.cons_append, fraction?, htake, hdrop, if_neg hdigits, Option.map_some]
    · simp [fraction?, hc]

/-- Whether an exponent is negative, and what is left behind its sign. -/
def exponentSign : List Char → Bool × List Char
  | '-' :: rest => (true, rest)
  | '+' :: rest => (false, rest)
  | rest => (false, rest)

theorem exponentSign_append (h : cs ≠ []) (more : List Char) :
    exponentSign (cs ++ more) = ((exponentSign cs).1, (exponentSign cs).2 ++ more) := by
  cases cs with
  | nil => exact absurd rfl h
  | cons c cs =>
    by_cases hminus : c = '-'
    · subst hminus
      rfl
    · by_cases hplus : c = '+'
      · subst hplus
        rfl
      · simp [exponentSign, hminus, hplus]

theorem exponent?_cons {e : Char} (he : e = 'e' ∨ e = 'E') (rest : List Char) :
    exponent? (e :: rest) =
      let digits := (exponentSign rest).2.takeWhile isDigit
      let magnitude : Int := Text.digitsValue digits
      if digits.isEmpty then none
      else some (if (exponentSign rest).1 then -magnitude else magnitude,
        (exponentSign rest).2.dropWhile isDigit) := by
  unfold exponent?
  exact if_pos he

theorem exponent?_append (hleft : ((exponent? cs).getD (0, cs)).2 ≠ [])
    (hmark : exponent? cs = none → cs.head? ≠ some 'e' ∧ cs.head? ≠ some 'E') (more : List Char) :
    exponent? (cs ++ more) = (exponent? cs).map fun part => (part.1, part.2 ++ more) := by
  cases cs with
  | nil => simp [exponent?] at hleft
  | cons e rest =>
    by_cases he : e = 'e' ∨ e = 'E'
    · rw [exponent?_cons he] at hleft hmark
      rw [List.cons_append, exponent?_cons he, exponent?_cons he]
      by_cases hdigits : ((exponentSign rest).2.takeWhile isDigit).isEmpty = true
      · obtain ⟨h, h'⟩ := hmark (if_pos hdigits)
        rw [List.head?_cons] at h h'
        simp only [ne_eq, Option.some.injEq] at h h'
        exact absurd he (not_or.mpr ⟨h, h'⟩)
      · have hrest : rest ≠ [] := by
          rintro rfl
          exact hdigits rfl
        simp only [if_neg hdigits, Option.getD_some] at hleft
        obtain ⟨htake, hdrop⟩ := span_append_of_ne_nil hleft more
        simp only [exponentSign_append hrest, htake, hdrop, if_neg hdigits, Option.map_some]
    · simp [exponent?, he]

theorem getD_map_append {α : Type} (part? : Option (α × List Char)) (a : α)
    (cs more : List Char) : (part?.map fun part => (part.1, part.2 ++ more)).getD (a, cs ++ more) =
      ((part?.getD (a, cs)).1, (part?.getD (a, cs)).2 ++ more) := by
  cases part? <;> rfl

/-- A number before a delimiter is read in the same way whatever stands behind it. -/
theorem readNumber_append {start : List Char} {negative : Bool} {v : Json}
    (h : readNumber start negative cs = .ok (v, left)) (hleft : Delimited left)
    (start' more : List Char) :
    readNumber start' negative (cs ++ more) = .ok (v, left ++ more) := by
  unfold readNumber at h ⊢
  cases hwhole : wholePart? cs with
  | none =>
    rw [hwhole] at h
    cases h
  | some part =>
    obtain ⟨whole, afterWhole⟩ := part
    rw [hwhole] at h
    simp only [] at h
    set afterFraction := ((fraction? afterWhole).getD ([], afterWhole)).2 with hafter
    -- in every case the number ends behind the exponent, and a delimiter stands there
    have hend : ((exponent? afterFraction).getD (0, afterFraction)).2 = left := by
      split_ifs at h <;> exact (Prod.mk.inj (Except.ok.inj h)).2
    have hnone : exponent? afterFraction = none → afterFraction = left := by
      intro hnone
      rwa [hnone] at hend
    have hexponent := exponent?_append (hend ▸ hleft.ne_nil) (fun hno => by
      rw [hnone hno]
      exact ⟨hleft.head_ne (by decide), hleft.head_ne (by decide)⟩) more
    have hne : afterFraction ≠ [] := by
      intro hnil
      refine hleft.ne_nil ((hnone ?_).symm.trans hnil)
      rw [hnil]
      rfl
    have hfraction := fraction?_append hne (fun hno hpoint => by
      have hsame : afterFraction = afterWhole := by rw [hafter, hno]; rfl
      obtain ⟨rest, hrest⟩ := List.head?_eq_some_iff.mp hpoint
      have hpointNone : exponent? afterFraction = none := by
        rw [hsame, hrest]
        rfl
      refine hleft.head_ne (by decide : isDelimiter '.' = false) ?_
      rw [← hnone hpointNone, hsame, hpoint]) more
    have hafterWhole : afterWhole ≠ [] := by
      rintro rfl
      exact hne rfl
    rw [wholePart?_append hwhole hafterWhole more]
    simp only [hfraction, getD_map_append, ← hafter, hexponent, Option.isNone_map]
    split_ifs at h ⊢
    all_goals
      obtain ⟨rfl, rfl⟩ := Prod.mk.inj (Except.ok.inj h)
      rfl

theorem dropWord?_append {word : String} {rest : List Char} (h : dropWord? word cs = some rest)
    (more : List Char) : dropWord? word (cs ++ more) = some (rest ++ more) := by
  unfold dropWord? at h ⊢
  split_ifs at h with hprefix
  obtain ⟨tail, rfl⟩ := List.isPrefixOf_iff_prefix.mp hprefix
  obtain rfl : tail = rest := by simpa [← String.length_toList] using h
  simp [← String.length_toList]

/-- A word cannot begin in a text and end behind it if it cannot go on to the end of the text. -/
theorem dropWord?_append_of_none {word : String} (h : dropWord? word cs = none) {c : Char}
    (hc : c ∈ cs) (hword : c ∉ word.toList) (more : List Char) :
    dropWord? word (cs ++ more) = none := by
  unfold dropWord? at h ⊢
  split_ifs at h with hprefix
  refine if_neg fun hlonger => ?_
  rcases List.prefix_or_prefix_of_prefix (List.isPrefixOf_iff_prefix.mp hlonger)
    (List.prefix_append cs more) with hpart | hpart
  · exact hprefix (List.isPrefixOf_iff_prefix.mpr hpart)
  · exact hword (hpart.subset hc)

/-- What is read before a delimiter is read in the same way from another text. -/
def Extends (more : List Char) (r r' : Except Fault (Json × List Char)) : Prop :=
  ∀ v left, r = .ok (v, left) → Delimited left → r' = .ok (v, left ++ more)

theorem Extends.word {word : String} {u : Json} {r r' : Except Fault (Json × List Char)} {c : Char}
    (h : Extends more r r') (hc : c ∈ cs) (hdelimiter : isDelimiter c = true)
    (hword : ∀ d ∈ word.toList, isDelimiter d = false) : Extends more
      (match dropWord? word cs with
        | some rest => .ok (u, rest)
        | none => r)
      (match dropWord? word (cs ++ more) with
        | some rest => .ok (u, rest)
        | none => r') := by
  have hnot : c ∉ word.toList := fun hmem => by
    rw [hword c hmem] at hdelimiter
    exact absurd hdelimiter (by decide)
  cases hdrop : dropWord? word cs with
  | none => rwa [dropWord?_append_of_none hdrop hc hnot]
  | some rest =>
    rw [dropWord?_append hdrop]
    intro v left hok _
    obtain ⟨rfl, rfl⟩ := Prod.mk.inj (Except.ok.inj hok)
    rfl

/-- A number with its sign. -/
theorem signed_append (cs more : List Char) : Extends more
    (match cs with
      | '-' :: rest => readNumber cs true rest
      | _ => readNumber cs false cs)
    (match cs ++ more with
      | '-' :: rest => readNumber (cs ++ more) true rest
      | _ => readNumber (cs ++ more) false (cs ++ more)) := by
  cases cs with
  | nil =>
    intro v left h
    cases h
  | cons d rest =>
    intro v left h hleft
    by_cases hminus : d = '-'
    · subst hminus
      exact readNumber_append h hleft _ more
    · rw [List.cons_append]
      split
      · rename_i rest' heq
        exact absurd (List.cons.inj heq).1 hminus
      · split at h
        · rename_i rest' heq
          exact absurd (List.cons.inj heq).1 hminus
        · exact readNumber_append h hleft _ more

theorem readAtom_append {v : Json} (h : readAtom cs = .ok (v, left)) (hleft : Delimited left)
    (more : List Char) : readAtom (cs ++ more) = .ok (v, left ++ more) := by
  obtain ⟨c, hc, hdelimiter⟩ :=
    hleft.exists_mem (((readAtom_skimmed cs v left h).1).suffix)
  have hatom : Extends more (readAtom cs) (readAtom (cs ++ more)) := by
    unfold readAtom
    refine ((((((signed_append cs more).word hc hdelimiter ?_).word hc hdelimiter ?_).word hc
      hdelimiter ?_).word hc hdelimiter ?_).word hc hdelimiter ?_).word hc hdelimiter ?_
    all_goals simp [isDelimiter, isSpace]
  exact hatom v left h hleft

theorem readName_append {fuel : ℕ} {name : String} (h : readName fuel cs = .ok (name, left))
    (hleft : left ≠ []) {fuel' : ℕ} (hle : fuel ≤ fuel') (more : List Char) :
    readName fuel' (cs ++ more) = .ok (name, left ++ more) := by
  unfold readName at h
  split at h
  · rename_i rest
    obtain ⟨⟨text, afterName⟩, htext, h⟩ := Except.bind_eq_ok_iff.mp h
    simp only [] at h
    split at h
    · rename_i afterColon hskip
      obtain ⟨rfl, rfl⟩ := Prod.mk.inj (Except.ok.inj h)
      rw [List.cons_append, readName, readText_append htext _ more hle]
      simp only [bind, Except.bind, skip_append_of_cons hskip, skip_append hleft]
    · cases h
  · cases h

/-! ### Values -/

section Values

variable {fuel depth : ℕ} {v : Json} {items : List Json} {before fields : Fields}

theorem ne_nil_of_readValue (h : readValue fuel depth cs = .ok (v, left)) : cs ≠ [] := by
  rintro rfl
  cases fuel <;> cases h

theorem ne_nil_of_readItems (h : readItems fuel depth cs = .ok (items, left)) : cs ≠ [] := by
  cases fuel with
  | zero => cases h
  | succ fuel =>
    unfold readItems at h
    obtain ⟨⟨item, afterItem⟩, hread, -⟩ := Except.bind_eq_ok_iff.mp h
    exact ne_nil_of_readValue hread

theorem ne_nil_of_readFields (h : readFields fuel depth before cs = .ok (fields, left)) :
    cs ≠ [] := by
  rintro rfl
  cases fuel <;> cases h

/-- Values are read in the same way whatever stands behind them, with this fuel and with more, if
they end before a delimiter or are objects. -/
def ValuesExtend (fuel : ℕ) : Prop :=
  ∀ depth cs v left, readValue fuel depth cs = .ok (v, left) →
    Delimited left ∨ v.obj?.isSome = true →
      ∀ fuel' ≥ fuel, ∀ more, readValue fuel' depth (cs ++ more) = .ok (v, left ++ more)

/-- The same of the items of a list, which always end before a bracket. -/
def ItemsExtend (fuel : ℕ) : Prop :=
  ∀ depth cs items left, readItems fuel depth cs = .ok (items, left) →
    ∀ fuel' ≥ fuel, ∀ more, readItems fuel' depth (cs ++ more) = .ok (items, left ++ more)

/-- The same of the fields of an object, which always end before a brace. -/
def FieldsExtend (fuel : ℕ) : Prop :=
  ∀ depth before cs fields left, readFields fuel depth before cs = .ok (fields, left) →
    ∀ fuel' ≥ fuel, ∀ more,
      readFields fuel' depth before (cs ++ more) = .ok (fields, left ++ more)

theorem ValuesExtend.succ (hitems : ItemsExtend fuel) (hfields : FieldsExtend fuel) :
    ValuesExtend (fuel + 1) := by
  intro depth cs v left h hend fuel' hle more
  obtain ⟨fuel', rfl⟩ : ∃ k, fuel' = k + 1 := ⟨fuel' - 1, by omega⟩
  replace hle : fuel' ≥ fuel := Nat.le_of_succ_le_succ hle
  unfold readValue at h
  split at h
  · rename_i rest
    obtain ⟨⟨text, left'⟩, htext, h⟩ := Except.bind_eq_ok_iff.mp h
    obtain ⟨rfl, rfl⟩ := Prod.mk.inj (Except.ok.inj h)
    rw [List.cons_append, readValue, readText_append htext _ more hle]
    rfl
  · rename_i rest
    split_ifs at h with hdepth
    split at h
    · rename_i left' hskip
      obtain ⟨rfl, rfl⟩ := Prod.mk.inj (Except.ok.inj h)
      simp only [List.cons_append, readValue, if_neg hdepth, skip_append_of_cons hskip]
    · rename_i first hfirst
      obtain ⟨⟨items, left'⟩, hread, h⟩ := Except.bind_eq_ok_iff.mp h
      obtain ⟨rfl, rfl⟩ := Prod.mk.inj (Except.ok.inj h)
      obtain ⟨c, first, hskip⟩ := List.exists_cons_of_ne_nil (ne_nil_of_readItems hread)
      have hread' := hitems _ _ _ _ hread fuel' hle more
      rw [hskip] at hread' hfirst
      simp only [List.cons_append, readValue, if_neg hdepth, skip_append_of_cons hskip]
      split
      · rename_i heq
        exact (hfirst first (by rw [(List.cons.inj heq).1])).elim
      · rw [← List.cons_append, hread']
        rfl
  · rename_i rest
    split_ifs at h with hdepth
    split at h
    · rename_i left' hskip
      obtain ⟨rfl, rfl⟩ := Prod.mk.inj (Except.ok.inj h)
      simp only [List.cons_append, readValue, if_neg hdepth, skip_append_of_cons hskip]
    · rename_i first hfirst
      obtain ⟨⟨fields, left'⟩, hread, h⟩ := Except.bind_eq_ok_iff.mp h
      obtain ⟨rfl, rfl⟩ := Prod.mk.inj (Except.ok.inj h)
      obtain ⟨c, first, hskip⟩ := List.exists_cons_of_ne_nil (ne_nil_of_readFields hread)
      have hread' := hfields _ _ _ _ _ hread fuel' hle more
      rw [hskip] at hread' hfirst
      simp only [List.cons_append, readValue, if_neg hdepth, skip_append_of_cons hskip]
      split
      · rename_i heq
        exact (hfirst first (by rw [(List.cons.inj heq).1])).elim
      · rw [← List.cons_append, hread']
        rfl
  · rename_i hquote hbracket hbrace
    have hdelimited : Delimited left :=
      hend.resolve_right (by rw [(readAtom_skimmed cs v left h).2]; exact Bool.false_ne_true)
    have hcs : cs ≠ [] := by
      rintro rfl
      cases h
    obtain ⟨d, rest, rfl⟩ := List.exists_cons_of_ne_nil hcs
    rw [readValue, readAtom_append h hdelimited more]
    all_goals
      intro rest' heq
      obtain ⟨rfl, -⟩ := List.cons.inj heq
    · exact hquote rest rfl
    · exact hbracket rest rfl
    · exact hbrace rest rfl

theorem ItemsExtend.succ (hvalues : ValuesExtend fuel) (hitems : ItemsExtend fuel) :
    ItemsExtend (fuel + 1) := by
  intro depth cs items left h fuel' hle more
  obtain ⟨fuel', rfl⟩ : ∃ k, fuel' = k + 1 := ⟨fuel' - 1, by omega⟩
  replace hle : fuel' ≥ fuel := Nat.le_of_succ_le_succ hle
  unfold readItems at h
  obtain ⟨⟨item, afterItem⟩, hread, h⟩ := Except.bind_eq_ok_iff.mp h
  simp only [] at h
  split at h
  · rename_i left' hskip
    obtain ⟨rfl, rfl⟩ := Prod.mk.inj (Except.ok.inj h)
    have hitem := hvalues _ _ _ _ hread (.inl (delimited_of_skip hskip (by decide))) _ hle more
    simp only [readItems, hitem, bind, Except.bind, skip_append_of_cons hskip]
  · rename_i next hskip
    obtain ⟨⟨others, left'⟩, hothers, h⟩ := Except.bind_eq_ok_iff.mp h
    obtain ⟨rfl, rfl⟩ := Prod.mk.inj (Except.ok.inj h)
    have hitem := hvalues _ _ _ _ hread (.inl (delimited_of_skip hskip (by decide))) _ hle more
    simp only [readItems, hitem, bind, Except.bind, skip_append_of_cons hskip,
      skip_append (ne_nil_of_readItems hothers), hitems _ _ _ _ hothers _ hle more]
  · cases h

theorem FieldsExtend.succ (hvalues : ValuesExtend fuel) (hfields : FieldsExtend fuel) :
    FieldsExtend (fuel + 1) := by
  intro depth before cs fields left h fuel' hle more
  obtain ⟨fuel', rfl⟩ : ∃ k, fuel' = k + 1 := ⟨fuel' - 1, by omega⟩
  replace hle : fuel' ≥ fuel := Nat.le_of_succ_le_succ hle
  unfold readFields at h
  obtain ⟨⟨name, atValue⟩, hname, h⟩ := Except.bind_eq_ok_iff.mp h
  obtain ⟨⟨value, afterValue⟩, hread, h⟩ := Except.bind_eq_ok_iff.mp h
  have hname' := readName_append hname (ne_nil_of_readValue hread) hle more
  simp only [] at h
  split at h
  · rename_i left' hskip
    obtain ⟨rfl, rfl⟩ := Prod.mk.inj (Except.ok.inj h)
    have hvalue := hvalues _ _ _ _ hread (.inl (delimited_of_skip hskip (by decide))) _ hle more
    simp only [readFields, hname', hvalue, bind, Except.bind, skip_append_of_cons hskip]
  · rename_i next hskip
    have hvalue := hvalues _ _ _ _ hread (.inl (delimited_of_skip hskip (by decide))) _ hle more
    simp only [readFields, hname', hvalue, bind, Except.bind, skip_append_of_cons hskip,
      skip_append (ne_nil_of_readFields h)]
    exact hfields _ _ _ _ _ h _ hle more
  · cases h

/-- **Whatever stands behind a value makes no difference to how it is read.** -/
theorem readValue_append (fuel : ℕ) : ValuesExtend fuel ∧ ItemsExtend fuel ∧ FieldsExtend fuel := by
  -- the three readers call each other, always with less fuel
  induction fuel with
  | zero => exact ⟨nofun, nofun, nofun⟩
  | succ fuel ih =>
    obtain ⟨hvalues, hitems, hfields⟩ := ih
    exact ⟨.succ hitems hfields, .succ hvalues hitems, .succ hvalues hfields⟩

end Values

end Flowgraph.Json.Reader
