import Flowgraph.Path
import Flowgraph.Proofs.Digits

/-!
# Paths as they are written

A token of a path can be written in several forms: behind a point, in brackets if it consists of
digits, in brackets and quotes of either kind.  Not every form takes every token, since what ends
the token must not occur in it.  Where a form takes a token, the token is read again, whatever
stands before and behind it.

A path leads to a part of a value: each token leads to an item of a list or to a field of an object,
or it leads nowhere, and then so does the whole path.

## Main definitions

* `Path.Writing` — a token and a form in which it is written.
* `Path.written` — the path of some written tokens.
* `Path.Enters`, `Path.Blocks` — one step of the way: a token leads to a part, or it leads nowhere.
* `Path.Leads` — what a row of tokens leads to, if to anything.

## Main results

* `Path.tokens_of_written` — **the tokens of a path are those that have been written.**
* `Path.resolve_written` — so **a path leads where its tokens lead**, however they are written.
-/

namespace Flowgraph.Path

/-! ### Writing -/

/-- The forms in which a token can be written. -/
inductive Form where
  /-- Behind a point, as in `.name`. -/
  | point
  /-- In brackets, as in `[0]`. -/
  | brackets
  /-- In brackets and quotes, as in `["unit price"]`. -/
  | quotes (mark : Char)

namespace Form

/-- The tokens that can be written in a form. -/
def Admits (token : List Char) : Form → Prop
  | point => token ≠ [] ∧ ∀ c ∈ token, c ≠ '.' ∧ c ≠ '[' ∧ c ≠ ']'
  | brackets => token ≠ [] ∧ ∀ c ∈ token, Text.isDigit c = true
  | quotes mark => (mark = '"' ∨ mark = '\'') ∧ ∀ c ∈ token, c ≠ mark ∧ c ≠ '\\'

-- the quantifiers run over the token, not over all characters that there are
instance (token : List Char) (form : Form) : Decidable (form.Admits token) :=
  match form with
  | point => @instDecidableAnd _ _ _ (List.decidableBAll _ token)
  | brackets => @instDecidableAnd _ _ _ (List.decidableBAll _ token)
  | quotes _ => @instDecidableAnd _ _ _ (List.decidableBAll _ token)

/-- A token in a form. -/
def write (token : List Char) : Form → List Char
  | point => '.' :: token
  | brackets => '[' :: (token ++ [']'])
  | quotes mark => '[' :: mark :: (token ++ [mark, ']'])

end Form

/-- A token in a form that it can be written in. -/
structure Writing where
  /-- The token. -/
  token : String
  /-- The form in which it is written. -/
  form : Form
  /-- The form takes the token. -/
  admits : form.Admits token.toList

/-- The characters of a written token. -/
def Writing.chars (w : Writing) : List Char :=
  w.form.write w.token.toList

/-- The path of some written tokens. -/
def written (ws : List Writing) : String :=
  String.ofList ('$' :: ws.flatMap Writing.chars)

variable {token cs rest : List Char} {mark c : Char} {fuel : Nat}

/-! ### Reading a token -/

/-- Characters of a class are read as far as they go. -/
theorem span_append {p : Char → Bool} (hcs : ∀ c ∈ cs, p c = true)
    (hrest : ∀ c ∈ rest.head?, p c = false) :
    (cs ++ rest).takeWhile p = cs ∧ (cs ++ rest).dropWhile p = rest := by
  rw [List.takeWhile_append_of_pos hcs, List.dropWhile_append_of_pos hcs]
  cases rest with
  | nil => simp
  | cons c rest => simp [hrest c rfl]

/-- A character without a backslash before it ends a quoted token or stands in it. -/
theorem quoted?_cons (hc : c ≠ '\\') : quoted? mark (c :: rest) =
    if c = mark then some ([], rest)
    else (quoted? mark rest).map fun (inside, left) => (c :: inside, left) := by
  rw [quoted?.eq_def]
  split <;> simp_all

/-- A quoted token is read up to its closing quote. -/
theorem quoted?_append (hmark : mark ≠ '\\') (h : ∀ c ∈ token, c ≠ mark ∧ c ≠ '\\') :
    quoted? mark (token ++ mark :: rest) = some (token, rest) := by
  induction token with
  | nil => rw [List.nil_append, quoted?_cons hmark, if_pos rfl]
  | cons c token ih =>
    obtain ⟨hopen, hslash⟩ := h c List.mem_cons_self
    rw [List.cons_append, quoted?_cons hslash, if_neg hopen,
      ih fun d hd => h d (List.mem_cons_of_mem c hd)]
    rfl

theorem bracketed?_quotes (h : (Form.quotes mark).Admits token) :
    bracketed? (mark :: (token ++ mark :: ']' :: rest)) = some (token, rest) := by
  obtain ⟨hmark, htoken⟩ := h
  have hslash : mark ≠ '\\' := by
    rcases hmark with rfl | rfl <;> decide
  simp [bracketed?, hmark, quoted?_append hslash htoken]

theorem bracketed?_digits (h : Form.brackets.Admits token) :
    bracketed? (token ++ ']' :: rest) = some (token, rest) := by
  obtain ⟨hne, hdigits⟩ := h
  have hclose : ∀ c ∈ (']' :: rest).head?, Text.isDigit c = false := by
    rintro c hc
    obtain rfl : ']' = c := by simpa using hc
    decide
  obtain ⟨htake, hdrop⟩ := span_append hdigits hclose
  cases token with
  | nil => exact absurd rfl hne
  | cons c token =>
    have hc := hdigits c List.mem_cons_self
    have hquote : ¬ (c = '"' ∨ c = '\'') := by
      rintro (rfl | rfl) <;> exact absurd hc (by decide)
    rw [List.cons_append] at htake hdrop ⊢
    rw [bracketed?]
    simp only [if_neg hquote, if_pos hc, htake, hdrop]

/-! ### Reading a path -/

/-- A point begins no token. -/
theorem tokensOf_point : tokensOf (fuel + 1) ('.' :: cs) = tokensOf fuel cs := by
  simp [tokensOf, isBare]

theorem tokensOf_bare (h : Form.point.Admits token) (hrest : ∀ c ∈ rest.head?, isBare c = false) :
    tokensOf (fuel + 1) (token ++ rest) = token :: tokensOf fuel rest := by
  obtain ⟨hne, htoken⟩ := h
  have hbare : ∀ c ∈ token, isBare c = true := fun c hc => by
    obtain ⟨hpoint, hopen, hclose⟩ := htoken c hc
    simp [isBare, hpoint, hopen, hclose]
  cases token with
  | nil => exact absurd rfl hne
  | cons c token =>
    have hinside : ∀ d ∈ token, isBare d = true := fun d hd => hbare d (List.mem_cons_of_mem c hd)
    obtain ⟨htake, hdrop⟩ := span_append hinside hrest
    rw [List.cons_append, tokensOf, if_pos (hbare c List.mem_cons_self), htake, hdrop]

theorem tokensOf_bracketed (h : bracketed? cs = some (token, rest)) :
    tokensOf (fuel + 1) ('[' :: cs) = token :: tokensOf fuel rest := by
  simp [tokensOf, isBare, h]

/-- No bare character begins a written token. -/
theorem not_isBare_head (ws : List Writing) :
    ∀ c ∈ (ws.flatMap Writing.chars).head?, isBare c = false := by
  cases ws with
  | nil => simp
  | cons w ws =>
    cases hform : w.form <;> simp [Writing.chars, hform, Form.write, isBare]

/-- A written token has two characters at least. -/
theorem two_le_length_chars (w : Writing) : 2 ≤ w.chars.length := by
  obtain ⟨token, form, hadmits⟩ := w
  cases form with
  | point =>
    have hpos : 0 < token.toList.length := List.length_pos_iff.mpr hadmits.1
    exact Nat.succ_le_succ hpos
  | brackets => simp [Writing.chars, Form.write]
  | quotes mark => simp [Writing.chars, Form.write]

/-- A written token is read, and what stands behind it is read next. -/
theorem tokensOf_write (w : Writing) (hrest : ∀ c ∈ rest.head?, isBare c = false)
    (hfuel : (w.chars ++ rest).length ≤ fuel) : ∃ left, rest.length ≤ left ∧
      tokensOf fuel (w.chars ++ rest) = w.token.toList :: tokensOf left rest := by
  have htwo := two_le_length_chars w
  rw [List.length_append] at hfuel
  obtain ⟨left, rfl⟩ : ∃ left, fuel = left + 2 := ⟨fuel - 2, by omega⟩
  obtain ⟨token, form, hadmits⟩ := w
  cases form with
  | point =>
    -- one step passes the point, one reads the token
    exact ⟨left, by omega, tokensOf_point.trans (tokensOf_bare hadmits hrest)⟩
  | brackets =>
    refine ⟨left + 1, by omega, ?_⟩
    simpa [Writing.chars, Form.write] using tokensOf_bracketed (bracketed?_digits hadmits)
  | quotes mark =>
    refine ⟨left + 1, by omega, ?_⟩
    simpa [Writing.chars, Form.write] using tokensOf_bracketed (bracketed?_quotes hadmits)

/-- Written tokens are read one after another. -/
theorem tokensOf_writings (ws : List Writing) (hfuel : (ws.flatMap Writing.chars).length ≤ fuel) :
    tokensOf fuel (ws.flatMap Writing.chars) = ws.map fun w => w.token.toList := by
  induction ws generalizing fuel with
  | nil => cases fuel <;> rfl
  | cons w ws ih =>
    obtain ⟨left, hleft, htokens⟩ := tokensOf_write w (not_isBare_head ws) hfuel
    rw [List.flatMap_cons, htokens, ih hleft, List.map_cons]

/-- The point behind the sign of the root may be taken away with it. -/
theorem tokensOf_withoutRoot (cs : List Char) :
    tokensOf (withoutRoot ('$' :: cs)).length (withoutRoot ('$' :: cs)) =
      tokensOf cs.length cs := by
  cases cs with
  | nil => rfl
  | cons c cs =>
    by_cases hc : c = '.'
    · subst hc
      exact tokensOf_point.symm
    · have hroot : withoutRoot ('$' :: c :: cs) = c :: cs := by
        rw [withoutRoot]
        simpa using hc
      rw [hroot]

/-- The tokens of a path are those that have been written. -/
theorem tokens_of_written (ws : List Writing) : tokens (written ws) = ws.map Writing.token := by
  rw [tokens, written, String.toList_ofList, tokensOf_withoutRoot,
    tokensOf_writings ws (Nat.le_refl _), List.map_map]
  exact List.map_congr_left fun w _ => String.ofList_toList

/-! ### Where a path leads -/

/-- A token is the index of an item: digits that have its number as their value, and not too many of
them. -/
def Indexes (token : String) (index : Nat) : Prop :=
  Form.brackets.Admits token.toList ∧ token.toList.length ≤ Text.maxDigits ∧
    Text.digitsValue token.toList = index

/-- A token leads from a value to a part of it. -/
inductive Enters : Json → String → Json → Prop where
  /-- To an item of a list. -/
  | item (items : List Json) (token : String) (index : Nat) (v : Json)
      (hindex : Indexes token index) (hv : items[index]? = some v) : Enters (.arr items) token v
  /-- To a field of an object. -/
  | field (fields : Fields) (token : String) (v : Json) (hv : fields.get? token = some v) :
      Enters (.obj fields) token v

/-- A token leads nowhere from a value. -/
inductive Blocks : Json → String → Prop where
  /-- There is no item of this index. -/
  | outside (items : List Json) (token : String) (index : Nat) (hindex : Indexes token index)
      (h : items.length ≤ index) : Blocks (.arr items) token
  /-- The items of a list are not named. -/
  | unnamed (items : List Json) (token : String) (h : indexDigits? token = none) :
      Blocks (.arr items) token
  /-- There is no field of this name. -/
  | absent (fields : Fields) (token : String) (h : fields.get? token = none) :
      Blocks (.obj fields) token
  /-- The value has no parts. -/
  | atom (v : Json) (token : String) (hitems : v.arr? = none) (hfields : v.obj? = none) :
      Blocks v token

/-- What a row of tokens leads to; `none` as soon as one of them leads nowhere. -/
inductive Leads : Json → List String → Option Json → Prop where
  /-- All tokens have been followed. -/
  | arrived (v : Json) : Leads v [] (some v)
  /-- The first token leads to a part, and the others lead on from there. -/
  | entered (v next : Json) (token : String) (rest : List String) (r : Option Json)
      (hstep : Enters v token next) (h : Leads next rest r) : Leads v (token :: rest) r
  /-- The first token leads nowhere. -/
  | blocked (v : Json) (token : String) (rest : List String) (h : Blocks v token) :
      Leads v (token :: rest) none

variable {v next data : Json} {name : String} {index : Nat} {names : List String} {r : Option Json}

theorem indexDigits?_of_indexes (h : Indexes name index) :
    indexDigits? name = some name.toList ∧ Text.readNatural name.toList = .ok index := by
  obtain ⟨⟨hne, hdigits⟩, hlength, rfl⟩ := h
  have hfeed : name.toList.getLast? ≠ some '\n' := by
    intro hlast
    exact absurd (hdigits _ (List.mem_of_getLast? hlast)) (by decide)
  have hnatural : Text.isNatural name.toList = true := by
    simpa [Text.isNatural, hne] using hdigits
  refine ⟨?_, ?_⟩
  · simp [indexDigits?, hfeed, hnatural]
  · rw [Text.readNatural, if_neg (Nat.not_lt_of_le hlength)]

/-- A number is the index of its item, if it is not too large. -/
theorem indexes_toString (h : index < 10 ^ Text.maxDigits) : Indexes (toString index) index := by
  have hdigits : (toString index).toList = Nat.toDigits 10 index := Nat.toList_repr
  refine ⟨⟨?_, ?_⟩, ?_, ?_⟩
  · rw [hdigits]
    exact Nat.toDigits_ne_nil
  · rw [hdigits]
    exact fun c hc => Text.isDigit_of_mem_toDigits hc
  · rw [hdigits]
    exact (Nat.length_toDigits_le_iff (by decide) (by decide)).mpr h
  · rw [hdigits, Text.digitsValue_toDigits]

theorem step_of_enters (h : Enters v name next) : step v name = .ok (some next) := by
  cases h with
  | item items _ index _ hindex hv =>
    obtain ⟨hdigits, hread⟩ := indexDigits?_of_indexes hindex
    simp only [step, hdigits, hread]
    exact congrArg Except.ok hv
  | field fields _ _ hv => rw [step, hv]

theorem step_of_blocks (h : Blocks v name) : step v name = .ok none := by
  cases h with
  | outside items _ index hindex hlength =>
    obtain ⟨hdigits, hread⟩ := indexDigits?_of_indexes hindex
    simp only [step, hdigits, hread]
    exact congrArg Except.ok (List.getElem?_eq_none hlength)
  | unnamed items _ hnone => simp only [step, hnone]
  | absent fields _ hnone => rw [step, hnone]
  | atom _ _ hitems hfields => cases v <;> simp_all [step, Json.arr?, Json.obj?]

theorem walk_of_leads (h : Leads v names r) : walk v names = .ok r := by
  induction h with
  | arrived v => rfl
  | entered v next token rest r hstep _ ih =>
    rw [walk, step_of_enters hstep]
    exact ih
  | blocked v token rest h =>
    rw [walk, step_of_blocks h]
    rfl

/-- **A path leads where its tokens lead**, in whatever forms they are written. -/
theorem resolve_written (ws : List Writing) :
    tokens (written ws) = ws.map Writing.token ∧
      ∀ data r, Leads data (ws.map Writing.token) r → resolve data (written ws) = .ok r := by
  refine ⟨tokens_of_written ws, fun data r h => ?_⟩
  have hroot : (written ws).toList.head? = some '$' := by
    rw [written, String.toList_ofList, List.head?_cons]
  rw [← walk_of_leads h, ← tokens_of_written, resolve, if_pos hroot]
  split_ifs with hwhole
  · rcases hwhole with hempty | hdollar
    · simp [hempty] at hroot
    · rw [hdollar]
      rfl
  · rfl

/-- An order of one item. -/
def order : Json :=
  .obj [("items", .arr [.obj [("unit price", .int 7)]])]

/-- The way to the price of the item. -/
def price : List Writing :=
  [⟨"items", .point, by decide⟩, ⟨"0", .brackets, by decide⟩,
    ⟨"unit price", .quotes '"', by decide⟩]

/-- The way to the name of an item that is not there. -/
def missingName : List Writing :=
  [⟨"items", .quotes '\'', by decide⟩, ⟨"1", .brackets, by decide⟩, ⟨"name", .point, by decide⟩]

/-- A path leads to the price of the item, and one to a further item leads nowhere. -/
theorem resolve_written_order :
    (Leads order (price.map Writing.token) (some (.int 7)) ∧
      resolve order "$.items[0][\"unit price\"]" = .ok (some (.int 7))) ∧
    Leads order (missingName.map Writing.token) none ∧
      resolve order "$['items'][1].name" = .ok none := by
  have hdigits : Text.maxDigits < 10 ^ Text.maxDigits := Nat.lt_pow_self (by decide)
  have hzero : Indexes (toString 0) 0 := indexes_toString (Nat.zero_lt_of_lt hdigits)
  have hone : Indexes (toString 1) 1 := indexes_toString (Nat.lt_trans (by decide) hdigits)
  have hprice : Leads order (price.map Writing.token) (some (.int 7)) :=
    .entered _ _ _ _ _ (.field _ _ _ rfl) <| .entered _ _ _ _ _ (.item _ _ 0 _ hzero rfl) <|
      .entered _ _ _ _ _ (.field _ _ _ rfl) (.arrived _)
  have hmissing : Leads order (missingName.map Writing.token) none :=
    .entered _ _ _ _ _ (.field _ _ _ rfl) <| .blocked _ _ _ (.outside _ _ 1 hone (by decide))
  have hpricePath : written price = "$.items[0][\"unit price\"]" := by decide
  have hmissingPath : written missingName = "$['items'][1].name" := by decide
  refine ⟨⟨hprice, ?_⟩, hmissing, ?_⟩
  · rw [← hpricePath]
    exact (resolve_written price).2 order _ hprice
  · rw [← hmissingPath]
    exact (resolve_written missingName).2 order _ hmissing

end Flowgraph.Path
