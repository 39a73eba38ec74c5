/-!
# Letters

Data may hold half of a pair of units by itself, which is no character. So a text is made of
letters: characters and halves. A half is held as a private character, the one whose code is the
unit behind a one and a zero of sixteen bits. A character that could be taken for a half stands
behind a mark, and so does the mark itself; thus every row of letters has one form as characters.

## Main definitions

* `Letter`: a character or a half; `Letter.chars` is what it is held as.
* `letters`: the letters that characters hold, and `letters_written` that nothing is lost.
* `characters`, `ofCharacters`: a text as plain characters, and the text of plain characters.
-/

namespace Flowgraph.Text

/-- Whether a unit is half of a pair. -/
def isHalf (unit : Nat) : Bool :=
  decide (0xD800 ≤ unit) && decide (unit < 0xE000)

/-- Half of a pair. -/
abbrev Half := { unit : Nat // isHalf unit = true }

/-- The character that holds a half. -/
def halfChar (half : Half) : Char :=
  Char.ofNat (0x100000 + half.val)

/-- The half that a character holds. -/
def half? (c : Char) : Option Half :=
  if h : isHalf (c.toNat - 0x100000) then some ⟨c.toNat - 0x100000, h⟩ else none

/-- The code of the character that holds a half. -/
theorem toNat_halfChar (half : Half) : (halfChar half).toNat = 0x100000 + half.val := by
  have bounds : 0xD800 ≤ half.val ∧ half.val < 0xE000 := by simpa [isHalf] using half.property
  have valid : (0x100000 + half.val).isValidChar := Or.inr ⟨by omega, by omega⟩
  unfold halfChar Char.ofNat
  rw [dif_pos valid]
  rfl

/-- The half that is held is the half that was put in. -/
theorem half?_halfChar (half : Half) : half? (halfChar half) = some half := by
  have code : (halfChar half).toNat - 0x100000 = half.val := by rw [toNat_halfChar]; omega
  have holds : isHalf ((halfChar half).toNat - 0x100000) = true := by rw [code]; exact half.property
  rw [half?, dif_pos holds]
  exact congrArg some (Subtype.ext code)

/-- What stands before a character that is no half though it looks like one. -/
def mark : Char := Char.ofNat 0x10FFFF

/-- No half is held as the mark. -/
theorem halfChar_ne_mark (half : Half) : halfChar half ≠ mark := by
  intro h
  have code := toNat_halfChar half
  have bounds : 0xD800 ≤ half.val ∧ half.val < 0xE000 := by simpa [isHalf] using half.property
  rw [h] at code
  have : mark.toNat = 0x10FFFF := by decide
  omega

/-- What a text is made of. -/
inductive Letter where
  /-- A character. -/
  | char (c : Char)
  /-- Half of a pair. -/
  | half (half : Half)
deriving DecidableEq

namespace Letter

/-- The characters that hold a letter. -/
def chars : Letter → List Char
  | char c => if c = mark ∨ (half? c).isSome then [mark, c] else [c]
  | half h => [halfChar h]

theorem chars_char (c : Char) :
    (char c).chars = if c = mark ∨ (half? c).isSome then [mark, c] else [c] := rfl

theorem chars_half (h : Half) : (half h).chars = [halfChar h] := rfl

/-- The code of a letter. -/
def code : Letter → Nat
  | char c => c.toNat
  | half h => h.val

/-- The letter of a unit of sixteen bits or of the code of a character. -/
def ofCode (code : Nat) : Letter :=
  if h : isHalf code then half ⟨code, h⟩ else char (Char.ofNat code)

/-- The character that a letter is; the replacement character stands for a half. -/
def plain : Letter → Char
  | char c => c
  | half _ => '\uFFFD'

/-- The letter that a character without a mark holds. -/
def ofChar (c : Char) : Letter :=
  (half? c).elim (char c) half

theorem ofChar_char {c : Char} (h : half? c = none) : ofChar c = char c := by
  rw [ofChar, h, Option.elim_none]

theorem ofChar_halfChar (h : Half) : ofChar (halfChar h) = half h := by
  rw [ofChar, half?_halfChar, Option.elim_some]

end Letter

/-- The letters that characters hold. -/
def letters : List Char → List Letter
  | [] => []
  | [c] => [.ofChar c]
  | c :: d :: rest =>
    if c = mark then .char d :: letters rest else .ofChar c :: letters (d :: rest)

/-- A character that is not the mark holds a letter by itself. -/
theorem letters_cons {c : Char} (h : c ≠ mark) (cs : List Char) :
    letters (c :: cs) = .ofChar c :: letters cs := by
  cases cs with
  | nil => rfl
  | cons d rest => rw [letters, if_neg h]

/-- The letters of a marked character and what follows it. -/
theorem letters_mark_cons (c : Char) (cs : List Char) :
    letters (mark :: c :: cs) = .char c :: letters cs := by
  rw [letters, if_pos rfl]

/-- The letters of characters that begin with those of a letter. -/
theorem letters_chars_append (l : Letter) (cs : List Char) :
    letters (l.chars ++ cs) = l :: letters cs := by
  cases l with
  | char c =>
    rw [Letter.chars_char]
    by_cases h : c = mark ∨ (half? c).isSome
    · rw [if_pos h]
      exact letters_mark_cons c cs
    · obtain ⟨notMark, notHalf⟩ := not_or.mp h
      have alone : half? c = none := Option.not_isSome_iff_eq_none.mp notHalf
      rw [if_neg h]
      exact (letters_cons notMark cs).trans (congrArg (· :: letters cs) (Letter.ofChar_char alone))
  | half h =>
    rw [Letter.chars_half]
    exact (letters_cons (halfChar_ne_mark h) cs).trans
      (congrArg (· :: letters cs) (Letter.ofChar_halfChar h))

/-- The letters that are held are the letters that were put in. -/
theorem letters_written (ls : List Letter) : letters (ls.flatMap Letter.chars) = ls := by
  induction ls with
  | nil => rfl
  | cons l rest ih => rw [List.flatMap_cons, letters_chars_append, ih]

/-- The text of some letters. -/
def ofLetters (ls : List Letter) : String :=
  String.ofList (ls.flatMap Letter.chars)

/-- The codes of the letters of a text, by which texts are ordered. -/
def codes (s : String) : List Nat :=
  (letters s.toList).map Letter.code

/-- Whether a text comes before another. -/
def isBefore (a b : String) : Bool :=
  decide (codes a < codes b)

/-- A text as plain characters. -/
def characters (s : String) : List Char :=
  (letters s.toList).map Letter.plain

/-- The text of plain characters. -/
def ofCharacters (cs : List Char) : String :=
  ofLetters (cs.map Letter.char)

/-- A text that was made of plain characters gives them back. -/
theorem characters_ofCharacters (cs : List Char) : characters (ofCharacters cs) = cs := by
  rw [characters, ofCharacters, ofLetters, String.toList_ofList, letters_written, List.map_map]
  exact List.map_id cs

end Flowgraph.Text
