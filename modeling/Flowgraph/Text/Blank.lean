import Flowgraph.Text.Ranges

/-!
# Blanks

Two notions of whitespace meet in this library: the blanks around a text, which include the four
information separators, and the property White_Space, which does not.

## Main definitions

* `isBlank`: a character that is stripped from the ends of a text.
* `strip`: a text without the blanks at its ends.
-/

namespace Flowgraph.Text

/-- The characters with the property White_Space. -/
def whiteSpaceRanges : List (Nat × Nat) := [
  (0x9, 0xD), (0x20, 0x20), (0x85, 0x85), (0xA0, 0xA0), (0x1680, 0x1680), (0x2000, 0x200A),
  (0x2028, 0x2029), (0x202F, 0x202F), (0x205F, 0x205F), (0x3000, 0x3000)]

/-- Whether a character has the property White_Space. -/
def isWhiteSpace (c : Char) : Bool :=
  inRanges whiteSpaceRanges c

/-- Whether a character is a blank: White_Space or an information separator. -/
def isBlank (c : Char) : Bool :=
  isWhiteSpace c || (0x1C ≤ c.toNat && c.toNat ≤ 0x1F)

/-- A text without the leading characters of a class. -/
def dropLeading (p : Char → Bool) (cs : List Char) : List Char :=
  cs.dropWhile p

/-- A text without the trailing characters of a class. -/
def dropTrailing (p : Char → Bool) (cs : List Char) : List Char :=
  (cs.reverse.dropWhile p).reverse

/-- A text without the blanks at its ends. -/
def strip (cs : List Char) : List Char :=
  dropTrailing isBlank (dropLeading isBlank cs)

/-- A text without the White_Space at its ends. -/
def trimWhiteSpace (cs : List Char) : List Char :=
  dropTrailing isWhiteSpace (dropLeading isWhiteSpace cs)

/-- Whether a text occurs inside another. -/
def occursIn {α : Type} [BEq α] (part : List α) : List α → Bool
  | [] => part.isEmpty
  | l :: ls => part.isPrefixOf (l :: ls) || occursIn part ls

end Flowgraph.Text
