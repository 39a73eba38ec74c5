import Flowgraph.Text.Mark

/-!
# Direction

Text runs from left to right or from right to left, and every character that may stand in a name
says what it does with the direction: letters set it, digits keep their own, marks follow the letter
before them. Only such characters are told apart here; the ranges of the tables run on over those
that cannot stand in a name.

## Main definitions

* `Direction`: what a character does with the direction.
* `direction`: the direction of a code point.
-/

namespace Flowgraph.Text

/-- What a character does with the direction. -/
inductive Direction where
  /-- A letter of a script from left to right. -/
  | left
  /-- A letter of a script from right to left. -/
  | right
  /-- A digit. -/
  | digit
  /-- A digit of the kind used in Arabic. -/
  | arabicDigit
  /-- A mark, which follows the letter before it. -/
  | mark
  /-- A character that runs as those around it. -/
  | neutral
  /-- The code point is not given to any character. -/
  | unassigned
deriving DecidableEq, Repr

/-- The characters that are neither from left to right nor marks, by ranges of code points. -/
def directionRanges : List (Nat × Nat × Direction) := [
  (0x2D, 0x2D, .neutral), (0x30, 0x39, .digit), (0xB7, 0xB7, .neutral), (0x2B9, 0x2BA, .neutral),
  (0x2C6, 0x2CF, .neutral), (0x2EC, 0x2EC, .neutral), (0x375, 0x375, .neutral),
  (0x5D0, 0x64A, .right), (0x660, 0x669, .arabicDigit), (0x66E, 0x6EF, .right),
  (0x6F0, 0x6F9, .digit), (0x6FA, 0x8C9, .right), (0x200C, 0x200D, .neutral),
  (0x2E2F, 0x2E2F, .neutral), (0x30FB, 0x30FB, .neutral), (0xA67F, 0xA67F, .neutral),
  (0xA717, 0xA71F, .neutral), (0xA788, 0xA788, .neutral), (0xFE73, 0xFE73, .right),
  (0x10800, 0x10D23, .right), (0x10D30, 0x10D39, .arabicDigit), (0x10E80, 0x10FF6, .right),
  (0x1E800, 0x1E959, .right)]

/-- The marks that count as letters from left to right. -/
def leftMarks : List Nat := [
  0xCBF, 0xCC6, 0x11A07, 0x11A08, 0x11C3F]

/-- The code points that may stand in a name once they are given to a character. -/
def unassignedRanges : List (Nat × Nat) := [
  (0x88F, 0x88F), (0x897, 0x897), (0xC5C, 0xC5C), (0xCDC, 0xCDC), (0xCF3, 0xCF3), (0xECE, 0xECE),
  (0x1ACF, 0x1ADD), (0x1AE0, 0x1AEB), (0x1C8A, 0x1C8A), (0xA7CD, 0xA7CD), (0xA7CF, 0xA7CF),
  (0xA7DB, 0xA7DB), (0x105C0, 0x105F3), (0x10940, 0x10959), (0x10D40, 0x10D4F), (0x10D69, 0x10D6D),
  (0x10D6F, 0x10D85), (0x10EC2, 0x10EC7), (0x10EFA, 0x10EFF), (0x1123F, 0x11241),
  (0x11380, 0x11389), (0x1138B, 0x1138B), (0x1138E, 0x1138E), (0x11390, 0x113B5),
  (0x113B7, 0x113C0), (0x113C2, 0x113C2), (0x113C5, 0x113C5), (0x113C7, 0x113CA),
  (0x113CC, 0x113D3), (0x113E1, 0x113E2), (0x116D0, 0x116E3), (0x11B60, 0x11B67),
  (0x11BC0, 0x11BE0), (0x11BF0, 0x11BF9), (0x11DB0, 0x11DDB), (0x11DE0, 0x11DE9),
  (0x11F00, 0x11F10), (0x11F12, 0x11F3A), (0x11F3E, 0x11F42), (0x11F50, 0x11F5A),
  (0x1342F, 0x1342F), (0x13440, 0x13455), (0x13460, 0x143FA), (0x16100, 0x16139),
  (0x16D40, 0x16D6C), (0x16D70, 0x16D79), (0x16EBB, 0x16ED3), (0x16FF2, 0x16FF3),
  (0x187F8, 0x187FF), (0x18CFF, 0x18CFF), (0x18D09, 0x18D1E), (0x18D80, 0x18DF2),
  (0x1B132, 0x1B132), (0x1B155, 0x1B155), (0x1DF25, 0x1DF2A), (0x1E08F, 0x1E08F),
  (0x1E4D0, 0x1E4F9), (0x1E5D0, 0x1E5FA), (0x1E6C0, 0x1E6DE), (0x1E6E0, 0x1E6F5),
  (0x1E6FE, 0x1E6FF), (0x2B739, 0x2B73F), (0x2CEA2, 0x2CEAD), (0x2EBF0, 0x2EE5D),
  (0x31350, 0x33479)]

/-- The direction of a code point that may stand in a name. -/
def direction (code : Nat) : Direction :=
  if codeInRanges unassignedRanges code then .unassigned
  else if leftMarks.contains code then .left
  else if isNonspacing code then .mark
  else
    match directionRanges.find? fun (first, last, _) => first ≤ code && code ≤ last with
    | some (_, _, found) => found
    | none => .left

end Flowgraph.Text
