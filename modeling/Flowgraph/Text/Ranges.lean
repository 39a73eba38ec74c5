/-!
# Character classes as ranges

A class of characters is a list of ranges of code points, ends included. Where only every second
code point belongs to a class, or where a class is mapped to another, the ranges are strides.

## Main definitions

* `codeInRanges`, `inRanges`: whether a code point or a character is in a class.
* `codeInSteps`: the same for a class in which code points are left out at a regular distance.
* `Stride`, `shift`: a mapping of characters by the distance between a character and its image.
-/

namespace Flowgraph.Text

/-- Whether a code point lies in one of the ranges. -/
def codeInRanges (ranges : List (Nat × Nat)) (code : Nat) : Bool :=
  ranges.any fun range => range.1 ≤ code && code ≤ range.2

/-- Whether a character lies in one of the ranges. -/
def inRanges (ranges : List (Nat × Nat)) (c : Char) : Bool :=
  codeInRanges ranges c.toNat

/-- Whether a code point is one of those from a first to a last one at a regular distance, which is
the third number. -/
def codeInSteps (steps : List (Nat × Nat × Nat)) (code : Nat) : Bool :=
  steps.any fun (first, last, step) =>
    first ≤ code && code ≤ last && (code - first) % step == 0

/-- Every `step`-th character from `first` to `last` moves by `offset`. -/
structure Stride where
  /-- The first code point. -/
  first : Nat
  /-- The last code point. -/
  last : Nat
  /-- The distance between two mapped code points. -/
  step : Nat
  /-- The distance from a code point to its image. -/
  offset : Int

/-- Whether a stride maps a code point. -/
def Stride.covers (s : Stride) (n : Nat) : Bool :=
  s.first ≤ n && n ≤ s.last && (n - s.first) % s.step == 0

/-- The image of a character, which is itself if no stride maps it. -/
def shift (strides : List Stride) (c : Char) : Char :=
  match strides.find? (·.covers c.toNat) with
  | some s => Char.ofNat (c.toNat + s.offset).toNat
  | none => c

end Flowgraph.Text
