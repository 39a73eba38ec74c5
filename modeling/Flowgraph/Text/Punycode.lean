/-!
# Punycode

Code points of any script written in the letters, digits and hyphens of ASCII. The code points of
ASCII stand in front; behind the last hyphen the others follow in ascending order as insertions,
each as the distance from the one before, counted over the code points and the places in the text.
A distance is written in base 36 with its lowest digit first; a digit below the threshold of its
place ends it, and the thresholds follow the size of the distances by a bias.

## Main definitions

* `Punycode.encode`: the ASCII form of code points.
* `Punycode.decode?`: the code points of an ASCII form.
-/

namespace Flowgraph.Punycode

/-! ### Digits -/

/-- The number of digits. -/
def base : Nat := 36

/-- The character of a digit. -/
def digitChar (digit : Nat) : Char :=
  Char.ofNat (if digit < 26 then 0x61 + digit else 0x30 + (digit - 26))

/-- The value of a digit, in either case. -/
def digitValue? (c : Char) : Option Nat :=
  if c.isLower then some (c.toNat - 0x61)
  else if c.isUpper then some (c.toNat - 0x41)
  else if c.isDigit then some (c.toNat - 0x30 + 26)
  else none

/-- A digit that is written is read again. -/
theorem digitValue?_digitChar {digit : Nat} (h : digit < base) :
    digitValue? (digitChar digit) = some digit := by
  have all : ∀ d ∈ List.range base, digitValue? (digitChar d) = some d := by decide
  exact all digit (List.mem_range.mpr h)

/-- The threshold of a place: a digit below it is the last one. -/
def threshold (place bias : Nat) : Nat :=
  max 1 (min 26 (base * (place + 1) - bias))

theorem one_le_threshold (place bias : Nat) : 1 ≤ threshold place bias :=
  Nat.le_max_left _ _

theorem threshold_le (place bias : Nat) : threshold place bias ≤ 26 :=
  Nat.max_le.mpr ⟨by decide, Nat.min_le_left _ _⟩

/-- The bias of a distance that has been scaled down, behind one already counted. -/
def biasOf (counted distance : Nat) : Nat :=
  if 455 < distance then biasOf (counted + base) (distance / 35)
  else counted + base * distance / (distance + 38)
termination_by distance
decreasing_by omega

/-- The bias behind a distance, when the text has so many code points with the new one. -/
def adapt (distance size : Nat) (isFirst : Bool) : Nat :=
  let scaled := if isFirst then distance / 700 else distance / 2
  biasOf 0 (scaled + scaled / size)

/-! ### Encoding -/

/-- The digits of a distance from a place on. -/
def encodeDistance (bias place distance : Nat) : List Char :=
  let least := threshold place bias
  if distance < least then [digitChar distance]
  else
    digitChar (least + (distance - least) % (base - least))
      :: encodeDistance bias (place + 1) ((distance - least) / (base - least))
termination_by distance
decreasing_by
  have positive := one_le_threshold place bias
  calc (distance - threshold place bias) / (base - threshold place bias)
      ≤ distance - threshold place bias := Nat.div_le_self _ _
    _ < distance := by omega

/-- The state of an encoding. -/
structure Encoder where
  /-- The digits so far. -/
  digits : List Char
  /-- The distance since the last insertion. -/
  distance : Nat
  /-- The bias. -/
  bias : Nat
  /-- How many code points of the text have been written. -/
  written : Nat

/-- The state behind a place of the text, when insertions of one code point are looked for. -/
def Encoder.pass (plain code : Nat) (s : Encoder) (found : Nat) : Encoder :=
  if found < code then { s with distance := s.distance + 1 }
  else if found = code then
    ⟨s.digits ++ encodeDistance s.bias 0 s.distance, 0,
      adapt s.distance (s.written + 1) (s.written == plain), s.written + 1⟩
  else s

/-- The state behind the insertions of the code points that are left, the first of them `next` or
above. -/
def Encoder.insert (plain : Nat) (codes : List Nat) : Nat → List Nat → Encoder → Encoder
  | _, [], s => s
  | next, code :: rest, s =>
    let reached := { s with distance := s.distance + (code - next) * (s.written + 1) }
    let passed := codes.foldl (Encoder.pass plain code) reached
    insert plain codes (code + 1) rest { passed with distance := passed.distance + 1 }

/-- The ASCII form of code points. -/
def encode (codes : List Nat) : List Char :=
  let plain := codes.filter (· < 0x80)
  let others := (codes.filter (0x80 ≤ ·)).mergeSort.eraseDups
  let state := Encoder.insert plain.length codes 0x80 others ⟨[], 0, 72, plain.length⟩
  let front := plain.map Char.ofNat
  (if front.isEmpty then [] else front ++ ['-']) ++ state.digits

/-! ### Decoding -/

/-- The distance that digits write from a place of a weight on, and what stands behind it. -/
def decodeDistance? (bias : Nat) : Nat → Nat → Nat → List Char → Option (Nat × List Char)
  | _, _, _, [] => none
  | place, weight, distance, c :: rest => do
    let digit ← digitValue? c
    let reached := distance + digit * weight
    if digit < threshold place bias then pure (reached, rest)
    else decodeDistance? bias (place + 1) (weight * (base - threshold place bias)) reached rest

/-- A distance takes at least one digit. -/
theorem length_of_decodeDistance? {bias : Nat} {cs : List Char} :
    ∀ {place weight distance : Nat} {result : Nat × List Char},
      decodeDistance? bias place weight distance cs = some result →
        result.2.length < cs.length := by
  induction cs with
  | nil => intro _ _ _ _ h; simp [decodeDistance?] at h
  | cons c rest ih =>
    intro place weight distance result h
    rw [decodeDistance?] at h
    cases value : digitValue? c with
    | none => simp [value] at h
    | some digit =>
      simp only [value, Option.bind_eq_bind, Option.bind_some] at h
      split at h
      · cases h; simp
      · have := ih h
        simp only [List.length_cons]
        omega

/-- The code points of a text into which the rest of the digits insert others. -/
def insertAll? (bias code place : Nat) (isFirst : Bool) (codes : List Nat) (digits : List Char) :
    Option (List Nat) :=
  if digits.isEmpty then some codes
  else
    match _read : decodeDistance? bias 0 1 0 digits with
    | none => none
    | some (distance, rest) =>
      let size := codes.length + 1
      let next := code + (place + distance) / size
      let index := (place + distance) % size
      if 0x10FFFF < next then none
      else
        insertAll? (adapt distance size isFirst) next (index + 1) false
          (codes.take index ++ next :: codes.drop index) rest
termination_by digits.length
decreasing_by exact length_of_decodeDistance? _read

/-- The code points of an ASCII form; a code point may be one that no character has. -/
def decode? (cs : List Char) : Option (List Nat) :=
  let digits := (cs.reverse.takeWhile (· != '-')).reverse
  let plain := (cs.take (cs.length - digits.length)).dropLast
  insertAll? 72 0x80 0 true (plain.map Char.toNat) digits

end Flowgraph.Punycode
