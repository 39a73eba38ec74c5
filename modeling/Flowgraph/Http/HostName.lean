import Flowgraph.Json.Spelled
import Flowgraph.Text.Composition
import Flowgraph.Text.Direction
import Flowgraph.Text.Joining
import Flowgraph.Text.NameLetter
import Flowgraph.Text.Punycode
import Flowgraph.Text.Script

/-!
# Names of hosts

A name is made of labels with points between them. A label may be written in letters of any script;
it then has an ASCII form, Punycode behind a prefix, and only one form of a label is allowed: it is
composed, its letters are lower case, its signs stand beside letters of their script, and its
direction can be told without a look at its neighbours.

## Main definitions

* `NameProblem`: why a text is no name.
* `HostName.checkLabel`: the rules for a label, given by its code points.
* `HostName.encode`: the ASCII form of a name.
* `HostName.decode`: the code points of a name in its ASCII form.
-/

namespace Flowgraph

/-- The ways in which a name can be refused. -/
inductive NameRefusal where
  /-- The form of a name or of a label is wrong. -/
  | form
  /-- A code point may stand in no name. -/
  | letter
  /-- A code point may not stand where it does. -/
  | context
  /-- The directions in a label do not go together. -/
  | direction
deriving DecidableEq, Repr

/-- Why a text is no name. -/
inductive NameProblem where
  /-- There is no label. -/
  | emptyName
  /-- The name is too long. -/
  | nameTooLong
  /-- A label is empty. -/
  | emptyLabel
  /-- A label is too long. -/
  | labelTooLong
  /-- Nothing follows the prefix of an ASCII form. -/
  | noContent
  /-- An ASCII form ends in a hyphen. -/
  | unfinished
  /-- An ASCII form is no Punycode. -/
  | unreadable
  /-- A label is not in its composed form. -/
  | uncomposed
  /-- Hyphens stand where those of a prefix would. -/
  | prefixHyphens
  /-- A hyphen stands at an end of a label. -/
  | edgeHyphen
  /-- A mark stands at the beginning of a label. -/
  | initialMark
  /-- A code point may stand in no name; with how many stand before it. -/
  | letter (code position : Nat) (label : List Nat)
  /-- A joiner joins nothing. -/
  | joiner (code position : Nat) (label : List Nat)
  /-- A sign does not stand beside letters of its script. -/
  | context (code position : Nat) (label : List Nat)
  /-- The direction of a code point is not known. -/
  | unknownDirection (position : Nat) (label : List Nat)
  /-- A label with letters from right to left begins with no letter. -/
  | initialDirection (label : List Nat)
  /-- A code point runs against the direction of its label. -/
  | opposed (position : Nat) (isRightward : Bool)
  /-- Digits of two kinds stand in one label. -/
  | mixedDigits
  /-- A label ends neither in a letter of its direction nor in a digit. -/
  | finalDirection
deriving DecidableEq, Repr

namespace NameProblem

/-- The way of the refusal. -/
def refusal : NameProblem → NameRefusal
  | letter _ _ _ => .letter
  | context _ _ _ => .context
  | unknownDirection _ _ | initialDirection _ | opposed _ _ | mixedDigits | finalDirection =>
    .direction
  | _ => .form

/-- The spelling of a label. -/
def spellLabel (label : List Nat) : String :=
  String.ofList (Json.spellText (Text.ofLetters (label.map Text.Letter.ofCode)))

/-- A code point in at least four hexadecimal digits. -/
def codeName (code : Nat) : String :=
  let digits := (Nat.toDigits 16 code).map Char.toUpper
  String.ofList ('U' :: '+' :: List.replicate (4 - digits.length) '0' ++ digits)

/-- The wording of a problem. -/
def message : NameProblem → String
  | emptyName => "Empty domain"
  | nameTooLong => "Domain too long"
  | emptyLabel => "Empty Label"
  | labelTooLong => "Label too long"
  | noContent => "Malformed A-label, no Punycode eligible content found"
  | unfinished => "A-label must not end with a hyphen"
  | unreadable => "Invalid A-label"
  | uncomposed => "Label must be in Normalization Form C"
  | prefixHyphens => "Label has disallowed hyphens in 3rd and 4th position"
  | edgeHyphen => "Label must not start or end with a hyphen"
  | initialMark => "Label begins with an illegal combining character"
  | letter code position label =>
    s!"Codepoint {codeName code} at position {position + 1} of {spellLabel label} not allowed"
  | joiner code position label =>
    s!"Unknown codepoint adjacent to joiner {codeName code} at position {position + 1}"
      ++ s!" in {spellLabel label}"
  | context code position label =>
    s!"Codepoint {codeName code} not allowed at position {position + 1} in {spellLabel label}"
  | unknownDirection position label =>
    s!"Unknown directionality in label {spellLabel label} at position {position + 1}"
  | initialDirection label =>
    s!"First codepoint in label {spellLabel label} must be directionality L, R or AL"
  | opposed position isRightward =>
    let direction := if isRightward then "left-to-right" else "right-to-left"
    s!"Invalid direction for codepoint at position {position + 1} in a {direction} label"
  | mixedDigits => "Can not mix numeral types in a right-to-left label"
  | finalDirection => "Label ends with illegal codepoint directionality"

end NameProblem

namespace HostName

/-! ### Signs with a context -/

/-- The code point of a hyphen. -/
def hyphen : Nat := 0x2D

/-- The joiner that keeps letters apart. -/
def nonJoiner : Nat := 0x200C

/-- The joiner that brings letters together. -/
def joiner : Nat := 0x200D

/-- The point in the middle of a Japanese line. -/
def japanesePoint : Nat := 0x30FB

/-- The digits used in Arabic. -/
def arabicDigits : List (Nat × Nat) := [(0x660, 0x669)]

/-- The digits used in Persian and Urdu. -/
def easternDigits : List (Nat × Nat) := [(0x6F0, 0x6F9)]

/-- Whether a joiner may stand between code points, of which those before it are given with the
nearest first. -/
def mayJoin (before : List Nat) (code : Nat) (behind : List Nat) : Bool :=
  let isBehindKiller := before.head?.any fun c => Text.combiningClass c == Text.vowelKiller
  let isBetweenJoined :=
    ((before.dropWhile Text.isJoinedThrough).head?.any Text.joinsForward)
      && ((behind.dropWhile Text.isJoinedThrough).head?.any Text.joinsBackward)
  let isBehindCharacter := before.head?.all fun c => Text.direction c != .unassigned
  isBehindKiller || (code == nonJoiner && isBehindCharacter && isBetweenJoined)

/-- Whether a code point is a sign that may stand only in a context, and then whether it may stand
in this one. -/
def contextOf? (before : List Nat) (code : Nat) (behind label : List Nat) : Option Bool :=
  if code = 0xB7 then some (before.head? = some 0x6C ∧ behind.head? = some 0x6C)
  else if code = 0x375 then some (behind.head?.any Text.isGreek)
  else if code = 0x5F3 ∨ code = 0x5F4 then some (before.head?.any Text.isHebrew)
  else if code = japanesePoint then
    some (label.any fun c => c != japanesePoint && Text.isJapanese c)
  else if Text.codeInRanges arabicDigits code then
    some (!label.any (Text.codeInRanges easternDigits))
  else if Text.codeInRanges easternDigits code then
    some (!label.any (Text.codeInRanges arabicDigits))
  else none

/-- The rules for every code point of a label, the first of which stands behind others, given with
the nearest first. -/
def checkCodes (label before : List Nat) : List Nat → Except NameProblem Unit
  | [] => .ok ()
  | code :: behind => do
    if !Text.isNameLetter code then
      if code = nonJoiner ∨ code = joiner then
        if !mayJoin before code behind then throw (.joiner code before.length label)
      else
        match contextOf? before code behind label with
        | some true => pure ()
        | some false => throw (.context code before.length label)
        | none => throw (.letter code before.length label)
    checkCodes label (code :: before) behind

/-! ### Direction -/

/-- Whether a direction makes a label one with letters from right to left. -/
def isRightToLeft (d : Text.Direction) : Bool :=
  d == .right || d == .arabicDigit

/-- The rules for directions in a label from right to left, behind so many others and perhaps
behind a kind of digits. -/
def checkLeftward (position : Nat) (digits : Option Text.Direction) :
    List Text.Direction → Except NameProblem Unit
  | [] => .ok ()
  | .left :: _ => .error (.opposed position false)
  | d :: rest =>
    if d = .digit ∨ d = .arabicDigit then
      if digits.any (· != d) then .error .mixedDigits
      else checkLeftward (position + 1) (some d) rest
    else checkLeftward (position + 1) digits rest

/-- The rules for directions in a label from left to right, behind so many others. -/
def checkRightward (position : Nat) : List Text.Direction → Except NameProblem Unit
  | [] => .ok ()
  | d :: rest =>
    if isRightToLeft d then .error (.opposed position true)
    else checkRightward (position + 1) rest

/-- Whether a label ends, apart from marks, in one of some directions. -/
def endsIn (allowed directions : List Text.Direction) : Bool :=
  ((directions.reverse.dropWhile (· == .mark)).head?).any allowed.contains

/-- The rules for the directions of a label. They say something only of a label with letters from
right to left in it. -/
def checkDirections (label : List Nat) : Except NameProblem Unit := do
  let directions := label.map Text.direction
  match directions.idxOf? .unassigned with
  | some position => throw (.unknownDirection position label)
  | none => pure ()
  if directions.any isRightToLeft then
    match directions.head? with
    | some .right =>
      checkLeftward 0 none directions
      if !endsIn [.right, .digit, .arabicDigit] directions then throw .finalDirection
    | some .left =>
      checkRightward 0 directions
      if !endsIn [.left, .digit] directions then throw .finalDirection
    | _ => throw (.initialDirection label)

/-! ### Labels -/

/-- The most characters of a name, when a point ends it. -/
def maxName : Nat := 254

/-- The most characters of a label in its ASCII form. -/
def maxLabel : Nat := 63

/-- The rules for a label. -/
def checkLabel (label : List Nat) : Except NameProblem Unit := do
  if label.isEmpty then throw .emptyLabel
  if maxName < label.length then throw .labelTooLong
  if !Text.Composition.isComposed label then throw .uncomposed
  if (label.drop 2).take 2 = [hyphen, hyphen] then throw .prefixHyphens
  if label.head? = some hyphen ∨ label.getLast? = some hyphen then throw .edgeHyphen
  if label.head?.any Text.isMark then throw .initialMark
  checkCodes label [] label
  checkDirections label

/-- What stands before the Punycode of a label. -/
def punycodeMark : List Char := "xn--".toList

/-- The code points of a label in its ASCII form. -/
def decodeLabel (ascii : List Char) : Except NameProblem (List Nat) := do
  let lowered := ascii.map Char.toLower
  let label ←
    if punycodeMark.isPrefixOf lowered then
      let content := lowered.drop punycodeMark.length
      if content.isEmpty then throw .noContent
      if content.getLast? = some '-' then throw .unfinished
      match Punycode.decode? content with
      | some label => pure label
      | none => throw .unreadable
    else pure (lowered.map Char.toNat)
  checkLabel label
  pure label

/-- The ASCII form of a label. -/
def encodeLabel (label : List Char) : Except NameProblem (List Char) := do
  let ascii ←
    if label.all (·.toNat < 0x80) then
      let _ ← decodeLabel label
      pure label
    else
      let codes := label.map Char.toNat
      checkLabel codes
      pure (punycodeMark ++ Punycode.encode codes)
  if maxLabel < ascii.length then throw .labelTooLong
  pure ascii

/-! ### Names -/

/-- Whether a character stands between labels. -/
def isPoint (c : Char) : Bool :=
  c == '.' || c == '。' || c == '．' || c == '｡'

/-- The labels of a name, and whether a point ends the name. -/
def labels (name : List Char) : Except NameProblem (List (List Char) × Bool) := do
  if maxName < name.length then throw .nameTooLong
  if name.isEmpty then throw .emptyName
  let found := (name.map fun c => if isPoint c then '.' else c).splitOn '.'
  pure (if found.getLast? = some [] then (found.dropLast, true) else (found, false))

/-- Labels with points between them and perhaps behind them. -/
def join {α : Type} (point : α) (labels : List (List α)) (isEnded : Bool) : List α :=
  [point].intercalate labels ++ if isEnded then [point] else []

/-- The ASCII form of a name. -/
def encode (name : List Char) : Except NameProblem (List Char) := do
  let (labels, isEnded) ← labels name
  let ascii := join '.' (← labels.mapM encodeLabel) isEnded
  if (if isEnded then maxName else maxName - 1) < ascii.length then throw .nameTooLong
  pure ascii

/-- The code points of a name in its ASCII form. -/
def decode (ascii : List Char) : Except NameProblem (List Nat) := do
  let (labels, isEnded) ← labels ascii
  pure (join 0x2E (← labels.mapM decodeLabel) isEnded)

end HostName
end Flowgraph
