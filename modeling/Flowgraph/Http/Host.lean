import Flowgraph.Http.Escape
import Flowgraph.Http.HostName
import Flowgraph.Text.Integer
import Flowgraph.Text.Lower

/-!
# Hosts

The part of an address that names a host: the name of a user may stand before it and a port behind
it. A host that is written as four numbers, or that stands in brackets, must be a number of the
network and not only look like one. Any other text in ASCII may be a name; a name in another script
has to have an ASCII form.

## Main definitions

* `Host`: a host, by the way in which it is given.
* `HostProblem`: why a text names no host.
* `Authority.read`: the user, the host and the port that a text names.
* `Host.isShortAddress`, `Host.isLongAddress`: the numbers of four bytes and of sixteen.
-/

namespace Flowgraph

/-- A host. -/
inductive Host where
  /-- No host. -/
  | absent
  /-- A number of four bytes. -/
  | short (text : List Char)
  /-- A number of sixteen bytes, without its brackets, perhaps with a zone. -/
  | long (text : List Char)
  /-- A name in its ASCII form. -/
  | name (ascii : List Char)
deriving DecidableEq, Repr

/-- Why a text names no host. -/
inductive HostProblem where
  /-- The port is no number. -/
  | badPort (port : String)
  /-- The host is written as four numbers, and they are none that it may have. -/
  | badShort (host : String)
  /-- The host stands in brackets and is no number of sixteen bytes. -/
  | badLong (host : String)
  /-- The host has no ASCII form. -/
  | badName (host : String)
deriving DecidableEq, Repr

/-- The wording of a problem. -/
def HostProblem.message : HostProblem → String
  | badPort port => "Invalid port: " ++ String.ofList (Json.spellText port)
  | badShort host => "Invalid IPv4 address: " ++ String.ofList (Json.spellText host)
  | badLong host => "Invalid IPv6 address: " ++ String.ofList (Json.spellText host)
  | badName host => "Invalid IDNA hostname: " ++ String.ofList (Json.spellText host)

namespace Host

/-! ### Numbers of four bytes -/

/-- Whether a text is written as four numbers with points between them. -/
def isQuadruple (cs : List Char) : Bool :=
  let parts := cs.splitOn '.'
  parts.length == 4 && parts.all fun part => !part.isEmpty && part.all Char.isDigit

/-- Whether a text is a number below 256 without a zero in front. -/
def isOctet (cs : List Char) : Bool :=
  !cs.isEmpty && cs.all Char.isDigit && decide (cs.length ≤ 3)
    && decide (Text.digitsValue cs < 256) && !(cs.head? == some '0' && decide (1 < cs.length))

/-- Whether a text is four numbers below 256 with points between them. -/
def isShortAddress (cs : List Char) : Bool :=
  let parts := cs.splitOn '.'
  parts.length == 4 && parts.all isOctet

/-! ### Numbers of sixteen bytes -/

/-- Whether a text is up to four hexadecimal digits. -/
def isGroup (cs : List Char) : Bool :=
  let isHex (c : Char) : Bool :=
    c.isDigit || ('a' ≤ c && c ≤ 'f') || ('A' ≤ c && c ≤ 'F')
  !cs.isEmpty && decide (cs.length ≤ 4) && cs.all isHex

/-- The groups that a text gives, with a number of four bytes at the end as two groups. -/
def groups? (cs : List Char) : Option (List (List Char)) :=
  let parts := cs.splitOn ':'
  let final := parts.getLast?.getD []
  if parts.length < 3 then none
  else if !final.contains '.' then some parts
  else if isShortAddress final then some (parts.dropLast ++ [['0'], ['0']])
  else none

/-- Whether groups make sixteen bytes. Groups of zeros may be left out at one place, which shows as
an empty group, at an end as two of them. -/
def fill (groups : List (List Char)) : Bool :=
  let inner := groups.drop 1 |>.dropLast
  let written := groups.filter fun group => !group.isEmpty
  let before := groups.takeWhile fun group => !group.isEmpty
  let behind := groups.reverse.takeWhile fun group => !group.isEmpty
  let isGapAtStart := groups.head? = some [] → inner.head? = some []
  let isGapAtEnd := groups.getLast? = some [] → inner.getLast? = some []
  written.all isGroup &&
    if inner.any List.isEmpty then
      decide (groups.length ≤ 9) && inner.countP List.isEmpty == 1
        && decide isGapAtStart && decide isGapAtEnd
        && decide (before.length + behind.length < 8)
    else groups.length == 8 && written.length == 8

/-- Whether a text is a number of sixteen bytes, perhaps with a zone behind a percent sign. -/
def isLongAddress (cs : List Char) : Bool :=
  let zone := cs.dropWhile (· != '%') |>.drop 1
  let isZoned := cs.contains '%'
  ((groups? (cs.takeWhile (· != '%'))).any fill)
    && (!isZoned || (!zone.isEmpty && !zone.contains '%'))

/-! ### Reading and writing -/

/-- Whether a text stands in brackets. -/
def isBracketed (cs : List Char) : Bool :=
  cs.head? == some '[' && cs.getLast? == some ']'

/-- The signs that stand for themselves in a name in ASCII. -/
def signs : List Char := "!$&'()*+,;=\"`\x7b\x7d%|\\".toList

/-- Whether a character of a name in ASCII stands for itself. -/
def isSafe (c : Char) : Bool :=
  Escape.isUnreserved c || signs.contains c

/-- The host that a text names. -/
def read (cs : List Char) : Except HostProblem Host :=
  if cs.isEmpty then .ok .absent
  else if isQuadruple cs then
    if isShortAddress cs then .ok (.short cs) else .error (.badShort (Text.ofCharacters cs))
  else if isBracketed cs then
    let inner := (cs.drop 1).dropLast
    if isLongAddress inner then .ok (.long inner) else .error (.badLong (Text.ofCharacters cs))
  else if cs.all (·.toNat < 0x80) then .ok (.name (Escape.write isSafe (cs.map Char.toLower)))
  else
    match HostName.encode (Text.lower cs) with
    | .ok ascii => .ok (.name ascii)
    | .error _ => .error (.badName (Text.ofCharacters cs))

/-- A host as it stands in an address. -/
def write : Host → List Char
  | absent => []
  | short text => text
  | long text => '[' :: text ++ [']']
  | name ascii => ascii

end Host

/-! ### Users and ports -/

/-- Who asks, and where. -/
structure Authority where
  /-- The name of the user, escaped. -/
  user : List Char
  /-- The host. -/
  host : Host
  /-- The port. -/
  port : Option Int
deriving DecidableEq, Repr

namespace Authority

/-- The number of a port: digits, perhaps with single underscores between them, a sign in front and
blanks around. -/
def port? (cs : List Char) : Option Int :=
  let (isNegative, unsigned) := Text.splitSign (Text.strip cs)
  let groups := unsigned.splitOn '_'
  if groups.all Text.isNatural then
    match Text.readNatural groups.flatten with
    | .ok n => some (if isNegative then -(n : Int) else n)
    | .error _ => none
  else none

/-- The user, the host and the port of a text, each as it is written there. -/
def split (cs : List Char) : List Char × List Char × List Char :=
  let place := (cs.reverse.takeWhile (· != '@')).reverse
  let bracketed := (place.reverse.dropWhile (· != ']')).reverse
  let host :=
    if place.head? = some '[' ∧ !bracketed.isEmpty then bracketed
    else place.takeWhile (· != ':')
  let rest := place.drop host.length
  let port := if rest.head? = some ':' then rest.drop 1 else rest
  ((cs.take (cs.length - place.length)).dropLast, host, port)

/-- The signs that do not stand for themselves in the name of a user. -/
def escapedSigns : List Char := "\"#<>?`\x7b\x7d/;=@[\\]^|".toList

/-- Whether a character in the name of a user stands for itself. -/
def isSafe (c : Char) : Bool :=
  Escape.isVisible c && !escapedSigns.contains c

/-- The port that is meant when a scheme stands without one. -/
def usualPort? (scheme : String) : Option Int :=
  match scheme with
  | "ftp" => some 21
  | "http" => some 80
  | "https" => some 443
  | "ws" => some 80
  | "wss" => some 443
  | _ => none

/-- The authority that a text names behind a scheme, whose usual port counts as none. -/
def read (scheme : String) (cs : List Char) : Except HostProblem Authority := do
  let (user, host, port) := split cs
  let host ← Host.read host
  let number ←
    if port.isEmpty then pure none
    else
      match port? port with
      | some number => pure (if usualPort? scheme = some number then none else some number)
      | none => throw (.badPort (Text.ofCharacters port))
  pure ⟨Escape.write isSafe user, host, number⟩

/-- Whether an authority says nothing. -/
def isEmpty (a : Authority) : Bool :=
  a.user.isEmpty && a.host == .absent && a.port.isNone

/-- The host and the port as they stand in an address. -/
def place (a : Authority) : List Char :=
  a.host.write ++ match a.port with
    | some number => ':' :: (toString number).toList
    | none => []

/-- An authority as it stands in an address. -/
def write (a : Authority) : List Char :=
  (if a.user.isEmpty then [] else a.user ++ ['@']) ++ a.place

end Authority
end Flowgraph
