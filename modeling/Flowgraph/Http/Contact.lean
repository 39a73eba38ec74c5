import Flowgraph.Http.Route
import Flowgraph.Http.Target

/-!
# Making contact

A text may be an address and yet not lead anywhere: the place that it names is told to the service
in ASCII, a name in its ASCII form has to be the form of a name, and brackets must enclose nothing
but a number. A path that has moved is looked for at an address that is written anew.

## Main definitions

* `ContactProblem`: why no contact is made.
* `Target.checkPlace`, `Target.checkName`, `Target.checkBrackets`, `Target.checkMoved`: the rules,
  in the order in which they apply.
-/

namespace Flowgraph

/-- Why no contact is made. -/
inductive ContactProblem where
  /-- The place is not in ASCII; a character, how many stand before it, and how many such characters
  there are side by side. -/
  | notAscii (c : Char) (position count : Nat)
  /-- A name is not the ASCII form of any. -/
  | name (problem : NameProblem)
  /-- Something other than a port stands behind brackets. -/
  | brackets
  /-- What stands in brackets is no number. -/
  | noNumber (text : String)
  /-- The path has moved to an address that cannot be used. -/
  | moved (problem : AddressProblem)
deriving DecidableEq, Repr

namespace ContactProblem

/-- The number of a character behind a backslash. -/
def numericEscape (c : Char) : String :=
  let digits :=
    if c.toNat < 0x100 then 'x' :: Json.hexDigits 2 c.toNat
    else if c.toNat < 0x10000 then 'u' :: Json.hexDigits 4 c.toNat
    else 'U' :: Json.hexDigits 8 c.toNat
  String.ofList ('\\' :: digits)

/-- The name of the kind of a problem. -/
def kind : ContactProblem → String
  | notAscii _ _ _ => "UnicodeEncodeError"
  | name problem =>
    match problem.refusal with
    | .form => "IDNAError"
    | .letter => "InvalidCodepoint"
    | .context => "InvalidCodepointContext"
    | .direction => "IDNABidiError"
  | brackets => "ValueError"
  | noNumber _ => "ValueError"
  | moved _ => "RemoteProtocolError"

/-- The wording of a problem. -/
def message : ContactProblem → String
  | notAscii c position count =>
    let found :=
      if count = 1 then s!" '{numericEscape c}' in position {position}"
      else s!"s in position {position}-{position + count - 1}"
    s!"'ascii' codec can't encode character{found}: ordinal not in range(128)"
  | name problem => problem.message
  | brackets => "Invalid IPv6 URL"
  | noNumber text =>
    String.ofList (Json.spellText text) ++ " does not appear to be an IPv4 or IPv6 address"
  | moved problem => s!"Invalid URL in location header: {problem.message}."

end ContactProblem

namespace Target

/-- Whether a character is beyond ASCII. -/
def isBeyondAscii (c : Char) : Bool :=
  decide (0x80 ≤ c.toNat)

/-- The place that is told to the service is in ASCII; only the zone of a number may not be. -/
def checkPlace (t : Target) : Except ContactProblem Unit :=
  let place := t.address.authority.place
  match place.dropWhile (!isBeyondAscii ·) with
  | [] => .ok ()
  | c :: rest =>
    let count := 1 + (rest.takeWhile isBeyondAscii).length
    .error (.notAscii c (place.length - rest.length - 1) count)

/-- A name that begins as an ASCII form does is one. -/
def checkName (t : Target) : Except ContactProblem Unit :=
  match t.address.authority.host with
  | .name ascii =>
    if HostName.punycodeMark.isPrefixOf ascii then
      match HostName.decode ascii with
      | .ok _ => .ok ()
      | .error problem => .error (.name problem)
    else .ok ()
  | _ => .ok ()

/-- Brackets enclose a number, and only a port stands behind them. The first closing bracket counts,
which may stand in the zone of a number. -/
def checkBrackets (t : Target) : Except ContactProblem Unit :=
  match t.address.authority.host with
  | .long text =>
    let (inside, behind) := Address.cut ']' text
    if behind.any (·.head? != some ':') then .error .brackets
    else if Host.isLongAddress inside then .ok ()
    else .error (.noNumber (Text.ofCharacters inside))
  | _ => .ok ()

/-- The signs that stand for themselves in the address of a path that has moved. -/
def movedSigns : List Char := ":/%#?=@[]!$&'()*+,;".toList

/-- The address of a path that has moved: it has no slashes at its end. -/
def movedTo (t : Target) : List Char :=
  let query := t.address.query.getD []
  Escape.write (fun c => Escape.isUnreserved c || movedSigns.contains c)
    (t.address.scheme.toList ++ "://".toList ++ t.address.authority.place
      ++ Text.characters (Route.trimmed t.path) ++ if query.isEmpty then [] else '?' :: query)

/-- The address of a path that has moved can be used. -/
def checkMoved (t : Target) : Except ContactProblem Unit :=
  match Address.ofChars t.movedTo with
  | .ok _ => .ok ()
  | .error problem => .error (.moved problem)

end Target
end Flowgraph
