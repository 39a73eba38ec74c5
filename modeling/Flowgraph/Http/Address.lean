import Flowgraph.Http.Host

/-!
# Addresses

An address is a path; a scheme and a host may stand before it, parameters may follow behind a
question mark, and a fragment may end it. An address that has been read is in ASCII, since all other
characters in it are escaped, and its path has no segments `.` and `..` in it.

## Main definitions

* `Address`: an address that has been read.
* `AddressProblem`: why a text is no address.
* `Address.read`: the address that a text writes.
* `Address.replace`: an address with another path and other parameters.
* `Address.under`: an address as one under the root of the service.
-/

namespace Flowgraph

/-- The parts of an address. -/
inductive AddressPart where
  /-- The user, the host and the port. -/
  | authority
  /-- The path. -/
  | path
  /-- The parameters. -/
  | query
  /-- The fragment. -/
  | fragment
deriving DecidableEq, Repr

/-- The name of a part. -/
def AddressPart.name : AddressPart → String
  | authority => "authority"
  | path => "path"
  | query => "query"
  | fragment => "fragment"

/-- Why a text is no address. -/
inductive AddressProblem where
  /-- It is too long. -/
  | tooLong
  /-- A part is too long once it is escaped. -/
  | partTooLong (part : AddressPart)
  /-- A control character stands in it. -/
  | controlCharacter (c : Char) (position : Nat)
  /-- The host or its port is none. -/
  | host (problem : HostProblem)
  /-- A path without a host begins with two slashes. -/
  | doubleSlash
  /-- A path without a host begins with a colon. -/
  | colon
deriving DecidableEq, Repr

/-- The wording of a problem. -/
def AddressProblem.message : AddressProblem → String
  | tooLong => "URL too long"
  | partTooLong part => s!"URL component '{part.name}' too long"
  | controlCharacter c position =>
    let spelled := String.ofList (Json.spellText (String.singleton c))
    s!"Invalid non-printable ASCII character in URL, {spelled} at position {position}."
  | host problem => problem.message
  | doubleSlash => "Relative URLs cannot have a path starting with '//'"
  | colon => "Relative URLs cannot have a path starting with ':'"

/-- An address that has been read. -/
structure Address where
  /-- The scheme, in lower case. -/
  scheme : String
  /-- The user, the host and the port. -/
  authority : Authority
  /-- The path. -/
  path : List Char
  /-- The parameters. -/
  query : Option (List Char)
  /-- The fragment. -/
  fragment : Option (List Char)
deriving DecidableEq, Repr

namespace Address

/-! ### Paths -/

/-- Segments put behind others that are given last first, where `.` counts for nothing and `..`
takes the segment before it away, though not an empty one at the beginning. -/
def foldDots : List (List Char) → List (List Char) → List (List Char)
  | done, [] => done.reverse
  | done, segment :: rest =>
    if segment = ['.'] then foldDots done rest
    else if segment = ['.', '.'] then
      foldDots (if done = [[]] then done else done.drop 1) rest
    else foldDots (segment :: done) rest

/-- A path without the segments `.` and `..`. -/
def withoutDots (path : List Char) : List Char :=
  ['/'].intercalate (foldDots [] (path.splitOn '/'))

/-! ### Parts -/

/-- The signs that do not stand for themselves in a path. -/
def escapedInPath : List Char := "\"#<>?`\x7b\x7d".toList

/-- The signs that do not stand for themselves in parameters. -/
def escapedInQuery : List Char := "\"#<>".toList

/-- The signs that do not stand for themselves in a fragment. -/
def escapedInFragment : List Char := "\"<>`".toList

/-- A text in which only the visible ASCII characters beside some signs stand for themselves. -/
def escape (signs cs : List Char) : List Char :=
  Escape.write (fun c => Escape.isVisible c && !signs.contains c) cs

/-- A text up to a character and what stands behind it, if the character stands in it. -/
def cut (mark : Char) (cs : List Char) : List Char × Option (List Char) :=
  match cs.dropWhile (· != mark) with
  | _ :: behind => (cs.takeWhile (· != mark), some behind)
  | [] => (cs, none)

/-- Whether a character may stand in a scheme. -/
def isSchemeChar (c : Char) : Bool :=
  c.isAlphanum || c == '+' || c == '.' || c == '-'

/-- The scheme of an address, and what stands behind its colon. -/
def splitScheme (cs : List Char) : List Char × List Char :=
  let scheme := cs.takeWhile isSchemeChar
  match cs.dropWhile isSchemeChar with
  | ':' :: rest =>
    if scheme.isEmpty || scheme.head?.any Char.isAlpha then (scheme, rest) else ([], cs)
  | _ => ([], cs)

/-- The authority of an address behind two slashes, and what stands behind it. -/
def splitAuthority : List Char → List Char × List Char
  | '/' :: '/' :: rest =>
    let isInside (c : Char) : Bool := c != '/' && c != '?' && c != '#'
    (rest.takeWhile isInside, rest.dropWhile isInside)
  | cs => ([], cs)

/-- The address of some parts. -/
def build (scheme : String) (authority path : List Char) (query fragment : Option (List Char)) :
    Except AddressProblem Address := do
  let authority ← (Authority.read scheme authority).mapError AddressProblem.host
  let isBare := scheme.isEmpty && authority.isEmpty
  if isBare then
    if ['/', '/'].isPrefixOf path then throw .doubleSlash
    if path.head? = some ':' then throw .colon
  let path := if isBare then path else withoutDots path
  pure ⟨scheme, authority, escape escapedInPath path, query.map (escape escapedInQuery),
    fragment.map (escape escapedInFragment)⟩

/-! ### Reading -/

/-- The most characters that an address or a part of it may have. -/
def maxLength : Nat := 65536

/-- Whether a character is an ASCII control character. -/
def isControl (c : Char) : Bool :=
  decide (c.toNat < 0x20) || c.toNat == 0x7F

/-- The address that characters write. -/
def ofChars (cs : List Char) : Except AddressProblem Address := do
  if maxLength < cs.length then throw .tooLong
  match cs.dropWhile (!isControl ·) with
  | c :: rest => throw (.controlCharacter c (cs.length - rest.length - 1))
  | [] =>
    let (scheme, afterScheme) := splitScheme cs
    let (authority, afterAuthority) := splitAuthority afterScheme
    let (beforeFragment, fragment) := cut '#' afterAuthority
    let (path, query) := cut '?' beforeFragment
    build (String.ofList (scheme.map Char.toLower)) authority path query fragment

/-- The address that a text writes. -/
def read (text : String) : Except AddressProblem Address :=
  ofChars (Text.characters text)

/-! ### Other paths -/

/-- Whether an address says where the service is. -/
def isAbsolute (a : Address) : Bool :=
  !a.scheme.isEmpty && a.authority.host != .absent

/-- The path and the parameters as they are sent. -/
def sent (a : Address) : List Char :=
  (if a.path.isEmpty then ['/'] else a.path) ++ (a.query.elim [] fun query => '?' :: query)

/-- The problem of a part that is too long. -/
def checkLength (part : AddressPart) (cs : List Char) : Except AddressProblem Unit :=
  if maxLength < cs.length then .error (.partTooLong part) else .ok ()

/-- An address with another path and other parameters. -/
def replace (a : Address) (path : List Char) (query : Option (List Char)) :
    Except AddressProblem Address := do
  checkLength .authority a.authority.write
  checkLength .path path
  query.forM (checkLength .query)
  a.fragment.forM (checkLength .fragment)
  build a.scheme a.authority.write path query a.fragment

/-- An address with another path and other parameters, as they are sent. -/
def replaceSent (a : Address) (sent : List Char) : Except AddressProblem Address :=
  let (path, query) := cut '?' sent
  a.replace path query

/-- An address as one under another: an absolute one stays as it is. -/
def under (root a : Address) : Except AddressProblem Address :=
  if a.isAbsolute then .ok a
  else root.replaceSent (root.sent ++ a.sent.dropWhile (· == '/'))

end Address
end Flowgraph
