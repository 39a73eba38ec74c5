import Flowgraph.Http.Address

/-!
# Targets of requests

A request goes to an address, under the root of the service if the address does not say where the
service is. The service reads the path and the parameters of it, in which a plus is a blank.

## Main definitions

* `Target`: where a request goes.
* `Target.read`: the target of an address, with parameters given by themselves or in the address.
-/

namespace Flowgraph

/-- Where a request goes. -/
structure Target where
  /-- The address. -/
  address : Address
  /-- The path. -/
  path : String
  /-- The parameters, by name and in order. -/
  parameters : List (String × String)
deriving DecidableEq, Repr

namespace Target

/-! ### Parameters -/

/-- A name or a value among the parameters. -/
def readParameter (cs : List Char) : String :=
  Escape.read (cs.map fun c => if c = '+' then ' ' else c)

/-- The parameters that a text writes. -/
def readParameters (query : List Char) : List (String × String) :=
  ((query.splitOn '&').filter fun cs => !cs.isEmpty).map fun cs =>
    let (name, value) := Address.cut '=' cs
    (readParameter name, readParameter (value.getD []))

/-- A name or a value as it stands among the parameters. -/
def writeParameter (s : String) : List Char :=
  (Escape.write (fun c => Escape.isUnreserved c || c == ' ') (Text.characters s)).map fun c =>
    if c = ' ' then '+' else c

/-- The text of parameters. -/
def writeParameters (parameters : List (String × String)) : List Char :=
  ['&'].intercalate
    (parameters.map fun (name, value) => writeParameter name ++ '=' :: writeParameter value)

/-- The text of a parameter that is given as data. -/
def parameterText : Json → String
  | .null => ""
  | .bool b => if b then "true" else "false"
  | v => v.spell

/-- The parameters that data gives: a list gives several of one name. -/
def parametersOf (fields : Fields) : List (String × String) :=
  fields.flatMap fun (name, value) =>
    match value with
    | .arr items => items.map fun item => (name, parameterText item)
    | v => [(name, parameterText v)]

/-! ### Targets -/

/-- The address of the service. -/
def root : Address :=
  ⟨"http", ⟨[], .name "test".toList, none⟩, [], none, none⟩

/-- An address with parameters in the place of those in it. -/
def withParameters (address : Address) (fields : Fields) : Except AddressProblem Address :=
  let query := if fields.isEmpty then none else some (writeParameters (parametersOf fields))
  address.replace address.path query

/-- The target of an address. -/
def ofAddress (address : Address) : Target :=
  ⟨address, Escape.read (if address.path.isEmpty then ['/'] else address.path),
    readParameters (address.query.getD [])⟩

/-- The target of an address that a text writes, with parameters that may be given as data. -/
def read (text : String) (parameters : Option Fields) : Except AddressProblem Target := do
  let address ← root.under (← Address.read text)
  match parameters with
  | none => pure (ofAddress address)
  | some fields => do pure (ofAddress (← withParameters address fields))

end Target
end Flowgraph
