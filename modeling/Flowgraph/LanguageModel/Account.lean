import Flowgraph.Http.Address
import Flowgraph.LanguageModel.Basic

/-!
# Accounts and their clients

A client belongs to an account, and one client serves all questions on one account until the pool
of clients is emptied.

## Main definitions

* `Account`: a provider, a key and perhaps an address.
* `ModelSettings.account`: the account that settings give for a provider.
* `ClientPool.acquire`: the client of an account.
-/

namespace Flowgraph

/-- An account with a provider. -/
structure Account where
  /-- The provider. -/
  provider : Provider
  /-- The key. -/
  key : String
  /-- The address of another server. -/
  url : Option String
deriving DecidableEq, Repr

/-- The fault of a missing key. -/
def missingKey (name : String) : Fault :=
  .completion (name ++ " is not configured") none

namespace ModelSettings

/-- The address of a server, ended by a slash, so that requests can go to addresses under it. -/
def rootOf (url : String) : Except AddressProblem Address := do
  let address ← Address.read url
  if address.sent.getLast? = some '/' then pure address
  else address.replaceSent (address.sent ++ ['/'])

/-- An address of a server, which must be one that requests can go to. -/
def checkedUrl (url : String) : Except Fault Unit :=
  match rootOf url with
  | .ok _ => .ok ()
  | .error problem => .error (.foreign "InvalidURL" problem.message)

/-- An account with a key, which must not be empty. -/
def accountOf (provider : Provider) (name : String) (key url : Option String) :
    Except Fault Account :=
  match key with
  | none => .error (missingKey name)
  | some k =>
    if k.isEmpty then .error (missingKey name)
    else do
      url.forM checkedUrl
      pure ⟨provider, k, url⟩

/-- The account that settings give for a provider. -/
def account (s : ModelSettings) : Provider → Except Fault Account
  | .openai => accountOf .openai "OPENAI_API_KEY" s.openaiKey s.openaiUrl
  | .anthropic => accountOf .anthropic "ANTHROPIC_API_KEY" s.anthropicKey none

/-- Clients by account: an account that is not given is a fault before anything is sent. -/
def client {σ : Type} (s : ModelSettings) (connect : Account → Client σ) (provider : Provider) :
    Effect σ (Client σ) :=
  match s.account provider with
  | .ok account => pure (connect account)
  | .error fault => Effect.fail fault

end ModelSettings

/-- The clients in use, which are numbered in the order in which they were made. -/
structure ClientPool where
  /-- The accounts with a client, and the number of the client. -/
  clients : List (Account × Nat) := []
  /-- How many clients have been made. -/
  made : Nat := 0
deriving Inhabited

namespace ClientPool

/-- The client of an account, made if there is none. -/
def acquire (pool : ClientPool) (account : Account) : Nat × ClientPool :=
  match pool.clients.lookup account with
  | some number => (number, pool)
  | none =>
    let number := pool.made + 1
    (number, ⟨(account, number) :: pool.clients, number⟩)

/-- The pool without any client. -/
def drop (pool : ClientPool) : ClientPool :=
  { pool with clients := [] }

end ClientPool
end Flowgraph
