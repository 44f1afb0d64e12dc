import Testbed.Address
import Testbed.Http

/-!
# Access control

A request is admitted if it comes from the machine the server runs on and, where the server has a
non-empty token, presents exactly that token.
-/

namespace Testbed.Server

/-- Why a request is refused. -/
inductive Denied where
  | notLoopback (remote : Address)
  | badToken
  deriving DecidableEq, Repr

def Denied.message : Denied → String
  | notLoopback remote => "remote address " ++ remote.text ++ " is not loopback"
  | badToken => "missing or wrong access token"

/-- The header that carries the token. -/
def tokenHeader : String := "Access-Token"

namespace Access

/-- The token that requests have to present. -/
def required (token : Option String) : Option String := token.filter (· ≠ "")

def check (token : Option String) (remote : Address) (presented : Option String) :
    Except Denied Unit :=
  if !remote.isLoopback then .error (.notLoopback remote)
  else match required token with
    | none => .ok ()
    | some expected => if presented = some expected then .ok () else .error .badToken

/-- The token a request presents. -/
def presented (r : Http.Request) : Option String :=
  (Http.header? tokenHeader r.headers).bind Http.headerText?

end Access

end Testbed.Server
