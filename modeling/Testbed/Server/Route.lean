import Testbed.Http
import Testbed.Text.Split

/-!
# Routes

The endpoints of a server by path and method. Fixed paths are matched in their encoded form and win
over those with a parameter; a parameter is one non-empty segment and is decoded afterwards.
-/

namespace Testbed.Server

/-- What a path stands for; a parameter is kept in its encoded form. -/
inductive Route where
  | list
  | requiredGroups
  | requirements (expression : String)
  | resolve
  | closeAll
  | close (scope : String)
  | resources
  | resourcesIn (scope : String)
  | stop
  deriving DecidableEq, Repr

namespace Route

def ofSegments? : List String → Option Route
  | ["list"] => some list
  | ["requirements", "entries"] => some requiredGroups
  | ["requirements", "expr", e] => if e = "" then none else some (requirements e)
  | ["resolve"] => some resolve
  | ["close", "all"] => some closeAll
  | ["close", s] => if s = "" then none else some (close s)
  | ["testcontainers"] => some resources
  | ["testcontainers", s] => if s = "" then none else some (resourcesIn s)
  | ["stop"] => some stop
  | _ => none

def ofPath? (path : String) : Option Route :=
  match Text.splitOn '/' path with
  | "" :: segments => ofSegments? segments
  | _ => none

/-- The methods a route takes; where it takes GET it takes HEAD. -/
def allows : Route → Http.Method → Bool
  | list, m => m = .get ∨ m = .head ∨ m = .post
  | resolve, m | stop, m => m = .post
  | _, m => m = .get ∨ m = .head

end Route

end Testbed.Server
