import Testbed.Client
import Testbed.Host

/-!
# Scripted surroundings of a client

A canned server answers every request alike and notes what it was asked; a host script says, pause by
pause, what becomes of the port file and which ports begin to accept connections.
-/

namespace Testbed.Rehearsal

structure Canned where
  reachable : Bool := true
  response : Http.Response
  /-- The requests that arrived, oldest first. -/
  seen : List Http.Request := []

namespace Canned

def send : Client.Transport Canned := fun _ request c =>
  if c.reachable then
    (some c.response, { c with seen := c.seen ++ [request.received] })
  else (none, c)

end Canned

/-- What happens after a number of pauses. -/
structure Effect where
  announcement : Option Announcement := none
  /-- The ports that accept connections from then on. -/
  listening : List UInt16 := []

structure HostScript where
  reachable : Bool := true
  /-- The ports that accept connections from the start. -/
  live : List UInt16 := []
  start : Launch → Files → Files.Outcome Unit × Files := fun _ files => (.ok (), files)
  /-- The effects by the number of pauses before them, zero being the launch. -/
  effects : List (Nat × Effect) := []

namespace HostScript

/-- The first moment after which nothing happens any more. -/
def last (s : HostScript) : Nat := s.effects.foldl (fun n e => max n (e.1 + 1)) 0

def accepts (s : HostScript) (moment : Nat) (port : UInt16) : Bool :=
  s.reachable && (port ∈ s.live || s.effects.any fun e =>
    e.1 < moment && decide (port ∈ e.2.listening))

def announce (s : HostScript) (moment : Nat) : Option Announcement :=
  (s.effects.find? fun e => e.1 + 1 = moment).bind fun e => e.2.announcement

def behaviour (s : HostScript) : Behaviour := ⟨s.start, s.announce, s.accepts⟩

/-- So many looks at the port file decide whether one ever will: from the last moment on every look
finds the same, and a blank file is found at most ten times. -/
def looks (s : HostScript) : Nat := s.last + 11

end HostScript

end Testbed.Rehearsal
