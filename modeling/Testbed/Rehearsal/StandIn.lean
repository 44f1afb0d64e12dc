import Testbed.Registry

/-!
# Stand-in resources

A stand-in is a resource whose making, start and close succeed or fail as planned. Each one made gets
the next serial number, also when making it then fails, and the ledger lists every start and close
by serial number. Stand-ins exercise the registry without containers.
-/

namespace Testbed.Rehearsal

/-- What becomes of a stand-in. -/
structure Plan where
  image : String := "fake:latest"
  /-- Absent, the id names the serial number. -/
  id : Option String := none
  failsToMake : Bool := false
  failsToStart : Bool := false
  failsToClose : Bool := false
  /-- The fault of a failed making or start. -/
  fault : String := "boom"
  deriving Inhabited

structure StandIn where
  serial : Nat
  plan : Plan
  deriving Inhabited

namespace StandIn

def info (s : StandIn) : Info := ⟨s.plan.image, s.plan.id.getD ("id-" ++ Text.ofNat s.serial)⟩

end StandIn

/-- What happened to stand-ins, oldest first. -/
structure Ledger where
  /-- The last serial number given out. -/
  issued : Nat := 0
  started : List Nat := []
  closed : List Nat := []
  deriving DecidableEq, Repr, Inhabited

namespace Ledger

def make (plan : Plan) (l : Ledger) : Except Fault StandIn × Ledger :=
  let l := { l with issued := l.issued + 1 }
  (if plan.failsToMake then .error (.plain plan.fault) else .ok ⟨l.issued, plan⟩, l)

def start (s : StandIn) (l : Ledger) : Except Fault Unit × Ledger :=
  (if s.plan.failsToStart then .error (.plain s.plan.fault) else .ok (),
    { l with started := l.started ++ [s.serial] })

def close (s : StandIn) (l : Ledger) : Except Fault Unit × Ledger :=
  (if s.plan.failsToClose then .error (.plain "close failed") else .ok (),
    { l with closed := l.closed ++ [s.serial] })

end Ledger

end Testbed.Rehearsal
