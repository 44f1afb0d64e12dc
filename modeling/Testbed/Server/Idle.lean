/-!
# Idle time

A server that is left alone for longer than its timeout shuts itself down. Time is counted in steps
of a clock, milliseconds unless the clock is a finer one. The check is made at every multiple of a
period, zero included, so shutdown comes at the first check that finds the idle time beyond the
timeout.
-/

namespace Testbed.Server

structure Idle where
  /-- Without one the server never expires. -/
  timeout : Option Nat
  lastAccess : Nat := 0
  deriving DecidableEq, Repr, Inhabited

namespace Idle

def access (now : Nat) (i : Idle) : Idle := { i with lastAccess := now }

def idleFor (now : Nat) (i : Idle) : Nat := now - i.lastAccess

def isExpired (now : Nat) (i : Idle) : Bool :=
  match i.timeout with
  | none => false
  | some timeout => timeout < i.idleFor now

/-- The time between two checks on a clock that makes `steps` steps in a millisecond. -/
def period (timeout : Nat) (steps : Nat := 1) : Nat := max (min timeout (60000 * steps)) (10 * steps)

/-- The last of `accesses` before the time `t`, the start of the server if there is none. -/
def lastBefore (accesses : List Nat) (t : Nat) : Nat :=
  (accesses.filter (· < t)).foldl max 0

/-- The first of the checks number `n`, `n + 1`, …, `n + checks - 1`, made with `period` between them,
that finds the server expired. -/
def firstExpired (timeout period : Nat) (accesses : List Nat) : (checks n : Nat) → Option Nat
  | 0, _ => none
  | checks + 1, n =>
    let t := n * period
    if isExpired t ⟨some timeout, lastBefore accesses t⟩ then some t
    else firstExpired timeout period accesses checks (n + 1)

/-- When a server with these accesses shuts itself down. -/
def shutdownTime (timeout : Option Nat) (accesses : List Nat) (steps : Nat := 1) : Option Nat :=
  timeout.bind fun timeout =>
    firstExpired timeout (period timeout steps) accesses
      ((accesses.foldl max 0 + timeout) / period timeout steps + 2) 0

end Idle

end Testbed.Server
