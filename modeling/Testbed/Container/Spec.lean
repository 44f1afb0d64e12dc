import Testbed.Dict
import Testbed.Text.Decimal

/-!
# How to run a container

A specification names the image and all that is overridden when a container is run from it, and the
conditions to wait for before the container is handed out. Times are in milliseconds.
-/

namespace Testbed.Container

inductive LogStream where
  | stdout
  | stderr
  deriving DecidableEq, Repr, Inhabited

/-- A condition to wait for. -/
inductive Wait where
  /-- `message` occurs in the container's log. -/
  | log (message : String) (stream : LogStream)
  /-- Every exposed port accepts connections from the host. -/
  | ports
  deriving DecidableEq, Repr

structure Spec where
  image : String
  exposedPorts : List UInt16 := []
  env : Dict String := ∅
  network : Option String := none
  /-- Replaces the image's own command unless empty. -/
  command : List String := []
  wait : List Wait := []
  startupTimeout : Option Nat := none
  deriving DecidableEq

namespace Spec

/-- A minute, where a specification names no time. -/
def defaultTimeout : Nat := 60000

def timeout (s : Spec) : Nat := s.startupTimeout.getD defaultTimeout

/-- The log conditions, in order. -/
def logWaits (s : Spec) : List (String × LogStream) :=
  s.wait.filterMap fun
    | .log message stream => some (message, stream)
    | .ports => none

def waitsForPorts (s : Spec) : Bool := Wait.ports ∈ s.wait

/-- Cuts at the last `sep`. -/
def cutLast? (sep : Char) (cs : List Char) : Option (List Char × List Char) :=
  let after := (cs.reverse.takeWhile (· ≠ sep)).reverse
  if after.length = cs.length then none
  else some (cs.take (cs.length - after.length - 1), after)

/-- The name and tag of an image. A tag follows the last colon after the last slash; without one it
is `latest`. -/
def nameAndTag (image : String) : String × String :=
  let (path, last) := match cutLast? '/' image.toList with
    | some (path, last) => (path ++ ['/'], last)
    | none => ([], image.toList)
  match cutLast? ':' last with
  | some (name, tag) => (String.ofList (path ++ name), String.ofList tag)
  | none => (image, "latest")

end Spec

/-- A time in the largest of seconds and milliseconds that is not below one, with as many decimals
as it takes. -/
def timeText (ms : Nat) : String :=
  if ms = 0 then "0ns"
  else if ms < 1000 then Text.ofNat ms ++ "ms"
  else
    let rest := ms % 1000
    let digits := (Nat.toDigits 10 (1000 + rest)).drop 1
    let decimals := (digits.reverse.dropWhile (· = '0')).reverse
    Text.ofNat (ms / 1000) ++
      (if decimals.isEmpty then "" else String.ofList ('.' :: decimals)) ++ "s"

end Testbed.Container
