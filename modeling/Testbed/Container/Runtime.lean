import Testbed.Address
import Testbed.Container.Failure
import Testbed.Container.Spec

/-!
# The container runtime

What the library asks of whatever runs containers. A state `τ` of the runtime changes with every
action, also with one that fails.
-/

namespace Testbed.Container

class Runtime (τ : Type) where
  /-- Runs a container until its log conditions hold; answers its id. -/
  run : Spec → τ → Except Failure String × τ
  /-- The host under which a container's ports are reached. -/
  host : String → τ → Except Failure String × τ
  /-- The host port of a container port. -/
  hostPort : String → UInt16 → τ → Except Failure UInt16 × τ
  /-- The addresses that a host has, or why it cannot be told. -/
  addresses : String → τ → Except String (List Address)
  /-- Whether a container port accepts a connection at an address of its host within the time given. -/
  accepts : String → UInt16 → Address → Nat → τ → Bool × τ
  /-- Stops and removes a container. -/
  remove : String → τ → Except Failure Unit × τ
  /-- Gives a container up without waiting for an outcome. -/
  release : String → τ → τ

end Testbed.Container
