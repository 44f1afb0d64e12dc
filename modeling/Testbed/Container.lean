import Testbed.Container.Runtime
import Testbed.Registry

/-!
# Containers as resources

A container knows the specification it runs from and, once started, its id, its host and the host
port of each exposed port. A start that fails half way gives up what it ran, except when it waits for
the ports in vain: then the container is still held and `close` removes it.
-/

namespace Testbed

structure Container where
  spec : Container.Spec
  id : String := ""
  host : String := "localhost"
  /-- Host ports by container port, ascending. -/
  ports : List (UInt16 × UInt16) := []
  /-- The container held at the runtime. -/
  running : Option String := none

namespace Container

variable {τ : Type} [Runtime τ]

def id? (c : Container) : Option String := if c.id = "" then none else some c.id

def mappedPort? (c : Container) (port : UInt16) : Option UInt16 := Assoc.get? port c.ports

def info (c : Container) : Info := ⟨c.spec.image, c.id⟩

/-- The form of a container in diagnostics. -/
def debugText (c : Container) : String :=
  let ports := c.ports.map fun (p, h) => Text.ofNat p.toNat ++ ": " ++ Text.ofNat h.toNat
  "DockerContainer \x7b image: " ++ Text.quote c.spec.image ++ ", id: " ++ Text.quote c.id ++
    ", ports: \x7b" ++ ", ".intercalate ports ++ "\x7d, .. \x7d"

/-- The host ports of `ports`, looked up in order. -/
def lookUpPorts (id : String) : List UInt16 → τ → Except Failure (List (UInt16 × UInt16)) × τ
  | [], rt => (.ok [], rt)
  | p :: ps, rt =>
    match Runtime.hostPort id p rt with
    | (.error f, rt) => (.error f, rt)
    | (.ok h, rt) =>
      match lookUpPorts id ps rt with
      | (.error f, rt) => (.error f, rt)
      | (.ok found, rt) => (.ok ((p, h) :: found), rt)

/-- Waits for ports in turn, each until it accepts a connection at the first address of the host. -/
def awaitPorts (id host : String) (timeout : Nat) : List (UInt16 × UInt16) → τ → Except Fault Unit × τ
  | [], rt => (.ok (), rt)
  | (p, h) :: ps, rt =>
    match Runtime.addresses host rt with
    | .error cause => (.error (.plain ("cannot resolve " ++ host ++ ": " ++ cause)), rt)
    | .ok [] => (.error (.plain ("no address for " ++ host)), rt)
    | .ok (address :: _) =>
      match Runtime.accepts id p address timeout rt with
      | (true, rt) => awaitPorts id host timeout ps rt
      | (false, rt) =>
        (.error (.plain ("port " ++ Text.ofNat p.toNat ++ " (host " ++ Text.ofNat h.toNat ++
          ") not listening after " ++ timeText timeout)), rt)

/-- Gives up the container held so far, if there is one. -/
def releaseHeld (c : Container) (rt : τ) : τ :=
  match c.running with
  | some id => Runtime.release id rt
  | none => rt

/-- Runs the specification. A container held so far is given up once the new one is up. -/
def start (c : Container) (rt : τ) : Except Fault Unit × Container × τ :=
  match Runtime.run c.spec rt with
  | (.error f, rt) => (.error (.container f), c, rt)
  | (.ok id, rt) =>
    match Runtime.host id rt with
    | (.error f, rt) => (.error (.container f), { c with id }, Runtime.release id rt)
    | (.ok host, rt) =>
      match lookUpPorts id c.spec.exposedPorts rt with
      | (.error f, rt) => (.error (.container f), { c with id, host }, Runtime.release id rt)
      | (.ok found, rt) =>
        let up : Container := { c with id, host, ports := Assoc.ofList found, running := some id }
        let rt := c.releaseHeld rt
        if c.spec.waitsForPorts then
          let (outcome, rt) := awaitPorts id host c.spec.timeout up.ports rt
          (outcome, up, rt)
        else (.ok (), up, rt)

/-- Removes the container held, if there is one. -/
def close (c : Container) (rt : τ) : Except Fault Unit × Container × τ :=
  match c.running with
  | none => (.ok (), c, rt)
  | some id =>
    match Runtime.remove id rt with
    | (.ok (), rt) => (.ok (), { c with running := none }, rt)
    | (.error f, rt) => (.error (.container f), { c with running := none }, rt)

end Container

end Testbed
