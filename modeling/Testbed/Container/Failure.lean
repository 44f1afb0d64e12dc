import Testbed.Text.Decimal
import Testbed.Text.Quoted

/-!
# Failures of the container runtime

What goes wrong between asking for a container and having one: the runtime cannot be reached, it
refuses an action, the container's log ends or its time runs out before it is ready, or a port has
no host port.
-/

namespace Testbed.Container

/-- What the runtime was asked to do. -/
inductive Action where
  | createContainer
  | startContainer
  | createNetwork
  | listNetworks
  | pullImage (image : String)
  | removeContainer
  deriving DecidableEq, Repr

def Action.text : Action → String
  | .createContainer => "create a container"
  | .startContainer => "start a container"
  | .createNetwork => "create a network"
  | .listNetworks => "list networks"
  | .pullImage image => "pull the image '" ++ image ++ "'"
  | .removeContainer => "remove a container"

inductive Failure where
  | unreachable (action : Action)
  | refused (action : Action) (status : Nat) (text : String)
  /-- The log ended; `frames` is all it held. -/
  | logEnded (frames : List String)
  | startupTimeout
  | portNotExposed (id : String) (port : UInt16)
  deriving DecidableEq, Repr

def Failure.message : Failure → String
  | .unreachable a =>
    "failed to " ++ a.text ++ ": Error in the hyper legacy client: client error (Connect)"
  | .refused a status text =>
    "failed to " ++ a.text ++ ": Docker responded with status code " ++ Text.ofNat status ++ ": " ++
      text
  | .logEnded frames =>
    "container is not ready: failed to wait for container log: " ++
      "End of stream reached before finding message: [" ++
      ", ".intercalate (frames.map Text.quote) ++ "]"
  | .startupTimeout => "container is not ready: container startup timeout"
  | .portNotExposed id port =>
    "container '" ++ id ++ "' does not expose port " ++ Text.ofNat port.toNat ++ "/tcp"

end Testbed.Container
