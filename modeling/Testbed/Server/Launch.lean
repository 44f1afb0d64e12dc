import Testbed.Files
import Testbed.Server
import Testbed.Settings

/-!
# Bringing a server up

A server binds a loopback port and announces it in the port file if there is one.
-/

namespace Testbed.Server

/-- What a server process is asked to be. -/
structure Setup where
  /-- Zero leaves the choice to the system. -/
  port : UInt16 := 0
  portFile : Option Path := none
  token : Option String := none
  idleTimeout : Option Nat := none

/-- Why a server does not come up. -/
inductive LaunchError where
  | bind (port : UInt16) (cause : SystemFailure)
  | portFile (path : Path) (cause : SystemFailure)
  deriving DecidableEq, Repr

def LaunchError.message : LaunchError → String
  | bind port cause =>
    "failed to bind 127.0.0.1:" ++ Settings.portText port ++ ": " ++ cause.message
  | portFile path cause => "failed to write port file " ++ path.text ++ ": " ++ cause.message

/-- The ports of a machine: which are taken, and the one that a process with no wish gets. -/
structure Ports where
  isTaken : UInt16 → Bool
  free : UInt16

def bind (wanted : UInt16) (ports : Ports) : Except LaunchError UInt16 :=
  if wanted = 0 then .ok ports.free
  else if ports.isTaken wanted then .error (.bind wanted .addressInUse)
  else .ok wanted

/-- Writes the port file so that a reader finds either the whole port or what was there before. -/
def announce (path : Path) (port : UInt16) (files : Files) : Files.Outcome Unit × Files :=
  let made := match path.parent?.filter (·.text ≠ "") with
    | some directory => files.makeDirectories directory
    | none => .ok files
  match made with
  | .error e => (.error e, files)
  | .ok files =>
    files.replace path (path.withExtension "tmp") (Text.utf8 (Settings.portText port))

/-- Binds and announces; answers the port. -/
def comeUp (setup : Setup) (ports : Ports) (files : Files) : Except LaunchError UInt16 × Files :=
  match bind setup.port ports with
  | .error e => (.error e, files)
  | .ok port =>
    match setup.portFile with
    | none => (.ok port, files)
    | some path =>
      match announce path port files with
      | (.error cause, files) => (.error (.portFile path cause), files)
      | (.ok (), files) => (.ok port, files)

end Testbed.Server
