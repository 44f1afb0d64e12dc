import Testbed.Dict
import Testbed.Files

/-!
# The host of servers

The machine that clients launch servers on: its files, the server processes it starts, the ports that
accept connections, and the passing of time. What happens to it is its behaviour; time is counted in
moments, of which the launch and each pause begin a new one.
-/

namespace Testbed

/-- How a server process is to be started. -/
structure Launch where
  program : Path
  arguments : List String
  environment : Dict String := ∅
  /-- Where its output goes; without one it is lost. -/
  logFile : Option Path := none

namespace Launch

/-- Opens the log file for more output, making directories on the way. -/
def openLog (l : Launch) (files : Files) : Files.Outcome Files :=
  match l.logFile with
  | none => .ok files
  | some p => do
    let files ← match p.parent? with
      | some directory => files.makeDirectories directory
      | none => .ok files
    files.openEnd p

/-- The texts that the new process is given. -/
def texts (l : Launch) : List String :=
  l.program.text :: l.arguments ++ l.environment.entries.flatMap fun (name, value) => [name, value]

/-- Where commands are, the programs that are named without a slash. -/
def commandDirectory : Path := ⟨"/usr/bin"⟩

/-- Where the program of a launch is looked for. -/
def place (l : Launch) : Path :=
  if l.program.text = "" ∨ '/' ∈ l.program.text.toList then l.program
  else commandDirectory.join l.program.text

/-- Whether the program of a launch can be run where just those picked out by `runnable` can: what
else there is in its place may not be run. -/
def check (runnable : Path → Bool) (l : Launch) (files : Files) : Files.Outcome Unit :=
  if l.texts.any fun s => '\x00' ∈ s.toList then .error .zeroInCommand
  else if runnable l.program then .ok ()
  else do
    discard (files.find l.place)
    .error .permissionDenied

/-- Starts a process on a machine where the programs picked out by `runnable` can be run. -/
def start (runnable : Path → Bool) (l : Launch) (files : Files) : Files.Outcome Unit × Files :=
  match l.openLog files with
  | .error e => (.error e, files)
  | .ok files => (l.check runnable files, files)

end Launch

/-- What becomes of the port file. -/
inductive Announcement where
  | write (content : Bytes)
  /-- A directory takes its place. -/
  | block
  | withdraw

structure Behaviour where
  start : Launch → Files → Files.Outcome Unit × Files
  /-- What becomes of the port file when a moment begins. -/
  announce : Nat → Option Announcement := fun _ => none
  /-- Whether a port accepts connections at a moment. -/
  accepts : Nat → UInt16 → Bool := fun _ _ => false

structure Host where
  behaviour : Behaviour
  /-- Where a launched server announces its port. -/
  portFile : Path
  files : Files := {}
  /-- Zero before a launch, then one more with every pause. -/
  moment : Nat := 0
  /-- The launches tried and whether there was a port file then, oldest first. -/
  launches : List (Launch × Bool) := []
  /-- The pauses made in milliseconds, oldest first. -/
  pauses : List Nat := []

namespace Host

def announced (a : Option Announcement) (p : Path) (files : Files) : Files :=
  match a, files.place p with
  | some (.write content), .ok names => files.put names (.file content)
  | some .block, .ok names => files.put names .directory
  | some .withdraw, .ok names => files.erase names
  | _, _ => files

/-- Begins the next moment. -/
def next (h : Host) : Host :=
  { h with
    moment := h.moment + 1
    files := announced (h.behaviour.announce (h.moment + 1)) h.portFile h.files }

def pause (ms : Nat) (h : Host) : Host := { h.next with pauses := h.pauses ++ [ms] }

/-- Whether a connection to a port is accepted now. -/
def probe (port : UInt16) (h : Host) : Bool := h.behaviour.accepts h.moment port

def launch (l : Launch) (h : Host) : Files.Outcome Unit × Host :=
  let (outcome, files) := h.behaviour.start l h.files
  let h := { h with launches := h.launches ++ [(l, h.files.exists? h.portFile)], files }
  match outcome with
  | .ok () => (.ok (), h.next)
  | .error e => (.error e, h)

end Host

end Testbed
