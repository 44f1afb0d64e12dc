import Testbed.Client
import Testbed.Host
import Testbed.Settings.Store

/-!
# Finding or starting a server

A client first takes the server that the settings record, if its port accepts a connection. Otherwise
it launches one, learns its port from the port file unless it named a port itself, waits until the
port accepts a connection, and records the new settings for later clients.
-/

namespace Testbed

namespace Bootstrap

/-- Milliseconds between two looks at the port file. -/
def lookInterval : Nat := 200

/-- How often the port file may be found blank. -/
def maxBlank : Nat := 10

/-- How often a port is tried before it counts as unavailable. -/
def probes : Nat := 8

/-- The pause after the first try; each further one is twice as long. -/
def firstPause : Nat := 25

/-- The variable that hands a launched server its token. -/
def tokenVariable : String := "TESTRESD_ACCESS_TOKEN"

/-- What a client wants of the server it connects to. -/
structure Options where
  settingsDirectory : Path
  /-- The port the server must have; without one the server picks. -/
  explicitPort : Option UInt16 := none
  accessToken : Option String := none
  readTimeout : Option Nat := none
  idleTimeoutMinutes : Option Nat := none
  program : Path
  logFile : Option Path := none

namespace Options

def portFile (o : Options) : Path := o.settingsDirectory.join Settings.portFileName

def launch (o : Options) : Launch where
  program := o.program
  arguments :=
    ["server"] ++
    (match o.explicitPort with
      | some port => ["--port=" ++ Settings.portText port]
      | none => ["--port-file=" ++ o.portFile.text]) ++
    (o.idleTimeoutMinutes.map fun m => "--idle-timeout-minutes=" ++ Text.ofNat m).toList
  environment := Dict.ofList (o.accessToken.map fun token => (tokenVariable, token)).toList
  logFile := o.logFile

/-- The settings of a server launched with these options. -/
def settings (o : Options) (port : UInt16) : Settings :=
  ⟨port, o.accessToken, o.readTimeout, o.idleTimeoutMinutes⟩

end Options

/-! ### Learning the port -/

/-- What is found where the port file is to be. -/
inductive Sight where
  | missing
  | text (s : String)
  | unreadable (cause : SystemFailure)
  deriving DecidableEq, Repr

/-- What follows from a look at the port file. -/
inductive Verdict where
  /-- The watch goes on, so many blank files having been seen. -/
  | undecided (blank : Nat)
  | port (port : UInt16)
  | failed (cause : Client.Error)
  deriving DecidableEq, Repr

/-- A blank file is taken for one that is being written, up to a limit; a missing one may come. -/
def judge (file : Path) (blank : Nat) : Sight → Verdict
  | .missing => .undecided blank
  | .unreadable cause => .failed (.system cause)
  | .text s =>
    let s := Text.trim s
    if s = "" then
      if maxBlank ≤ blank + 1 then .failed (.emptyPortFile file) else .undecided (blank + 1)
    else match Settings.readPort? s with
      | some port => .port port
      | none => .failed (.settings file (.notAPort s))

def look (file : Path) (h : Host) : Sight :=
  match h.files.readText file with
  | .ok s => .text s
  | .error .notFound => .missing
  | .error e => .unreadable e

/-- Watches the port file for `looks` looks; no outcome means that it is still undecided then. -/
def watch (file : Path) : (looks blank : Nat) → Host →
    Option (Except Client.Error UInt16) × Host
  | 0, _, h => (none, h)
  | looks + 1, blank, h =>
    match judge file blank (look file h) with
    | .port port => (some (.ok port), h)
    | .failed cause => (some (.error cause), h)
    | .undecided blank => watch file looks blank (h.pause lookInterval)

/-! ### Waiting for the port -/

/-- Tries a port up to `tries` times with pauses that double; says whether it accepted. -/
def await (port : UInt16) : (tries pause : Nat) → Host → Bool × Host
  | 0, _, h => (false, h)
  | tries + 1, pause, h =>
    if h.probe port then (true, h) else await port tries (2 * pause) (h.pause pause)

/-! ### All of it -/

/-- The recorded server that still runs; an error if it has another port than the one wanted. -/
def recorded (o : Options) (h : Host) : Except Client.Error (Option Settings) := do
  match ← Settings.load h.files o.settingsDirectory with
  | none => .ok none
  | some s =>
    if h.probe s.port then
      match o.explicitPort.filter (· ≠ s.port) with
      | some requested => .error (.portConflict s.port requested)
      | none => .ok (some s)
    else .ok none

/-- Clears the way for a launch: no port file, and the settings directory is there. -/
def prepare (o : Options) (h : Host) : Except Client.Error Unit × Host :=
  match h.files.removeAny o.portFile with
  | .error e => (.error (.system e), h)
  | .ok (_, files) =>
    match files.makeDirectories o.settingsDirectory with
    | .error e => (.error (.system e), { h with files })
    | .ok files => (.ok (), { h with files })

/-- Waits for a launched server on its port and records it. -/
def settle (o : Options) (port : UInt16) (h : Host) : Except Client.Error Settings × Host :=
  match await port probes firstPause h with
  | (false, h) => (.error (.unavailable port), h)
  | (true, h) =>
    match (o.settings port).store o.settingsDirectory h.files with
    | (.error e, files) => (.error e, { h with files })
    | (.ok (), files) =>
      match files.removeAny o.portFile with
      | .error e => (.error (.system e), { h with files })
      | .ok (_, files) => (.ok (o.settings port), { h with files })

/-- Launches a server; no outcome means that after `looks` looks it has not announced its port. -/
def launch (o : Options) (looks : Nat) (h : Host) :
    Option (Except Client.Error Settings) × Host :=
  match prepare o h with
  | (.error e, h) => (some (.error e), h)
  | (.ok (), h) =>
    match h.launch o.launch with
    | (.error e, h) => (some (.error (.launch e)), h)
    | (.ok (), h) =>
      match o.explicitPort with
      | some port =>
        let (outcome, h) := settle o port h
        (some outcome, h)
      | none =>
        match watch o.portFile looks 0 h with
        | (none, h) => (none, h)
        | (some (.error e), h) => (some (.error e), h)
        | (some (.ok port), h) =>
          let (outcome, h) := settle o port h
          (some outcome, h)

/-- Finds the recorded server or launches one. -/
def startOrConnect (o : Options) (looks : Nat) (h : Host) :
    Option (Except Client.Error Settings) × Host :=
  match recorded o h with
  | .error e => (some (.error e), h)
  | .ok (some s) => (some (.ok s), h)
  | .ok none => launch o looks h

/-- Stops the recorded server and forgets it, whether or not it could be reached; says whether it
stopped. -/
def stopServer {σ : Type} (send : Client.Transport σ) (directory : Path) (files : Files) (s : σ) :
    Except Client.Error Bool × Files × σ :=
  match Settings.load files directory with
  | .error e => (.error e, files, s)
  | .ok none => (.ok false, files, s)
  | .ok (some settings) =>
    match Client.ofSettings settings with
    | .error e => (.error e, files, s)
    | .ok client =>
      let (outcome, s) := (client.stop send).run s
      let stopped := outcome.toOption.getD false
      let (deleted, files) := Settings.delete directory files
      (deleted.map fun _ => stopped, files, s)

end Bootstrap

end Testbed
