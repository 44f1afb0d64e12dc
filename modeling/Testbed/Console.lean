import Testbed.Bootstrap
import Testbed.CommandLine
import Testbed.Report
import Testbed.Server.Launch

/-!
# Running commands

What each command does, prints and ends with. A command that fails prints one line with its name to
the error output and ends with exit code 1.
-/

namespace Testbed.Console

def programName : String := "testresd"

/-- What a command came to. -/
structure Outcome where
  exitCode : Nat := 0
  output : String := ""
  /-- The line on the error output. -/
  complaint : Option String := none
  deriving DecidableEq, Repr

namespace Outcome

def failed (command text : String) : Outcome :=
  { exitCode := 1, complaint := some (programName ++ " " ++ command ++ ": " ++ text) }

def ofExcept (command : String) : Except Client.Error String → Outcome
  | .ok output => { output }
  | .error e => failed command e.message

end Outcome

/-! ### Requests -/

/-- The property that `KEY=VALUE` gives; blanks around the key do not count. -/
def readPair (pair : String) : Except Client.Error (String × Value) :=
  match Text.splitOnce? '=' pair with
  | some (key, value) =>
    if Text.trim key = "" then .error (.usage (.badPair pair))
    else .ok (Text.trim key, .string value)
  | none => .error (.usage (.badPair pair))

def readPairs (pairs : List String) : Except Client.Error Properties :=
  (pairs.mapM readPair).map Dict.ofList

section

variable {σ : Type} (send : Client.Transport σ)

/-- Makes the request of an action; answers what to print. -/
def request (client : Client) : Action → Client.Call σ String
  | .list => do
    return Report.names "No resolvable properties" (← client.resolvableProperties send)
  | .entries => do return Report.names "No required entries" (← client.requiredGroups send)
  | .requirements expression => do
    return Report.names "No required properties" (← client.requiredProperties send expression)
  | .resolve name properties config => do
    let properties ← liftExcept (readPairs properties)
    let config ← liftExcept (readPairs config)
    return Report.resolved name (← client.resolve send name properties config)
  | .close scope => do return Report.closed (some scope) (← client.closeScope send scope)
  | .closeAll => do return Report.closed none (← client.closeAll send)
  | .resources scope asJson => do
    return Report.resources asJson (← client.resources send scope)
where
  liftExcept {α : Type} (outcome : Except Client.Error α) : Client.Call σ α :=
    ExceptT.mk fun s => (outcome, s)

/-- The client of the recorded server. -/
def recordedClient (directory : Path) (files : Files) : Except Client.Error Client := do
  match ← Settings.load files directory with
  | none => .error (.notRunning directory)
  | some settings => Client.ofSettings settings

/-- Makes one request to the recorded server. -/
def runAction (directory : Path) (action : Action) (files : Files) (s : σ) :
    Except Client.Error String × σ :=
  match recordedClient directory files with
  | .error e => (.error e, s)
  | .ok client => (request send client action).run s

/-- Stops the recorded server; answers whether it stopped. -/
def runStop (directory : Path) (files : Files) (s : σ) :
    Except Client.Error Bool × Files × σ := Bootstrap.stopServer send directory files s

end

/-! ### Commands -/

/-- Where a command runs. -/
structure Place (σ : Type) where
  send : Client.Transport σ
  vars : String → Option String
  /-- The program itself, which is also what it launches. -/
  program : Path
  /-- The token of a server launched without one of its own. -/
  freshToken : String
  ports : Server.Ports
  /-- How often a port file is looked at before waiting for it counts as endless. -/
  looks : Nat

/-- The idle timeout in milliseconds; zero minutes stand for none. -/
def idleTimeout (minutes : Nat) : Option Nat :=
  if minutes = 0 then none else some (1000 * min (60 * minutes) (UInt64.size - 1))

/-- The server that the options of `server` ask for. -/
def setup (port : UInt16) (portFile : Option Path) (token : Option String) (minutes : Nat) : Server.Setup :=
  ⟨port, portFile, Server.Access.required token, idleTimeout minutes⟩

def noDirectory : String := "no settings directory (set --settings-dir or HOME)"

variable {σ : Type}

/-- The settings directory of a command. -/
def directoryOf (p : Place σ) (given : Option Path) : Option Path :=
  given <|> Settings.defaultDirectory? p.vars

/-- Runs a server that nobody calls; no outcome means that it runs on. -/
def runServer (p : Place σ) (setup : Server.Setup) (h : Host) : Option Outcome × Host :=
  match Server.comeUp setup p.ports h.files with
  | (.error e, files) => (some (.failed "server" e.message), { h with files })
  | (.ok _, files) =>
    ((Server.Idle.shutdownTime setup.idleTimeout []).map fun _ => {}, { h with files })

def runStart (p : Place σ) (o : Bootstrap.Options) (h : Host) : Option Outcome × Host :=
  let (outcome, h) := Bootstrap.startOrConnect o p.looks h
  (outcome.map fun result => .ofExcept "start" (result.map Report.started), h)

/-- The token of a server that `start` launches. -/
def launchToken (p : Place σ) (given : Option String) (noToken : Bool) : Option String :=
  if noToken then none else some (given.getD p.freshToken)

/-- Runs a command; no outcome means that it never ends. -/
def run (p : Place σ) (c : Command) (h : Host) (s : σ) : Option Outcome × Host × σ :=
  match c with
  | .server port portFile token minutes =>
    let (outcome, h) := runServer p (setup port portFile token minutes) h
    (outcome, h, s)
  | .start given port token noToken seconds minutes logFile =>
    match directoryOf p given with
    | none => (some (.failed "start" noDirectory), h, s)
    | some directory =>
      let (outcome, h) := runStart p
        { settingsDirectory := directory, explicitPort := port
          accessToken := launchToken p token noToken
          readTimeout := seconds.map (1000 * ·), idleTimeoutMinutes := minutes
          program := p.program, logFile }
        { h with portFile := directory.join Settings.portFileName }
      (outcome, h, s)
  | .stop given =>
    match directoryOf p given with
    | none => (some (.failed "stop" noDirectory), h, s)
    | some directory =>
      let (outcome, files, s) := runStop p.send directory h.files s
      (some (.ofExcept "stop" (outcome.map Report.stopped)), { h with files }, s)
  | .client given action =>
    match directoryOf p given with
    | none => (some (.failed "client" noDirectory), h, s)
    | some directory =>
      let (outcome, s) := runAction p.send directory action h.files s
      (some (.ofExcept "client" outcome), h, s)

end Testbed.Console
