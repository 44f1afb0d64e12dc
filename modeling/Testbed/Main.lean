import Testbed.Console

/-!
# The program

Reads the arguments, the environment and the files of the settings directory, runs the command, and
writes back what it changed. No connection is opened and no process is started from here: every
server is out of reach, a server finds no socket to bind, and a launch fails.
-/

namespace Testbed.Program

def usage : String :=
  "Usage: testresd <COMMAND>\n\nCommands:\n" ++
  "  server  Run the server in the foreground\n" ++
  "  start   Start a background server, or reuse the one already running\n" ++
  "  stop    Stop the background server\n" ++
  "  client  One-shot requests against the running server\n" ++
  "  help    Print this message\n"

/-- What is said about arguments that make no command. -/
def complaint : CommandLine.Problem → String
  | .helpAsked | .nothingGiven => usage
  | .missingCommand => "error: a command is needed\n"
  | .unknownCommand => "error: there is no such command\n"
  | .unknownArgument => "error: an argument was not expected\n"
  | .missingValue => "error: an option lacks its value\n"
  | .unusableValue => "error: a value cannot be used\n"
  | .unexpectedValue => "error: a flag takes no value\n"
  | .conflict => "error: two arguments cannot be used together\n"
  | .missingOperand => "error: a required argument is missing\n"

/-- The environment variables that the program looks at. -/
def variableNames : List String :=
  ["HOME", "TESTRESD_ACCESS_TOKEN", "TESTRESD_IDLE_TIMEOUT_MINUTES", "TESTRESD_PORT",
    "TESTRESD_SETTINGS_DIR"]

/-- The settings directory a command names. -/
def namedDirectory : Command → Option Path
  | .server .. => none
  | .start d .. | .stop d | .client d _ => d

/-- The files of a settings directory that commands read or change. -/
def keptFiles (directory : Path) : List Path :=
  [Settings.file directory, Settings.temporaryFile directory,
    directory.join Settings.portFileName]

def noSockets : SystemFailure := .other "no sockets can be opened"

def behaviour : Behaviour where
  start _ files := (.error (.other "no process can be started"), files)

def place (vars : Dict String) (token : String) : Console.Place Unit where
  send := .unreachable
  vars := vars.get?
  program := ⟨Console.programName⟩
  freshToken := token
  ports := ⟨fun _ => true, 0⟩
  looks := 0

/-- The outcome of a command; a server is not brought up. -/
def outcome (p : Console.Place Unit) (c : Command) (h : Host) : Console.Outcome × Host :=
  match c with
  | .server port .. =>
    (.failed "server" (Server.LaunchError.message (.bind port noSockets)), h)
  | c =>
    let (outcome, h, _) := Console.run p c h ()
    (outcome.getD {}, h)

/-! ### Input and output -/

def readVariables : IO (Dict String) := do
  let found ← variableNames.filterMapM fun name => do
    return (← IO.getEnv name).map fun value => (name, value)
  return Dict.ofList found

/-- A token that no one can guess. -/
def freshToken : IO String := do
  let bytes ← IO.getRandomBytes 16
  return String.join (bytes.toList.map fun b =>
    String.ofList [(b / 16).toNat.digitChar, (b % 16).toNat.digitChar])

/-- Takes a file of the system into a tree. -/
def load (files : Files) (p : Path) : IO Files := do
  try
    let content ← IO.FS.readBinFile p.text
    let files := match p.parent? with
      | some directory => (files.makeDirectories directory).toOption.getD files
      | none => files
    return (files.write p content.toList).toOption.getD files
  catch _ => return files

/-- Carries a change of one file over to the system. -/
def save (before after : Files) (p : Path) : IO Unit := do
  match (before.read p).toOption, (after.read p).toOption with
  | some _, none => IO.FS.removeFile p.text
  | old, some content =>
    if old ≠ some content then
      if let some directory := p.parent? then IO.FS.createDirAll directory.text
      IO.FS.writeBinFile p.text content.toByteArray
  | none, none => pure ()

def run (args : List String) : IO UInt32 := do
  let vars ← readVariables
  match CommandLine.parse vars.get? args with
  | .error .helpAsked =>
    IO.print usage
    return 0
  | .error problem =>
    IO.eprint (complaint problem)
    return 2
  | .ok command =>
    let p := place vars (← freshToken)
    let directory := (Console.directoryOf p (namedDirectory command)).getD ⟨""⟩
    let kept := keptFiles directory
    let files ← kept.foldlM load {}
    let (outcome, h) :=
      outcome p command { behaviour, portFile := directory.join Settings.portFileName, files }
    kept.forM (save files h.files)
    IO.print outcome.output
    if let some line := outcome.complaint then IO.eprintln line
    return UInt32.ofNat outcome.exitCode

end Testbed.Program

def main (args : List String) : IO UInt32 := Testbed.Program.run args
