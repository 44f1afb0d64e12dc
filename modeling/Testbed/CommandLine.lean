import Testbed.CommandLine.Arguments
import Testbed.Files.Path
import Testbed.Settings

/-!
# Commands

The command line of the program: run a server, start one in the background, stop it, or make one
request to it.
-/

namespace Testbed

/-- One request to a running server. -/
inductive Action where
  | list
  | entries
  | requirements (expression : String)
  | resolve (name : String) (properties config : List String)
  | close (scope : String)
  | closeAll
  | resources (scope : Option String) (asJson : Bool)
  deriving DecidableEq, Repr

inductive Command where
  | server (port : UInt16) (portFile : Option Path) (accessToken : Option String)
      (idleTimeoutMinutes : Nat)
  | start (settingsDirectory : Option Path) (port : Option UInt16) (accessToken : Option String)
      (noToken : Bool) (readTimeoutSeconds idleTimeoutMinutes : Option Nat) (logFile : Option Path)
  | stop (settingsDirectory : Option Path)
  | client (settingsDirectory : Option Path) (action : Action)
  deriving DecidableEq, Repr

namespace CommandLine

/-! ### Levels -/

def settingsOption : Opt :=
  { name := "settings-dir", shape := .path, environment := some "TESTRESD_SETTINGS_DIR" }

def actions : List String :=
  ["list", "entries", "requirements", "resolve", "close", "close-all", "resources"]

def commands : List String := ["server", "start", "stop", "client"]

/-- The commands below a command. -/
def below : List String → List String
  | [] => "help" :: commands
  | ["client"] => "help" :: actions
  | _ => []

/-- Asking for help on the command that `names` lead to from `path`. -/
def helpOn (path : List String) : List String → Problem
  | [] => .helpAsked
  | name :: names =>
    if name ∈ below path then helpOn (path ++ [name]) names else .unknownCommand

def top : Level := { commands, help := helpOn [] }

def serverLevel : Level where
  options := [
    { name := "port", shape := .number UInt16.size, environment := some "TESTRESD_PORT" },
    { name := "port-file", shape := .path },
    { name := "access-token", shape := .text, environment := some "TESTRESD_ACCESS_TOKEN" },
    { name := "idle-timeout-minutes", shape := .number UInt64.size,
      environment := some "TESTRESD_IDLE_TIMEOUT_MINUTES" }]

def startLevel : Level where
  options := [
    settingsOption,
    { name := "port", shape := .number UInt16.size },
    { name := "access-token", shape := .text, excludes := some "no-token" },
    { name := "no-token", shape := .flag },
    { name := "read-timeout-seconds", shape := .number UInt64.size },
    { name := "idle-timeout-minutes", shape := .number UInt32.size },
    { name := "log-file", shape := .path }]

def stopLevel : Level := { options := [settingsOption] }

def clientLevel : Level where
  options := [settingsOption]
  commands := actions
  help := helpOn ["client"]

/-- The level of an action. -/
def actionLevel : String → Level
  | "requirements" | "close" => { needs := 1, takes := 1 }
  | "resolve" =>
    { needs := 1, takes := 1
      options := [
        { name := "property", shape := .text, repeats := true },
        { name := "config", shape := .text, repeats := true }] }
  | "resources" => { takes := 1, options := [{ name := "json", shape := .flag }] }
  | _ => {}

/-! ### Reading -/

def portOf (r : Reading) : Option UInt16 := (r.number? UInt16.size "port").map UInt16.ofNat

def pathOf (r : Reading) (name : String) : Option Path := (r.value? name).map Path.mk

def settingsOf (r : Reading) : Option Path := pathOf r settingsOption.name

/-- Minutes after which an idle server stops unless another number is given. -/
def defaultIdleTimeout : Nat := 60

def serverOf (r : Reading) : Command :=
  .server ((portOf r).getD 0) (pathOf r "port-file") (r.value? "access-token")
    ((r.number? UInt64.size "idle-timeout-minutes").getD defaultIdleTimeout)

def startOf (r : Reading) : Command :=
  .start (settingsOf r) (portOf r) (r.value? "access-token") (r.isGiven "no-token")
    (r.number? UInt64.size "read-timeout-seconds") (r.number? UInt32.size "idle-timeout-minutes")
    (pathOf r "log-file")

def actionOf (name : String) (r : Reading) : Action :=
  let operand := r.operands.head?.getD ""
  match name with
  | "entries" => .entries
  | "requirements" => .requirements operand
  | "resolve" => .resolve operand (r.values "property") (r.values "config")
  | "close" => .close operand
  | "close-all" => .closeAll
  | "resources" => .resources r.operands.head? (r.isGiven "json")
  | _ => .list

def parseAction (vars : String → Option String) (name : String) (args : List String) :
    Except Problem Action :=
  (readAll (actionLevel name) vars args).map (actionOf name)

def parseCommand (vars : String → Option String) (name : String) (args : List String) :
    Except Problem Command := do
  match name with
  | "server" => return serverOf (← readAll serverLevel vars args)
  | "start" => return startOf (← readAll startLevel vars args)
  | "stop" => return .stop (settingsOf (← readAll stopLevel vars args))
  | _ =>
    let (r, action) ← readCommand clientLevel vars (parseAction vars) args
    return .client (settingsOf r) action

/-- The command that arguments and environment variables make. -/
def parse (vars : String → Option String) (args : List String) : Except Problem Command :=
  (readCommand top vars (parseCommand vars) args).map Prod.snd

end CommandLine

end Testbed
