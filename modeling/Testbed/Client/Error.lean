import Testbed.Codec
import Testbed.Files.Failure
import Testbed.Files.Path
import Testbed.Message
import Testbed.Settings
import Testbed.Url

/-!
# Client errors

All that can keep a client from an answer, from a server, or from its own settings.
-/

namespace Testbed.Client

/-- Why a call cannot be made as asked. -/
inductive Misuse where
  | badUri (uri : String) (cause : Url.Error)
  /-- A text that names no scope that can be closed by name. -/
  | unclosable (scope : String)
  | badPair (text : String)
  deriving DecidableEq, Repr

def Misuse.message : Misuse → String
  | badUri uri cause =>
    "bad server URI " ++ Text.quote uri ++ (cause.message?.map (": " ++ ·)).getD ""
  | unclosable scope =>
    "cannot close scope " ++ Text.quote scope ++ " by name, close all resources instead"
  | badPair text => "expected KEY=VALUE, got " ++ Text.quote text

inductive Error where
  /-- No response came back from `uri`. -/
  | transport (uri : String)
  | server (status : Nat) (message : String)
  | codec (cause : Codec.Error)
  /-- The answer is a value of another shape. -/
  | shape (cause : Message.Error)
  | usage (misuse : Misuse)
  | settings (path : Path) (problem : Settings.Problem)
  | portConflict (running requested : UInt16)
  | unavailable (port : UInt16)
  | emptyPortFile (path : Path)
  | notRunning (directory : Path)
  | launch (cause : SystemFailure)
  | system (cause : SystemFailure)
  deriving DecidableEq, Repr

def Error.message : Error → String
  | transport uri =>
    "cannot reach server at " ++ uri ++ ": error sending request for url (" ++ uri ++ ")"
  | server status message => "server answered " ++ Text.ofNat status ++ ": " ++ message
  | codec cause => "malformed response: " ++ cause.message
  | shape cause => "unexpected response: " ++ cause.message
  | usage misuse => misuse.message
  | settings path problem => "invalid settings file " ++ path.text ++ ": " ++ problem.message
  | portConflict running requested =>
    "a server is already running on port " ++ Settings.portText running ++
      ", cannot start one on port " ++ Settings.portText requested
  | unavailable port => "server on port " ++ Settings.portText port ++ " did not become available"
  | emptyPortFile path => "port file " ++ path.text ++ " stayed empty"
  | notRunning directory => "no server running (no settings in " ++ directory.text ++ ")"
  | launch cause => "failed to launch server: " ++ cause.message
  | system cause => "I/O error: " ++ cause.message

end Testbed.Client
