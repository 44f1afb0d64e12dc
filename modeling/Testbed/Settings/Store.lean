import Testbed.Client.Error
import Testbed.Files

/-!
# The settings file

Where the settings are kept, and reading, replacing and deleting them. A missing file means that no
server is recorded; a write goes through a temporary file.
-/

namespace Testbed.Settings

def fileName : String := "test-resources.properties"

def portFileName : String := "test-resources.port"

def file (directory : Path) : Path := directory.join fileName

def temporaryFile (directory : Path) : Path :=
  (file directory).withExtension "properties.tmp"

/-- The recorded settings, none if there is no file. -/
def load (files : Files) (directory : Path) : Except Client.Error (Option Settings) :=
  match files.readText (file directory) with
  | .error .notFound => .ok none
  | .error e => .error (.system e)
  | .ok text =>
    match parse text with
    | .ok s => .ok (some s)
    | .error problem => .error (.settings (file directory) problem)

/-- Records settings; on failure the recorded ones stay, but a temporary file may be left. -/
def store (s : Settings) (directory : Path) (files : Files) : Except Client.Error Unit × Files :=
  match files.makeDirectories directory with
  | .error e => (.error (.system e), files)
  | .ok files =>
    let (outcome, files) :=
      files.replace (file directory) (temporaryFile directory) (Text.utf8 s.render)
    (outcome.mapError .system, files)

/-- Forgets the recorded settings; says whether there were any. -/
def delete (directory : Path) (files : Files) : Except Client.Error Bool × Files :=
  match files.removeAny (file directory) with
  | .ok (any, files) => (.ok any, files)
  | .error e => (.error (.system e), files)

/-- The directory used where none is named: the one the environment gives for settings, else one
below the home directory. -/
def defaultDirectory? (environment : String → Option String) : Option Path :=
  let given (name : String) : Option String := (environment name).filter (· ≠ "")
  match given "TESTRESD_SETTINGS_DIR" with
  | some directory => some ⟨directory⟩
  | none => (given "HOME").map fun home => ((⟨home⟩ : Path).join ".testresd").join "shared"

end Testbed.Settings
