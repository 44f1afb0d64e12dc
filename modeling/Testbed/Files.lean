import Testbed.Assoc
import Testbed.Files.Failure
import Testbed.Files.Path
import Testbed.Text.Utf8

/-!
# Files

A tree of files and directories, kept as the node at each list of names. The root is a directory. A
path is followed part by part through directories, so a double dot leads up from where the parts
before it led. Every operation fails as the system would let it fail and then changes nothing.
-/

namespace Testbed

inductive Files.Node where
  | file (content : Bytes)
  | directory
  deriving DecidableEq, Repr

open Files in
structure Files where
  nodes : List (List String × Node) := []
  /-- Where a path begins that does not begin at the root. -/
  workingDirectory : List String := []
  deriving Repr

namespace Files

abbrev Outcome (α : Type) := Except SystemFailure α

/-- What is at the end of a list of names. -/
def node? (f : Files) (names : List String) : Option Node :=
  if names.isEmpty then some .directory else Assoc.get? names f.nodes

def put (f : Files) (names : List String) (n : Node) : Files :=
  { f with nodes := Assoc.insert names n f.nodes }

def erase (f : Files) (names : List String) : Files := { f with nodes := Assoc.erase names f.nodes }

/-! ### Finding the place of a path -/

/-- The names that a part of a path leads to from a directory; nothing is above the root. -/
def advance (directory : List String) (part : String) : List String :=
  if part = "." then directory
  else if part = ".." then directory.dropLast
  else directory ++ [part]

/-- How many bytes a name may have. -/
def nameLimit : Nat := 255

/-- A path has fewer bytes than this. -/
def pathLimit : Nat := 4096

/-- The names that a part leads to, if it is not too long for a name. -/
def advance? (directory : List String) (part : String) : Outcome (List String) :=
  if nameLimit < part.utf8ByteSize then .error .nameTooLong else .ok (advance directory part)

/-- Enters the directory that a part of a path leads to. -/
def enter (f : Files) (directory : List String) (part : String) : Outcome (List String) := do
  let names ← advance? directory part
  match f.node? names with
  | some .directory => .ok names
  | some (.file _) => .error .notADirectory
  | none => .error .notFound

/-- The names that a path leads to; there need not be anything, but all that the path leads through
are directories. -/
def place (f : Files) (p : Path) : Outcome (List String) :=
  if '\x00' ∈ p.text.toList then .error .zeroInName
  else if pathLimit ≤ p.text.utf8ByteSize then .error .nameTooLong
  else match p.parts.getLast? with
    | none => if p.text = "" then .error .notFound else .ok []
    | some last => do
      let start := if p.isAbsolute then [] else f.workingDirectory
      advance? (← p.parts.dropLast.foldlM f.enter start) last

/-- The node that a path leads to; behind a slash it is a directory. -/
def find (f : Files) (p : Path) : Outcome Node := do
  match f.node? (← f.place p) with
  | none => .error .notFound
  | some (.file content) => if p.endsInSlash then .error .notADirectory else .ok (.file content)
  | some .directory => .ok .directory

def exists? (f : Files) (p : Path) : Bool := (f.find p).toOption.isSome

def isDirectory (f : Files) (p : Path) : Bool := (f.find p).toOption = some .directory

/-! ### Reading and writing -/

def read (f : Files) (p : Path) : Outcome Bytes := do
  match ← f.find p with
  | .directory => .error .isADirectory
  | .file content => .ok content

def readText (f : Files) (p : Path) : Outcome String := do
  match Text.ofUtf8? (← f.read p) with
  | some text => .ok text
  | none => .error .invalidText

/-- Where a file can be written: no directory has the names, and the path ends in a name. -/
def target (f : Files) (p : Path) : Outcome (List String) := do
  let names ← f.place p
  if !p.endsInName ∨ p.endsInSlash ∨ f.node? names = some .directory then .error .isADirectory
  else .ok names

def write (f : Files) (p : Path) (content : Bytes) : Outcome Files := do
  return f.put (← f.target p) (.file content)

/-- Makes a file ready to be written on; one that is missing is made, empty. -/
def openEnd (f : Files) (p : Path) : Outcome Files := do
  let names ← f.target p
  return if (f.node? names).isSome then f else f.put names (.file [])

/-- Takes away a file. -/
def remove (f : Files) (p : Path) : Outcome Files := do
  discard (f.read p)
  return f.erase (← f.place p)

/-- Moves a file into the place of another or of none. -/
def rename (f : Files) (source target : Path) : Outcome Files := do
  let start ← f.place source
  let goal ← f.place target
  if !target.endsInName then .error .busy
  let content ← f.read source
  if target.endsInSlash then .error .notADirectory
  if f.node? goal = some .directory then .error .isADirectory
  return (f.erase start).put goal (.file content)

/-! ### Directories -/

def makeDirectory (f : Files) (p : Path) : Outcome Files := do
  let names ← f.place p
  if !p.endsInName ∨ (f.node? names).isSome then .error .alreadyExists
  else .ok (f.put names .directory)

/-- Makes a directory where there is none yet. -/
def ensureDirectory (f : Files) (p : Path) : Outcome Files :=
  match f.makeDirectory p with
  | .error .alreadyExists => if f.isDirectory p then .ok f else .error .alreadyExists
  | outcome => outcome

/-- Makes the nearest directory for which there is room, then those that had to wait for it; the
paths are ordered from below. -/
def makeUpward (f : Files) : List Path → Outcome Files
  | [] => .ok f
  | p :: above =>
    match f.ensureDirectory p with
    | .error .notFound => do (← f.makeUpward above).ensureDirectory p
    | outcome => outcome

/-- Makes a directory and all that are missing above it. -/
def makeDirectories (f : Files) (p : Path) : Outcome Files :=
  f.makeUpward (p.ancestors.filter fun q => q.parent?.isSome)

/-- The names in a directory, in order. -/
def list (f : Files) (p : Path) : List String :=
  match f.place p with
  | .error _ => []
  | .ok directory => f.nodes.filterMap fun (names, _) =>
    if names.dropLast = directory ∧ names ≠ [] then names.getLast? else none

/-- Writes a file so that a reader finds either all of it or what was there before. -/
def replace (f : Files) (p temporary : Path) (content : Bytes) : Outcome Unit × Files :=
  match f.write temporary content with
  | .error e => (.error e, f)
  | .ok f =>
    match f.rename temporary p with
    | .error e => (.error e, f)
    | .ok f => (.ok (), f)

/-- Takes away a file if there is one; says whether there was. -/
def removeAny (f : Files) (p : Path) : Outcome (Bool × Files) :=
  match f.remove p with
  | .ok f => .ok (true, f)
  | .error .notFound => .ok (false, f)
  | .error e => .error e

end Files

end Testbed
