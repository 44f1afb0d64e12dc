import Testbed.Text.Decimal
import Testbed.Text.Split

/-!
# Argument lists

One level of a command line has options, operands, and perhaps the commands of the next level.
Options are `--name value` or `--name=value`, flags are `--name`; what follows `--` is operands, and
so is any argument that does not begin with a dash. An option that is not given may take its value
from the environment. The first fault found decides, and a fault within a command is found before
those of the levels above it that only the end of the arguments or the environment shows.
-/

namespace Testbed.CommandLine

/-- Why arguments make no command. -/
inductive Problem where
  | helpAsked
  /-- Nothing at all was given where a command is needed. -/
  | nothingGiven
  | missingCommand
  | unknownCommand
  | unknownArgument
  | missingValue
  | unusableValue
  /-- A flag was given a value. -/
  | unexpectedValue
  /-- Two arguments exclude each other, or one was given twice. -/
  | conflict
  | missingOperand
  deriving DecidableEq, Repr

/-- What an option takes. -/
inductive Shape where
  | flag
  | text
  /-- A text that is not empty. -/
  | path
  /-- A numeral below a bound. -/
  | number (bound : Nat)
  deriving DecidableEq, Repr

structure Opt where
  name : String
  shape : Shape
  repeats : Bool := false
  /-- The environment variable that it defaults to. -/
  environment : Option String := none
  /-- An option it cannot stand beside. -/
  excludes : Option String := none
  deriving DecidableEq, Repr

structure Level where
  options : List Opt := []
  /-- How many operands it needs and how many it takes. -/
  needs : Nat := 0
  takes : Nat := 0
  commands : List String := []
  /-- What asking for help on the commands below comes to. -/
  help : List String → Problem := fun _ => .unknownCommand

/-- A numeral; where numbers may be negative at all, zero may have a minus sign. -/
def readNumber? (bound : Nat) (s : String) : Option Nat :=
  match s.toList with
  | '-' :: digits => if bound < UInt64.size then (Text.readDigits? digits).filter (· = 0) else none
  | _ => Text.readUnsigned? bound s

/-- What is wrong with a value. -/
def Shape.fault? : Shape → String → Option Problem
  | flag, _ | text, _ => none
  | path, v => if v = "" then some .missingValue else none
  | number bound, v => if (readNumber? bound v).isSome then none else some .unusableValue

/-- What has been read of a level. -/
structure Reading where
  /-- Options with their values in the order given; flags have the empty text. -/
  given : List (String × String) := []
  operands : List String := []
  /-- An option whose value has not been looked at, and that value once it is there. -/
  pending : Option (Opt × Option String) := none
  /-- Whether `--` has been seen. -/
  onlyOperands : Bool := false

namespace Reading

def isGiven (r : Reading) (name : String) : Bool := r.given.any fun p => p.1 = name

/-- The last value of an option. -/
def value? (r : Reading) (name : String) : Option String :=
  (r.given.reverse.find? fun p => p.1 = name).map Prod.snd

def values (r : Reading) (name : String) : List String :=
  (r.given.filter fun p => p.1 = name).map Prod.snd

def number? (r : Reading) (bound : Nat) (name : String) : Option Nat :=
  (r.value? name).bind (readNumber? bound)

def give (o : Opt) (v : String) (r : Reading) : Except Problem Reading :=
  if r.isGiven o.name ∧ !o.repeats then .error .conflict
  else match o.shape.fault? v with
    | some fault => .error fault
    | none => .ok { r with given := r.given ++ [(o.name, v)] }

/-- Takes the pending option into account. -/
def settle (r : Reading) : Except Problem Reading :=
  match r.pending with
  | none => .ok r
  | some (_, none) => .error .missingValue
  | some (o, some v) => give o v { r with pending := none }

/-- The option that the next argument may be the value of. -/
def awaiting? (r : Reading) : Option Opt :=
  match r.pending with
  | some (o, none) => some o
  | _ => none

/-- Reads `--name` or `--name=value`. -/
def long (level : Level) (name : String) (v : Option String) (r : Reading) :
    Except Problem Reading :=
  if name = "help" then
    match v with
    | some _ => .error .unexpectedValue
    | none => do
      discard r.settle
      .error .helpAsked
  else match level.options.find? fun o => o.name = name with
    | none => .error .unknownArgument
    | some o =>
      match o.shape, v with
      | .flag, some _ => .error .unexpectedValue
      | .flag, none => do give o "" (← r.settle)
      | _, some v => do give o v (← r.settle)
      | _, none => do .ok { ← r.settle with pending := some (o, none) }

/-- Reads an argument with a single dash: only help has such a form. -/
def short (letters : List Char) (r : Reading) : Except Problem Reading :=
  if letters.head? = some 'h' then do
    discard r.settle
    .error .helpAsked
  else .error .unknownArgument

def operand (level : Level) (a : String) (r : Reading) : Except Problem Reading :=
  if r.operands.length < level.takes then do
    let r ← r.settle
    .ok { r with operands := r.operands ++ [a] }
  else if level.commands.isEmpty ∨ (r.onlyOperands ∧ a ∈ "help" :: level.commands) then
    .error .unknownArgument
  else .error .unknownCommand

/-- Name and value of `--name=value`, the name alone of `--name`. -/
def splitLong (text : String) : String × Option String :=
  match Text.splitOnce? '=' text with
  | some (name, v) => (name, some v)
  | none => (text, none)

/-- Reads one argument that is no command. -/
def take (level : Level) (a : String) (r : Reading) : Except Problem Reading :=
  if r.onlyOperands then operand level a r
  else match a.toList with
    | ['-', '-'] => .ok { r with onlyOperands := true }
    | '-' :: '-' :: rest =>
      let (name, v) := splitLong (String.ofList rest)
      long level name v r
    | '-' :: c :: letters => short (c :: letters) r
    | _ =>
      match r.awaiting? with
      | some o => .ok { r with pending := some (o, some a) }
      | none => operand level a r

/-- Reads arguments up to the first command, which is returned with what follows it. -/
def scan (level : Level) : List String → Reading →
    Except Problem (Reading × Option (String × List String))
  | [], r => .ok (r, none)
  | a :: rest, r =>
    if !r.onlyOperands ∧ r.awaiting?.isNone ∧ !level.commands.isEmpty ∧ a = "help" then
      .error (level.help rest)
    else if !r.onlyOperands ∧ r.awaiting?.isNone ∧ a ∈ level.commands then
      .ok (r, some (a, rest))
    else do scan level rest (← take level a r)

/-- Fills in from the environment what was not given. -/
def addEnvironment (vars : String → Option String) :
    List Opt → Reading → Except Problem Reading
  | [], r => .ok r
  | o :: os, r => do
    match o.environment.bind vars with
    | some v =>
      if r.isGiven o.name then addEnvironment vars os r
      else addEnvironment vars os (← give o v r)
    | none => addEnvironment vars os r

/-- Checks a level as a whole. -/
def check (level : Level) (hasCommand : Bool) (r : Reading) : Except Problem Unit :=
  if !level.commands.isEmpty ∧ !hasCommand then
    .error (if r.given.isEmpty then .nothingGiven else .missingCommand)
  else if level.options.any fun o =>
      r.isGiven o.name && (o.excludes.map r.isGiven).getD false then .error .conflict
  else if r.operands.length < level.needs then .error .missingOperand
  else .ok ()

/-- Ends the reading of a level. -/
def finish (level : Level) (vars : String → Option String) (hasCommand : Bool) (r : Reading) :
    Except Problem Reading := do
  let r ← addEnvironment vars level.options (← r.settle)
  check level hasCommand r
  .ok r

end Reading

/-- Reads a level without commands. -/
def readAll (level : Level) (vars : String → Option String) (args : List String) :
    Except Problem Reading := do
  let (r, _) ← Reading.scan level args {}
  r.finish level vars false

/-- Reads a level with commands, `next` being what becomes of the command. -/
def readCommand {α : Type} (level : Level) (vars : String → Option String)
    (next : String → List String → Except Problem α) (args : List String) :
    Except Problem (Reading × α) := do
  match ← Reading.scan level args {} with
  | (r, some (name, rest)) =>
    let below ← next name rest
    .ok (← r.finish level vars true, below)
  | (r, none) => do
    discard (r.finish level vars false)
    .error .missingCommand

end Testbed.CommandLine
