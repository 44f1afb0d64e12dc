import Testbed.Container
import Testbed.Provider

/-!
# Container blocks of a configuration

A block `containers.ID` describes one container: its image, the property that names each of its ports,
the properties that name its host, and how to run it. Its fields stand flat, as keys
`containers.ID.FIELD`, or nested in a map under `containers`; a flat field hides the nested one, also
when it is null. Blocks are read in the order of their ids, and the first field that cannot be used
fails the reading.
-/

namespace Testbed.Container

structure Block where
  id : String
  image : Option String := none
  /-- Container ports by the property that names them, in the order given. -/
  ports : List (String × UInt16) := []
  /-- The properties that name the host. -/
  hostnames : List String := []
  env : Dict String := ∅
  network : Option String := none
  command : List String := []
  startupTimeout : Option Nat := none
  wait : List Wait := []
  deriving DecidableEq

namespace Block

abbrev Read (α : Type) := Except Provider.Error α

def containersKey : String := "containers"

/-- The flat key of a field. -/
def fieldKey (id field : String) : String := containersKey ++ "." ++ id ++ "." ++ field

/-- The value of a field, flat or else nested; null is none. -/
def field? (config : Properties) (id field : String) : Option Value :=
  match config.get? (fieldKey id field) with
  | some v => v.nonNull?
  | none => do
    let nested ← (← config.get? containersKey).map?
    let block ← (← Value.field? nested id).map?
    (← Value.field? block field).nonNull?

/-- The ids of all blocks, ascending. -/
def ids (config : Properties) : List String :=
  let nested := match config.get? containersKey with
    | some (.map pairs) => pairs.filterMap fun p => p.1.string?
    | _ => []
  let flat := config.keys.filterMap fun key => do
    let (id, _) ← Text.splitOnce? '.' (← Text.dropPrefix? (containersKey ++ ".") key)
    some id
  (Dict.ofList ((nested ++ flat).map fun id => (id, ()))).keys

def unusable {α : Type} (id field expected : String) (actual : Value) : Read α :=
  .error (.config (fieldKey id field) (expected ++ ", got " ++ actual.text))

/-- An integer in range, or a string that reads as one. -/
def portNumber? : Value → Option UInt16
  | .int i => if 0 ≤ i.toInt ∧ i.toInt < 65536 then some (UInt16.ofNat i.toInt.toNat) else none
  | .string s => (Text.readUnsigned? UInt16.size (Text.trim s)).map UInt16.ofNat
  | _ => none

/-- The ports of one map from property to port. -/
def portMap (id : String) : Value → Read (List (String × UInt16))
  | .map pairs => pairs.mapM fun (property, port) => do
    let name ← match property with
      | .string s => .ok s
      | other => unusable id "exposed-ports" "expected string keys" other
    match portNumber? port with
    | some n => .ok (name, n)
    | none => unusable id "exposed-ports" "expected a port number" port
  | other => unusable id "exposed-ports" "expected a map" other

def readImage (id : String) : Option Value → Read (Option String)
  | none => .ok none
  | some (.string s) => .ok (some s)
  | some other => unusable id "image-name" "expected a string" other

def readPorts (id : String) : Option Value → Read (List (String × UInt16))
  | none => .ok []
  | some (.list items) => do
    let maps ← items.mapM (portMap id)
    .ok maps.flatten
  | some (.map pairs) => portMap id (.map pairs)
  | some other => unusable id "exposed-ports" "expected a list of maps" other

def readHostnames (id : String) : Option Value → Read (List String)
  | none => .ok []
  | some (.string s) => .ok (((Text.splitOn ',' s).map Text.trim).filter (· ≠ ""))
  | some (.list items) => .ok (items.filterMap Value.string?)
  | some other => unusable id "hostnames" "expected a list" other

def readEnv (id : String) : Option Value → Read (Dict String)
  | none => .ok ∅
  | some (.map pairs) =>
    .ok (Dict.ofList (pairs.filterMap fun (k, v) => k.string?.map fun name => (name, v.text)))
  | some other => unusable id "env" "expected a map" other

def readCommand (id : String) : Option Value → Read (List String)
  | none => .ok []
  | some (.string s) => .ok (Text.words s)
  | some (.list items) => .ok (items.map Value.text)
  | some other => unusable id "command" "expected a string or list" other

/-- A time in milliseconds: whole seconds, or a string of digits with a unit of milliseconds, seconds
or minutes, seconds without one. A number of digits, and of seconds in the minutes, stays below
`2 ^ 64`. -/
def duration? : Value → Option Nat
  | .int i => if 0 ≤ i.toInt then some (1000 * i.toInt.toNat) else none
  | .string s =>
    let cs := Text.trimChars s.toList
    let (digits, unit) := (cs.takeWhile Char.isDigit, cs.dropWhile Char.isDigit)
    match (Text.readDigits? digits).filter (· < UInt64.size) with
    | none => none
    | some n =>
      match String.ofList (Text.trimChars unit) with
      | "" => if unit.isEmpty then some (1000 * n) else none
      | "ms" => some n
      | "s" => some (1000 * n)
      | "m" => if 60 * n < UInt64.size then some (1000 * (60 * n)) else none
      | _ => none
  | _ => none

def readTimeout (id : String) : Option Value → Read (Option Nat)
  | none => .ok none
  | some v =>
    match duration? v with
    | some ms => .ok (some ms)
    | none => unusable id "startup-timeout" "expected a duration" v

/-! ### Wait strategies -/

def waitKey : String := "wait-strategy"

/-- The names of the strategies, each once: the one that is named or the keys of a map, then the
segments that continue flat keys. -/
def waitNames (config : Properties) (id : String) : Read (List String) := do
  let own ← match field? config id waitKey with
    | none => .ok []
    | some (.string name) => .ok [name]
    | some (.map pairs) => .ok (pairs.map fun p => p.1.text)
    | some other => unusable id waitKey "expected a strategy name or map" other
  let flat := config.keys.filterMap fun key =>
    (Text.dropPrefix? (fieldKey id waitKey ++ ".") key).map (Text.upTo '.')
  .ok ((own ++ flat).foldl (fun seen name => if name ∈ seen then seen else seen ++ [name]) [])

/-- A part of a strategy, from its flat key or else from the map of strategies. -/
def waitPart? (config : Properties) (id strategy part : String) : Option Value :=
  match field? config id (waitKey ++ "." ++ strategy ++ "." ++ part) with
  | some v => some v
  | none => do
    let strategies ← (← field? config id waitKey).map?
    let parts ← (← Value.field? strategies strategy).map?
    (← Value.field? parts part).nonNull?

def readStream (id : String) : Option Value → Read LogStream
  | none => .ok .stdout
  | some v =>
    match v.string?.map fun s => String.ofList (s.toList.map Char.toLower) with
    | some "stdout" => .ok .stdout
    | some "stderr" => .ok .stderr
    | _ => unusable id (waitKey ++ ".log.stream") "expected stdout or stderr" v

/-- The log strategy, which needs a message. -/
def logWait (config : Properties) (id : String) : Read Wait := do
  let messageKey := waitKey ++ ".log.message"
  let message ← match waitPart? config id "log" "message" with
    | none => .error (.config (fieldKey id messageKey) "missing")
    | some (.string s) =>
      if s = "" then unusable id messageKey "expected a non-empty string" (.string s) else .ok s
    | some other => unusable id messageKey "expected a non-empty string" other
  let stream ← readStream id (waitPart? config id "log" "stream")
  .ok (.log message stream)

def readWait (config : Properties) (id name : String) : Read Wait :=
  match Text.trim name with
  | "port" => .ok .ports
  | "log" => logWait config id
  | other => .error (.config (fieldKey id waitKey) ("unknown wait strategy " ++ Text.quote other))

/-! ### Blocks -/

/-- Reads one block. -/
def read (config : Properties) (id : String) : Read Block := do
  let image ← readImage id (field? config id "image-name")
  let ports ← readPorts id (field? config id "exposed-ports")
  let hostnames ← readHostnames id (field? config id "hostnames")
  let env ← readEnv id (field? config id "env")
  let network := (field? config id "network").bind Value.string?
  let command ← readCommand id (field? config id "command")
  let startupTimeout ← readTimeout id (field? config id "startup-timeout")
  let names ← waitNames config id
  let wait ← names.mapM (readWait config id)
  .ok { id, image, ports, hostnames, env, network, command, startupTimeout, wait }

/-- Reads every block, in the order of their ids. -/
def readAll (config : Properties) : Read (List Block) := (ids config).mapM (read config)

/-- The properties a block names: its ports, then its host. -/
def names (b : Block) : List String := b.ports.map Prod.fst ++ b.hostnames

/-- What to run for a block, given its image. -/
def spec (b : Block) (image : String) : Spec where
  image
  exposedPorts := b.ports.map Prod.snd
  env := b.env
  network := b.network
  command := b.command
  wait := b.wait
  startupTimeout := b.startupTimeout

end Block

end Testbed.Container
