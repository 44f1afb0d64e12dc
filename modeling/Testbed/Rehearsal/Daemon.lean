import Testbed.Container.Runtime

/-!
# A scripted container runtime

A runtime whose refusals, logs and open ports are given in advance, and which keeps everything it was
asked to do. Containers are numbered, their ports are mapped to ascending host ports, and a network
that did not exist before lives from the first container attached to it to the last.
-/

namespace Testbed.Rehearsal

open Container

/-- What a container of some image writes to its log. -/
structure LogScript where
  stdout : List String := []
  stderr : List String := []
  /-- Whether the log goes on without an end. -/
  isOpen : Bool := false
  deriving Inhabited

/-- The answer to a refused action. -/
structure Refusal where
  status : Nat
  text : String

inductive Event where
  | createNetwork (name : String)
  | pull (image : String)
  | create (id image : String) (ports : List UInt16) (env : List String)
      (command : Option (List String)) (network : Option String)
  | start (id : String)
  | logs (id : String) (stream : LogStream)
  | remove (id : String)
  | removeNetwork (name : String)

/-- A container at the runtime. -/
structure Running where
  id : String
  network : Option String
  ports : List (UInt16 × UInt16)

structure Daemon where
  reachable : Bool := true
  logs : Dict LogScript := ∅
  listening : List UInt16 := []
  /-- Container ports that get no host port. -/
  unmapped : List UInt16 := []
  /-- Networks that exist from the start. -/
  networks : List String := []
  /-- Images that have to be pulled. -/
  missing : List String := []
  createRefusals : Dict Refusal := ∅
  startRefusals : Dict Refusal := ∅
  networkRefusals : Dict Refusal := ∅
  containers : List Running := []
  /-- Networks made for a container. -/
  made : List String := []
  /-- The number of containers created. -/
  created : Nat := 0
  /-- The number of host ports given out. -/
  mapped : Nat := 0
  events : List Event := []
  /-- Removed containers and networks since the events were last taken. -/
  removed : List String := []
  removedNetworks : List String := []

namespace Daemon

def log (e : Event) (d : Daemon) : Daemon := { d with events := d.events ++ [e] }

/-- All events since the last call; removals come last, in the order of their names. -/
def takeEvents (d : Daemon) : List Event × Daemon :=
  (d.events ++ (d.removed.mergeSort (· ≤ ·)).map .remove ++
      (d.removedNetworks.mergeSort (· ≤ ·)).map .removeNetwork,
    { d with events := [], removed := [], removedNetworks := [] })

/-- Takes down a network made for containers once none is attached to it. -/
def dropNetwork (network : Option String) (d : Daemon) : Daemon :=
  match network with
  | none => d
  | some n =>
    if n ∈ d.made ∧ !d.containers.any (·.network = some n) then
      { d with made := d.made.erase n, removedNetworks := d.removedNetworks ++ [n] }
    else d

def takeDown (id : String) (d : Daemon) : Daemon :=
  match d.containers.find? (·.id = id) with
  | none => d
  | some c =>
    dropNetwork c.network
      { d with containers := d.containers.filter (·.id ≠ id), removed := d.removed ++ [id] }

/-- Sees to it that a network exists. -/
def ensureNetwork (network : Option String) (d : Daemon) : Except Failure Unit × Daemon :=
  match network with
  | none => (.ok (), d)
  | some n =>
    if n ∈ d.networks ∨ n ∈ d.made then (.ok (), d)
    else match d.networkRefusals.get? n with
      | some r => (.error (.refused .createNetwork r.status r.text), d)
      | none => (.ok (), { d.log (.createNetwork n) with made := d.made ++ [n] })

def pullMissing (image : String) (d : Daemon) : Daemon :=
  if image ∈ d.missing then
    { d.log (.pull image) with missing := d.missing.filter (· ≠ image) }
  else d

/-- Whether `part` occurs in `cs`. -/
def occurs (part : List Char) : List Char → Bool
  | [] => part.isEmpty
  | c :: cs => part.isPrefixOf (c :: cs) || occurs part cs

/-- Waits for each message in the log; the first that does not come fails the waiting. -/
def awaitLogs (id : String) (script : LogScript) :
    List (String × LogStream) → Daemon → Except Failure Unit × Daemon
  | [], d => (.ok (), d)
  | (message, stream) :: rest, d =>
    let d := d.log (.logs id stream)
    let lines := match stream with
      | .stdout => script.stdout
      | .stderr => script.stderr
    let frames := lines.map (· ++ "\n")
    if frames.any fun f => occurs message.toList f.toList then awaitLogs id script rest d
    else if script.isOpen then (.error .startupTimeout, d)
    else (.error (.logEnded frames), d)

/-- Distinct ports, ascending. -/
def distinctPorts (ports : List UInt16) : List UInt16 :=
  (Assoc.ofList (ports.map fun p => (p, ()))).map Prod.fst

/-- Creates a container without starting it. -/
def create (spec : Spec) (image : String) (d : Daemon) : String × Daemon :=
  let id := "c" ++ Text.ofNat (d.created + 1)
  let ports := distinctPorts spec.exposedPorts
  let hostPorts := ports.mapIdx fun i p => (p, UInt16.ofNat (20001 + d.mapped + i))
  let env := spec.env.entries.map fun (k, v) => k ++ "=" ++ v
  let command := if spec.command.isEmpty then none else some spec.command
  (id,
    { d.log (.create id image ports env command spec.network) with
      created := d.created + 1
      mapped := d.mapped + ports.length
      containers := d.containers ++ [⟨id, spec.network, hostPorts⟩] })

/-- A created container whose start was refused stays at the runtime, detached from its network. -/
def abandon (id : String) (network : Option String) (d : Daemon) : Daemon :=
  dropNetwork network { d with containers := d.containers.filter (·.id ≠ id) }

def run (spec : Spec) (d : Daemon) : Except Failure String × Daemon :=
  if !d.reachable then
    (.error (.unreachable (if spec.network.isSome then .listNetworks else .createContainer)), d)
  else
    match d.ensureNetwork spec.network with
    | (.error f, d) => (.error f, d)
    | (.ok (), d) =>
      let (name, tag) := Spec.nameAndTag spec.image
      let image := name ++ ":" ++ tag
      let d := d.pullMissing image
      match d.createRefusals.get? image with
      | some r => (.error (.refused .createContainer r.status r.text), d.dropNetwork spec.network)
      | none =>
        let (id, d) := d.create spec image
        let d := d.log (.start id)
        match d.startRefusals.get? image with
        | some r => (.error (.refused .startContainer r.status r.text), d.abandon id spec.network)
        | none =>
          match awaitLogs id ((d.logs.get? image).getD {}) spec.logWaits d with
          | (.error f, d) => (.error f, d.takeDown id)
          | (.ok (), d) => (.ok id, d)

def hostPort (id : String) (port : UInt16) (d : Daemon) : Except Failure UInt16 × Daemon :=
  let found := if port ∈ d.unmapped then none
    else (d.containers.find? (·.id = id)).bind fun c => Assoc.get? port c.ports
  match found with
  | some h => (.ok h, d)
  | none => (.error (.portNotExposed id port), d)

instance : Runtime Daemon where
  run := run
  host _ d := (.ok "127.0.0.1", d)
  hostPort := hostPort
  addresses _ _ := .ok [.v4 127 0 0 1]
  accepts _ port _ _ d := (port ∈ d.listening, d)
  remove id d := (.ok (), d.takeDown id)
  release := takeDown

end Daemon

end Testbed.Rehearsal
