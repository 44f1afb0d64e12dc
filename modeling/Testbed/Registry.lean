import Testbed.Container.Failure
import Testbed.Message
import Testbed.Scope

/-!
# The registry of live resources

A registry holds every live resource under its key and remembers, per property, the resources that
answered it in first-answer order. Requests for an equal key share one resource; a creation or start
that fails leaves nothing behind; closing a scope closes all that lives in it or below.

The registry is generic in the resources it holds (`ρ`) and in the world they act on (`σ`).
-/

namespace Testbed

/-- What a resource reports about itself: what it was built from, and its id at run time. -/
structure Info where
  image : String
  id : String
  deriving DecidableEq, Repr, Inhabited

/-- Why a resource failed to be made, to start or to close. -/
inductive Fault where
  | container (failure : Container.Failure)
  | plain (text : String)
  deriving DecidableEq, Repr

def Fault.message : Fault → String
  | .container f => "container error: " ++ f.message
  | .plain text => text

/-- Resources that report about themselves. -/
class Described (ρ : Type) where
  info : ρ → Info

/-- Resources of type `ρ` that can be closed in a world `σ`. -/
class Held (ρ σ : Type) where
  close : ρ → σ → Except Fault Unit × σ

/-- A kind of resource: how those of type `α` start and how they stand among all others. -/
structure Kind (ρ σ α : Type) where
  label : String
  wrap : α → ρ
  unwrap? : ρ → Option α
  unwrap?_wrap : ∀ a, unwrap? (wrap a) = some a
  wrap_of_unwrap? : ∀ {r a}, unwrap? r = some a → wrap a = r
  /-- Brings a resource up; the resource changes also when this fails. -/
  start : α → σ → Except Fault Unit × α × σ

namespace Registry

/-- The identity of a resource: equal keys share one. -/
structure Key where
  owner : String
  name : String
  scope : Scope
  /-- The text of each creation parameter. -/
  params : Dict String
  deriving DecidableEq

namespace Key

def ofParams (owner name : String) (scope : Scope) (params : Properties) : Key :=
  ⟨owner, name, scope, params.map Value.text⟩

def text (k : Key) : String :=
  let params := k.params.entries.map fun (name, value) => name ++ "=" ++ value
  k.owner ++ "/" ++ k.name ++ "@[" ++ k.scope.text ++ "]" ++
    if params.isEmpty then "" else "\x7b" ++ ", ".intercalate params ++ "\x7d"

/-- By owner, name, scope and parameters, the latter pair by pair. -/
def order (a b : Key) : Ordering :=
  (compare a.owner b.owner).then <| (compare a.name b.name).then <|
    (compare a.scope b.scope).then <|
      compare (a.params.entries.flatMap fun p => [p.1, p.2])
        (b.params.entries.flatMap fun p => [p.1, p.2])

end Key

inductive Error where
  | create (key : Key) (cause : Fault)
  | start (key : Key) (cause : Fault)
  | typeMismatch (key : Key) (expected : String)

def Error.message : Error → String
  | .create key cause => "failed to create " ++ key.text ++ ": " ++ cause.message
  | .start key cause => "failed to start " ++ key.text ++ ": " ++ cause.message
  | .typeMismatch key expected => "resource " ++ key.text ++ " is not a " ++ expected

/-- A live resource with its registration number. -/
structure Entry (ρ : Type) where
  id : Nat
  key : Key
  resource : ρ

/-- A live resource as listings see it. -/
structure Snapshot where
  id : Nat
  key : Key
  info : Info

def Snapshot.descriptor (s : Snapshot) : Message.Descriptor :=
  ⟨s.key.name, s.info.image, s.info.id, s.key.scope.text⟩

end Registry

open Registry in
structure Registry (ρ : Type) where
  /-- In the order of registration. -/
  live : List (Entry ρ) := []
  /-- The keys of the resources that answered a property, in first-answer order. -/
  answered : Dict (List Key) := ∅
  nextId : Nat := 1

namespace Registry

variable {ρ σ α : Type}

def empty : Registry ρ := {}

def find? (reg : Registry ρ) (key : Key) : Option (Entry ρ) :=
  reg.live.find? fun e => e.key = key

def size (reg : Registry ρ) : Nat := reg.live.length

/-- Records that the resource under `key` was asked for by `property`. -/
def note (reg : Registry ρ) (property : String) (key : Key) : Registry ρ :=
  let keys := (reg.answered.get? property).getD []
  if key ∈ keys then reg
  else { reg with answered := reg.answered.insert property (keys ++ [key]) }

/-- Registers a started resource. -/
def add (reg : Registry ρ) (property : String) (key : Key) (resource : ρ) : Registry ρ :=
  let noted := reg.note property key
  { noted with
    live := noted.live ++ [⟨reg.nextId, key, resource⟩]
    nextId := reg.nextId + 1 }

/-- The resource under `key`, if there is one: as one of the kind, and noted as an answer to
`property` whether or not it is one. -/
def lookUp (kind : Kind ρ σ α) (property : String) (key : Key) (reg : Registry ρ) :
    Option (Except Error α) × Registry ρ :=
  match reg.find? key with
  | none => (none, reg)
  | some entry =>
    let outcome := match kind.unwrap? entry.resource with
      | some a => .ok a
      | none => .error (.typeMismatch key kind.label)
    (some outcome, reg.note property key)

/-- Makes and starts a resource for `key`; one that does not start is closed. -/
def bringUp [Held ρ σ] (kind : Kind ρ σ α) (key : Key) (make : σ → Except Fault α × σ) (world : σ) :
    Except Error α × σ :=
  match make world with
  | (.error cause, world) => (.error (.create key cause), world)
  | (.ok a, world) =>
    match kind.start a world with
    | (.error cause, a, world) => (.error (.start key cause), (Held.close (kind.wrap a) world).2)
    | (.ok (), a, world) => (.ok a, world)

/-- The resource under `key`, made by `make` and started if there is none. -/
def getOrCreate [Held ρ σ] (kind : Kind ρ σ α) (property : String) (key : Key)
    (make : σ → Except Fault α × σ) (reg : Registry ρ) (world : σ) :
    Except Error α × Registry ρ × σ :=
  match reg.lookUp kind property key with
  | (some outcome, reg) => (outcome, reg, world)
  | (none, reg) =>
    match bringUp kind key make world with
    | (.error e, world) => (.error e, reg, world)
    | (.ok a, world) => (.ok a, reg.add property key (kind.wrap a), world)

/-- Closes each of `entries`, whether or not a close fails. -/
def closeEach [Held ρ σ] (entries : List (Entry ρ)) (world : σ) : σ :=
  entries.foldl (fun world e => (Held.close e.resource world).2) world

/-- Takes the keys that `gone` picks out of every answer list and drops the lists left empty. -/
def forget (answered : Dict (List Key)) (gone : Key → Bool) : Dict (List Key) :=
  (answered.map fun keys => keys.filter fun k => !gone k).filter fun _ keys => !keys.isEmpty

/-- Takes out what lives in `scope` or below. -/
def detach (scope : Scope) (reg : Registry ρ) : List (Entry ρ) × Registry ρ :=
  let (removed, kept) := reg.live.partition fun e => scope.includes e.key.scope
  if removed.isEmpty then ([], reg)
  else
    let gone := fun k => removed.any fun e => e.key = k
    (removed, { reg with live := kept, answered := forget reg.answered gone })

/-- Takes everything out. -/
def detachAll (reg : Registry ρ) : List (Entry ρ) × Registry ρ :=
  (reg.live, { reg with live := [], answered := ∅ })

/-- What a teardown takes out. -/
inductive Target where
  | within (scope : Scope)
  | everything

/-- Whether what lives under `key` is taken out. -/
def Target.covers (key : Key) : Target → Bool
  | within scope => scope.includes key.scope
  | everything => true

def Target.takeOut (reg : Registry ρ) : Target → List (Entry ρ) × Registry ρ
  | within scope => reg.detach scope
  | everything => reg.detachAll

/-- Closes every resource in `scope` or below; says whether there was one. -/
def closeScope [Held ρ σ] (scope : Scope) (reg : Registry ρ) (world : σ) :
    Bool × Registry ρ × σ :=
  let (removed, reg) := reg.detach scope
  (!removed.isEmpty, reg, closeEach removed world)

/-- Closes every resource; says whether there was one. -/
def closeAll [Held ρ σ] (reg : Registry ρ) (world : σ) : Bool × Registry ρ × σ :=
  let (removed, reg) := reg.detachAll
  (!removed.isEmpty, reg, closeEach removed world)

/-- The live resources of a kind within `scope` that answered `property`, in first-answer order. -/
def findByProperty (kind : Kind ρ σ α) (scope : Scope) (property : String) (reg : Registry ρ) :
    List α :=
  let keys := ((reg.answered.get? property).getD []).filter fun k => scope.includes k.scope
  keys.filterMap fun k => (reg.find? k).bind fun e => kind.unwrap? e.resource

/-- The live resources within `scope`, oldest first. -/
def list [Described ρ] (scope : Scope) (reg : Registry ρ) : List Snapshot :=
  (reg.live.filter fun e => scope.includes e.key.scope).map fun e =>
    ⟨e.id, e.key, Described.info e.resource⟩

/-- The form of a registry in diagnostics. -/
def debugText (reg : Registry ρ) : String :=
  "ResourceRegistry \x7b resources: " ++ Text.ofNat reg.size ++ ", .. \x7d"

end Registry

end Testbed
