import Testbed.Registry

/-!
# A registry shared by concurrent callers

Callers that get or create resources and callers that tear them down work on one registry at a time
of their own choosing. Each goes through its phases in order, and any of them may be the next to take
a step; a step that has to wait for a lock is not taken.

There are three sorts of locks. The lifecycle lock is held by any number of creations or by one
teardown. A key lock is held from the look-up of a key to the registration of its resource. The
guard protects the table of key locks: a lock is made for the first creation of a key and taken out
of the table by the last one that refers to it. Which locks are held follows from the phases of the
callers, so it is no state of its own.
-/

namespace Testbed.Registry

/-- A call that gets the resource under a key, or makes it. Calls of one run may be for resources of
different types; `sort` says which of the types `α` a call is for. -/
structure Creation (ρ σ : Type) {ι : Type} (α : ι → Type) where
  sort : ι
  kind : Kind ρ σ (α sort)
  property : String
  key : Key
  make : σ → Except Fault (α sort) × σ

/-- How far a creation has come; `lock` is the number of the lock of its key. -/
inductive Creation.Phase (α : Type) where
  | waiting
  /-- It holds the lifecycle lock, up to `released`. -/
  | entered
  /-- It refers to the lock of its key, up to `unguarded`. -/
  | fetched (lock : Nat)
  /-- It holds the lock of its key, up to `settled`. -/
  | locked (lock : Nat)
  /-- There is no resource under its key. -/
  | missed (lock : Nat)
  | started (lock : Nat) (a : α)
  | settled (lock : Nat) (outcome : Except Error α)
  | unlocked (lock : Nat) (outcome : Except Error α)
  /-- It holds the guard, up to `compared`. -/
  | guarding (lock : Nat) (outcome : Except Error α)
  | compared (lock : Nat) (outcome : Except Error α)
  | unguarded (lock : Nat) (outcome : Except Error α)
  | released (outcome : Except Error α)
  | done (outcome : Except Error α)

namespace Creation.Phase

variable {α : Type}

def isInside : Phase α → Bool
  | waiting | done _ => false
  | _ => true

/-- The key lock it refers to. -/
def refersTo? : Phase α → Option Nat
  | waiting | entered | released _ | done _ => none
  | fetched m | locked m | missed m | started m _ | settled m _ | unlocked m _ | guarding m _
  | compared m _ | unguarded m _ => some m

/-- The key lock it holds. -/
def holds? : Phase α → Option Nat
  | locked m | missed m | started m _ | settled m _ => some m
  | _ => none

def holdsGuard : Phase α → Bool
  | guarding _ _ | compared _ _ => true
  | _ => false

def outcome? : Phase α → Option (Except Error α)
  | done outcome => some outcome
  | _ => none

end Creation.Phase

/-- How far a teardown has come. -/
inductive Teardown (ρ : Type) where
  | waiting
  /-- It holds the lifecycle lock alone, up to `closed`. -/
  | entered
  | detached (removed : List (Entry ρ))
  | closed (any : Bool)
  | done (any : Bool)

def Teardown.isInside {ρ : Type} : Teardown ρ → Bool
  | waiting | done _ => false
  | _ => true

inductive Caller (ρ σ : Type) {ι : Type} (α : ι → Type) where
  | creation (call : Creation ρ σ α) (phase : Creation.Phase (α call.sort))
  | teardown (target : Target) (phase : Teardown ρ)

namespace Caller

variable {ρ σ ι : Type} {α : ι → Type}

def isTearingDown : Caller ρ σ α → Bool
  | creation _ _ => false
  | teardown _ phase => phase.isInside

/-- Whether it holds the lifecycle lock. -/
def isInside : Caller ρ σ α → Bool
  | creation _ phase => phase.isInside
  | teardown _ phase => phase.isInside

/-- The key lock it refers to. -/
def refersTo? : Caller ρ σ α → Option Nat
  | creation _ phase => phase.refersTo?
  | teardown _ _ => none

/-- The key lock it holds. -/
def holds? : Caller ρ σ α → Option Nat
  | creation _ phase => phase.holds?
  | teardown _ _ => none

def holdsGuard : Caller ρ σ α → Bool
  | creation _ phase => phase.holdsGuard
  | teardown _ _ => false

/-- The outcome of a creation that is done. -/
def outcome? : Caller ρ σ α → Option ((i : ι) × Except Error (α i))
  | creation call phase => phase.outcome?.map (Sigma.mk call.sort)
  | teardown _ _ => none

end Caller

structure Shared (ρ σ : Type) {ι : Type} (α : ι → Type) where
  registry : Registry ρ
  world : σ
  /-- The table of key locks, each lock known by a number. -/
  keyLocks : List (Key × Nat) := []
  nextLock : Nat := 0
  callers : List (Caller ρ σ α)

namespace Shared

variable {ρ σ ι : Type} {α : ι → Type}

def isTornDown (s : Shared ρ σ α) : Bool := s.callers.any Caller.isTearingDown

/-- Whether any caller holds the lifecycle lock. -/
def isBusy (s : Shared ρ σ α) : Bool := s.callers.any Caller.isInside

def isLocked (s : Shared ρ σ α) (lock : Nat) : Bool :=
  s.callers.any fun c => c.holds? = some lock

def isGuarded (s : Shared ρ σ α) : Bool := s.callers.any Caller.holdsGuard

/-- How often a key lock is referred to, by the table and by callers. -/
def references (s : Shared ρ σ α) (lock : Nat) : Nat :=
  s.keyLocks.countP (·.2 = lock) + s.callers.countP fun c => c.refersTo? = some lock

/-- The lock of `key`, a new one if it has none. -/
def fetchLock (key : Key) (s : Shared ρ σ α) : Nat × Shared ρ σ α :=
  match s.keyLocks.lookup key with
  | some lock => (lock, s)
  | none =>
    (s.nextLock,
      { s with keyLocks := s.keyLocks ++ [(key, s.nextLock)], nextLock := s.nextLock + 1 })

/-- Takes the lock of `key` out of the table if the table and one caller alone refer to it. -/
def dropLock (key : Key) (lock : Nat) (s : Shared ρ σ α) : Shared ρ σ α :=
  if s.references lock = 2 then { s with keyLocks := s.keyLocks.filter (·.1 ≠ key) } else s

/-- The next phase of a creation, unless it has to wait or is done. -/
def stepCreation [Held ρ σ] (c : Creation ρ σ α) (s : Shared ρ σ α) :
    Creation.Phase (α c.sort) → Option (Creation.Phase (α c.sort) × Shared ρ σ α)
  | .waiting => if s.isTornDown then none else some (.entered, s)
  | .entered =>
    if s.isGuarded then none
    else
      let (lock, s) := s.fetchLock c.key
      some (.fetched lock, s)
  | .fetched lock => if s.isLocked lock then none else some (.locked lock, s)
  | .locked lock =>
    match s.registry.lookUp c.kind c.property c.key with
    | (some outcome, registry) => some (.settled lock outcome, { s with registry })
    | (none, registry) => some (.missed lock, { s with registry })
  | .missed lock =>
    match bringUp c.kind c.key c.make s.world with
    | (.error e, world) => some (.settled lock (.error e), { s with world })
    | (.ok a, world) => some (.started lock a, { s with world })
  | .started lock a =>
    some (.settled lock (.ok a),
      { s with registry := s.registry.add c.property c.key (c.kind.wrap a) })
  | .settled lock outcome => some (.unlocked lock outcome, s)
  | .unlocked lock outcome => if s.isGuarded then none else some (.guarding lock outcome, s)
  | .guarding lock outcome => some (.compared lock outcome, s.dropLock c.key lock)
  | .compared lock outcome => some (.unguarded lock outcome, s)
  | .unguarded _ outcome => some (.released outcome, s)
  | .released outcome => some (.done outcome, s)
  | .done _ => none

/-- The next phase of a teardown, unless it has to wait or is done. -/
def stepTeardown [Held ρ σ] (target : Target) (s : Shared ρ σ α) :
    Teardown ρ → Option (Teardown ρ × Shared ρ σ α)
  | .waiting => if s.isBusy then none else some (.entered, s)
  | .entered =>
    let (removed, registry) := target.takeOut s.registry
    some (.detached removed, { s with registry })
  | .detached removed =>
    some (.closed (!removed.isEmpty), { s with world := closeEach removed s.world })
  | .closed any => some (.done any, s)
  | .done _ => none

/-- A step of caller number `i`, unless it has to wait or is done. -/
def step? [Held ρ σ] (i : Nat) (s : Shared ρ σ α) : Option (Shared ρ σ α) :=
  match s.callers[i]? with
  | none => none
  | some (.creation c phase) =>
    (s.stepCreation c phase).map fun (phase, t) =>
      { t with callers := t.callers.set i (.creation c phase) }
  | some (.teardown target phase) =>
    (s.stepTeardown target phase).map fun (phase, t) =>
      { t with callers := t.callers.set i (.teardown target phase) }

/-- Steps in the order of `turns`; a turn of a caller that has to wait or is done passes. -/
def run [Held ρ σ] (turns : List Nat) (s : Shared ρ σ α) : Shared ρ σ α :=
  turns.foldl (fun s i => (s.step? i).getD s) s

/-- The number of steps of a creation. -/
def creationSteps : Nat := 12

/-- All callers in turn, round after round. With creations only, every round before the last caller
is done brings one of them a step further, so this many rounds end them all. -/
def rounds (callers : Nat) : List Nat :=
  (List.replicate (callers * creationSteps) (List.range callers)).flatten

/-- The outcomes of the creations that are done. -/
def outcomes (s : Shared ρ σ α) : List ((i : ι) × Except Error (α i)) :=
  s.callers.filterMap Caller.outcome?

@[simp] theorem run_nil [Held ρ σ] (s : Shared ρ σ α) : s.run [] = s := rfl

theorem run_cons [Held ρ σ] (i : Nat) (turns : List Nat) (s : Shared ρ σ α) :
    s.run (i :: turns) = ((s.step? i).getD s).run turns := rfl

theorem run_append [Held ρ σ] (as bs : List Nat) (s : Shared ρ σ α) :
    s.run (as ++ bs) = (s.run as).run bs := List.foldl_append

end Shared

/-- The outcomes of `calls` made at the same time. -/
def createTogether {ρ σ ι : Type} {α : ι → Type} [Held ρ σ] (calls : List (Creation ρ σ α))
    (reg : Registry ρ) (world : σ) : List ((i : ι) × Except Error (α i)) × Registry ρ × σ :=
  let shared : Shared ρ σ α :=
    { registry := reg, world, callers := calls.map fun c => .creation c .waiting }
  let shared := shared.run (Shared.rounds calls.length)
  (shared.outcomes, shared.registry, shared.world)

end Testbed.Registry
