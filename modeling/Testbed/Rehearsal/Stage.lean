import Testbed.Container
import Testbed.Rehearsal.StandIn
import Testbed.Site

/-!
# A stage for containers and stand-ins

Resources of both sorts in one registry, over a container runtime and a ledger of stand-ins.
-/

namespace Testbed.Rehearsal

inductive Player where
  | container (c : Container)
  /-- A stand-in of the kind `label`. -/
  | standIn (label : String) (s : StandIn)

structure Stage (τ : Type) where
  runtime : τ
  ledger : Ledger := {}

variable {τ : Type} [Container.Runtime τ]

namespace Player

def info : Player → Info
  | container c => c.info
  | standIn _ s => s.info

instance : Described Player := ⟨info⟩

instance : Held Player (Stage τ) where
  close
    | container c, stage =>
      let (outcome, _, runtime) := c.close stage.runtime
      (outcome, { stage with runtime })
    | standIn _ s, stage =>
      let (outcome, ledger) := stage.ledger.close s
      (outcome, { stage with ledger })

/-- Containers among the players. -/
def containers : Kind Player (Stage τ) Container where
  label := "DockerContainer"
  wrap := container
  unwrap?
    | container c => some c
    | standIn _ _ => none
  unwrap?_wrap _ := rfl
  wrap_of_unwrap? {r _} h := by cases r <;> simp_all
  start c stage :=
    let (outcome, c, runtime) := c.start stage.runtime
    (outcome, c, { stage with runtime })

/-- The stand-ins of one kind among the players. -/
def standIns (label : String) : Kind Player (Stage τ) StandIn where
  label
  wrap := standIn label
  unwrap?
    | container _ => none
    | standIn l s => if l = label then some s else none
  unwrap?_wrap _ := by simp
  wrap_of_unwrap? {r _} h := by cases r <;> simp_all
  start s stage :=
    let (outcome, ledger) := stage.ledger.start s
    (outcome, s, { stage with ledger })

end Player

/-- The state of a rehearsal. -/
abbrev Cast (τ : Type) := Site Player (Stage τ)

/-- Makes a stand-in as planned. -/
def makeStandIn (plan : Plan) (stage : Stage τ) : Except Fault StandIn × Stage τ :=
  let (outcome, ledger) := stage.ledger.make plan
  (outcome, { stage with ledger })

/-- Gets the stand-in of the kind `label` under `key`, made as planned if there is none. -/
def getStandIn (label property : String) (key : Registry.Key) (plan : Plan) (s : Cast τ) :
    Except Registry.Error StandIn × Cast τ :=
  s.getOrCreate (Player.standIns label) property key (makeStandIn plan)

/-- `getStandIn` for so many callers at the same time. -/
def getStandIns (callers : Nat) (label property : String) (key : Registry.Key) (plan : Plan)
    (s : Cast τ) : List (Except Registry.Error StandIn) × Cast τ :=
  let call : Registry.Creation Player (Stage τ) fun _ : Unit => StandIn :=
    ⟨(), Player.standIns label, property, key, makeStandIn plan⟩
  let (outcomes, s) := s.createTogether (List.replicate callers call)
  (outcomes.map (·.2), s)

end Testbed.Rehearsal
