import Testbed.Rehearsal.Stage

/-!
# Scripted providers

A provider whose every part is given by tables: what it advertises and requires, and what it answers.
Its calls are written into the journal of the site.
-/

namespace Testbed.Rehearsal

/-- How a scripted provider answers a property. -/
inductive Answer where
  | pass
  | text (s : String)
  /-- The text of a required property; none if it is absent. -/
  | required (name : String)
  /-- The text of a configuration value; none if it is absent. -/
  | config (key : String)
  /-- The provider's name and the property. -/
  | signature
  | unavailable (text : String)
  | badConfig (key problem : String)
  /-- The serial number of the stand-in `name`, of the kind `label`, that is got or made. -/
  | provision (label name : String) (plan : Plan)

structure Script where
  name : String
  priority : Int := 0
  /-- Replaces the configured toggle. -/
  enabled : Option Bool := none
  lists : List String := []
  /-- A group and a suffix: each member is advertised as the group, a dot, the member and the
  suffix. -/
  members : List (String × String) := []
  groups : List String := []
  requires : Dict (List String) := ∅
  requiresAll : List String := []
  /-- A stem and a length: below that length a stem with a number requires the stem with the next
  number. -/
  chain : Option (String × Nat) := none
  /-- The beginning of the names it takes part in, where that is not what it advertises. -/
  claims : Option String := none
  answers : Dict Answer := ∅
  otherwise : Answer := .pass

namespace Script

def advertised (s : Script) (entries : EntryGroups) : List String :=
  s.lists ++ s.members.flatMap fun (group, suffix) =>
    ((entries.get? group).getD []).map fun member => group ++ "." ++ member ++ suffix

/-- The next name of the chain, if `name` stands in it and is not its last. -/
def chained (s : Script) (name : String) : List String :=
  match s.chain with
  | none => []
  | some (stem, length) =>
    match (Text.dropPrefix? stem name).bind (Text.readUnsigned? UInt64.size) with
    | some n => if n < length then [stem ++ Text.ofNat (n + 1)] else []
    | none => []

def requiredProperties (s : Script) (name : String) : List String :=
  (s.requires.get? name).getD [] ++ s.requiresAll ++ s.chained name

def canResolve (s : Script) (name : String) (entries : EntryGroups) : Bool :=
  match s.claims <|> s.chain.map Prod.fst with
  | some start => (Text.dropPrefix? start name).isSome
  | none => name ∈ s.advertised entries

variable {τ : Type} [Container.Runtime τ]

def resolve (s : Script) (name : String) (required config : Properties) (site : Cast τ) :
    Except Provider.Error (Option String) × Cast τ :=
  match (s.answers.get? name).getD s.otherwise with
  | .pass => (.ok none, site)
  | .text t => (.ok (some t), site)
  | .required dependency => (.ok ((required.get? dependency).map Value.text), site)
  | .config key => (.ok ((config.get? key).map Value.text), site)
  | .signature => (.ok (some (s.name ++ ":" ++ name)), site)
  | .unavailable text => (.error (.unavailable text), site)
  | .badConfig key problem => (.error (.config key problem), site)
  | .provision label resource plan =>
    let key := Registry.Key.ofParams s.name resource (Scope.ofProperties required)
      (required.erase Scope.propertyName)
    match getStandIn label name key plan site with
    | (.ok standIn, site) => (.ok (some ("handle-" ++ Text.ofNat standIn.serial)), site)
    | (.error cause, site) => (.error (.resource cause), site)

/-- The provider a script describes. -/
def provider (s : Script) : Provider (Cast τ) :=
  Provider.recording Site.record
    { name := s.name
      priority := s.priority
      isEnabled := fun config => s.enabled.getD (Provider.enabledIn s.name config)
      advertised := fun entries _ => s.advertised entries
      requiredGroups := s.groups
      requiredProperties := s.requiredProperties
      canResolve := fun name entries _ => s.canResolve name entries
      resolve := s.resolve }

end Script

end Testbed.Rehearsal
