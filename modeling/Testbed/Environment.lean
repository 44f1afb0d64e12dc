import Testbed.Value
import Testbed.Text.Split

/-!
# The property environment

What is known when a request is resolved: values by name, and the members of entry groups. An
environment over a property map takes the members of a group from the keys of a map stored under the
group's name and from the properties whose names continue it.
-/

namespace Testbed

/-- Adds `name` at the end unless it is empty or already there. -/
def addMember (members : List String) (name : String) : List String :=
  if name = "" ∨ name ∈ members then members else members ++ [name]

structure Environment where
  /-- The value of a property; a null value is none. -/
  property : String → Option Value
  /-- The members of an entry group in first-seen order. -/
  members : String → List String

namespace Environment

/-- The text keys of the map stored under `group`. -/
def storedMembers (properties : Properties) (group : String) : List String :=
  match properties.get? group with
  | some (.map pairs) => pairs.filterMap fun p => p.1.string?
  | _ => []

/-- The segments that follow `group` and a dot in the names of properties. -/
def continuedMembers (properties : Properties) (group : String) : List String :=
  properties.keys.filterMap fun name =>
    (Text.dropPrefix? (group ++ ".") name).map (Text.upTo '.')

def ofProperties (properties : Properties) : Environment where
  property name := (properties.get? name).bind Value.nonNull?
  members group :=
    (storedMembers properties group ++ continuedMembers properties group).foldl addMember []

/-- The members of each of `groups`. -/
def entries (env : Environment) (groups : List String) : EntryGroups :=
  Dict.ofList (groups.map fun g => (g, env.members g))

theorem get?_entries (env : Environment) (groups : List String) (group : String) :
    (env.entries groups).get? group = if group ∈ groups then some (env.members group) else none := by
  induction groups with
  | nil => rfl
  | cons first groups ih =>
    have hcons : (env.entries (first :: groups)).get? group = ((env.entries groups).get? group).or
        (if group = first then some (env.members first) else none) := Assoc.get?_ofList_cons ..
    rw [hcons, ih]
    by_cases hm : group ∈ groups
    · simp [hm]
    · by_cases hf : group = first
      · subst hf; simp [hm]
      · simp [hm, hf]

theorem members_congr {a b : Properties} {group : String}
    (h : ∀ name, (name = group ∨ ∃ rest, name = group ++ "." ++ rest) → a.get? name = b.get? name) :
    (ofProperties a).members group = (ofProperties b).members group := by
  have hstored : storedMembers a group = storedMembers b group := by
    rw [storedMembers, storedMembers, h group (.inl rfl)]
  have hcontinued : continuedMembers a group = continuedMembers b group := by
    refine Dict.filterMap_keys_congr fun name hname => h name (.inr ?_)
    rw [Option.isSome_map] at hname
    obtain ⟨rest, hrest⟩ := Option.isSome_iff_exists.1 hname
    exact ⟨rest, Text.dropPrefix?_eq_some.1 hrest⟩
  simp only [ofProperties, hstored, hcontinued]

end Environment

end Testbed
