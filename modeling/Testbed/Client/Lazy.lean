import Testbed.Client

/-!
# Placeholders

A client may give out a placeholder for every property its server can resolve, and have one resolved
only when it is used. What a property requires is looked up in the client's own environment and sent
along.
-/

namespace Testbed.Client

/-- What placeholders begin with inside their wrapper. -/
def placeholderStem : String := "auto.test.resources."

def placeholder (key : String) : String := "$\x7b" ++ placeholderStem ++ key ++ "\x7d"

/-- What stands inside the wrapper, or all of it if the wrapper is not whole. -/
def unwrapped (expression : String) : String :=
  match (Text.dropPrefix? "$\x7b" expression).map String.toList with
  | some cs => if cs.getLast? = some '\x7d' then String.ofList cs.dropLast else expression
  | none => expression

/-- The key of a placeholder with or without its wrapper. -/
def placeholderKey? (expression : String) : Option String :=
  (Text.dropPrefix? placeholderStem (unwrapped expression)).filter (· ≠ "")

/-- A placeholder for each name that can be resolved. -/
structure Placeholders where
  byName : Dict String

variable {σ : Type} (c : Client) (send : Transport σ)

/-- Asks which names can be resolved, given the members that `env` has of each group. -/
def loadPlaceholders (env : Environment) (config : Properties) : Call σ Placeholders := do
  let groups ← c.requiredGroups send
  let names ← c.list send (env.entries groups) (Resolution.sanitize config)
  return ⟨Dict.ofList (names.map fun name => (name, placeholder name))⟩

/-- The values that `env` has among `names`. -/
def known (env : Environment) (names : List String) : Properties :=
  Dict.ofList (names.filterMap fun name => (env.property name).map fun value => (name, value))

/-- Resolves a placeholder; anything else has no value and is not asked for. -/
def resolvePlaceholder (env : Environment) (config : Properties) (expression : String) :
    Call σ (Option String) :=
  match placeholderKey? expression with
  | none => pure none
  | some key => do
    let names ← c.requiredProperties send key
    c.resolve send key (known env names) (Resolution.sanitize config)

/-- Resolves placeholders in turn; fails with the first that fails. -/
def resolvePlaceholders (env : Environment) (config : Properties) (expressions : List String) :
    Call σ (List (Option String)) :=
  expressions.mapM (c.resolvePlaceholder send env config)

end Testbed.Client
