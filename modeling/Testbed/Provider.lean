import Testbed.Registry
import Testbed.Environment
import Testbed.Text.Blank

/-!
# Providers

A provider answers some properties, and may provision a resource for an answer. It says what it can
answer without side effects; only `resolve` acts on the state `σ`.
-/

namespace Testbed

namespace Provider

/-- Why a provider fails on a property it takes part in. -/
inductive Error where
  | resource (cause : Registry.Error)
  /-- The configuration under `key` cannot be used. -/
  | config (key : String) (problem : String)
  | unavailable (text : String)

def Error.message : Error → String
  | .resource cause => cause.message
  | .config key problem => "configuration " ++ key ++ ": " ++ problem
  | .unavailable text => text

/-- Whether the configuration leaves the provider `name` on: absent and null do, a string does if it
is `true` in any case. -/
def enabledIn (name : String) (config : Properties) : Bool :=
  match config.get? (name ++ ".enabled") with
  | some (.bool b) => b
  | some (.string s) => (Text.trimChars s.toList).map Char.toLower == "true".toList
  | _ => true

end Provider

structure Provider (σ : Type) where
  name : String
  /-- Lower values are tried first. -/
  priority : Int := 0
  isEnabled : Properties → Bool := Provider.enabledIn name
  /-- The properties it can answer, given the members of its entry groups. -/
  advertised : EntryGroups → Properties → List String
  /-- The entry groups it wants enumerated. -/
  requiredGroups : List String := []
  /-- The properties it wants known before it resolves one. -/
  requiredProperties : String → List String := fun _ => []
  canResolve : String → EntryGroups → Properties → Bool :=
    fun name entries config => name ∈ advertised entries config
  /-- Answers a property from the required ones and the configuration; `none` passes it on. -/
  resolve : String → Properties → Properties → σ → Except Provider.Error (Option String) × σ

namespace Provider

variable {σ : Type}

/-- A call of a provider's `resolve`. -/
structure Call where
  provider : String
  property : String
  required : Properties

/-- The provider with its calls of `resolve` written down by `record`. -/
def recording (record : Call → σ → σ) (p : Provider σ) : Provider σ :=
  { p with
    resolve := fun name required config s =>
      p.resolve name required config (record ⟨p.name, name, required⟩ s) }

/-- The property under which the server's own address is known. -/
def serverUriProperty : String := "test-resources.server.uri"

/-- Answers the address of the server itself. -/
def serverUri (uri : String) : Provider σ where
  name := "server-uri"
  advertised _ _ := [serverUriProperty]
  resolve name _ _ s := (.ok (if name = serverUriProperty then some uri else none), s)

end Provider

end Testbed
