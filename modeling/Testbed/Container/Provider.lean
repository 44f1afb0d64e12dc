import Testbed.Container.Block
import Testbed.Site

/-!
# The provider of configured containers

Any image becomes a resource from configuration alone. The provider advertises the properties that
the configuration's blocks name, and none when a block cannot be read; it answers one by running the
container of the first block that names it, once per block, scope and parameters.
-/

namespace Testbed.Container.Configured

def name : String := "generic"

/-- After every provider of a specific resource. -/
def priority : Int := 2147483647

def advertised (config : Properties) : List String :=
  match Block.readAll config with
  | .ok blocks => blocks.flatMap Block.names
  | .error _ => []

/-- The answer of a running container to a property that its block names: the host, or the host port
of the first port of that name. -/
def answer (b : Block) (c : Container) (property : String) :
    Except Provider.Error (Option String) :=
  if property ∈ b.hostnames then .ok (some c.host)
  else match b.ports.lookup property with
    | none => .ok none
    | some port =>
      match c.mappedPort? port with
      | some mapped => .ok (some (Text.ofNat mapped.toNat))
      | none =>
        .error (.unavailable ("container " ++ b.id ++ " does not publish port " ++
          Text.ofNat port.toNat))

variable {ρ σ : Type} [Held ρ σ]

/-- Answers `property` from the container of block `b`, run if it is not live. -/
def provision (containers : Kind ρ σ Container) (b : Block) (image property : String)
    (required : Properties) (site : Site ρ σ) :
    Except Provider.Error (Option String) × Site ρ σ :=
  let key := Registry.Key.ofParams name b.id (Scope.ofProperties required)
    (required.erase Scope.propertyName)
  match site.getOrCreate containers property key fun world => (.ok { spec := b.spec image }, world) with
  | (.error cause, site) => (.error (.resource cause), site)
  | (.ok container, site) => (answer b container property, site)

def resolve (containers : Kind ρ σ Container) (property : String) (required config : Properties)
    (site : Site ρ σ) : Except Provider.Error (Option String) × Site ρ σ :=
  match Block.readAll config with
  | .error e => (.error e, site)
  | .ok blocks =>
    match blocks.find? fun b => property ∈ b.names with
    | none => (.ok none, site)
    | some b =>
      match b.image with
      | none => (.error (.config (Block.fieldKey b.id "image-name") "missing"), site)
      | some image => provision containers b image property required site

/-- The provider, running its containers as resources of the kind given. -/
def provider (containers : Kind ρ σ Container) : Provider (Site ρ σ) where
  name
  priority
  advertised _ config := advertised config
  requiredProperties _ := [Scope.propertyName]
  resolve := resolve containers

/-- The providers that every server has. -/
def builtin (containers : Kind ρ σ Container) (serverUri : String) : List (Provider (Site ρ σ)) :=
  [.serverUri serverUri, provider containers]

end Testbed.Container.Configured
