import Testbed.Provider
import Testbed.Registry.Shared

/-!
# The state of a running server

A site is the registry with the world its resources act on, and a journal of provider calls. It is
the state that providers change when they resolve.
-/

namespace Testbed

structure Site (ρ σ : Type) where
  registry : Registry ρ := {}
  world : σ
  /-- The calls that recording providers made, oldest first. -/
  calls : List Provider.Call := []

namespace Site

variable {ρ σ : Type}

def getOrCreate {α : Type} [Held ρ σ] (kind : Kind ρ σ α) (property : String) (key : Registry.Key)
    (make : σ → Except Fault α × σ) (s : Site ρ σ) : Except Registry.Error α × Site ρ σ :=
  let (outcome, registry, world) := s.registry.getOrCreate kind property key make s.world
  (outcome, { s with registry, world })

def createTogether {ι : Type} {α : ι → Type} [Held ρ σ] (calls : List (Registry.Creation ρ σ α))
    (s : Site ρ σ) : List ((i : ι) × Except Registry.Error (α i)) × Site ρ σ :=
  let (outcomes, registry, world) := Registry.createTogether calls s.registry s.world
  (outcomes, { s with registry, world })

def closeScope [Held ρ σ] (scope : Scope) (s : Site ρ σ) : Bool × Site ρ σ :=
  let (any, registry, world) := s.registry.closeScope scope s.world
  (any, { s with registry, world })

def closeAll [Held ρ σ] (s : Site ρ σ) : Bool × Site ρ σ :=
  let (any, registry, world) := s.registry.closeAll s.world
  (any, { s with registry, world })

def descriptors [Described ρ] (scope : Scope) (s : Site ρ σ) : List Message.Descriptor :=
  (s.registry.list scope).map Registry.Snapshot.descriptor

def record (call : Provider.Call) (s : Site ρ σ) : Site ρ σ :=
  { s with calls := s.calls ++ [call] }

end Site

end Testbed
