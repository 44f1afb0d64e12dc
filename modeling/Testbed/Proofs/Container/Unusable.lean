import Testbed.Container.Provider
import Testbed.Proofs.Container.Fields
import Testbed.Proofs.Resolution.Steps
import Testbed.Rehearsal.Daemon
import Testbed.Rehearsal.Stage

/-!
# Blocks that cannot be used

A configuration fails the provider of configured containers where one of its blocks cannot be read, whatever is asked,
and where the block that names what is asked has no image. Of the first an engine shows nothing: the provider advertises
no property then, so it is not asked and the request goes unanswered. The second becomes the error of the request,
unless the scope, which the provider wants to know first, is itself named by a block and has no value.
-/

namespace Testbed.Container.Configured

open Resolution

variable {ρ σ : Type} [Held ρ σ] {containers : Kind ρ σ Container} {properties config required : Properties}
  {name serverUri key problem : String} {s t : Site ρ σ} {blocks : List Block} {b : Block}
  {ctx : Context (Site ρ σ)} {ask : String → Run (Site ρ σ) (Option String)}

/-! ### The provider itself -/

/-- The block that names a property has no image. -/
structure LacksImage (config : Properties) (name : String) (b : Block) : Prop where
  named : ∃ blocks, Block.readAll config = .ok blocks ∧ blocks.find? (fun b => name ∈ b.names) = some b
  image : b.image = none

/-- What is wrong with a block without an image. -/
def missingImage (b : Block) : Provider.Error := .config (Block.fieldKey b.id "image-name") "missing"

theorem resolve_of_lacksImage (h : LacksImage config name b) :
    resolve containers name required config s = (.error (missingImage b), s) := by
  obtain ⟨⟨blocks, hread, hfind⟩, himage⟩ := h
  simp only [resolve, hread, hfind, himage, missingImage]

theorem answer_ne_config (b : Block) (c : Container) (property key problem : String) :
    answer b c property ≠ .error (.config key problem) := by
  rw [answer]
  split
  · nofun
  split
  · nofun
  split <;> nofun

theorem resolve_eq_config_error (h : resolve containers name required config s = (.error (.config key problem), t)) :
    Block.readAll config = .error (.config key problem) ∨
      ∃ b, LacksImage config name b ∧ missingImage b = .config key problem := by
  rw [resolve] at h
  split at h
  · rename_i e hread
    cases h
    exact .inl hread
  rename_i blocks hread
  split at h
  · cases h
  rename_i b hfind
  split at h
  · rename_i himage
    cases h
    exact .inr ⟨b, ⟨⟨blocks, hread, hfind⟩, himage⟩, rfl⟩
  · rename_i image himage
    simp only [provision] at h
    split at h
    · cases h
    · exact absurd (congrArg Prod.fst h) (answer_ne_config _ _ _ _ _)

/-- The provider itself complains of the configuration where a block cannot be read, and of a block without an image. -/
theorem exists_config_error_iff (containers : Kind ρ σ Container) (required : Properties) (s : Site ρ σ) :
    (∃ key problem, (resolve containers name required config s).1 = .error (.config key problem)) ↔
      (∃ e, Block.readAll config = .error e) ∨ ∃ b, LacksImage config name b := by
  constructor
  · rintro ⟨key, problem, h⟩
    rcases resolve_eq_config_error (Prod.ext h rfl) with hread | ⟨b, hlacks, -⟩
    · exact .inl ⟨_, hread⟩
    · exact .inr ⟨b, hlacks⟩
  · rintro (⟨e, hread⟩ | ⟨b, hlacks⟩)
    · obtain ⟨id, -, field, problem, rfl⟩ := Block.exists_field_of_readAll hread
      exact ⟨Block.fieldKey id field, problem, by simp only [resolve, hread]⟩
    · exact ⟨_, _, congrArg Prod.fst (resolve_of_lacksImage hlacks)⟩

theorem mem_advertised : name ∈ advertised config ↔
    ∃ blocks, Block.readAll config = .ok blocks ∧ ∃ b ∈ blocks, name ∈ b.names := by
  rw [advertised]
  cases Block.readAll config <;> simp

theorem LacksImage.mem_advertised (h : LacksImage config name b) : name ∈ advertised config := by
  obtain ⟨blocks, hread, hfind⟩ := h.named
  have hnamed : name ∈ b.names := by simpa using List.find?_some hfind
  exact Configured.mem_advertised.2 ⟨blocks, hread, b, List.mem_of_find?_eq_some hfind, hnamed⟩

/-! ### The engine -/

theorem ofProviders_builtin :
    Engine.ofProviders (builtin containers serverUri) = ⟨builtin containers serverUri⟩ := by
  have hsorted : (0 : Int) ≤ priority := by decide
  rw [Engine.ofProviders, List.mergeSort_of_pairwise]
  simpa [builtin, Provider.serverUri, provider] using hsorted

/-- The server's own address is not asked for, or not given. -/
def IsLeft (config : Properties) (name : String) : Prop :=
  Provider.enabledIn "server-uri" config = false ∨ name ≠ Provider.serverUriProperty

section
variable (hctx : ctx = (Engine.ofProviders (builtin containers serverUri)).context properties config)
include hctx

theorem canResolve_iff : (provider containers).canResolve name ctx.entries ctx.config = true ↔
    name ∈ advertised (sanitize config) := by
  rw [hctx]
  exact decide_eq_true_iff

theorem firstAnswer_of_isLeft (henabled : Provider.enabledIn Configured.name (sanitize config) = true)
    (hleft : IsLeft (sanitize config) name) :
    firstAnswer ctx ask name ctx.providers = firstAnswer ctx ask name [provider containers] := by
  have hproviders : ctx.providers = (builtin containers serverUri).filter fun p => p.isEnabled (sanitize config) := by
    rw [hctx, ofProviders_builtin]
    rfl
  have hcontainers : (provider containers).isEnabled (sanitize config) = true := henabled
  cases huri : (Provider.serverUri serverUri : Provider (Site ρ σ)).isEnabled (sanitize config) with
  | false => simp [hproviders, builtin, huri, hcontainers]
  | true =>
    have hname : name ≠ Provider.serverUriProperty :=
      hleft.resolve_left fun hoff => Bool.noConfusion (huri.symm.trans hoff)
    have hskip : (Provider.serverUri serverUri : Provider (Site ρ σ)).canResolve name ctx.entries ctx.config =
        false := by
      simp [Provider.serverUri, hname]
    simp [hproviders, builtin, huri, hcontainers, firstAnswer_skip hskip]

theorem run_unoffered (henabled : Provider.enabledIn Configured.name (sanitize config) = true)
    (hleft : IsLeft (sanitize config) name) (hnot : name ∉ advertised (sanitize config)) :
    (firstAnswer ctx ask name ctx.providers).run s = (.ok none, s) := by
  have hskip : (provider containers).canResolve name ctx.entries ctx.config = false := by
    rw [← Bool.not_eq_true, canResolve_iff hctx]
    exact hnot
  rw [firstAnswer_of_isLeft hctx henabled hleft, firstAnswer_skip hskip]
  rfl

theorem run_offered {r : Except Error (Option String)}
    (henabled : Provider.enabledIn Configured.name (sanitize config) = true)
    (hleft : IsLeft (sanitize config) name) (hoffered : name ∈ advertised (sanitize config))
    (hrequest : (request ctx ask (provider containers) name).run s = (r, t)) (hr : r ≠ .ok none) :
    (firstAnswer ctx ask name ctx.providers).run s = (r, t) := by
  rw [firstAnswer_of_isLeft hctx henabled hleft]
  exact run_firstAnswer_decided ((canResolve_iff hctx).2 hoffered) hrequest hr

/-- The scope is asked for by name where the environment does not know it, and a block may name it: whoever asks for the
scope of that block comes back to it. -/
theorem run_scope (henabled : Provider.enabledIn Configured.name (sanitize config) = true)
    (hunknown : ctx.env.property Scope.propertyName = none) (hne : name ≠ Scope.propertyName) (depth : Nat) :
    (resolveWithin ctx (depth + 1) [name] Scope.propertyName).run s =
      if Scope.propertyName ∈ advertised (sanitize config) then
        (.error (.cycle [name, Scope.propertyName, Scope.propertyName]), s)
      else (.ok none, s) := by
  have hleft : IsLeft (sanitize config) Scope.propertyName := .inr (by decide)
  rw [resolveWithin_succ (by simpa using hne.symm)]
  split
  · rename_i hoffered
    refine run_offered hctx henabled hleft hoffered (run_request_unsettled (run_settle_failed hunknown ?_)) nofun
    exact run_resolveWithin_cycle (by simp)
  · rename_i hnot
    exact run_unoffered hctx henabled hleft hnot

/-- The scope of a request can be settled: its value is known, or it has none and no block claims to give it one. -/
def ScopeSettles (env : Environment) (config : Properties) : Prop :=
  (env.property Scope.propertyName).isSome ∨ Scope.propertyName ∉ advertised config

/-- The names that lead from a name to the scope and back to it. -/
def scopeCycle (name : String) : List String :=
  if name = Scope.propertyName then [name, name] else [name, Scope.propertyName, Scope.propertyName]

theorem run_request_of_lacksImage (henabled : Provider.enabledIn Configured.name (sanitize config) = true)
    (hlacks : LacksImage (sanitize config) name b) (depth : Nat) :
    (ScopeSettles ctx.env (sanitize config) →
      (request ctx (resolveWithin ctx (depth + 1) [name]) (provider containers) name).run s =
        (.error (.provider Configured.name name (missingImage b)), s)) ∧
    (¬ScopeSettles ctx.env (sanitize config) →
      (request ctx (resolveWithin ctx (depth + 1) [name]) (provider containers) name).run s =
        (.error (.cycle (scopeCycle name)), s)) := by
  have hconfig : ctx.config = sanitize config := by rw [hctx]; rfl
  -- however the requirement comes out, the provider itself fails in the same way
  have hfailed {required : Properties} : (consult (provider containers) name required ctx.config).run s =
      (.error (.provider Configured.name name (missingImage b)), s) :=
    hconfig ▸ run_consult_error (resolve_of_lacksImage hlacks)
  refine ⟨fun hsettles => ?_, fun hopen => ?_⟩
  · obtain ⟨required, hrequired⟩ : ∃ required, (settle ctx.env (resolveWithin ctx (depth + 1) [name])
        [Scope.propertyName] ∅).run s = (.ok required, s) := by
      cases hscope : ctx.env.property Scope.propertyName with
      | some v => exact ⟨_, by rw [settle_known hscope]; rfl⟩
      | none =>
        have hnot : Scope.propertyName ∉ advertised (sanitize config) := hsettles.resolve_left (by simp [hscope])
        have hne : name ≠ Scope.propertyName := fun hsame => hnot (hsame ▸ hlacks.mem_advertised)
        have hasked := run_scope (s := s) hctx henabled hscope hne depth
        rw [if_neg hnot] at hasked
        exact ⟨_, (run_settle_unanswered hscope hasked).trans rfl⟩
    rw [run_request_settled hrequired, hfailed]
  · obtain ⟨hunknown, hoffered⟩ := not_or.1 hopen
    have hunknown : ctx.env.property Scope.propertyName = none := by simpa using hunknown
    have hoffered : Scope.propertyName ∈ advertised (sanitize config) := Decidable.not_not.1 hoffered
    refine run_request_unsettled (run_settle_failed hunknown ?_)
    by_cases hname : name = Scope.propertyName
    · rw [scopeCycle, if_pos hname]
      subst hname
      exact run_resolveWithin_cycle (by simp)
    · rw [run_scope hctx henabled hunknown hname, if_pos hoffered, scopeCycle, if_neg hname]

end

/-- A configuration error of the provider itself, asked on its own, and what an engine over the built-in providers makes
of it. -/
theorem resolve_of_config_error (containers : Kind ρ σ Container) (serverUri : String)
    (properties config : Properties) (name : String)
    (henabled : Provider.enabledIn Configured.name (sanitize config) = true)
    (hleft : IsLeft (sanitize config) name) (required : Properties) (site after : Site ρ σ) (key problem : String)
    (hfails : resolve containers name required (sanitize config) site = (.error (.config key problem), after))
    (s : Site ρ σ) :
    ((∃ e, Block.readAll (sanitize config) = .error e) →
      ((Engine.ofProviders (builtin containers serverUri)).resolve name properties config).run s = (.ok none, s)) ∧
    ((∃ blocks, Block.readAll (sanitize config) = .ok blocks) →
      (ScopeSettles (Engine.environment properties config) (sanitize config) →
        ((Engine.ofProviders (builtin containers serverUri)).resolve name properties config).run s =
          (.error (.provider Configured.name name (.config key problem)), s)) ∧
      (¬ScopeSettles (Engine.environment properties config) (sanitize config) →
        ((Engine.ofProviders (builtin containers serverUri)).resolve name properties config).run s =
          (.error (.cycle (scopeCycle name)), s))) := by
  generalize hctx : (Engine.ofProviders (builtin containers serverUri)).context properties config = ctx
  have henv : Engine.environment properties config = ctx.env := by rw [← hctx]; rfl
  have hresolve : (Engine.ofProviders (builtin containers serverUri)).resolve name properties config =
      firstAnswer ctx (resolveWithin ctx 31 [name]) name ctx.providers := by
    rw [Engine.resolve, hctx, maxDepth, resolveWithin_succ (by simp)]
    rfl
  rw [hresolve, henv]
  rcases resolve_eq_config_error hfails with hread | ⟨b, hlacks, hmissing⟩
  · refine ⟨fun _ => ?_, fun ⟨blocks, hblocks⟩ => ?_⟩
    · refine run_unoffered hctx.symm henabled hleft ?_
      rw [mem_advertised, hread]
      simp
    · cases hread.symm.trans hblocks
  · have hoffered := hlacks.mem_advertised
    obtain ⟨hsettles, hopen⟩ := run_request_of_lacksImage (s := s) hctx.symm henabled hlacks 30
    rw [hmissing] at hsettles
    refine ⟨fun ⟨e, he⟩ => ?_, fun _ => ⟨fun h => ?_, fun h => ?_⟩⟩
    · obtain ⟨blocks, hblocks, -⟩ := hlacks.named
      cases hblocks.symm.trans he
    · exact run_offered hctx.symm henabled hleft hoffered (hsettles h) nofun
    · exact run_offered hctx.symm henabled hleft hoffered (hopen h) nofun

open Rehearsal

/-- A block that names its host and has no image. -/
def imageless : Properties := Dict.empty.insert "containers.x.hostnames" (.string "x.host")

/-- A block with a port that is none. -/
def portless : Properties :=
  Dict.empty.insert "containers.x.exposed-ports" (.map [(.string "x.port", .int 70000)])

def idle : Cast Daemon := { world := { runtime := {} } }

theorem resolve_imageless :
    ((Engine.ofProviders (builtin Player.containers "http://localhost:1")).resolve "x.host" ∅ imageless).run idle =
      (.error (.provider Configured.name "x.host" (.config "containers.x.image-name" "missing")), idle) := by
  have hread : ∃ blocks, Block.readAll (sanitize imageless) = .ok blocks := ⟨_, rfl⟩
  have hfails : resolve Player.containers "x.host" ∅ (sanitize imageless) idle =
      (.error (.config "containers.x.image-name" "missing"), idle) := rfl
  have hsettles : ScopeSettles (Engine.environment ∅ imageless) (sanitize imageless) := .inr (by decide)
  have hresult := resolve_of_config_error Player.containers "http://localhost:1" ∅ imageless "x.host" rfl
    (.inr (by decide)) ∅ idle idle _ _ hfails idle
  exact (hresult.2 hread).1 hsettles

theorem resolve_portless :
    (resolve Player.containers "x.port" ∅ (sanitize portless) idle).1 =
      .error (.config "containers.x.exposed-ports" "expected a port number, got 70000") ∧
    Provider.enabledIn Configured.name (sanitize portless) = true ∧ IsLeft (sanitize portless) "x.port" ∧
    (((Engine.ofProviders (builtin Player.containers "http://localhost:1")).resolve "x.port" ∅ portless).run idle).1 =
      .ok none := by
  refine ⟨rfl, rfl, .inr (by decide), ?_⟩
  rw [ofProviders_builtin]
  rfl

end Testbed.Container.Configured
