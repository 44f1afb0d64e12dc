import Testbed.Proofs.Resolution.Comparison
import Testbed.Proofs.Registry.Views
import Testbed.Container.Provider
import Testbed.Rehearsal.Daemon
import Testbed.Rehearsal.Stage

/-!
# A request done over

A provider that follows a recipe (`Provider.Recipe`) gets resources from the registry, goes on with what they
are, and fails where it is refused one. A request to such providers that was answered has got every resource
it asked for. What it leaves keeps all of them and lists each under its property, so the same request finds
every one and notes nothing new, at whatever depth of requirements it was asked for (`resolve_again`).
-/

namespace Testbed

variable {ρ σ α β : Type}

namespace Registry

variable {reg reg' reg'' : Registry ρ} {kind : Kind ρ σ α} {property : String} {key : Key} {a : α}

/-- What `reg` finds and lists, `reg'` finds and lists. -/
structure Keeps (reg reg' : Registry ρ) : Prop where
  found {key : Key} {e : Entry ρ} (h : reg.find? key = some e) : reg'.find? key = some e
  listed {property : String} {key : Key} (h : key ∈ reg.listed property) : key ∈ reg'.listed property

theorem Keeps.refl (reg : Registry ρ) : reg.Keeps reg := ⟨id, id⟩

theorem Keeps.trans (h : reg.Keeps reg') (h' : reg'.Keeps reg'') : reg.Keeps reg'' :=
  ⟨fun hf => h'.found (h.found hf), fun hl => h'.listed (h.listed hl)⟩

theorem keeps_note (reg : Registry ρ) (property : String) (key : Key) : reg.Keeps (reg.note property key) where
  found hf := by rwa [find?_note]
  listed hl := mem_listed_note.2 (.inl hl)

theorem keeps_add (reg : Registry ρ) (property : String) (key : Key) (r : ρ) :
    reg.Keeps (reg.add property key r) where
  found hf := by rw [find?_add, hf]; rfl
  listed hl := by rw [listed_add]; exact mem_listed_note.2 (.inl hl)

/-- The resource under `key` is `a`, and it has answered `property`. -/
def Has (reg : Registry ρ) (kind : Kind ρ σ α) (property : String) (key : Key) (a : α) : Prop :=
  (∃ e, reg.find? key = some e ∧ kind.unwrap? e.resource = some a) ∧ key ∈ reg.listed property

theorem Has.keeps (h : reg.Has kind property key a) (hk : reg.Keeps reg') : reg'.Has kind property key a := by
  obtain ⟨⟨e, hf, ha⟩, hl⟩ := h
  exact ⟨⟨e, hk.found hf, ha⟩, hk.listed hl⟩

section
variable [Held ρ σ]

theorem Has.getOrCreate (h : reg.Has kind property key a) (make : σ → Except Fault α × σ) (world : σ) :
    reg.getOrCreate kind property key make world = (.ok a, reg, world) := by
  obtain ⟨⟨e, hf, ha⟩, hl⟩ := h
  simp only [Registry.getOrCreate, lookUp, hf, ha, note_eq_self hl]

theorem of_getOrCreate_ok {make : σ → Except Fault α × σ} {world w : σ}
    (h : reg.getOrCreate kind property key make world = (.ok a, reg', w)) :
    reg.Keeps reg' ∧ reg'.Has kind property key a := by
  have hg := getOrCreate_got kind property key make reg world
  rw [h] at hg
  cases hg with
  | found hf ha =>
    exact ⟨keeps_note .., ⟨_, by rwa [find?_note], ha⟩, mem_listed_note.2 (.inr ⟨rfl, rfl⟩)⟩
  | created hf hb =>
    refine ⟨keeps_add .., ⟨_, find?_add_self hf, kind.unwrap?_wrap a⟩, ?_⟩
    rw [listed_add]
    exact mem_listed_note.2 (.inr ⟨rfl, rfl⟩)

end

end Registry

namespace Site

variable {ε δ : Type} {f : Site ρ σ → Except ε α × Site ρ σ} {g : α → Site ρ σ → Except δ β × Site ρ σ}
  {x : Site ρ σ → Except δ β × Site ρ σ}

/-- What it comes to without an error, it comes to wherever all is kept that it left, and changes nothing. -/
def Repeats (f : Site ρ σ → Except ε α × Site ρ σ) : Prop :=
  ∀ s a t, f s = (.ok a, t) → s.registry.Keeps t.registry ∧
    ∀ u : Site ρ σ, t.registry.Keeps u.registry → f u = (.ok a, u)

theorem Repeats.pure (a : α) : Repeats fun s : Site ρ σ => ((.ok a, s) : Except ε α × Site ρ σ) := by
  intro s b t h
  cases h
  exact ⟨.refl _, fun _ _ => rfl⟩

/-- The one does what `f` does and, unless that fails, goes on with `g`. -/
theorem Repeats.andThen (hf : Repeats f) (hg : ∀ s a t, f s = (.ok a, t) → Repeats (g a))
    (hok : ∀ s a t, f s = (.ok a, t) → x s = g a t)
    (herr : ∀ s e t, f s = (.error e, t) → ∃ e' t', x s = (.error e', t')) : Repeats x := by
  intro s b w h
  rcases hs : f s with ⟨e | a, t⟩
  · obtain ⟨e', t', hx⟩ := herr s e t hs
    rw [hx] at h
    cases h
  · rw [hok s a t hs] at h
    obtain ⟨hkeeps, hagain⟩ := hf s a t hs
    obtain ⟨hkeeps', hagain'⟩ := hg s a t hs t b w h
    refine ⟨hkeeps.trans hkeeps', fun u hu => ?_⟩
    -- `g` kept what `f` had left, so `f` finds it in `u` and hands `u` on as it is.
    rw [hok u a u (hagain u (hkeeps'.trans hu)), hagain' u hu]

theorem repeats_getOrCreate [Held ρ σ] (kind : Kind ρ σ α) (property : String) (key : Registry.Key)
    (make : σ → Except Fault α × σ) : Repeats (Site.getOrCreate kind property key make) := by
  intro s a t h
  rcases hg : s.registry.getOrCreate kind property key make s.world with ⟨r, reg, world⟩
  simp only [Site.getOrCreate, hg] at h
  cases h
  obtain ⟨hkeeps, hhas⟩ := Registry.of_getOrCreate_ok hg
  refine ⟨hkeeps, fun u hu => ?_⟩
  have hfound := (hhas.keeps hu).getOrCreate make u.world
  simp only [Site.getOrCreate, hfound]

end Site

/-! ### Recipes -/

namespace Provider

/-- What a provider does to answer. -/
inductive Recipe (ρ σ : Type) : Type 1 where
  | answer (outcome : Except Error (Option String))
  /-- Gets a resource and goes on with it; where that fails, so does the provider. -/
  | get {α : Type} (kind : Kind ρ σ α) (property : String) (key : Registry.Key)
    (make : σ → Except Fault α × σ) (refused : Registry.Error → Error) (next : α → Recipe ρ σ)

variable [Held ρ σ]

def Recipe.run : Recipe ρ σ → Site ρ σ → Except Error (Option String) × Site ρ σ
  | answer outcome, s => (outcome, s)
  | get kind property key make refused next, s =>
    match s.getOrCreate kind property key make with
    | (.error cause, s) => (.error (refused cause), s)
    | (.ok a, s) => (next a).run s

/-- For each property, required ones and configuration it has a recipe. -/
def FollowsRecipes (p : Provider (Site ρ σ)) : Prop :=
  ∃ recipe : String → Properties → Properties → Recipe ρ σ,
    ∀ name required config s, p.resolve name required config s = (recipe name required config).run s

theorem Recipe.repeats_run (r : Recipe ρ σ) : Site.Repeats r.run := by
  induction r with
  | answer outcome =>
    cases outcome with
    | error e => exact nofun
    | ok v => exact .pure v
  | get kind property key make refused next ih =>
    refine (Site.repeats_getOrCreate kind property key make).andThen (fun _ a _ _ => ih a) ?_ ?_
    · intro s a t h
      rw [run, h]
    · intro s e t h
      exact ⟨refused e, t, by rw [run, h]⟩

end Provider

/-! ### Providers that follow recipes -/

section
variable [Held ρ σ]

theorem Provider.followsRecipes_serverUri (uri : String) :
    (Provider.serverUri uri : Provider (Site ρ σ)).FollowsRecipes :=
  ⟨fun name _ _ => .answer (.ok (if name = serverUriProperty then some uri else none)), fun _ _ _ _ => rfl⟩

namespace Container.Configured

def recipe (containers : Kind ρ σ Container) (property : String) (required config : Properties) :
    Provider.Recipe ρ σ :=
  match Block.readAll config with
  | .error e => .answer (.error e)
  | .ok blocks =>
    match blocks.find? fun b => property ∈ b.names with
    | none => .answer (.ok none)
    | some b =>
      match b.image with
      | none => .answer (.error (.config (Block.fieldKey b.id "image-name") "missing"))
      | some image =>
        .get containers property
          (.ofParams name b.id (Scope.ofProperties required) (required.erase Scope.propertyName))
          (fun world => (.ok { spec := b.spec image }, world)) .resource
          fun container => .answer (Configured.answer b container property)

theorem followsRecipes_provider (containers : Kind ρ σ Container) : (provider containers).FollowsRecipes := by
  refine ⟨recipe containers, fun property required config s => ?_⟩
  show resolve containers property required config s = _
  cases hread : Block.readAll config with
  | error e => simp only [resolve, recipe, hread, Provider.Recipe.run]
  | ok blocks =>
    cases hfind : blocks.find? fun b => property ∈ b.names with
    | none => simp only [resolve, recipe, hread, hfind, Provider.Recipe.run]
    | some b =>
      cases himage : b.image with
      | none => simp only [resolve, recipe, hread, hfind, himage, Provider.Recipe.run]
      | some image =>
        simp only [resolve, recipe, hread, hfind, himage, provision, Provider.Recipe.run]
        generalize s.getOrCreate containers property _ _ = got
        rcases got with ⟨cause | container, t⟩ <;> rfl

theorem followsRecipes_builtin (containers : Kind ρ σ Container) (serverUri : String) :
    ∀ p ∈ builtin containers serverUri, p.FollowsRecipes := by
  intro p hp
  rcases List.mem_pair.1 hp with rfl | rfl
  · exact Provider.followsRecipes_serverUri serverUri
  · exact followsRecipes_provider containers

end Container.Configured

end

/-! ### Requests -/

namespace Resolution

theorem repeats_bind {x : Run (Site ρ σ) α} {f : α → Run (Site ρ σ) β} (h : Site.Repeats x.run)
    (hrest : ∀ s a t, x.run s = (.ok a, t) → Site.Repeats (f a).run) : Site.Repeats (x >>= f).run :=
  h.andThen hrest (fun _ _ _ => run_bind_ok) fun _ e t h => ⟨e, t, run_bind_error h⟩

/-- Only the second computation matters. -/
def repeating (ρ σ : Type) : Comparison (Site ρ σ) (Site ρ σ) where
  Rel _ y := Site.Repeats y.run
  pure := Site.Repeats.pure
  throw _ := nofun
  bind := repeats_bind

section
variable [Held ρ σ] {p : Provider (Site ρ σ)} {name : String} {required config : Properties}

theorem repeats_consult (hp : p.FollowsRecipes) : Site.Repeats (consult p name required config).run := by
  obtain ⟨recipe, hrecipe⟩ := hp
  have hresolve : Site.Repeats (p.resolve name required config) :=
    funext (hrecipe name required config) ▸ (recipe name required config).repeats_run
  exact hresolve.andThen (fun _ a _ _ => .pure a) (fun _ _ _ => run_consult_ok)
    fun _ cause t h => ⟨_, t, run_consult_error h⟩

theorem repeats_resolveWithin {ctx : Context (Site ρ σ)} (h : ∀ p ∈ ctx.providers, p.FollowsRecipes)
    (depth : Nat) (chain : List String) (name : String) :
    Site.Repeats (resolveWithin ctx depth chain name).run := by
  have hmatches : List.Forall₂ ((repeating ρ σ).Matches ctx ctx) ctx.providers ctx.providers :=
    List.forall₂_same.2 fun p hp =>
      ⟨fun _ => rfl, rfl, fun _ _ _ => rfl, fun _ _ _ _ => repeats_consult (h p hp)⟩
  exact resolveWithin_rel hmatches depth chain name

end

end Resolution

namespace Engine

open Resolution

/-- An answered request is answered again from the registry that it left, which stays as it is, like the
world, where making, starting and closing would show. -/
theorem resolve_again [Held ρ σ] (e : Engine (Site ρ σ)) (he : ∀ p ∈ e.providers, p.FollowsRecipes)
    (name : String) (properties config : Properties) (v : String) (s t : Site ρ σ)
    (h : (e.resolve name properties config).run s = (.ok (some v), t)) (u : Site ρ σ)
    (hu : u.registry = t.registry) : (e.resolve name properties config).run u = (.ok (some v), u) := by
  have hall : ∀ p ∈ (e.context properties config).providers, p.FollowsRecipes :=
    fun p hp => he p (List.mem_of_mem_filter hp)
  have hkeeps : t.registry.Keeps u.registry := hu ▸ .refl _
  exact (repeats_resolveWithin hall maxDepth [] name s (some v) t h).2 u hkeeps

section
open Rehearsal

/-- Answers from a stand-in of its own and the host of the container that another provider runs. -/
def caches : Provider (Cast Daemon) where
  name := "caches"
  advertised _ _ := ["cache.url"]
  requiredProperties _ := ["redis.host"]
  resolve name required _ :=
    let key := Registry.Key.ofParams "caches" "cache" (Scope.ofProperties required) required
    (Provider.Recipe.get (Player.standIns "Cache") name key (makeStandIn {}) .resource fun cache =>
      .answer (.ok ((required.get? "redis.host").map fun host => host.text ++ "#" ++ Text.ofNat cache.serial))).run

def redisBlock : Properties :=
  (Dict.empty.insert "containers.redis.image-name" (.string "redis:7")).insert
    "containers.redis.hostnames" (.string "redis.host")

def cacheEngine : Engine (Cast Daemon) :=
  ⟨caches :: Container.Configured.builtin Player.containers "http://localhost:1"⟩

def requestCache : Cast Daemon → Except Error (Option String) × Cast Daemon :=
  (cacheEngine.resolve "cache.url" ∅ redisBlock).run

def firstCache : Except Error (Option String) × Cast Daemon := requestCache { world := { runtime := {} } }

/-- The first request runs the container of the requirement and starts the stand-in of the answer. -/
theorem resolve_cache_again :
    firstCache = (.ok (some "127.0.0.1#1"), firstCache.2) ∧
      (firstCache.2.world.runtime.created, firstCache.2.world.ledger.started) = (1, [1]) ∧
      requestCache firstCache.2 = (.ok (some "127.0.0.1#1"), firstCache.2) := by
  have he : ∀ p ∈ cacheEngine.providers, p.FollowsRecipes := by
    intro p hp
    rcases List.mem_cons.1 hp with rfl | hp
    · exact ⟨_, fun _ _ _ _ => rfl⟩
    · exact Container.Configured.followsRecipes_builtin _ _ p hp
  obtain ⟨hanswer, hmade⟩ : firstCache.1.toOption = some (some "127.0.0.1#1") ∧
      (firstCache.2.world.runtime.created, firstCache.2.world.ledger.started) = (1, [1]) := by decide +kernel
  have hfirst : firstCache = (.ok (some "127.0.0.1#1"), firstCache.2) := by
    clear hmade
    generalize firstCache = first at hanswer ⊢
    obtain ⟨_ | v, t⟩ := first
    · cases hanswer
    · cases hanswer
      rfl
  exact ⟨hfirst, hmade, resolve_again cacheEngine he "cache.url" ∅ redisBlock _ _ _ hfirst _ rfl⟩

end

end Engine

end Testbed
