import Testbed.Proofs.Resolution.Comparison
import Testbed.Proofs.Resolution.Rule

/-!
# The calls of a request

A request is repeated with a journal beside its state, in which every provider writes down each call before
it answers (`Engine.calls`). The journal changes neither outcome nor state (`run_journaled`). Only a provider
that takes part in resolving a name is called for it, and it is given nothing but what it requires
(`called_of_mem_calls`). With providers that take part in what they advertise, and in nothing else, every call
is for a listed name, and a name that is not listed comes to nothing (`calls_are_listed`).
-/

namespace Testbed

variable {σ : Type}

namespace Provider

/-- The provider on a state that has something beside it. -/
def beside (κ : Type) (p : Provider σ) : Provider (σ × κ) where
  name := p.name
  priority := p.priority
  isEnabled := p.isEnabled
  advertised := p.advertised
  requiredGroups := p.requiredGroups
  requiredProperties := p.requiredProperties
  canResolve := p.canResolve
  resolve name required config s :=
    let (answer, t) := p.resolve name required config s.1
    (answer, t, s.2)

/-- Calls with the provider that was called, oldest first. -/
abbrev Journal (σ : Type) := List (Provider σ × Call)

/-- The provider with its calls written into a journal beside the state. -/
def journaled (p : Provider σ) : Provider (σ × Journal σ) :=
  (p.beside (Journal σ)).recording fun call s => (s.1, s.2 ++ [(p, call)])

/-- It takes part in what it advertises and in nothing else. -/
def TakesAdvertised (p : Provider σ) : Prop :=
  ∀ name entries config, p.canResolve name entries config = decide (name ∈ p.advertised entries config)

end Provider

open Provider (Journal)

namespace Engine

def journaled (e : Engine σ) : Engine (σ × Journal σ) := ⟨e.providers.map Provider.journaled⟩

/-- The calls that a request makes in state `s`. -/
def calls (e : Engine σ) (name : String) (properties config : Properties) (s : σ) : Journal σ :=
  ((e.journaled.resolve name properties config).run (s, [])).2.2

end Engine

namespace Resolution

variable {ctx : Context σ} {p : Provider σ} {call : Provider.Call} {name : String} {required : Properties}

def Context.journaled (ctx : Context σ) : Context (σ × Journal σ) :=
  ⟨ctx.providers.map Provider.journaled, ctx.env, ctx.config, ctx.entries⟩

/-- The call is for a name in whose resolution the provider takes part, and hands over nothing that the
provider does not require for it. -/
structure Context.Called (ctx : Context σ) (p : Provider σ) (call : Provider.Call) : Prop where
  takes : p ∈ ctx.takers call.property
  name : call.provider = p.name
  required : ∀ d ∉ p.requiredProperties call.property, call.required.get? d = none

/-- The one computation does what the other does, and writes down calls as they may be. -/
def Context.Journals (ctx : Context σ) {α : Type} (x : Run (σ × Journal σ) α) (y : Run σ α) : Prop :=
  ∀ s, ∃ calls : Journal σ, (∀ c ∈ calls, ctx.Called c.1 c.2) ∧
    ∀ before, x.run (s, before) = ((y.run s).1, (y.run s).2, before ++ calls)

theorem Context.Journals.bind {α β : Type} {x : Run (σ × Journal σ) α} {y : Run σ α}
    {f : α → Run (σ × Journal σ) β} {g : α → Run σ β} (h : ctx.Journals x y)
    (hrest : ∀ s a t, y.run s = (.ok a, t) → ctx.Journals (f a) (g a)) : ctx.Journals (x >>= f) (y >>= g) := by
  intro s
  obtain ⟨calls, hcalls, hx⟩ := h s
  rcases hy : y.run s with ⟨e | a, t⟩
  · refine ⟨calls, hcalls, fun before => ?_⟩
    have hx := hx before
    rw [hy] at hx
    rw [run_bind_error hx, run_bind_error hy]
  · obtain ⟨more, hmore, hf⟩ := hrest s a t hy t
    refine ⟨calls ++ more, List.forall_mem_append.2 ⟨hcalls, hmore⟩, fun before => ?_⟩
    have hx := hx before
    rw [hy] at hx
    rw [run_bind_ok hx, run_bind_ok hy, hf, List.append_assoc]

theorem Context.Journals.of_same {α : Type} {x : Run (σ × Journal σ) α} {y : Run σ α}
    (h : ∀ s before, x.run (s, before) = ((y.run s).1, (y.run s).2, before)) : ctx.Journals x y :=
  fun s => ⟨[], nofun, fun before => by rw [h, List.append_nil]⟩

def Context.journaling (ctx : Context σ) : Comparison (σ × Journal σ) σ where
  Rel := ctx.Journals
  pure _ := .of_same fun _ _ => rfl
  throw _ := .of_same fun _ _ => rfl
  bind h hrest := h.bind hrest

theorem run_consult_journaled (p : Provider σ) (name : String) (required config : Properties) (s : σ)
    (before : Journal σ) : (consult p.journaled name required config).run (s, before) =
      (((consult p name required config).run s).1, ((consult p name required config).run s).2,
        before ++ [(p, ⟨p.name, name, required⟩)]) := by
  rcases hp : p.resolve name required config s with ⟨cause | a, t⟩
  · have hj : p.journaled.resolve name required config (s, before) =
        (.error cause, t, before ++ [(p, ⟨p.name, name, required⟩)]) := by
      simp only [Provider.journaled, Provider.recording, Provider.beside, hp]
    rw [run_consult_error hj, run_consult_error hp]
    rfl
  · have hj : p.journaled.resolve name required config (s, before) =
        (.ok a, t, before ++ [(p, ⟨p.name, name, required⟩)]) := by
      simp only [Provider.journaled, Provider.recording, Provider.beside, hp]
    rw [run_consult_ok hj, run_consult_ok hp]

theorem journals_consult (h : ctx.Called p ⟨p.name, name, required⟩) :
    ctx.Journals (consult p.journaled name required ctx.config) (consult p name required ctx.config) := fun s =>
  ⟨[(p, ⟨p.name, name, required⟩)], by simpa using h, run_consult_journaled p name required ctx.config s⟩

theorem journals_resolveWithin (ctx : Context σ) (depth : Nat) (chain : List String) (name : String) :
    ctx.Journals (resolveWithin ctx.journaled depth chain name) (resolveWithin ctx depth chain name) := by
  have hmatches : List.Forall₂ (ctx.journaling.Matches ctx.journaled ctx) ctx.journaled.providers ctx.providers := by
    refine List.forall₂_map_left_iff.2 (List.forall₂_same.2 fun p hp => ?_)
    refine ⟨fun _ => rfl, rfl, fun _ _ _ => rfl, fun name required hcan hsettled => ?_⟩
    exact journals_consult ⟨List.mem_filter.2 ⟨hp, hcan⟩, rfl, hsettled.absent⟩
  exact resolveWithin_rel hmatches depth chain name

theorem takers_journaled (ctx : Context σ) (name : String) :
    ctx.journaled.takers name = (ctx.takers name).map Provider.journaled := List.filter_map

theorem run_resolveWithin_of_takers_nil {depth : Nat} {s : σ} (h : ctx.takers name = []) :
    (resolveWithin ctx (depth + 1) [] name).run s = (.ok none, s) := by
  rw [resolveWithin_succ List.not_mem_nil, ← firstAnswer_filter]
  show (firstAnswer ctx _ name (ctx.takers name)).run s = _
  rw [h]
  rfl

end Resolution

namespace Engine

open Resolution

variable {e : Engine σ} {p : Provider σ} {call : Provider.Call} {name : String} {properties config : Properties}
  {s : σ}

theorem context_journaled (e : Engine σ) (properties config : Properties) :
    e.journaled.context properties config = (e.context properties config).journaled := by
  have henabled : e.journaled.enabled (sanitize config) =
      (e.enabled (sanitize config)).map Provider.journaled := List.filter_map
  have hgroups : e.journaled.requiredGroups = e.requiredGroups :=
    congrArg distinct (List.flatMap_map ..)
  simp only [context, Context.journaled, henabled, hgroups]

theorem called_of_mem_calls (h : (p, call) ∈ e.calls name properties config s) :
    (e.context properties config).Called p call := by
  have hj := journals_resolveWithin (e.context properties config) maxDepth [] name
  rw [← context_journaled] at hj
  obtain ⟨calls, hcalls, hrun⟩ := hj s
  have hrun : (e.journaled.resolve name properties config).run (s, []) = _ := hrun []
  rw [Engine.calls, hrun] at h
  exact hcalls _ h

/-! ### Listed names -/

theorem mem_resolvableProperties {entries : EntryGroups} : name ∈ e.resolvableProperties entries config ↔
    ∃ p ∈ e.enabled (sanitize config), name ∈ p.advertised entries (sanitize config) := by
  rw [resolvableProperties, mem_distinct, List.mem_flatMap]

theorem mem_resolvableProperties_of_mem_takers (he : ∀ p ∈ e.providers, p.TakesAdvertised)
    (hp : p ∈ (e.context properties config).takers name) :
    name ∈ e.resolvableProperties ((environment properties config).entries e.requiredGroups) config := by
  obtain ⟨henabled, hcan⟩ := List.mem_filter.1 hp
  rw [he p (List.mem_of_mem_filter henabled)] at hcan
  exact mem_resolvableProperties.2 ⟨p, henabled, of_decide_eq_true hcan⟩

theorem run_resolve_of_takers_nil (h : (e.context properties config).takers name = []) :
    (e.resolve name properties config).run s = (.ok none, s) := run_resolveWithin_of_takers_nil h

theorem calls_of_takers_nil (h : (e.context properties config).takers name = []) :
    e.calls name properties config s = [] := by
  have hj : (e.journaled.context properties config).takers name = [] := by
    rw [context_journaled, takers_journaled, h, List.map_nil]
  rw [calls, run_resolve_of_takers_nil hj]

/-- With providers that take part in what they advertise, only listed names are answered, and only for them
is a provider called. -/
theorem calls_are_listed (e : Engine σ) (he : ∀ p ∈ e.providers, p.TakesAdvertised) (name : String)
    (properties config : Properties) :
    let listed := e.resolvableProperties ((environment properties config).entries e.requiredGroups) config
    (name ∉ listed → ∀ s, (e.resolve name properties config).run s = (.ok none, s) ∧
      e.calls name properties config s = []) ∧
    ∀ s, (∀ v t, (e.resolve name properties config).run s = (.ok (some v), t) → name ∈ listed) ∧
      ∀ p call, (p, call) ∈ e.calls name properties config s → call.property ∈ listed := by
  intro listed
  have hnone (h : name ∉ listed) : (e.context properties config).takers name = [] :=
    List.eq_nil_iff_forall_not_mem.2 fun p hp => h (mem_resolvableProperties_of_mem_takers he hp)
  refine ⟨fun h s => ⟨run_resolve_of_takers_nil (hnone h), calls_of_takers_nil (hnone h)⟩, fun s =>
    ⟨fun v t hv => ?_, fun p call hc => ?_⟩⟩
  · by_contra h
    rw [run_resolve_of_takers_nil (hnone h)] at hv
    cases hv
  · exact mem_resolvableProperties_of_mem_takers he (called_of_mem_calls hc).takes

/-- Answers the address of each member of the group `databases`, all on one host. -/
def addresses : Provider Unit where
  name := "addresses"
  advertised entries _ := ((entries.get? "databases").getD []).map fun member => "databases." ++ member ++ ".url"
  requiredGroups := ["databases"]
  requiredProperties _ := ["host"]
  resolve name required _ s := (.ok ((required.get? "host").map fun host => host.text ++ "/" ++ name), s)

def switched : Provider Unit where
  name := "switched"
  advertised _ _ := ["databases.other.url"]
  requiredGroups := ["servers"]
  resolve _ _ _ s := (.ok (some "on"), s)

/-- Turns `switched` off by the key of an older client. -/
def switchedOff : Properties := Dict.empty.insert "test-resources.switched.enabled" (.string "no")

def mainDatabase : Properties :=
  (Dict.empty.insert "databases.main.dialect" (.string "postgres")).insert "host" (.string "h")

theorem calls_of_unlisted :
    let e : Engine Unit := ⟨[switched, addresses]⟩
    let listed := e.resolvableProperties ((environment mainDatabase switchedOff).entries e.requiredGroups) switchedOff
    (∀ p ∈ e.providers, p.TakesAdvertised) ∧ listed = ["databases.main.url"] ∧
      (e.resolve "databases.other.url" mainDatabase switchedOff).run () = (.ok none, ()) ∧
      e.calls "databases.other.url" mainDatabase switchedOff () = [] ∧
      (e.resolve "databases.main.url" mainDatabase switchedOff).run () =
        (.ok (some "h/databases.main.url"), ()) := by
  intro e listed
  have he : ∀ p ∈ e.providers, p.TakesAdvertised := by
    intro p hp
    rcases List.mem_pair.1 hp with rfl | rfl <;> exact fun _ _ _ => rfl
  have hlisted : listed = ["databases.main.url"] := by decide
  have hother : "databases.other.url" ∉ listed := by rw [hlisted]; decide
  obtain ⟨hrun, hcalls⟩ := (calls_are_listed e he "databases.other.url" mainDatabase switchedOff).1 hother ()
  exact ⟨he, hlisted, hrun, hcalls, rfl⟩

end Engine

end Testbed
