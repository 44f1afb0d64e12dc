import Testbed.Proofs.Resolution.Calls
import Testbed.Proofs.Resolution.Order

/-!
# What a request depends on

Of its properties a request reads the values that some provider requires and the members of the groups that
some provider wants enumerated, and hands over nothing else (`declared_properties_decide`). Of the providers
it depends on those that are enabled; one that is turned off still has its groups enumerated, which nobody
notices who reads no group but his own (`resolve_without_disabled`). Both follow from one fact: requests whose
providers cannot tell them apart are the same (`Context.Alike.resolveWithin`).
-/

namespace Testbed

variable {σ : Type}

/-- What it advertises and takes part in depends on the groups it wants enumerated only. -/
def Provider.ReadsOwnGroups (p : Provider σ) : Prop :=
  ∀ entries entries' : EntryGroups, (∀ g ∈ p.requiredGroups, entries.get? g = entries'.get? g) → ∀ config,
    p.advertised entries config = p.advertised entries' config ∧
      ∀ name, p.canResolve name entries config = p.canResolve name entries' config

namespace Resolution

variable {ctx ctx' : Context σ}

/-- The requests have the same providers and configuration, and the providers cannot tell them apart. -/
structure Context.Alike (ctx ctx' : Context σ) : Prop where
  providers : ctx.providers = ctx'.providers
  config : ctx.config = ctx'.config
  canResolve : ∀ p ∈ ctx'.providers, ∀ name,
    p.canResolve name ctx.entries ctx.config = p.canResolve name ctx'.entries ctx'.config
  known : ∀ p ∈ ctx'.providers, ∀ name, ∀ d ∈ p.requiredProperties name,
    ctx.env.property d = ctx'.env.property d

theorem Context.Alike.journaled (h : ctx.Alike ctx') : ctx.journaled.Alike ctx'.journaled where
  providers := congrArg (List.map Provider.journaled) h.providers
  config := h.config
  canResolve p hp name := by
    obtain ⟨q, hq, rfl⟩ := List.mem_map.1 hp
    exact h.canResolve q hq name
  known p hp name d hd := by
    obtain ⟨q, hq, rfl⟩ := List.mem_map.1 hp
    exact h.known q hq name d hd

theorem Context.Alike.resolveWithin (h : ctx.Alike ctx') (depth : Nat) (chain : List String) (name : String) :
    resolveWithin ctx depth chain name = resolveWithin ctx' depth chain name := by
  have hmatches : List.Forall₂ ((Comparison.same σ).Matches ctx ctx') ctx.providers ctx'.providers := by
    rw [h.providers]
    refine List.forall₂_same.2 fun p hp => ⟨h.canResolve p hp, rfl, h.known p hp, fun name required _ _ => ?_⟩
    show consult p name required ctx.config = consult p name required ctx'.config
    rw [h.config]
  exact resolveWithin_rel hmatches depth chain name

end Resolution

namespace Engine

open Resolution

variable {e e' : Engine σ} {P Q config : Properties}

theorem run_and_calls_of_alike (h : (e.context P config).Alike (e'.context Q config)) (name : String) (s : σ) :
    (e.resolve name P config).run s = (e'.resolve name Q config).run s ∧
      e.calls name P config s = e'.calls name Q config s := by
  have hj : (e.journaled.context P config).Alike (e'.journaled.context Q config) := by
    rw [context_journaled, context_journaled]
    exact h.journaled
  have hcalls : e.journaled.resolve name P config = e'.journaled.resolve name Q config :=
    hj.resolveWithin maxDepth [] name
  refine ⟨congrArg (fun x => x.run s) (h.resolveWithin maxDepth [] name), ?_⟩
  rw [calls, calls, hcalls]

/-! ### Declared properties -/

/-- Some provider requires the property, or it tells members of a group that some provider wants
enumerated. -/
def Declares (e : Engine σ) (property : String) : Prop :=
  (∃ p ∈ e.providers, ∃ name, property ∈ p.requiredProperties name) ∨
    ∃ g ∈ e.requiredGroups, property = g ∨ ∃ rest, property = g ++ "." ++ rest

/-- Both give the same values to what providers require, and the same members to the groups they want. -/
structure SameDeclared (e : Engine σ) (config P Q : Properties) : Prop where
  value : ∀ p ∈ e.providers, ∀ name, ∀ d ∈ p.requiredProperties name,
    (environment P config).property d = (environment Q config).property d
  members : ∀ g ∈ e.requiredGroups, (environment P config).members g = (environment Q config).members g

theorem SameDeclared.of_declares (h : ∀ d, e.Declares d → P.get? d = Q.get? d) : e.SameDeclared config P Q where
  value p hp name d hd := by
    rw [property_environment, property_environment, h d (.inl ⟨p, hp, name, hd⟩)]
  members g hg := Environment.members_congr fun d hd => by
    rw [Dict.get?_layer, Dict.get?_layer, h d (.inr ⟨g, hg, hd⟩)]

theorem SameDeclared.alike (h : e.SameDeclared config P Q) : (e.context P config).Alike (e.context Q config) where
  providers := rfl
  config := rfl
  canResolve p hp name := by
    have hentries : (environment P config).entries e.requiredGroups =
        (environment Q config).entries e.requiredGroups := by
      refine Dict.ext_get? fun g => ?_
      rw [Environment.get?_entries, Environment.get?_entries]
      by_cases hg : g ∈ e.requiredGroups
      · rw [if_pos hg, if_pos hg, h.members g hg]
      · rw [if_neg hg, if_neg hg]
    exact congrArg (fun entries => p.canResolve name entries (sanitize config)) hentries
  known p hp name d hd := h.value p (List.mem_of_mem_filter hp) name d hd

/-- With the same declared properties a request comes to the same by the same calls; no call hands over what
its provider does not require; and what nobody declares can be anything. -/
theorem declared_properties_decide (e : Engine σ) (name : String) (P Q config : Properties)
    (hvalue : ∀ p ∈ e.providers, ∀ x, ∀ d ∈ p.requiredProperties x,
      (environment P config).property d = (environment Q config).property d)
    (hmembers : ∀ g ∈ e.requiredGroups, (environment P config).members g = (environment Q config).members g)
    (s : σ) :
    (e.resolve name P config).run s = (e.resolve name Q config).run s ∧
      e.calls name P config s = e.calls name Q config s ∧
      (∀ p call, (p, call) ∈ e.calls name P config s →
        ∀ d ∉ p.requiredProperties call.property, call.required.get? d = none) ∧
      ∀ P', (∀ d, e.Declares d → P'.get? d = P.get? d) →
        (e.resolve name P' config).run s = (e.resolve name P config).run s ∧
          e.calls name P' config s = e.calls name P config s := by
  have hsame : e.SameDeclared config P Q := ⟨hvalue, hmembers⟩
  obtain ⟨hrun, hcalls⟩ := run_and_calls_of_alike hsame.alike name s
  refine ⟨hrun, hcalls, fun p call hc => (called_of_mem_calls hc).required, fun P' h => ?_⟩
  exact run_and_calls_of_alike (SameDeclared.of_declares h).alike name s

/-- The same host and members as `mainDatabase` by other properties. -/
def otherDialect : Properties :=
  ((Dict.empty.insert "databases.main.user" (.string "me")).insert "host" (.string "h")).insert "secret" (.int 7)

theorem calls_of_otherDialect :
    let e : Engine Unit := ⟨[switched, addresses]⟩
    let calls := e.calls "databases.main.url" mainDatabase ∅ ()
    (∀ p ∈ e.providers, ∀ x, ∀ d ∈ p.requiredProperties x,
      (environment mainDatabase ∅).property d = (environment otherDialect ∅).property d) ∧
    (∀ g ∈ e.requiredGroups, (environment mainDatabase ∅).members g = (environment otherDialect ∅).members g) ∧
    (e.resolve "databases.main.url" otherDialect ∅).run () = (.ok (some "h/databases.main.url"), ()) ∧
    calls.length = 1 ∧ e.calls "databases.main.url" otherDialect ∅ () = calls := by
  intro e calls
  have hvalue : ∀ p ∈ e.providers, ∀ x, ∀ d ∈ p.requiredProperties x,
      (environment mainDatabase ∅).property d = (environment otherDialect ∅).property d := by
    intro p hp x d hd
    rcases List.mem_pair.1 hp with rfl | rfl
    · cases hd
    · obtain rfl := List.mem_singleton.1 hd
      have hmain : mainDatabase.get? "host" = some (.string "h") := rfl
      have hother : otherDialect.get? "host" = some (.string "h") := rfl
      rw [property_environment, property_environment, hmain, hother]
  have hmembers : ∀ g ∈ e.requiredGroups,
      (environment mainDatabase ∅).members g = (environment otherDialect ∅).members g := by decide
  obtain ⟨hrun, hcalls, -⟩ :=
    declared_properties_decide e "databases.main.url" mainDatabase otherDialect ∅ hvalue hmembers ()
  exact ⟨hvalue, hmembers, hrun.symm.trans rfl, rfl, hcalls.symm⟩

/-! ### Disabled providers -/

theorem mem_ofProviders {p : Provider σ} {providers : List (Provider σ)} :
    p ∈ (ofProviders providers).providers ↔ p ∈ providers := List.mem_mergeSort

theorem get?_context_entries {p : Provider σ} {g : String} (hp : p ∈ e.providers) (hg : g ∈ p.requiredGroups) :
    (e.context P config).entries.get? g = some ((environment P config).members g) := by
  have hmem : g ∈ e.requiredGroups := mem_distinct.2 (List.mem_flatMap.2 ⟨p, hp, hg⟩)
  have hget := Environment.get?_entries (environment P config) e.requiredGroups g
  rwa [if_pos hmem] at hget

section
variable {before after : List (Provider σ)} {p : Provider σ}

theorem enabled_without_disabled (hoff : p.isEnabled config = false) :
    (ofProviders (before ++ p :: after)).enabled config = (ofProviders (before ++ after)).enabled config := by
  refine enabled_ofProviders_congr ?_
  rw [List.filter_append, List.filter_append, List.filter_cons_of_neg (by simp [hoff])]

theorem alike_without_disabled (hoff : p.isEnabled (sanitize config) = false)
    (hown : ∀ q ∈ before ++ after, q.ReadsOwnGroups) : ((ofProviders (before ++ p :: after)).context P config).Alike
      ((ofProviders (before ++ after)).context P config) where
  providers := enabled_without_disabled hoff
  config := rfl
  canResolve q hq name := by
    have hq' := List.mem_of_mem_filter hq
    have hmem : q ∈ before ++ after := mem_ofProviders.1 hq'
    have hall : q ∈ before ++ p :: after := by
      rcases List.mem_append.1 hmem with h | h
      · exact List.mem_append_left _ h
      · exact List.mem_append_right _ (List.mem_cons_of_mem _ h)
    -- The groups of `p` are enumerated on one side only; those of `q` are on both.
    refine (hown q hmem _ _ (fun g hg => ?_) _).2 name
    rw [get?_context_entries (mem_ofProviders.2 hall) hg, get?_context_entries hq' hg]
  known _ _ _ _ _ := rfl

end

/-- A disabled provider leaves no trace. -/
theorem resolve_without_disabled (before after : List (Provider σ)) (p : Provider σ) (name : String)
    (properties config : Properties) (hoff : p.isEnabled (sanitize config) = false)
    (hown : ∀ q ∈ before ++ after, q.ReadsOwnGroups) :
    let e := ofProviders (before ++ p :: after)
    let e' := ofProviders (before ++ after)
    (∀ s, (e.resolve name properties config).run s = (e'.resolve name properties config).run s ∧
      e.calls name properties config s = e'.calls name properties config s) ∧
    ∀ entries, e.resolvableProperties entries config = e'.resolvableProperties entries config := by
  intro e e'
  refine ⟨fun s => run_and_calls_of_alike (alike_without_disabled hoff hown) name s, fun entries => ?_⟩
  rw [resolvableProperties, enabled_without_disabled hoff]
  rfl

theorem resolve_without_switched :
    let e := ofProviders [switched, addresses]
    let e' := ofProviders [addresses]
    switched.isEnabled (sanitize switchedOff) = false ∧ addresses.ReadsOwnGroups ∧
      e.requiredGroups ≠ e'.requiredGroups ∧
      (e.resolve "databases.main.url" mainDatabase switchedOff).run () = (.ok (some "h/databases.main.url"), ()) ∧
      e.calls "databases.main.url" mainDatabase switchedOff () =
        e'.calls "databases.main.url" mainDatabase switchedOff () ∧
      ∀ entries, e.resolvableProperties entries switchedOff = e'.resolvableProperties entries switchedOff := by
  intro e e'
  have hoff : switched.isEnabled (sanitize switchedOff) = false := by decide
  have hown : addresses.ReadsOwnGroups := by
    intro entries entries' h config
    have hadvertised : addresses.advertised entries config = addresses.advertised entries' config := by
      simp only [addresses, h "databases" (List.mem_singleton.2 rfl)]
    exact ⟨hadvertised, fun name => congrArg (fun names => decide (name ∈ names)) hadvertised⟩
  have hgroups : e.requiredGroups ≠ e'.requiredGroups := by
    have hswitched : switched ∈ e.providers := mem_ofProviders.2 (List.mem_cons_self ..)
    have hmem : "servers" ∈ e.requiredGroups :=
      mem_distinct.2 (List.mem_flatMap.2 ⟨switched, hswitched, List.mem_singleton.2 rfl⟩)
    have hnot : "servers" ∉ e'.requiredGroups := by
      show "servers" ∉ (ofProviders [addresses]).requiredGroups
      rw [ofProviders_singleton]; decide
    exact fun h => hnot (h ▸ hmem)
  have hothers : ∀ q ∈ [] ++ [addresses], q.ReadsOwnGroups := by simpa using hown
  obtain ⟨hrun, hlisted⟩ := resolve_without_disabled [] [addresses] switched "databases.main.url" mainDatabase
    switchedOff hoff hothers
  have halone : (e'.resolve "databases.main.url" mainDatabase switchedOff).run () =
      (.ok (some "h/databases.main.url"), ()) := by
    show ((ofProviders [addresses]).resolve "databases.main.url" mainDatabase switchedOff).run () = _
    rw [ofProviders_singleton]; rfl
  exact ⟨hoff, hown, hgroups, (hrun ()).1.trans halone, (hrun ()).2, hlisted⟩

end Engine

end Testbed
