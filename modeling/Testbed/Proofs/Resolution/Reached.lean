import Testbed.Proofs.Resolution.Chains
import Mathlib.Logic.Relation

/-!
# What a request reaches

A request asks for the names that its own name leads to by requirements that nothing else provides
(`Context.Reached`). On the way it consults the providers that take part in those names, so requests that
these cannot tell apart come to the same (`Context.AlikeFrom.resolveWithin`), whatever else they differ in.
-/

namespace Testbed.Resolution

variable {σ : Type} {ctx ctx' : Context σ} {first name d : String}

/-- Requirements lead from `first` to `name`. -/
def Context.Reached (ctx : Context σ) (first : String) : String → Prop := Relation.ReflTransGen ctx.Requires first

/-- The requests have the same providers and configuration, and no provider can tell them apart by a name
that `ctx'` reaches from `first`. -/
structure Context.AlikeFrom (first : String) (ctx ctx' : Context σ) : Prop where
  providers : ctx.providers = ctx'.providers
  config : ctx.config = ctx'.config
  canResolve : ∀ name, ctx'.Reached first name → ∀ p ∈ ctx'.providers,
    p.canResolve name ctx.entries ctx.config = p.canResolve name ctx'.entries ctx'.config
  known : ∀ name, ctx'.Reached first name → ∀ p ∈ ctx'.takers name, ∀ d ∈ p.requiredProperties name,
    ctx.env.property d = ctx'.env.property d

theorem settle_congr {env env' : Environment} {ask ask' : String → Run σ (Option String)} {ds : List String}
    {required : Properties} (henv : ∀ d ∈ ds, env.property d = env'.property d)
    (hask : ∀ d ∈ ds, env'.property d = none → ask d = ask' d) :
    settle env ask ds required = settle env' ask' ds required := by
  induction ds generalizing required with
  | nil => rfl
  | cons d ds ih =>
    obtain ⟨hd, hds⟩ := List.forall_mem_cons.1 henv
    obtain ⟨haskd, haskds⟩ := List.forall_mem_cons.1 hask
    cases hk : env'.property d with
    | some v => rw [settle_known (hd.trans hk), settle_known hk, ih hds haskds]
    | none =>
      rw [settle_asked (hd.trans hk), settle_asked hk, haskd hk]
      refine congrArg (ask' d >>= ·) (funext fun a => ?_)
      cases a with
      | none => exact ih hds haskds
      | some a => exact ih hds haskds

theorem firstAnswer_congr {ask ask' : String → Run σ (Option String)} {ps : List (Provider σ)}
    (hconfig : ctx.config = ctx'.config)
    (hps : ∀ p ∈ ps, p.canResolve name ctx.entries ctx.config = p.canResolve name ctx'.entries ctx'.config)
    (hsettle : ∀ p ∈ ps, p.canResolve name ctx'.entries ctx'.config = true →
      settle ctx.env ask (p.requiredProperties name) ∅ = settle ctx'.env ask' (p.requiredProperties name) ∅) :
    firstAnswer ctx ask name ps = firstAnswer ctx' ask' name ps := by
  induction ps with
  | nil => rfl
  | cons p ps ih =>
    obtain ⟨hp, hps⟩ := List.forall_mem_cons.1 hps
    obtain ⟨hsettlep, hsettle⟩ := List.forall_mem_cons.1 hsettle
    cases hq : p.canResolve name ctx'.entries ctx'.config with
    | false => rw [firstAnswer_skip (hp.trans hq), firstAnswer_skip hq, ih hps hsettle]
    | true =>
      rw [firstAnswer, if_pos (hp.trans hq), firstAnswer, if_pos hq, hsettlep hq, hconfig]
      refine congrArg (settle ctx'.env ask' (p.requiredProperties name) ∅ >>= ·) (funext fun required => ?_)
      refine congrArg (consult p name required ctx'.config >>= ·) (funext fun a => ?_)
      cases a with
      | none => exact ih hps hsettle
      | some a => rfl

theorem Context.AlikeFrom.resolveWithin (h : ctx.AlikeFrom first ctx') (hname : ctx'.Reached first name) (depth : Nat)
    (chain : List String) : resolveWithin ctx depth chain name = resolveWithin ctx' depth chain name := by
  induction depth generalizing chain name with
  | zero => rw [Resolution.resolveWithin, Resolution.resolveWithin]
  | succ depth ih =>
    rw [Resolution.resolveWithin, Resolution.resolveWithin, h.providers]
    refine congrArg (ite (name ∈ chain) _) (firstAnswer_congr h.config (h.canResolve name hname) fun p hp hq => ?_)
    have htaker : p ∈ ctx'.takers name := List.mem_filter.2 ⟨hp, hq⟩
    -- What is asked for on the way is one requirement further from `first`.
    refine settle_congr (h.known name hname p htaker) fun d hd hnone => ?_
    exact ih (hname.tail ⟨⟨p, htaker, hd⟩, hnone⟩) (chain ++ [name])

end Testbed.Resolution
