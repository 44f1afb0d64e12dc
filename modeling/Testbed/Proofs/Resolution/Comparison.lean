import Testbed.Proofs.Resolution.Steps
import Mathlib.Data.List.Forall2

/-!
# Two requests side by side

A request does nothing but settle requirements and ask providers. So whatever compares two computations
result by result and step by step (`Comparison`) compares two requests as soon as it compares asking their
providers (`resolveWithin_rel`): requests that agree, a request and the same one kept under observation, a
request and itself done over. The induction over the recursion of a request is made here once.
-/

namespace Testbed.Resolution

variable {σ τ : Type}

/-- A way to compare computations that is kept by every step. -/
structure Comparison (σ τ : Type) where
  Rel : {α : Type} → Run σ α → Run τ α → Prop
  pure {α : Type} (a : α) : Rel (pure a) (pure a)
  throw {α : Type} (e : Error) : Rel (throw e : Run σ α) (throw e)
  /-- The rest is compared only after what the first part can come to. -/
  bind {α β : Type} {x : Run σ α} {y : Run τ α} {f : α → Run σ β} {g : α → Run τ β} (h : Rel x y)
    (hrest : ∀ s a t, y.run s = (.ok a, t) → Rel (f a) (g a)) : Rel (x >>= f) (y >>= g)

theorem Run.ext {α : Type} {x y : Run σ α} (h : ∀ s, x.run s = y.run s) : x = y := funext h

/-- Computations that do the same. -/
def Comparison.same (σ : Type) : Comparison σ σ where
  Rel x y := x = y
  pure _ := rfl
  throw _ := rfl
  bind h hrest := by
    subst h
    refine Run.ext fun s => ?_
    rw [run_bind, run_bind]
    split
    · rename_i h
      rw [hrest s _ _ h]
    · rfl

variable {R : Comparison σ τ} {ctx : Context σ} {ctx' : Context τ} {env env' : Environment}
  {ask : String → Run σ (Option String)} {ask' : String → Run τ (Option String)} {name d : String}
  {ds chain : List String} {required found : Properties} {ps : List (Provider σ)} {qs : List (Provider τ)}
  {s t : σ}

/-- Settling puts in nothing but what it is to settle. -/
theorem get?_of_run_settle (h : (settle env ask ds required).run s = (.ok found, t)) (hd : d ∉ ds) :
    found.get? d = required.get? d := by
  induction ds generalizing required s with
  | nil => cases h; rfl
  | cons x ds ih =>
    have hx : d ≠ x := fun he => hd (he ▸ List.mem_cons_self ..)
    have hds : d ∉ ds := fun hm => hd (List.mem_cons_of_mem _ hm)
    cases hk : env.property x with
    | some v =>
      rw [settle_known hk] at h
      rw [ih h hds, Dict.get?_insert, if_neg hx]
    | none =>
      rw [settle_asked hk] at h
      obtain ⟨a, u, -, h⟩ := of_run_bind_ok h
      cases a with
      | none => exact ih h hds
      | some a => rw [ih h hds, Dict.get?_insert, if_neg hx]

/-- Of `ds` all is settled that the environment knows, just so, and nothing but `ds`. -/
structure Settled (env : Environment) (ds : List String) (found : Properties) : Prop where
  known : ∀ d ∈ ds, ∀ v, env.property d = some v → found.get? d = some v
  absent : ∀ d ∉ ds, found.get? d = none

theorem get?_of_run_settle_known {v : Value} (h : (settle env ask ds required).run s = (.ok found, t)) (hd : d ∈ ds)
    (hv : env.property d = some v) : found.get? d = some v := by
  induction ds generalizing required s with
  | nil => cases hd
  | cons x ds ih =>
    by_cases hds : d ∈ ds
    · cases hk : env.property x with
      | some w =>
        rw [settle_known hk] at h
        exact ih h hds
      | none =>
        rw [settle_asked hk] at h
        obtain ⟨a, u, -, h⟩ := of_run_bind_ok h
        cases a <;> exact ih h hds
    · obtain rfl := (List.mem_cons.1 hd).resolve_right hds
      rw [settle_known hv] at h
      rw [get?_of_run_settle h hds, Dict.get?_insert, if_pos rfl]

theorem settled_of_run_settle (h : (settle env ask ds ∅).run s = (.ok found, t)) : Settled env ds found where
  known _ hd _ hv := get?_of_run_settle_known h hd hv
  absent d hd := by rw [get?_of_run_settle h hd, Dict.get?_empty]

/-- `p` and `q` take part alike in two requests, require the same of the same environment, and asking them
compares. -/
structure Comparison.Matches (R : Comparison σ τ) (ctx : Context σ) (ctx' : Context τ) (p : Provider σ)
    (q : Provider τ) : Prop where
  canResolve : ∀ name, p.canResolve name ctx.entries ctx.config = q.canResolve name ctx'.entries ctx'.config
  requires : p.requiredProperties = q.requiredProperties
  known : ∀ name, ∀ d ∈ q.requiredProperties name, ctx.env.property d = ctx'.env.property d
  consult : ∀ name required, q.canResolve name ctx'.entries ctx'.config = true →
    Settled ctx'.env (q.requiredProperties name) required →
    R.Rel (consult p name required ctx.config) (consult q name required ctx'.config)

theorem settle_rel (hask : ∀ d, R.Rel (ask d) (ask' d)) (henv : ∀ d ∈ ds, env.property d = env'.property d) :
    R.Rel (settle env ask ds required) (settle env' ask' ds required) := by
  induction ds generalizing required with
  | nil => exact R.pure required
  | cons d ds ih =>
    have htail (m : Properties) : R.Rel (settle env ask ds m) (settle env' ask' ds m) :=
      ih fun x hx => henv x (List.mem_cons_of_mem _ hx)
    have hd := henv d (List.mem_cons_self ..)
    cases hk : env'.property d with
    | some v =>
      rw [settle_known (hd.trans hk), settle_known hk]
      exact htail _
    | none =>
      rw [settle_asked (hd.trans hk), settle_asked hk]
      refine R.bind (hask d) fun _ a _ _ => ?_
      cases a with
      | none => exact htail _
      | some a => exact htail _

theorem firstAnswer_rel (hask : ∀ d, R.Rel (ask d) (ask' d)) (hps : List.Forall₂ (R.Matches ctx ctx') ps qs) :
    R.Rel (firstAnswer ctx ask name ps) (firstAnswer ctx' ask' name qs) := by
  induction hps with
  | nil => exact R.pure none
  | @cons p q ps qs hpq _ ih =>
    cases hq : q.canResolve name ctx'.entries ctx'.config with
    | false =>
      rw [firstAnswer_skip ((hpq.canResolve name).trans hq), firstAnswer_skip hq]
      exact ih
    | true =>
      rw [firstAnswer, if_pos ((hpq.canResolve name).trans hq), firstAnswer, if_pos hq, hpq.requires]
      refine R.bind (settle_rel hask (hpq.known name)) fun s required t hs => ?_
      refine R.bind (hpq.consult name required hq (settled_of_run_settle hs)) fun _ a _ _ => ?_
      cases a with
      | none => exact ih
      | some a => exact R.pure (some a)

theorem resolveWithin_rel (h : List.Forall₂ (R.Matches ctx ctx') ctx.providers ctx'.providers)
    (depth : Nat) (chain : List String) (name : String) :
    R.Rel (resolveWithin ctx depth chain name) (resolveWithin ctx' depth chain name) := by
  induction depth generalizing chain name with
  | zero =>
    rw [resolveWithin, resolveWithin]
    split
    · exact R.throw _
    · exact R.throw _
  | succ depth ih =>
    rw [resolveWithin, resolveWithin]
    split
    · exact R.throw _
    · exact firstAnswer_rel (fun d => ih _ d) h

end Testbed.Resolution
