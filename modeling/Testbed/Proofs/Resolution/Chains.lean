import Testbed.Proofs.Resolution.Rule
import Testbed.Proofs.Resolution.Order
import Mathlib.Data.List.Chain
import Mathlib.Data.List.Nodup

/-!
# Chains of required properties

A name is resolved at the end of a path of requirements that starts with the requested one (`Context.Path`).
The two refusals of a name, that it requires itself and that it lies too deep, therefore show such a path
(`resolve_ends_and_refuses_truthfully`).
-/

namespace Testbed

variable {σ : Type}

namespace Resolution

/-- A provider that takes part in resolving `name` requires `d`, which the environment does not know. -/
def Context.Requires (ctx : Context σ) (name d : String) : Prop :=
  (∃ p ∈ ctx.takers name, d ∈ p.requiredProperties name) ∧ ctx.env.property d = none

/-- The names of `chain`, all distinct, lead from `first` to `name`, each by requiring the next. -/
structure Context.Path (ctx : Context σ) (first : String) (chain : List String) (name : String) : Prop where
  head : (chain ++ [name]).head? = some first
  requires : (chain ++ [name]).IsChain ctx.Requires
  nodup : chain.Nodup

/-- What a refusal says holds of the requirements that `first` starts. -/
def Context.Truthful (ctx : Context σ) (first : String) : Error → Prop
  | .cycle chain => ∃ names last, chain = names ++ [last] ∧ names.length ≤ maxDepth ∧ last ∈ names ∧
      ctx.Path first names last
  | .tooDeep property => ∃ names, names.length = maxDepth ∧ property ∉ names ∧ ctx.Path first names property
  | .provider .. => True

variable {ctx : Context σ} {ask : String → Run σ (Option String)} {first name d : String}
  {chain ds : List String} {required : Properties} {p : Provider σ} {ps : List (Provider σ)} {depth : Nat}
  {e : Error} {s t : σ}

theorem Context.Path.nil (ctx : Context σ) (name : String) : ctx.Path name [] name where
  head := rfl
  requires := List.isChain_singleton name
  nodup := List.nodup_nil

theorem Context.Path.snoc (h : ctx.Path first chain name) (hn : name ∉ chain) (hd : ctx.Requires name d) :
    ctx.Path first (chain ++ [name]) d where
  head := by
    rw [List.head?_append, h.head]; rfl
  requires := by
    refine List.isChain_append.2 ⟨h.requires, List.isChain_singleton d, fun x hx y hy => ?_⟩
    rw [List.getLast?_concat] at hx
    cases hx; cases hy
    exact hd
  nodup := by
    rw [← List.concat_eq_append]
    exact h.nodup.concat hn

/-! ### Where an error comes from -/

theorem of_run_settle_error {env : Environment}
    (h : (settle env ask ds required).run s = (.error e, t)) :
    ∃ d ∈ ds, env.property d = none ∧ ∃ u, (ask d).run u = (.error e, t) := by
  induction ds generalizing required s with
  | nil => cases h
  | cons d ds ih =>
    have hlater {m : Properties} {u : σ} (h : (settle env ask ds m).run u = (.error e, t)) :
        ∃ d' ∈ d :: ds, env.property d' = none ∧ ∃ u, (ask d').run u = (.error e, t) := by
      obtain ⟨d', hd', h⟩ := ih h
      exact ⟨d', List.mem_cons_of_mem _ hd', h⟩
    cases hd : env.property d with
    | some v =>
      rw [settle_known hd] at h
      exact hlater h
    | none =>
      rw [settle_asked hd] at h
      rcases of_run_bind_error h with h | ⟨a, u, _, h⟩
      · exact ⟨d, List.mem_cons_self .., hd, s, h⟩
      · cases a with
        | none => exact hlater h
        | some a => exact hlater h

theorem of_run_request_error (h : (request ctx ask p name).run s = (.error e, t)) :
    (∃ cause, e = .provider p.name name cause) ∨
      ∃ d ∈ p.requiredProperties name, ctx.env.property d = none ∧ ∃ u, (ask d).run u = (.error e, t) := by
  rcases of_run_bind_error h with hs | ⟨required, u, _, hc⟩
  · exact .inr (of_run_settle_error hs)
  · exact .inl (of_run_consult_error hc)

theorem of_run_firstAnswer_error (h : (firstAnswer ctx ask name ps).run s = (.error e, t)) :
    ∃ p ∈ ps, p.canResolve name ctx.entries ctx.config = true ∧
      ∃ u, (request ctx ask p name).run u = (.error e, t) := by
  induction ps generalizing s with
  | nil => cases h
  | cons p ps ih =>
    have hlater {u : σ} (h : (firstAnswer ctx ask name ps).run u = (.error e, t)) :
        ∃ q ∈ p :: ps, q.canResolve name ctx.entries ctx.config = true ∧
          ∃ u, (request ctx ask q name).run u = (.error e, t) := by
      obtain ⟨q, hq, h⟩ := ih h
      exact ⟨q, List.mem_cons_of_mem _ hq, h⟩
    cases hp : p.canResolve name ctx.entries ctx.config with
    | false =>
      rw [firstAnswer_skip hp] at h
      exact hlater h
    | true =>
      rw [firstAnswer_try hp] at h
      rcases of_run_bind_error h with h | ⟨a, u, _, h⟩
      · exact ⟨p, List.mem_cons_self .., hp, s, h⟩
      · cases a with
        | none => exact hlater h
        | some a => cases h

/-- The path goes on with each name that is asked, and the depth left makes up for its length. -/
theorem truthful_of_run_resolveWithin (hpath : ctx.Path first chain name)
    (hlen : chain.length + depth = maxDepth)
    (h : (resolveWithin ctx depth chain name).run s = (.error e, t)) : ctx.Truthful first e := by
  induction depth generalizing chain name s with
  | zero =>
    by_cases hn : name ∈ chain
    · rw [run_resolveWithin_cycle hn] at h
      cases h
      exact ⟨chain, name, rfl, by omega, hn, hpath⟩
    · rw [run_resolveWithin_zero hn] at h
      cases h
      exact ⟨chain, hlen, hn, hpath⟩
  | succ depth ih =>
    by_cases hn : name ∈ chain
    · rw [run_resolveWithin_cycle hn] at h
      cases h
      exact ⟨chain, name, rfl, by omega, hn, hpath⟩
    · rw [resolveWithin_succ hn] at h
      obtain ⟨p, hp, hcan, u, h⟩ := of_run_firstAnswer_error h
      rcases of_run_request_error h with ⟨cause, rfl⟩ | ⟨d, hd, henv, u, h⟩
      · trivial
      · have hreq : ctx.Requires name d := ⟨⟨p, List.mem_filter.2 ⟨hp, hcan⟩, hd⟩, henv⟩
        refine ih (hpath.snoc hn hreq) ?_ h
        rw [List.length_append, List.length_singleton]
        omega

end Resolution

namespace Engine

open Resolution

/-- The rule has one outcome, whatever the providers require; a refused name shows a path that leads to
it. -/
theorem resolve_ends_and_refuses_truthfully (e : Engine σ) (name : String)
    (properties config : Properties) (s : σ) :
    let ctx := e.context properties config
    (∃ r t, (e.resolve name properties config).run s = (r, t) ∧ Resolves ctx [] name s r t ∧
      ∀ r' t', Resolves ctx [] name s r' t' → r' = r ∧ t' = t) ∧
    (∀ chain t, (e.resolve name properties config).run s = (.error (.cycle chain), t) →
      ∃ names last, chain = names ++ [last] ∧ chain.head? = some name ∧ chain.length ≤ 33 ∧
        last ∈ names ∧ names.Nodup ∧ chain.IsChain ctx.Requires) ∧
    ∀ property t, (e.resolve name properties config).run s = (.error (.tooDeep property), t) →
      ∃ names, names.length = 32 ∧ names.head? = some name ∧ names.Nodup ∧ property ∉ names ∧
        (names ++ [property]).IsChain ctx.Requires := by
  intro ctx
  have htrue {err : Resolution.Error} {t : σ}
      (h : (e.resolve name properties config).run s = (.error err, t)) : ctx.Truthful name err :=
    truthful_of_run_resolveWithin (.nil ctx name) (Nat.zero_add _) h
  refine ⟨?_, fun chain t h => ?_, fun property t h => ?_⟩
  · rcases hrun : (e.resolve name properties config).run s with ⟨r, t⟩
    refine ⟨r, t, rfl, resolves_iff.1 hrun, fun r' t' h => ?_⟩
    have hsame : (r, t) = (r', t') := hrun.symm.trans (resolves_iff.2 h)
    cases hsame
    exact ⟨rfl, rfl⟩
  · obtain ⟨names, last, rfl, hlen, hlast, hpath⟩ := htrue h
    refine ⟨names, last, rfl, hpath.head, ?_, hlast, hpath.nodup, hpath.requires⟩
    rw [List.length_append, List.length_singleton]
    exact Nat.succ_le_succ hlen
  · obtain ⟨names, hlen, hnot, hpath⟩ := htrue h
    refine ⟨names, hlen, ?_, hpath.nodup, hnot, hpath.requires⟩
    have hhead := hpath.head
    cases names with
    | nil => cases hlen
    | cons first names => exact hhead

/-- Has each name require `next` of it and answers none. -/
def leading (next : String → String) : Provider Unit where
  name := "leading"
  advertised _ _ := []
  requiredProperties name := [next name]
  canResolve _ _ _ := true
  resolve _ _ _ s := (.ok none, s)

def circular : Engine Unit := ofProviders [leading fun name => if name = "a" then "b" else "a"]

/-- Each name requires a longer one. -/
def endless : Engine Unit := ofProviders [leading fun name => name ++ "x"]

set_option maxRecDepth 2000 in
theorem refuses_circular_and_endless :
    ((circular.resolve "a" ∅ ∅).run () = (.error (.cycle ["a", "b", "a"]), ()) ∧
      ["a", "b", "a"].IsChain (circular.context ∅ ∅).Requires) ∧
    ∃ property, (endless.resolve "" ∅ ∅).run () = (.error (.tooDeep property), ()) ∧
      ∃ names, names.length = 32 ∧ names.head? = some "" ∧ names.Nodup ∧ property ∉ names ∧
        (names ++ [property]).IsChain (endless.context ∅ ∅).Requires := by
  have hcircular : (circular.resolve "a" ∅ ∅).run () = (.error (.cycle ["a", "b", "a"]), ()) := by
    rw [circular, ofProviders_singleton]; rfl
  have hendless : (endless.resolve "" ∅ ∅).run () =
      (.error (.tooDeep (String.ofList (List.replicate 32 'x'))), ()) := by
    rw [endless, ofProviders_singleton]; rfl
  have ⟨_, hcycle, _⟩ := resolve_ends_and_refuses_truthfully circular "a" ∅ ∅ ()
  have ⟨_, _, hdeep⟩ := resolve_ends_and_refuses_truthfully endless "" ∅ ∅ ()
  obtain ⟨_, _, _, _, _, _, _, hchain⟩ := hcycle _ _ hcircular
  exact ⟨⟨hcircular, hchain⟩, _, hendless, hdeep _ _ hendless⟩

end Engine

end Testbed
