import Testbed.Proofs.Resolution.Steps

/-!
# The first-answer rule

`Resolves` says without loops and without a count of the depth left what resolving a name comes to: of the
providers that take part, those before the one that decides had their requirements settled and declined,
and requirements that the environment does not know are resolved by the same rule. The engine follows the
rule (`Engine.resolves_iff`), which therefore has exactly one outcome.
-/

namespace Testbed

variable {σ : Type}

namespace Resolution

/-- The providers that take part in resolving `name`, in the order in which they are tried. -/
def Context.takers (ctx : Context σ) (name : String) : List (Provider σ) :=
  ctx.providers.filter fun p => p.canResolve name ctx.entries ctx.config

mutual

/-- Resolving `name`, which `chain` led to, takes state `s` to `t` with outcome `r`. -/
inductive Resolves (ctx : Context σ) :
    List String → String → σ → Except Error (Option String) → σ → Prop
  | cycle {chain name s} (hn : name ∈ chain) :
    Resolves ctx chain name s (.error (.cycle (chain ++ [name]))) s
  | tooDeep {chain name s} (hn : name ∉ chain) (hl : maxDepth ≤ chain.length) :
    Resolves ctx chain name s (.error (.tooDeep name)) s
  | tried {chain name s r t} (hn : name ∉ chain) (hl : chain.length < maxDepth)
    (h : FirstAnswer ctx (chain ++ [name]) name s r t) : Resolves ctx chain name s r t

/-- The outcome is that of the first provider taking part that does not decline. -/
inductive FirstAnswer (ctx : Context σ) :
    List String → String → σ → Except Error (Option String) → σ → Prop
  | decided {chain name before p after s t r u} (hp : ctx.takers name = before ++ p :: after)
    (hb : Decline ctx chain name before s t) (ha : Asks ctx chain p name t r u) (hr : r ≠ .ok none) :
    FirstAnswer ctx chain name s r u
  | declined {chain name s t} (h : Decline ctx chain name (ctx.takers name) s t) :
    FirstAnswer ctx chain name s (.ok none) t

/-- One after the other the providers have their requirements settled and decline. -/
inductive Decline (ctx : Context σ) : List String → String → List (Provider σ) → σ → σ → Prop
  | nil {chain name s} : Decline ctx chain name [] s s
  | cons {chain name p ps s t u} (ha : Asks ctx chain p name s (.ok none) t)
    (h : Decline ctx chain name ps t u) : Decline ctx chain name (p :: ps) s u

/-- A provider has its requirements for `name` settled and is asked. -/
inductive Asks (ctx : Context σ) :
    List String → Provider σ → String → σ → Except Error (Option String) → σ → Prop
  | unsettled {chain p name s e t}
    (h : Settles ctx chain (p.requiredProperties name) ∅ s (.error e) t) :
    Asks ctx chain p name s (.error e) t
  | answered {chain p name s required t a u}
    (h : Settles ctx chain (p.requiredProperties name) ∅ s (.ok required) t)
    (hp : p.resolve name required ctx.config t = (.ok a, u)) : Asks ctx chain p name s (.ok a) u
  | failed {chain p name s required t cause u}
    (h : Settles ctx chain (p.requiredProperties name) ∅ s (.ok required) t)
    (hp : p.resolve name required ctx.config t = (.error cause, u)) :
    Asks ctx chain p name s (.error (.provider p.name name cause)) u

/-- Requirements are settled one after the other and put into the map given. -/
inductive Settles (ctx : Context σ) :
    List String → List String → Properties → σ → Except Error Properties → σ → Prop
  | nil {chain required s} : Settles ctx chain [] required s (.ok required) s
  | known {chain d ds required s v r t} (hd : ctx.env.property d = some v)
    (h : Settles ctx chain ds (required.insert d v) s r t) : Settles ctx chain (d :: ds) required s r t
  | answered {chain d ds required s a t r u} (hd : ctx.env.property d = none)
    (ha : Resolves ctx chain d s (.ok (some a)) t)
    (h : Settles ctx chain ds (required.insert d (.string a)) t r u) :
    Settles ctx chain (d :: ds) required s r u
  | unanswered {chain d ds required s t r u} (hd : ctx.env.property d = none)
    (ha : Resolves ctx chain d s (.ok none) t) (h : Settles ctx chain ds required t r u) :
    Settles ctx chain (d :: ds) required s r u
  | failed {chain d ds required s e t} (hd : ctx.env.property d = none)
    (ha : Resolves ctx chain d s (.error e) t) : Settles ctx chain (d :: ds) required s (.error e) t

end

variable {ctx : Context σ} {ask : String → Run σ (Option String)} {name d : String}
  {chain ds : List String} {required : Properties} {p : Provider σ} {before after ps : List (Provider σ)}
  {r : Except Error (Option String)} {s t u : σ}

theorem Decline.snoc (h : Decline ctx chain name before s t) (ha : Asks ctx chain p name t (.ok none) u) :
    Decline ctx chain name (before ++ [p]) s u := by
  induction before generalizing s with
  | nil => cases h; exact .cons ha .nil
  | cons q before ih =>
    cases h with
    | cons hq h => exact .cons hq (ih h)

/-! ### A computation follows the rule -/

/-- `ask` resolves a name that `chain` led to by the rule. -/
def Follows (ctx : Context σ) (chain : List String) (ask : String → Run σ (Option String)) : Prop :=
  ∀ d s r t, (ask d).run s = (r, t) ↔ Resolves ctx chain d s r t

namespace Follows

theorem settle_iff (h : Follows ctx chain ask) {m : Except Error Properties} :
    (settle ctx.env ask ds required).run s = (m, t) ↔ Settles ctx chain ds required s m t := by
  induction ds generalizing required s with
  | nil =>
    constructor
    · intro hs; cases hs; exact .nil
    · intro hs; cases hs; rfl
  | cons d ds ih =>
    cases hd : ctx.env.property d with
    | some v =>
      rw [settle_known hd, ih]
      constructor
      · exact .known hd
      · intro hs
        cases hs with
        | known hd' hs => rw [hd] at hd'; cases hd'; exact hs
        | answered hd' | unanswered hd' | failed hd' => rw [hd] at hd'; cases hd'
    | none =>
      rcases ha : (ask d).run s with ⟨e | a | a, u⟩
      · rw [run_settle_failed hd ha]
        constructor
        · intro hs; cases hs; exact .failed hd ((h ..).1 ha)
        · intro hs
          cases hs with
          | known hd' => rw [hd] at hd'; cases hd'
          | answered _ ha' | unanswered _ ha' => rw [(h ..).2 ha'] at ha; cases ha
          | failed _ ha' => rw [(h ..).2 ha'] at ha; cases ha; rfl
      · rw [run_settle_unanswered hd ha, ih]
        constructor
        · exact .unanswered hd ((h ..).1 ha)
        · intro hs
          cases hs with
          | known hd' => rw [hd] at hd'; cases hd'
          | answered _ ha' | failed _ ha' => rw [(h ..).2 ha'] at ha; cases ha
          | unanswered _ ha' hs => rw [(h ..).2 ha'] at ha; cases ha; exact hs
      · rw [run_settle_answered hd ha, ih]
        constructor
        · exact .answered hd ((h ..).1 ha)
        · intro hs
          cases hs with
          | known hd' => rw [hd] at hd'; cases hd'
          | unanswered _ ha' | failed _ ha' => rw [(h ..).2 ha'] at ha; cases ha
          | answered _ ha' hs => rw [(h ..).2 ha'] at ha; cases ha; exact hs

theorem request_iff (h : Follows ctx chain ask) :
    (request ctx ask p name).run s = (r, t) ↔ Asks ctx chain p name s r t := by
  rcases hs : (settle ctx.env ask (p.requiredProperties name) ∅).run s with ⟨e | required, u⟩
  · rw [run_request_unsettled hs]
    constructor
    · intro hr; cases hr; exact .unsettled (h.settle_iff.1 hs)
    · intro ha
      cases ha with
      | unsettled hs' => rw [h.settle_iff.2 hs'] at hs; cases hs; rfl
      | answered hs' | failed hs' => rw [h.settle_iff.2 hs'] at hs; cases hs
  · rw [run_request_settled hs]
    rcases hp : p.resolve name required ctx.config u with ⟨cause | a, w⟩
    · rw [run_consult_error hp]
      constructor
      · intro hr; cases hr; exact .failed (h.settle_iff.1 hs) hp
      · intro ha
        cases ha with
        | unsettled hs' => rw [h.settle_iff.2 hs'] at hs; cases hs
        | answered hs' hp' => rw [h.settle_iff.2 hs'] at hs; cases hs; rw [hp] at hp'; cases hp'
        | failed hs' hp' => rw [h.settle_iff.2 hs'] at hs; cases hs; rw [hp] at hp'; cases hp'; rfl
    · rw [run_consult_ok hp]
      constructor
      · intro hr; cases hr; exact .answered (h.settle_iff.1 hs) hp
      · intro ha
        cases ha with
        | unsettled hs' => rw [h.settle_iff.2 hs'] at hs; cases hs
        | failed hs' hp' => rw [h.settle_iff.2 hs'] at hs; cases hs; rw [hp] at hp'; cases hp'
        | answered hs' hp' => rw [h.settle_iff.2 hs'] at hs; cases hs; rw [hp] at hp'; cases hp'; rfl

/-- Providers that decline are passed over. -/
theorem run_firstAnswer_append (h : Follows ctx chain ask) (hb : Decline ctx chain name before s t)
    (hcan : ∀ p ∈ before, p.canResolve name ctx.entries ctx.config = true) :
    (firstAnswer ctx ask name (before ++ ps)).run s = (firstAnswer ctx ask name ps).run t := by
  induction before generalizing s with
  | nil => cases hb; rfl
  | cons p before ih =>
    cases hb with
    | cons ha hb =>
      rw [List.cons_append, run_firstAnswer_declined (hcan p (List.mem_cons_self ..)) (h.request_iff.2 ha)]
      exact ih hb fun q hq => hcan q (List.mem_cons_of_mem _ hq)

/-- The induction is on the providers still to be tried; those before have declined. -/
theorem firstAnswer_of_run (h : Follows ctx chain ask) (hps : ctx.takers name = before ++ ps)
    (hb : Decline ctx chain name before s t) (hr : (firstAnswer ctx ask name ps).run t = (r, u)) :
    FirstAnswer ctx chain name s r u := by
  induction ps generalizing before t with
  | nil =>
    cases hr
    rw [List.append_nil] at hps
    exact .declined (hps ▸ hb)
  | cons p ps ih =>
    have hmem : p ∈ ctx.takers name := by
      rw [hps]; exact List.mem_append_right _ (List.mem_cons_self ..)
    have hcan := (List.mem_filter.1 hmem).2
    rcases hreq : (request ctx ask p name).run t with ⟨r', w⟩
    by_cases hne : r' = .ok none
    · subst hne
      rw [run_firstAnswer_declined hcan hreq] at hr
      exact ih (by rw [hps, List.append_assoc]; rfl) (hb.snoc (h.request_iff.1 hreq)) hr
    · rw [run_firstAnswer_decided hcan hreq hne] at hr
      cases hr
      exact .decided hps hb (h.request_iff.1 hreq) hne

theorem firstAnswer_iff (h : Follows ctx chain ask) :
    (firstAnswer ctx ask name ctx.providers).run s = (r, t) ↔ FirstAnswer ctx chain name s r t := by
  rw [← firstAnswer_filter]
  have hcan : ∀ p ∈ ctx.takers name, p.canResolve name ctx.entries ctx.config = true :=
    fun p hp => (List.mem_filter.1 hp).2
  constructor
  · intro hr
    exact h.firstAnswer_of_run (List.nil_append _).symm .nil hr
  · intro hf
    show (firstAnswer ctx ask name (ctx.takers name)).run s = (r, t)
    cases hf with
    | @decided _ _ before p after _ u _ _ hp hb ha hne =>
      rw [hp] at hcan ⊢
      rw [h.run_firstAnswer_append hb fun q hq => hcan q (List.mem_append_left _ hq)]
      have hpcan := hcan p (List.mem_append_right _ (List.mem_cons_self ..))
      exact run_firstAnswer_decided hpcan (h.request_iff.2 ha) hne
    | declined hd =>
      rw [← List.append_nil (ctx.takers name), h.run_firstAnswer_append hd hcan]
      rfl

end Follows

theorem run_resolveWithin_cycle_iff {depth : Nat} (hn : name ∈ chain) :
    (resolveWithin ctx depth chain name).run s = (r, t) ↔ Resolves ctx chain name s r t := by
  rw [run_resolveWithin_cycle hn]
  constructor
  · intro hr; cases hr; exact .cycle hn
  · intro hr
    cases hr with
    | cycle => rfl
    | tooDeep hn' | tried hn' => exact absurd hn hn'

/-- The depth left and the length of the chain make up the longest chain. -/
theorem follows_resolveWithin (depth : Nat) (chain : List String) (h : chain.length + depth = maxDepth) :
    Follows ctx chain (resolveWithin ctx depth chain) := by
  induction depth generalizing chain with
  | zero =>
    intro name s r t
    by_cases hn : name ∈ chain
    · exact run_resolveWithin_cycle_iff hn
    · rw [run_resolveWithin_zero hn]
      constructor
      · intro hr; cases hr; exact .tooDeep hn (Nat.le_of_eq h.symm)
      · intro hr
        cases hr with
        | cycle hn' => exact absurd hn' hn
        | tooDeep => rfl
        | tried _ hl => exact absurd hl (by omega)
  | succ depth ih =>
    intro name s r t
    by_cases hn : name ∈ chain
    · exact run_resolveWithin_cycle_iff hn
    · have hf := ih (chain ++ [name]) (by rw [List.length_append, List.length_singleton]; omega)
      rw [resolveWithin_succ hn, hf.firstAnswer_iff]
      constructor
      · exact .tried hn (by omega)
      · intro hr
        cases hr with
        | cycle hn' => exact absurd hn' hn
        | tooDeep _ hl => exact absurd hl (by omega)
        | tried _ _ hr => exact hr

/-- An outcome that is no error is the outcome without the names that led to it. -/
theorem Resolves.run_resolveWithin {a : Option String} (h : Resolves ctx chain d s (.ok a) t) :
    (resolveWithin ctx maxDepth [] d).run s = (.ok a, t) := by
  have hl : chain.length < maxDepth := by cases h with | tried _ hl => exact hl
  have hf : Follows ctx chain (resolveWithin ctx (maxDepth - chain.length) chain) :=
    follows_resolveWithin _ _ (by omega)
  exact run_resolveWithin_mono ((hf ..).2 h) (List.nil_subset _) (Nat.sub_le ..)

end Resolution

theorem Engine.resolves_iff {e : Engine σ} {name : String} {properties config : Properties}
    {r : Except Resolution.Error (Option String)} {s t : σ} :
    (e.resolve name properties config).run s = (r, t) ↔
      Resolution.Resolves (e.context properties config) [] name s r t :=
  Resolution.follows_resolveWithin Resolution.maxDepth [] (Nat.zero_add _) name s r t

end Testbed
