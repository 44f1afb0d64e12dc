import Testbed.Resolution

/-!
# One step of a resolution at a time

What settling a requirement, asking a provider and trying the next one make of the state, and how a
computation that ran came about (`of_run_bind_ok`, `of_run_bind_error`). An answer found while names are
being resolved is found just so from the start, where the chain is shorter (`run_resolveWithin_mono`).
-/

namespace Testbed.Resolution

variable {σ α β : Type}

/-! ### Sequencing -/

section
variable {x : Run σ α} {f : α → Run σ β} {a : α} {b : β} {e : Error} {s t u : σ}

theorem run_bind (x : Run σ α) (f : α → Run σ β) (s : σ) : (x >>= f).run s =
    match x.run s with
    | (.ok a, t) => (f a).run t
    | (.error e, t) => (.error e, t) := by
  show ExceptT.bindCont f (x.run s).1 (x.run s).2 = _
  rcases x.run s with ⟨e | a, t⟩ <;> rfl

theorem run_bind_ok (h : x.run s = (.ok a, t)) : (x >>= f).run s = (f a).run t := by
  rw [run_bind, h]

theorem run_bind_error (h : x.run s = (.error e, t)) : (x >>= f).run s = (.error e, t) := by
  rw [run_bind, h]

theorem of_run_bind_ok (h : (x >>= f).run s = (.ok b, u)) :
    ∃ a t, x.run s = (.ok a, t) ∧ (f a).run t = (.ok b, u) := by
  rw [run_bind] at h
  rcases hx : x.run s with ⟨e | a, t⟩
  · rw [hx] at h; cases h
  · rw [hx] at h; exact ⟨a, t, rfl, h⟩

theorem of_run_bind_error (h : (x >>= f).run s = (.error e, u)) :
    x.run s = (.error e, u) ∨ ∃ a t, x.run s = (.ok a, t) ∧ (f a).run t = (.error e, u) := by
  rw [run_bind] at h
  rcases hx : x.run s with ⟨e | a, t⟩
  · rw [hx] at h; cases h; exact .inl rfl
  · rw [hx] at h; exact .inr ⟨a, t, rfl, h⟩

end

/-- Settles what a provider requires for `name` and asks it. -/
def request (ctx : Context σ) (ask : String → Run σ (Option String)) (p : Provider σ) (name : String) :
    Run σ (Option String) := do
  let required ← settle ctx.env ask (p.requiredProperties name) ∅
  consult p name required ctx.config

variable {ctx : Context σ} {env : Environment} {ask ask' : String → Run σ (Option String)}
  {name d : String} {ds chain chain' : List String} {required found : Properties} {p : Provider σ}
  {ps : List (Provider σ)} {depth depth' : Nat} {r : Except Error (Option String)} {e : Error} {s t u : σ}

/-! ### Requirements -/

theorem settle_known {v : Value} (h : env.property d = some v) :
    settle env ask (d :: ds) required = settle env ask ds (required.insert d v) := by
  rw [settle, h]

theorem settle_asked (h : env.property d = none) :
    settle env ask (d :: ds) required = (do
      match ← ask d with
      | some a => settle env ask ds (required.insert d (.string a))
      | none => settle env ask ds required) := by
  rewrite [settle, h]
  rfl

theorem run_settle_answered {a : String} (h : env.property d = none)
    (ha : (ask d).run s = (.ok (some a), t)) : (settle env ask (d :: ds) required).run s =
      (settle env ask ds (required.insert d (.string a))).run t := by
  rw [settle_asked h, run_bind_ok ha]

theorem run_settle_unanswered (h : env.property d = none) (ha : (ask d).run s = (.ok none, t)) :
    (settle env ask (d :: ds) required).run s = (settle env ask ds required).run t := by
  rw [settle_asked h, run_bind_ok ha]

theorem run_settle_failed (h : env.property d = none) (ha : (ask d).run s = (.error e, t)) :
    (settle env ask (d :: ds) required).run s = (.error e, t) := by
  rw [settle_asked h, run_bind_error ha]

/-! ### Providers -/

theorem run_consult_ok {config : Properties} {a : Option String}
    (hp : p.resolve name required config s = (.ok a, t)) :
    (consult p name required config).run s = (.ok a, t) := by
  simp only [consult, ExceptT.run, ExceptT.mk, hp]

theorem run_consult_error {config : Properties} {cause : Provider.Error}
    (hp : p.resolve name required config s = (.error cause, t)) :
    (consult p name required config).run s = (.error (.provider p.name name cause), t) := by
  simp only [consult, ExceptT.run, ExceptT.mk, hp]

theorem of_run_consult_error {config : Properties} (h : (consult p name required config).run s = (.error e, t)) :
    ∃ cause, e = .provider p.name name cause := by
  rcases hp : p.resolve name required config s with ⟨cause | a, u⟩
  · rw [run_consult_error hp] at h
    cases h
    exact ⟨cause, rfl⟩
  · rw [run_consult_ok hp] at h
    cases h

theorem run_request_settled
    (hs : (settle ctx.env ask (p.requiredProperties name) ∅).run s = (.ok required, t)) :
    (request ctx ask p name).run s = (consult p name required ctx.config).run t := run_bind_ok hs

theorem run_request_unsettled
    (hs : (settle ctx.env ask (p.requiredProperties name) ∅).run s = (.error e, t)) :
    (request ctx ask p name).run s = (.error e, t) := run_bind_error hs

theorem firstAnswer_skip (h : p.canResolve name ctx.entries ctx.config = false) :
    firstAnswer ctx ask name (p :: ps) = firstAnswer ctx ask name ps := by
  rw [firstAnswer, h]; rfl

theorem firstAnswer_try (h : p.canResolve name ctx.entries ctx.config = true) :
    (firstAnswer ctx ask name (p :: ps)).run s = (do
      match ← request ctx ask p name with
      | some a => pure (some a)
      | none => firstAnswer ctx ask name ps : Run σ (Option String)).run s := by
  rw [firstAnswer, if_pos h]
  rcases hs : (settle ctx.env ask (p.requiredProperties name) ∅).run s with ⟨e | required, t⟩
  · rw [run_bind_error hs, run_bind_error (run_request_unsettled hs)]
  · rewrite [run_bind_ok hs, run_bind, run_bind, run_request_settled hs]
    rfl

/-- Only providers that can resolve the name are tried. -/
theorem firstAnswer_filter (ps : List (Provider σ)) :
    firstAnswer ctx ask name (ps.filter fun p => p.canResolve name ctx.entries ctx.config) =
      firstAnswer ctx ask name ps := by
  induction ps with
  | nil => rfl
  | cons p ps ih =>
    cases h : p.canResolve name ctx.entries ctx.config with
    | false =>
      rw [firstAnswer_skip h, List.filter_cons_of_neg (by rw [h]; exact Bool.false_ne_true), ih]
    | true =>
      rw [List.filter_cons_of_pos (by exact h), firstAnswer, firstAnswer, ih]

theorem run_firstAnswer_declined (h : p.canResolve name ctx.entries ctx.config = true)
    (hr : (request ctx ask p name).run s = (.ok none, t)) :
    (firstAnswer ctx ask name (p :: ps)).run s = (firstAnswer ctx ask name ps).run t := by
  rw [firstAnswer_try h, run_bind_ok hr]

/-- The first that does not decline decides. -/
theorem run_firstAnswer_decided (h : p.canResolve name ctx.entries ctx.config = true)
    (hr : (request ctx ask p name).run s = (r, t)) (hne : r ≠ .ok none) :
    (firstAnswer ctx ask name (p :: ps)).run s = (r, t) := by
  rw [firstAnswer_try h]
  rcases r with e | v | v
  · exact run_bind_error hr
  · exact absurd rfl hne
  · rw [run_bind_ok hr]; rfl

/-! ### Names -/

theorem run_resolveWithin_cycle (h : name ∈ chain) : (resolveWithin ctx depth chain name).run s =
    (.error (.cycle (chain ++ [name])), s) := by
  cases depth with
  | zero => rw [resolveWithin, if_pos h]; rfl
  | succ depth => rw [resolveWithin, if_pos h]; rfl

theorem run_resolveWithin_zero (h : name ∉ chain) :
    (resolveWithin ctx 0 chain name).run s = (.error (.tooDeep name), s) := by
  rw [resolveWithin, if_neg h]; rfl

theorem resolveWithin_succ (h : name ∉ chain) : resolveWithin ctx (depth + 1) chain name =
    firstAnswer ctx (resolveWithin ctx depth (chain ++ [name])) name ctx.providers := by
  rw [resolveWithin, if_neg h]

/-! ### Answers do not depend on the way to them -/

/-- What `ask` answers, `ask'` answers, and leaves the same state. -/
def Refines (ask ask' : String → Run σ (Option String)) : Prop :=
  ∀ d s a t, (ask d).run s = (.ok a, t) → (ask' d).run s = (.ok a, t)

theorem Refines.settle (h : Refines ask ask') (hs : (settle env ask ds required).run s = (.ok found, t)) :
    (settle env ask' ds required).run s = (.ok found, t) := by
  induction ds generalizing required s with
  | nil => exact hs
  | cons d ds ih =>
    cases hd : env.property d with
    | some v =>
      rw [settle_known hd] at hs ⊢
      exact ih hs
    | none =>
      rw [settle_asked hd] at hs
      obtain ⟨a, u, ha, hs⟩ := of_run_bind_ok hs
      have ha' : (ask' d).run s = (.ok a, u) := h d s a u ha
      rw [settle_asked hd, run_bind_ok ha']
      cases a with
      | none => exact ih hs
      | some a => exact ih hs

theorem Refines.request {a : Option String} (h : Refines ask ask')
    (hr : (request ctx ask p name).run s = (.ok a, t)) : (request ctx ask' p name).run s = (.ok a, t) := by
  obtain ⟨required, u, hs, hc⟩ := of_run_bind_ok hr
  rw [run_request_settled (h.settle hs), hc]

theorem Refines.firstAnswer {a : Option String} (h : Refines ask ask')
    (hr : (firstAnswer ctx ask name ps).run s = (.ok a, t)) :
    (firstAnswer ctx ask' name ps).run s = (.ok a, t) := by
  induction ps generalizing s with
  | nil => exact hr
  | cons p ps ih =>
    cases hp : p.canResolve name ctx.entries ctx.config with
    | false =>
      rw [firstAnswer_skip hp] at hr ⊢
      exact ih hr
    | true =>
      rw [firstAnswer_try hp] at hr
      obtain ⟨b, u, hb, hr⟩ := of_run_bind_ok hr
      rw [firstAnswer_try hp, run_bind_ok (h.request hb)]
      cases b with
      | none => exact ih hr
      | some b => exact hr

/-- An answer along a chain is the answer along a part of it, with at least the same depth allowed. -/
theorem run_resolveWithin_mono {a : Option String}
    (hr : (resolveWithin ctx depth chain name).run s = (.ok a, t)) (hsub : chain' ⊆ chain)
    (hle : depth ≤ depth') : (resolveWithin ctx depth' chain' name).run s = (.ok a, t) := by
  induction depth generalizing depth' chain chain' name s a t with
  | zero =>
    by_cases hn : name ∈ chain
    · rw [run_resolveWithin_cycle hn] at hr; cases hr
    · rw [run_resolveWithin_zero hn] at hr; cases hr
  | succ depth ih =>
    by_cases hn : name ∈ chain
    · rw [run_resolveWithin_cycle hn] at hr; cases hr
    · obtain ⟨depth', rfl⟩ : ∃ n, depth' = n + 1 := ⟨depth' - 1, by omega⟩
      rw [resolveWithin_succ hn] at hr
      rw [resolveWithin_succ fun hn' => hn (hsub hn')]
      refine Refines.firstAnswer (fun d s a t ha => ih ha ?_ (Nat.le_of_succ_le_succ hle)) hr
      exact List.append_subset.2 ⟨fun x hx => List.mem_append_left _ (hsub hx), List.subset_append_right ..⟩

end Testbed.Resolution
