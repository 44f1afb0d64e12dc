import Testbed.Proofs.Resolution.Calls
import Testbed.Proofs.Resolution.Order

/-!
# Requests with all requirements supplied

Whoever asks an engine what a name requires and supplies just that has the name resolved without another one:
the providers that take part are asked in turn, each with its part of what was supplied (`askInTurn`), and a
configuration that has other values for the same names is not looked at (`resolve_of_known`). A list of
requirements covers every provider, those turned off too, so it covers every one that is asked.
-/

namespace Testbed

variable {σ : Type}

namespace Dict

variable {α : Type}

/-- The entries under `names`. -/
def restrict (d : Dict α) (names : List String) : Dict α := d.filter fun key _ => key ∈ names

theorem get?_restrict (d : Dict α) (names : List String) (key : String) :
    (d.restrict names).get? key = if key ∈ names then d.get? key else none := by
  rw [restrict, get?_filter]
  by_cases h : key ∈ names <;> cases d.get? key <;> simp [h]

end Dict

theorem Value.nonNull?_of_ne {v : Value} (h : v ≠ .null) : v.nonNull? = some v := by
  cases v with
  | null => exact absurd rfl h
  | _ => rfl

open Provider (Journal)

namespace Resolution

/-- One after the other the providers are asked for `name`, each with what it requires of `supplied`, until one
answers or fails. -/
def askInTurn (name : String) (supplied config : Properties) : List (Provider σ) → Run σ (Option String)
  | [] => pure none
  | p :: ps => do
    match ← consult p name (supplied.restrict (p.requiredProperties name)) config with
    | some answer => pure (some answer)
    | none => askInTurn name supplied config ps

/-- The environment knows `names`, each by what is supplied for it. -/
def Supplies (supplied : Properties) (env : Environment) (names : List String) : Prop :=
  ∀ d ∈ names, ∃ v, env.property d = some v ∧ supplied.get? d = some v

variable {ctx : Context σ} {env : Environment} {ask : String → Run σ (Option String)} {name : String}
  {ds : List String} {required found supplied config : Properties} {p : Provider σ} {ps : List (Provider σ)}
  {e : Error} {s t : σ}

theorem Supplies.mono {names : List String} (h : Supplies supplied env names) (hsub : ds ⊆ names) :
    Supplies supplied env ds := fun d hd => h d (hsub hd)

/-! ### Settling what is known -/

theorem run_settle_known (h : ∀ d ∈ ds, (env.property d).isSome) (required : Properties) (s : σ) :
    ∃ found, (settle env ask ds required).run s = (.ok found, s) := by
  induction ds generalizing required with
  | nil => exact ⟨required, rfl⟩
  | cons d ds ih =>
    obtain ⟨v, hv⟩ := Option.isSome_iff_exists.1 (h d List.mem_cons_self)
    rw [settle_known hv]
    exact ih (fun x hx => h x (List.mem_cons_of_mem _ hx)) _

theorem Settled.eq_restrict (h : Settled env ds found) (hsupplied : Supplies supplied env ds) :
    found = supplied.restrict ds := by
  refine Dict.ext_get? fun d => ?_
  rw [Dict.get?_restrict]
  by_cases hd : d ∈ ds
  · obtain ⟨v, hv, hget⟩ := hsupplied d hd
    rw [if_pos hd, h.known d hd v hv, hget]
  · rw [if_neg hd, h.absent d hd]

theorem Supplies.run_settle (h : Supplies supplied env ds) (s : σ) :
    (settle env ask ds ∅).run s = (.ok (supplied.restrict ds), s) := by
  have hknown : ∀ d ∈ ds, (env.property d).isSome := fun d hd => by
    obtain ⟨v, hv, -⟩ := h d hd
    rw [hv]
    rfl
  obtain ⟨found, hrun⟩ : ∃ found, (settle env ask ds ∅).run s = (.ok found, s) := run_settle_known hknown ∅ s
  rw [hrun, (settled_of_run_settle hrun).eq_restrict h]

/-! ### Asking in turn -/

theorem firstAnswer_eq_askInTurn (h : ∀ p ∈ ps, Supplies supplied ctx.env (p.requiredProperties name)) :
    firstAnswer ctx ask name ps =
      askInTurn name supplied ctx.config (ps.filter fun p => p.canResolve name ctx.entries ctx.config) := by
  rw [← firstAnswer_filter]
  -- the induction is over those that take part, since only they are asked
  have hkept := fun p (hp : p ∈ ps.filter fun p => p.canResolve name ctx.entries ctx.config) =>
    List.mem_filter.1 hp
  generalize (ps.filter fun p => p.canResolve name ctx.entries ctx.config) = takers at hkept
  induction takers with
  | nil => rfl
  | cons p takers ih =>
    obtain ⟨hp, hcan⟩ := hkept p List.mem_cons_self
    refine Run.ext fun s => ?_
    rewrite [firstAnswer, if_pos hcan, run_bind_ok ((h p hp).run_settle s), askInTurn,
      ih fun q hq => hkept q (List.mem_cons_of_mem _ hq)]
    rfl

theorem of_run_askInTurn_error (h : (askInTurn name supplied config ps).run s = (.error e, t)) :
    ∃ p ∈ ps, ∃ cause, e = .provider p.name name cause := by
  induction ps generalizing s with
  | nil => cases h
  | cons p ps ih =>
    rcases of_run_bind_error h with h | ⟨answer, u, -, h⟩
    · exact ⟨p, List.mem_cons_self, of_run_consult_error h⟩
    · cases answer with
      | some answer => cases h
      | none =>
        obtain ⟨q, hq, h⟩ := ih h
        exact ⟨q, List.mem_cons_of_mem _ hq, h⟩

/-- Those asked are a first part of the list, and each is asked once. -/
theorem journal_askInTurn (ps : List (Provider σ)) (s : σ) (before : Journal σ) : ∃ asked, asked <+: ps ∧
    ((askInTurn name supplied config (ps.map Provider.journaled)).run (s, before)).2.2 = before ++
      asked.map fun p => (p, ⟨p.name, name, supplied.restrict (p.requiredProperties name)⟩) := by
  induction ps generalizing s before with
  | nil => exact ⟨[], List.nil_prefix, (List.append_nil _).symm⟩
  | cons p ps ih =>
    have hrequires : p.journaled.requiredProperties = p.requiredProperties := rfl
    have hrun := run_consult_journaled p name (supplied.restrict (p.requiredProperties name)) config s before
    rw [List.map_cons, askInTurn, hrequires]
    rcases hp : (consult p name (supplied.restrict (p.requiredProperties name)) config).run s with ⟨cause | a, t⟩
    · rw [hp] at hrun
      rw [run_bind_error hrun]
      exact ⟨[p], ⟨ps, rfl⟩, rfl⟩
    · rw [hp] at hrun
      rw [run_bind_ok hrun]
      cases a with
      | some a => exact ⟨[p], ⟨ps, rfl⟩, rfl⟩
      | none =>
        obtain ⟨asked, ⟨rest, rfl⟩, hasked⟩ := ih t (before ++ [(p, ⟨p.name, name, _⟩)])
        refine ⟨p :: asked, ⟨rest, rfl⟩, hasked.trans ?_⟩
        rw [List.map_cons, List.append_assoc]
        rfl

end Resolution

namespace Engine

open Resolution

variable {e : Engine σ} {name : String} {properties config : Properties}

theorem supplies_of_known (h : ∀ d ∈ e.requiredProperties name, ∃ v, properties.get? d = some v ∧ v ≠ .null) :
    Supplies properties (environment properties config) (e.requiredProperties name) := by
  intro d hd
  obtain ⟨v, hget, hv⟩ := h d hd
  refine ⟨v, ?_, hget⟩
  rw [property_environment, hget]
  exact Value.nonNull?_of_ne hv

theorem resolve_eq_askInTurn (h : ∀ d ∈ e.requiredProperties name, ∃ v, properties.get? d = some v ∧ v ≠ .null) :
    e.resolve name properties config =
      askInTurn name properties (sanitize config) ((e.context properties config).takers name) := by
  have hsupplied : Supplies properties (environment properties config) (e.requiredProperties name) :=
    supplies_of_known h
  rw [resolve, maxDepth, resolveWithin_succ List.not_mem_nil]
  refine firstAnswer_eq_askInTurn fun p hp => hsupplied.mono fun d hd => ?_
  exact mem_distinct.2 (List.mem_flatMap.2 ⟨p, List.mem_of_mem_filter hp, hd⟩)

theorem requiredProperties_journaled (e : Engine σ) (name : String) :
    e.journaled.requiredProperties name = e.requiredProperties name :=
  congrArg distinct (List.flatMap_map ..)

theorem calls_eq_askInTurn (h : ∀ d ∈ e.requiredProperties name, ∃ v, properties.get? d = some v ∧ v ≠ .null) (s : σ) :
    e.calls name properties config s = ((askInTurn name properties (sanitize config)
      (((e.context properties config).takers name).map Provider.journaled)).run (s, [])).2.2 := by
  rw [← requiredProperties_journaled] at h
  rw [calls, resolve_eq_askInTurn h, context_journaled, takers_journaled]

/-- With a value supplied for each requirement of a name, the providers that take part are asked for this name in
turn, with what they require of the supplied values and nothing else. So there is no chain that could be refused. -/
theorem resolve_of_known (e : Engine σ) (name : String) (properties config : Properties)
    (hknown : ∀ d ∈ e.requiredProperties name, ∃ v, properties.get? d = some v ∧ v ≠ .null) :
    let takers := (e.context properties config).takers name
    e.resolve name properties config = askInTurn name properties (sanitize config) takers ∧
    ∀ s, (∀ err t, (e.resolve name properties config).run s = (.error err, t) →
        ∃ p ∈ takers, ∃ cause, err = .provider p.name name cause) ∧
      ∃ asked, asked <+: takers ∧ e.calls name properties config s =
        asked.map fun p => (p, ⟨p.name, name, properties.restrict (p.requiredProperties name)⟩) := by
  intro takers
  have hresolve : e.resolve name properties config = askInTurn name properties (sanitize config) takers :=
    resolve_eq_askInTurn hknown
  refine ⟨hresolve, fun s => ⟨fun err t h => ?_, ?_⟩⟩
  · rw [hresolve] at h
    exact of_run_askInTurn_error h
  · rw [calls_eq_askInTurn hknown]
    exact journal_askInTurn takers s []

/-- Answers the host from the address that is built from it. -/
def hostOfMain : Provider Unit where
  name := "host of main"
  advertised _ _ := ["host"]
  requiredProperties name := if name = "host" then ["databases.main.url"] else []
  resolve _ required _ s := (.ok ((required.get? "databases.main.url").map Value.text), s)

def otherHost : Properties := Dict.empty.insert "host" (.string "other")

/-- With the host supplied, another one in the configuration is not looked at; without any, it is looked for in a
circle. -/
theorem resolve_with_host :
    let e : Engine Unit := ⟨[switched, hostOfMain, addresses]⟩
    (∀ d ∈ e.requiredProperties "databases.main.url", ∃ v, mainDatabase.get? d = some v ∧ v ≠ .null) ∧
      (e.resolve "databases.main.url" mainDatabase otherHost).run () = (.ok (some "h/databases.main.url"), ()) ∧
      (∃ asked, asked <+: [addresses] ∧ e.calls "databases.main.url" mainDatabase otherHost () =
        asked.map fun p => (p, ⟨p.name, "databases.main.url",
          mainDatabase.restrict (p.requiredProperties "databases.main.url")⟩)) ∧
      (e.resolve "databases.main.url" (mainDatabase.erase "host") ∅).run () =
        (.error (.cycle ["databases.main.url", "host", "databases.main.url"]), ()) := by
  intro e
  have hrequired : e.requiredProperties "databases.main.url" = ["host"] := by decide
  have hknown : ∀ d ∈ e.requiredProperties "databases.main.url", ∃ v, mainDatabase.get? d = some v ∧ v ≠ .null := by
    rw [hrequired]
    exact List.forall_mem_singleton.2 ⟨.string "h", rfl, nofun⟩
  obtain ⟨hresolve, hcalls⟩ := resolve_of_known e "databases.main.url" mainDatabase otherHost hknown
  exact ⟨hknown, by rw [hresolve]; rfl, (hcalls ()).2, rfl⟩

end Engine

end Testbed
