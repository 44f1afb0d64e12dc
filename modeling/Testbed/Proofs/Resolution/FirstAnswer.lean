import Testbed.Proofs.Resolution.Rule
import Testbed.Proofs.Resolution.Order

/-!
# What a request comes to

Each outcome of a request, told by the first provider that does not decline (`resolve_firstAnswer`), and what
a provider is given for the names it requires (`RequiredMap`).
-/

namespace Testbed

variable {σ : Type}

namespace Resolution

variable {ctx : Context σ} {name d x : String} {chain ds ds' names : List String}
  {m m' required : Properties} {r : Except Error (Option String)} {e : Error} {s t u : σ}

/-! ### The outcomes -/

theorem resolves_nil_iff : Resolves ctx [] name s r t ↔ FirstAnswer ctx [name] name s r t := by
  constructor
  · intro h
    cases h with
    | cycle hn => cases hn
    | tooDeep _ hl => exact absurd hl (by decide)
    | tried _ _ h => exact h
  · exact .tried List.not_mem_nil (by decide)

theorem firstAnswer_none_iff : FirstAnswer ctx chain name s (.ok none) t ↔
    Decline ctx chain name (ctx.takers name) s t := by
  constructor
  · intro h
    cases h with
    | decided _ _ _ hr => exact absurd rfl hr
    | declined h => exact h
  · exact .declined

theorem firstAnswer_some_iff {v : String} : FirstAnswer ctx chain name s (.ok (some v)) t ↔
    ∃ before p after u required w, ctx.takers name = before ++ p :: after ∧
      Decline ctx chain name before s u ∧
      Settles ctx chain (p.requiredProperties name) ∅ u (.ok required) w ∧
      p.resolve name required ctx.config w = (.ok (some v), t) := by
  constructor
  · intro h
    cases h with
    | decided hp hb ha _ =>
      cases ha with
      | answered hs hv => exact ⟨_, _, _, _, _, _, hp, hb, hs, hv⟩
  · rintro ⟨before, p, after, u, required, w, hp, hb, hs, hv⟩
    exact .decided hp hb (.answered hs hv) nofun

theorem firstAnswer_error_iff : FirstAnswer ctx chain name s (.error e) t ↔
    ∃ before p after u, ctx.takers name = before ++ p :: after ∧ Decline ctx chain name before s u ∧
      (Settles ctx chain (p.requiredProperties name) ∅ u (.error e) t ∨
        ∃ required w cause, Settles ctx chain (p.requiredProperties name) ∅ u (.ok required) w ∧
          p.resolve name required ctx.config w = (.error cause, t) ∧ e = .provider p.name name cause) := by
  constructor
  · intro h
    cases h with
    | decided hp hb ha _ =>
      cases ha with
      | unsettled hs => exact ⟨_, _, _, _, hp, hb, .inl hs⟩
      | failed hs he => exact ⟨_, _, _, _, hp, hb, .inr ⟨_, _, _, hs, he, rfl⟩⟩
  · rintro ⟨before, p, after, u, hp, hb, hs | ⟨required, w, cause, hs, he, rfl⟩⟩
    · exact .decided hp hb (.unsettled hs) nofun
    · exact .decided hp hb (.failed hs he) nofun

/-! ### What a provider is given -/

theorem Settles.of_cons (h : Settles ctx chain (d :: ds) m s (.ok required) t) :
    ∃ m' u, Settles ctx chain [d] m s (.ok m') u ∧ Settles ctx chain ds m' u (.ok required) t := by
  cases h with
  | known hd h => exact ⟨_, _, .known hd .nil, h⟩
  | answered hd ha h => exact ⟨_, _, .answered hd ha .nil, h⟩
  | unanswered hd ha h => exact ⟨_, _, .unanswered hd ha .nil, h⟩

theorem Settles.cons (h : Settles ctx chain [d] m s (.ok m') u)
    (h' : Settles ctx chain ds m' u (.ok required) t) :
    Settles ctx chain (d :: ds) m s (.ok required) t := by
  cases h with
  | known hd h => cases h; exact .known hd h'
  | answered hd ha h => cases h; exact .answered hd ha h'
  | unanswered hd ha h => cases h; exact .unanswered hd ha h'

theorem Settles.get?_of_ne (h : Settles ctx chain [d] m s (.ok m') u) (hx : x ≠ d) :
    m'.get? x = m.get? x := by
  cases h with
  | known _ h | answered _ _ h => cases h; rw [Dict.get?_insert, if_neg hx]
  | unanswered _ _ h => cases h; rfl

theorem Settles.get?_of_known {v : Value} (h : Settles ctx chain [d] m s (.ok m') u)
    (hd : ctx.env.property d = some v) : m'.get? d = some v := by
  cases h with
  | known hd' h =>
    rw [hd] at hd'
    cases hd'; cases h
    rw [Dict.get?_insert, if_pos rfl]
  | answered hd' | unanswered hd' => rw [hd] at hd'; cases hd'

theorem Settles.get?_of_asked (h : Settles ctx chain [d] m s (.ok m') u)
    (hd : ctx.env.property d = none) :
    ∃ a, Resolves ctx chain d s (.ok a) u ∧ m'.get? d = (a.map Value.string).or (m.get? d) := by
  cases h with
  | known hd' => rw [hd] at hd'; cases hd'
  | @answered _ _ _ _ _ a _ _ _ _ ha h =>
    cases h
    refine ⟨some a, ha, ?_⟩
    rw [Dict.get?_insert, if_pos rfl]; rfl
  | unanswered _ ha h => cases h; exact ⟨none, ha, rfl⟩

theorem Settles.get?_of_not_mem (h : Settles ctx chain names m s (.ok required) t) (hd : d ∉ names) :
    required.get? d = m.get? d := by
  induction names generalizing m s with
  | nil => cases h; rfl
  | cons x names ih =>
    obtain ⟨m', u, hx, h⟩ := h.of_cons
    rw [ih h fun hm => hd (List.mem_cons_of_mem _ hm)]
    exact hx.get?_of_ne fun he => hd (he ▸ List.mem_cons_self ..)

theorem Settles.get?_of_mem_known {v : Value} (h : Settles ctx chain names m s (.ok required) t)
    (hd : d ∈ names) (hv : ctx.env.property d = some v) : required.get? d = some v := by
  induction names generalizing m s with
  | nil => cases hd
  | cons x names ih =>
    obtain ⟨m', u, hx, htail⟩ := h.of_cons
    by_cases hm : d ∈ names
    · exact ih htail hm
    · obtain rfl : d = x := (List.mem_cons.1 hd).resolve_right hm
      rw [htail.get?_of_not_mem hm]
      exact hx.get?_of_known hv

theorem Settles.get?_last {before after : List String}
    (h : Settles ctx chain (before ++ d :: after) m s (.ok required) t) (hlast : d ∉ after)
    (hd : ctx.env.property d = none) :
    ∃ m' u a w, Settles ctx chain before m s (.ok m') u ∧ Resolves ctx chain d u (.ok a) w ∧
      required.get? d = (a.map Value.string).or (m'.get? d) := by
  induction before generalizing m s with
  | nil =>
    obtain ⟨m', w, hx, h⟩ := h.of_cons
    obtain ⟨a, ha, hget⟩ := hx.get?_of_asked hd
    exact ⟨m, s, a, w, .nil, ha, by rw [h.get?_of_not_mem hlast, hget]⟩
  | cons x before ih =>
    obtain ⟨m', v, hx, h⟩ := h.of_cons
    obtain ⟨m'', u, a, w, hb, ha, hget⟩ := ih h
    exact ⟨m'', u, a, w, hx.cons hb, ha, hget⟩

/-- What a provider is given for `names`, settled one after the other from state `s` on. `answer` is the
rule without the names that led here. -/
structure RequiredMap (ctx : Context σ) (answer : String → Run σ (Option String))
    (chain names : List String) (s : σ) (required : Properties) : Prop where
  absent : ∀ d ∉ names, required.get? d = none
  known : ∀ d ∈ names, ∀ v, ctx.env.property d = some v → required.get? d = some v
  /-- An unknown name is asked when its turn comes. Where the list repeats it, an answer given earlier
  stays if there is none at the last time. -/
  asked : ∀ before d after, names = before ++ d :: after → d ∉ after → ctx.env.property d = none →
    ∃ earlier u a w, Settles ctx chain before ∅ s (.ok earlier) u ∧ (answer d).run u = (.ok a, w) ∧
      required.get? d = (a.map Value.string).or (earlier.get? d) ∧
      (d ∉ before → required.get? d = a.map Value.string)

theorem Settles.requiredMap (h : Settles ctx chain names ∅ s (.ok required) t) :
    RequiredMap ctx (resolveWithin ctx maxDepth []) chain names s required where
  absent d hd := by rw [h.get?_of_not_mem hd, Dict.get?_empty]
  known d hd v hv := h.get?_of_mem_known hd hv
  asked before d after hnames hlast hd := by
    subst hnames
    obtain ⟨earlier, u, a, w, hb, ha, hget⟩ := h.get?_last hlast hd
    refine ⟨earlier, u, a, w, hb, ha.run_resolveWithin, hget, fun hfirst => ?_⟩
    rw [hget, hb.get?_of_not_mem hfirst, Dict.get?_empty, Option.or_none]

end Resolution

namespace Engine

open Resolution

/-- The first provider that does not decline decides, and it is given what its requirements come to by the
same rule. -/
theorem resolve_firstAnswer (providers : List (Provider σ)) (name : String)
    (properties config : Properties) :
    let e := ofProviders providers
    let ctx := e.context properties config
    ByPriority (providers.filter fun p => p.isEnabled (sanitize config)) ctx.providers ∧
    (∀ d, ctx.env.property d =
      ((properties.get? d).or ((sanitize config).get? d)).bind Value.nonNull?) ∧
    (∀ v s t, (e.resolve name properties config).run s = (.ok (some v), t) ↔
      ∃ before p after u required w, ctx.takers name = before ++ p :: after ∧
        Decline ctx [name] name before s u ∧
        Settles ctx [name] (p.requiredProperties name) ∅ u (.ok required) w ∧
        p.resolve name required ctx.config w = (.ok (some v), t)) ∧
    (∀ s t, (e.resolve name properties config).run s = (.ok none, t) ↔
      Decline ctx [name] name (ctx.takers name) s t) ∧
    (∀ err s t, (e.resolve name properties config).run s = (.error err, t) ↔
      ∃ before p after u, ctx.takers name = before ++ p :: after ∧ Decline ctx [name] name before s u ∧
        (Settles ctx [name] (p.requiredProperties name) ∅ u (.error err) t ∨
          ∃ required w cause, Settles ctx [name] (p.requiredProperties name) ∅ u (.ok required) w ∧
            p.resolve name required ctx.config w = (.error cause, t) ∧
            err = .provider p.name name cause)) ∧
    ∀ chain names s required t, Settles ctx chain names ∅ s (.ok required) t →
      RequiredMap ctx (fun d => e.resolve d properties config) chain names s required := by
  intro e ctx
  refine ⟨byPriority_enabled providers (sanitize config), property_environment properties config,
    fun v s t => ?_, fun s t => ?_, fun err s t => ?_, fun chain names s required t h => h.requiredMap⟩
  · rw [resolves_iff, resolves_nil_iff, firstAnswer_some_iff]
  · rw [resolves_iff, resolves_nil_iff, firstAnswer_none_iff]
  · rw [resolves_iff, resolves_nil_iff, firstAnswer_error_iff]

/-- Answers `answered` from the properties it requires, without effects. -/
def sample (name : String) (priority : Int) (answered : String) (requires : List String)
    (answer : Properties → Option String) : Provider Unit where
  name := name
  priority := priority
  advertised _ _ := [answered]
  requiredProperties _ := requires
  resolve _ required _ s := (.ok (answer required), s)

def silent : Provider Unit := sample "silent" 1 "a" [] fun _ => none

/-- Passes on what `b` comes to. -/
def relay : Provider Unit :=
  sample "relay" 2 "a" ["b"] fun required => (required.get? "b").bind Value.string?

def source : Provider Unit := sample "source" 2 "b" [] fun _ => some "of b"

theorem ofProviders_samples : ofProviders [relay, source, silent] = ⟨[silent, relay, source]⟩ := by
  simp [ofProviders, List.mergeSort, silent, relay, source, sample]

theorem resolve_relayed :
    let e := ofProviders [relay, source, silent]
    let ctx := e.context ∅ ∅
    (∃ before p after u required w, ctx.takers "a" = before ++ p :: after ∧
      Decline ctx ["a"] "a" before () u ∧
      Settles ctx ["a"] (p.requiredProperties "a") ∅ u (.ok required) w ∧
      p.resolve "a" required ctx.config w = (.ok (some "of b"), ())) ∧
    ∃ required, Settles ctx ["a"] ["b"] ∅ () (.ok required) () ∧
      RequiredMap ctx (fun d => e.resolve d ∅ ∅) ["a"] ["b"] () required ∧
      required.get? "b" = some (.string "of b") := by
  intro e ctx
  have hsorted : e = ⟨[silent, relay, source]⟩ := ofProviders_samples
  have hctx : ctx = (⟨[silent, relay, source]⟩ : Engine Unit).context ∅ ∅ := by rw [← hsorted]
  have ⟨_, henv, hsome, _, _, hmap⟩ := resolve_firstAnswer [relay, source, silent] "a" ∅ ∅
  have hrun : (e.resolve "a" ∅ ∅).run () = (.ok (some "of b"), ()) := by
    rw [hsorted]; rfl
  have hb : Resolves ctx ["a"] "b" () (.ok (some "of b")) () :=
    (follows_resolveWithin 31 ["a"] rfl "b" ..).1 (by rw [hctx]; rfl)
  have hs : Settles ctx ["a"] ["b"] ∅ () _ () := .answered (henv "b") hb .nil
  refine ⟨(hsome ..).1 hrun, _, hs, hmap _ _ _ _ _ hs, ?_⟩
  rw [Dict.get?_insert, if_pos rfl]

end Engine

end Testbed
