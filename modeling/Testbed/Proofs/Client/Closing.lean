import Testbed.Proofs.Client.Operations
import Testbed.Proofs.Registry.Views

/-!
# What the text of a scope closes

The text is compared with the empty one and with `all` as it stands, sent without its breaks, and read as a scope
by the server. So the scope closed is that of the text if this has no breaks and is not the root (`closed?_eq_within`);
but three or more dots name the root and close everything, and so does an `all` with breaks in it, which
arrives where everything is closed (`closeScope_closes`).
-/

namespace Testbed

open Text.Percent (encode inSegment)

/-! ### Texts of the root -/

theorem Text.splitChars_eq_nil_iff {sep : Char} {cs : List Char} :
    (∀ piece ∈ splitChars sep cs, piece = []) ↔ ∀ c ∈ cs, c = sep := by
  induction cs with
  | nil => simp [splitChars]
  | cons c cs ih =>
    rw [List.forall_mem_cons]
    by_cases hc : c = sep
    · rw [splitChars, if_pos hc, List.forall_mem_cons, ih]
      simp [hc]
    · obtain ⟨piece, pieces, -, hcs⟩ := splitChars_cons_of_ne hc cs
      rw [hcs, List.forall_mem_cons]
      simp [hc]

theorem Scope.parse_eq_root_iff {text : String} : Scope.parse text = .root ↔ ∀ c ∈ text.toList, c = '.' := by
  rw [parse, root, Scope.mk.injEq, List.filter_eq_nil_iff, Text.splitOn, List.forall_mem_map,
    ← Text.splitChars_eq_nil_iff]
  simp

/-! ### Where the text leads -/

namespace Url

variable {u : Url} {text : String}

theorem extend_close (h : Carries (unbroken text)) : u.extend ["close", text] = u.extend ["close", unbroken text] := by
  have hself := unbroken_eq_self (any_isBreak_unbroken text)
  have hpush (path : List String) : push path text = push path (unbroken text) := by
    rw [push_of_carries_unbroken h, push_of_carries_unbroken (hself.symm ▸ h), hself]
  simp only [extend, List.foldl_cons, hpush]

/-- A text that no segment carries leads to a path without a name behind `close`, or to the root. -/
theorem path_extend_close (hu : u.AtRoot) (h : ¬Carries (unbroken text)) :
    (u.extend ["close", text]).path ∈ [["close"], ["close", ""], [""]] := by
  have hclose : push [""] "close" = ["close"] := by
    rw [push_eq (by decide), if_pos rfl, Text.Percent.encode_eq_self (by decide), List.nil_append]
  have hpath : (u.extend ["close", text]).path = push ["close"] text := by
    simp only [extend, hu.path, List.length_singleton, Nat.lt_irrefl, false_and, if_false, List.foldl_cons,
      List.foldl_nil, hclose]
  have hname : unbroken text = "" ∨ unbroken text = "." ∨ unbroken text = ".." := by
    by_contra hname
    rw [not_or, not_or] at hname
    exact h (carries_unbroken_iff.2 hname)
  rw [hpath, push]
  split
  · exact List.mem_cons_self
  · show (if unbroken text = "." then _ else if unbroken text = ".." then _ else
      _ ++ [encode inSegment (unbroken text)]) ∈ _
    rcases hname with hname | hname | hname
    all_goals
      rw [hname]
      decide

end Url

/-! ### What is closed -/

namespace Site

variable {ρ σ : Type} [Held ρ σ]

/-- The site once all that a target covers is taken out and closed. -/
def clear (target : Registry.Target) (s : Site ρ σ) : Site ρ σ :=
  { s with
    registry := (target.takeOut s.registry).2
    world := Registry.closeEach (s.registry.live.filter fun e => target.covers e.key) s.world }

theorem isEmpty_takeOut (target : Registry.Target) (reg : Registry ρ) :
    (!(target.takeOut reg).1.isEmpty) = reg.live.any fun e => target.covers e.key := by
  rw [Registry.Target.takeOut_fst, Bool.eq_iff_iff]
  simp

theorem closeScope_eq (scope : Scope) (s : Site ρ σ) : s.closeScope scope =
    (s.registry.live.any fun e => scope.includes e.key.scope, s.clear (.within scope)) := by
  have hany := isEmpty_takeOut (.within scope) s.registry
  have hgone := Registry.Target.takeOut_fst (.within scope) s.registry
  rw [clear, ← hgone]
  exact Prod.ext hany rfl

theorem closeAll_eq (s : Site ρ σ) : s.closeAll = (s.registry.live.any fun _ => true, s.clear .everything) := by
  have hany := isEmpty_takeOut .everything s.registry
  have hgone := Registry.Target.takeOut_fst .everything s.registry
  rw [clear, ← hgone]
  exact Prod.ext hany rfl

end Site

namespace Client

/-- What the text of a scope closes, if the client is let in: its name is what is left of it without breaks, and
closes nothing if no segment of a path carries it. -/
def closed? (text : String) : Option Registry.Target :=
  let name := Url.unbroken text
  if text = closeAllSegment ∨ ¬Url.Carries name then none
  else if name = closeAllSegment then some .everything
  else some (.within (.parse name))

section
variable {text : String} {target : Registry.Target}

theorem closed?_eq_within (hbreaks : text.toList.any Url.isBreak = false) (hroot : Scope.parse text ≠ .root)
    (hall : text ≠ closeAllSegment) : closed? text = some (.within (.parse text)) := by
  have hname := Url.unbroken_eq_self hbreaks
  have hcarries : Url.Carries text := by
    refine ⟨?_, ?_, ?_, hbreaks⟩
    all_goals
      rintro rfl
      exact hroot (by decide)
  simp only [closed?, hname, hall, hcarries, not_true, or_self, if_false]

theorem closed?_eq_some_iff : closed? text = some target ↔ text ≠ closeAllSegment ∧ Url.Carries (Url.unbroken text) ∧
    target = if Url.unbroken text = closeAllSegment then .everything else .within (.parse (Url.unbroken text)) := by
  rw [closed?]
  split
  · rename_i h
    exact ⟨nofun, fun ⟨hall, hcarries, _⟩ => absurd h (not_or.2 ⟨hall, not_not.2 hcarries⟩)⟩
  · rename_i h
    obtain ⟨hall, hcarries⟩ := not_or.1 h
    rw [← apply_ite some, Option.some.injEq]
    exact ⟨fun he => ⟨hall, not_not.1 hcarries, he.symm⟩, fun he => he.2.2.symm⟩

theorem not_refused (h : closed? text = some target) : ¬(text = "" ∨ text = closeAllSegment) := by
  obtain ⟨hall, hcarries, -⟩ := closed?_eq_some_iff.1 h
  rintro (rfl | rfl)
  · exact hcarries.ne_empty (by decide)
  · exact hall rfl

theorem closed?_eq_everything_iff :
    closed? text = some .everything ↔ text ≠ closeAllSegment ∧ Url.unbroken text = closeAllSegment := by
  rw [closed?_eq_some_iff]
  constructor
  · rintro ⟨hall, -, htarget⟩
    refine ⟨hall, Decidable.not_not.1 fun hname => ?_⟩
    rw [if_neg hname] at htarget
    cases htarget
  · rintro ⟨hall, hname⟩
    refine ⟨hall, ?_, (if_pos hname).symm⟩
    rw [hname]
    decide

theorem closed?_eq_root_iff : closed? text = some (.within .root) ↔
    3 ≤ (Url.unbroken text).length ∧ ∀ c ∈ (Url.unbroken text).toList, c = '.' := by
  rw [closed?_eq_some_iff]
  constructor
  · rintro ⟨-, hcarries, htarget⟩
    have hname : Url.unbroken text ≠ closeAllSegment := by
      intro hname
      rw [if_pos hname] at htarget
      cases htarget
    rw [if_neg hname, Registry.Target.within.injEq, eq_comm, Scope.parse_eq_root_iff] at htarget
    refine ⟨?_, htarget⟩
    have hdots := List.eq_replicate_of_mem htarget
    rw [String.length_toList] at hdots
    by_contra hlength
    obtain h | h | h : (Url.unbroken text).length = 0 ∨ (Url.unbroken text).length = 1 ∨
      (Url.unbroken text).length = 2 := by omega
    · rw [h] at hdots
      exact hcarries.ne_empty (String.toList_inj.1 (hdots.trans (by decide)))
    · rw [h] at hdots
      exact hcarries.ne_dot (String.toList_inj.1 (hdots.trans (by decide)))
    · rw [h] at hdots
      exact hcarries.ne_dots (String.toList_inj.1 (hdots.trans (by decide)))
  · rintro ⟨hlength, hdots⟩
    have hname : Url.unbroken text ≠ closeAllSegment := fun hname => absurd (hdots 'a' (hname ▸ by decide)) (by decide)
    have hcarries : Url.Carries (Url.unbroken text) := by
      refine Url.carries_unbroken_iff.2 ⟨?_, ?_, ?_⟩
      all_goals
        intro h
        exact absurd (h ▸ hlength) (by decide)
    refine ⟨?_, hcarries, ?_⟩
    · rintro rfl
      exact hname (by decide)
    · rw [if_neg hname, Scope.parse_eq_root_iff.2 hdots]

end

/-! ### Closing -/

section
variable {τ : Type} {c : Client} {send : Transport τ} {text : String} {t : τ}

theorem run_closeScope_refused (h : text = "" ∨ text = closeAllSegment) :
    (c.closeScope send text).run t = (.error (.usage (.unclosable text)), t) := by
  rw [closeScope, if_pos h]
  rfl

theorem closeScope_sent (h : ¬(text = "" ∨ text = closeAllSegment)) : c.closeScope send text =
    c.exchange send .get ["close", text] none >>= fun v => expect (Message.boolean "close" v) := by
  rw [closeScope, if_neg h]

end

variable {ρ σ : Type} [Held ρ σ] [Described ρ] {c : Client} {server : Server (Site ρ σ)} {text name : String}
  {target : Registry.Target} {s : Server.State ρ σ}

theorem leads_close (h : Url.Carries name) (hall : name ≠ closeAllSegment) :
    Leads ["close", name] .get (.close (encode inSegment name)) := by
  -- What is written as `all` was `all`.
  have hne : encode inSegment name ≠ "all" := by
    intro hname
    have hread : Text.Percent.decodeText? (encode inSegment name) = some name :=
      Text.Percent.decodeText?_encode (by decide) name
    have hall' : encode inSegment "all" = "all" := Text.Percent.encode_eq_self (by decide)
    have hread' : Text.Percent.decodeText? (encode inSegment "all") = some "all" :=
      Text.Percent.decodeText?_encode (by decide) "all"
    rw [hname, ← hall', hread'] at hread
    exact hall (Option.some.inj hread).symm
  refine Leads.of_parameter ["close"] h (by decide) (by decide) ?_ rfl nofun
  have hempty := Url.encode_ne_empty h
  generalize encode inSegment name = segment at hne hempty ⊢
  rw [List.singleton_append]
  unfold Server.Route.ofSegments?
  split <;> simp_all

theorem serve_close (name : String) (s : Server.State ρ σ) :
    server.serve (.close (encode inSegment name)) .get [] s =
      (.ok (.bool (s.site.registry.live.any fun e => (Scope.parse name).includes e.key.scope)),
        { s with site := s.site.clear (.within (.parse name)) }) := by
  have hread : Server.readScope (encode inSegment name) = .ok (.parse name) := by
    rw [Server.readScope, Server.readParameter_encode]
    rfl
  rw [Server.serve, hread]
  simp only [Site.closeScope_eq]

theorem serve_closeAll (s : Server.State ρ σ) : server.serve .closeAll .get [] s =
    (.ok (.bool (s.site.registry.live.any fun _ => true)), { s with site := s.site.clear .everything }) := by
  rw [Server.serve]
  simp only [Site.closeAll_eq]

/-- A client that is let in closes what the text says, and is told whether there was any of it. -/
theorem run_closeScope (h : c.Reaches server) (htext : closed? text = some target) :
    (c.closeScope (Transport.toServer server) text).run s =
      (.ok (s.site.registry.live.any fun e => target.covers e.key), { s.access with site := s.site.clear target }) := by
  obtain ⟨-, hcarries, htarget⟩ := closed?_eq_some_iff.1 htext
  have hexchange : c.exchange (Transport.toServer server) .get ["close", text] none =
      c.exchange (Transport.toServer server) .get ["close", Url.unbroken text] none := by
    simp only [exchange, Url.extend_close hcarries]
  rw [closeScope_sent (not_refused htext), hexchange, htarget]
  by_cases hname : Url.unbroken text = closeAllSegment
  · rw [if_pos hname, hname]
    exact leads_closeAll.run_flag h "close" (serve_closeAll s.access)
  · rw [if_neg hname]
    exact (leads_close hcarries hname).run_flag h "close" (serve_close _ s.access)

/-- Otherwise it gets an error; of the texts that are sent none is called unclosable. -/
theorem run_closeScope_error (hroot : c.base.AtRoot) (h : ¬c.Reaches server ∨ closed? text = none) :
    ∃ e, (e = .usage (.unclosable text) ↔ text = "" ∨ text = closeAllSegment) ∧
      ((c.closeScope (Transport.toServer server) text).run s).1 = .error e ∧
      ((c.closeScope (Transport.toServer server) text).run s).2.site = s.site := by
  by_cases hsent : text = "" ∨ text = closeAllSegment
  · refine ⟨_, iff_of_true rfl hsent, ?_⟩
    rw [run_closeScope_refused hsent]
    exact ⟨rfl, rfl⟩
  rw [closeScope_sent hsent]
  by_cases hreaches : c.Reaches server
  · have hcarries : ¬Url.Carries (Url.unbroken text) := by
      intro hcarries
      have hsome := closed?_eq_some_iff.2 ⟨fun hall => hsent (.inr hall), hcarries, rfl⟩
      rw [h.resolve_left (not_not.2 hreaches)] at hsome
      cases hsome
    have hpaths : ∀ path ∈ [["close"], ["close", ""], [""]], path ≠ [] ∧
        (∀ s ∈ path, ∀ d ∈ s.toList, d ∉ ['#', '/', '?']) ∧ Server.Route.ofSegments? path = none := by
      simp [Server.Route.ofSegments?]
    obtain ⟨hne, hends, hnone⟩ := hpaths _ (Url.path_extend_close hroot hcarries)
    have hquery : (c.base.extend ["close", text]).query = none := hroot.query
    have hroute := (route_of_path (c := c) hquery hne hends .get none).trans hnone
    refine ⟨.server 404 "", iff_of_false nofun hsent, ?_⟩
    rw [run_bind_error (run_exchange_of_no_route hreaches mapM_encode_none hroute s)]
    exact ⟨rfl, rfl⟩
  · obtain ⟨e, he, hrun⟩ := run_exchange_of_not_reaches (s := s) hroot hreaches .get ["close", text] mapM_encode_none
    refine ⟨e, iff_of_false ?_ hsent, ?_⟩
    · rintro rfl
      rcases he with he | ⟨_, he⟩
      · cases he
      · cases he
    · rw [run_bind_error hrun]
      exact ⟨rfl, rfl⟩

/-- A client that closes by the text of a scope either fails, and nothing is closed, or closes what the text
says, and nothing else. That is the scope of the text if it has no breaks and names a scope below the root; but only
the empty text and `all` are refused, and so everything can be closed by texts of both sorts: by those that arrive
as `all`, and by dots alone, of which the path drops no more than two. -/
theorem closeScope_closes (c : Client) (server : Server (Site ρ σ)) (hroot : c.base.AtRoot) (text : String)
    (s : Server.State ρ σ) :
    let outcome := (c.closeScope (Transport.toServer server) text).run s
    let live := s.site.registry.live
    (outcome.1 = .error (.usage (.unclosable text)) ↔ text = "" ∨ text = closeAllSegment) ∧
    (∀ e, outcome.1 = .error e → outcome.2.site = s.site) ∧
    (∀ any, outcome.1 = .ok any → ∃ target, closed? text = some target ∧
      any = (live.any fun e => target.covers e.key) ∧ outcome.2.site = s.site.clear target ∧
      outcome.2.site.registry.live = live.filter fun e => !target.covers e.key) ∧
    (c.Reaches server → ∀ target, closed? text = some target → ∃ any, outcome.1 = .ok any) ∧
    (text.toList.any Url.isBreak = false → Scope.parse text ≠ .root → text ≠ closeAllSegment →
      closed? text = some (.within (.parse text))) ∧
    (closed? text = some .everything ↔ text ≠ closeAllSegment ∧ Url.unbroken text = closeAllSegment) ∧
    (closed? text = some (.within .root) ↔
      3 ≤ (Url.unbroken text).length ∧ ∀ c ∈ (Url.unbroken text).toList, c = '.') := by
  intro outcome live
  by_cases h : ¬c.Reaches server ∨ closed? text = none
  · obtain ⟨e, he, hrun, hsite⟩ := run_closeScope_error (s := s) hroot h
    have hrun : outcome.1 = .error e := hrun
    refine ⟨?_, fun _ _ => hsite, ?_, ?_, closed?_eq_within, closed?_eq_everything_iff, closed?_eq_root_iff⟩
    · rw [hrun, Except.error.injEq, he]
    · intro any hany
      rw [hrun] at hany
      cases hany
    · intro hreaches target htarget
      rw [h.resolve_left (not_not.2 hreaches)] at htarget
      cases htarget
  · obtain ⟨hreaches, hsome⟩ := not_or.1 h
    obtain ⟨target, htarget⟩ := Option.ne_none_iff_exists'.1 hsome
    have hrun := run_closeScope (s := s) (not_not.1 hreaches) htarget
    have hany : outcome.1 = .ok (live.any fun e => target.covers e.key) := congrArg Prod.fst hrun
    have hsite : outcome.2.site = s.site.clear target := congrArg (fun o => o.2.site) hrun
    refine ⟨iff_of_false ?_ (not_refused htarget), ?_, ?_, fun _ _ _ => ⟨_, hany⟩, closed?_eq_within,
      closed?_eq_everything_iff, closed?_eq_root_iff⟩
    · rw [hany]
      nofun
    · intro e he
      rw [hany] at he
      cases he
    · intro any he
      rw [hany, Except.ok.injEq] at he
      refine ⟨target, htarget, he.symm, hsite, ?_⟩
      rw [hsite]
      exact Registry.Target.live_takeOut target s.site.registry

section
open Rehearsal

/-- Two stores, one of them in a scope below the other's. -/
def stocked : Server.State Player (Stage Daemon) where
  site :=
    let store (scope : String) := getStandIn "Store" "store.url" (.ofParams "stores" "store" (.parse scope) ∅) {}
    (store "a.b" (store "a" { world := { runtime := {} } }).2).2

/-- The scopes of what is live. -/
def liveScopes (s : Server.State Player (Stage Daemon)) : List String :=
  s.site.registry.live.map fun e => e.key.scope.text

theorem closes_scope_of_text :
    let outcome := (Operation.customer.closeScope (Transport.toServer Operation.shop) "a.b").run stocked
    outcome.1 = .ok true ∧ liveScopes outcome.2 = ["a"] := by
  intro outcome
  obtain ⟨-, -, hok, hreached, htext, -⟩ :=
    closeScope_closes Operation.customer Operation.shop ⟨rfl, rfl⟩ "a.b" stocked
  have hreaches : Operation.customer.Reaches Operation.shop := ⟨⟨rfl, rfl⟩, by decide, rfl⟩
  have htarget := htext (by decide) (by decide) (by decide)
  obtain ⟨any, hany⟩ := hreached hreaches _ htarget
  obtain ⟨target, htarget', hall, -, hlive⟩ := hok any hany
  obtain rfl : _ = target := Option.some.inj (htarget.symm.trans htarget')
  refine ⟨hany.trans ?_, ?_⟩
  · rw [hall]
    decide +kernel
  · rw [liveScopes, hlive]
    decide +kernel

/-- Three dots name the root and are sent all the same; a tab makes a name arrive where everything is closed. -/
theorem closes_beyond_text :
    let close (text : String) :=
      (Operation.customer.closeScope (Transport.toServer Operation.shop) text).run stocked
    liveScopes stocked = ["a", "a.b"] ∧
    (Scope.parse "..." = .root ∧ (close "...").1 = .ok true ∧ liveScopes (close "...").2 = []) ∧
    (Scope.parse "a\tll" = ⟨["a\tll"]⟩ ∧ (close "a\tll").1 = .ok true ∧ liveScopes (close "a\tll").2 = []) := by
  intro close
  have hreaches : Operation.customer.Reaches Operation.shop := ⟨⟨rfl, rfl⟩, by decide, rfl⟩
  have hdots : closed? "..." = some (.within .root) :=
    closed?_eq_root_iff.2 ⟨by decide, by simp [Url.unbroken, Url.bare]⟩
  have htab : closed? "a\tll" = some .everything := closed?_eq_everything_iff.2 ⟨by decide, by decide⟩
  have hclosed {text : String} {target : Registry.Target} (h : closed? text = some target) :
      (close text).1 = .ok (stocked.site.registry.live.any fun e => target.covers e.key) ∧
        liveScopes (close text).2 = (stocked.site.registry.live.filter fun e => !target.covers e.key).map
          fun e => e.key.scope.text := by
    have hrun : close text = _ := run_closeScope hreaches h
    rw [hrun]
    exact ⟨rfl, congrArg (List.map _) (Registry.Target.live_takeOut target stocked.site.registry)⟩
  obtain ⟨hdotsAny, hdotsLeft⟩ := hclosed hdots
  obtain ⟨htabAny, htabLeft⟩ := hclosed htab
  refine ⟨by decide +kernel, ⟨by decide, ?_, ?_⟩, by decide, ?_, ?_⟩
  · rw [hdotsAny]
    decide +kernel
  · rw [hdotsLeft]
    decide +kernel
  · rw [htabAny]
    decide +kernel
  · rw [htabLeft]
    decide +kernel

end

end Client
end Testbed
