import Testbed.Proofs.Client.Exchange
import Testbed.Proofs.Client.Expressions
import Testbed.Proofs.Resolution.Reached
import Testbed.Proofs.Resolution.Sanitized
import Testbed.Rehearsal.Daemon
import Testbed.Rehearsal.Stage

/-!
# What a placeholder is resolved to

Of its environment a client sends what the key of a placeholder itself requires. So the server resolves the
key with these properties as if it were asked directly, and comes to what it would come to with all of them
where no provider on the way can tell the difference (`resolvePlaceholder_eq_resolve`). A provider that looks
at the members of a group can: these are enumerated for listing only (`placeholder_of_member_is_lost`).
-/

namespace Testbed

variable {key : String} {P config : Properties}

namespace Client

theorem get?_known (env : Environment) (names : List String) (d : String) :
    (known env names).get? d = if d ∈ names then env.property d else none := by
  induction names with
  | nil => rfl
  | cons name names ih =>
    cases hname : env.property name with
    | none =>
      have hknown : known env (name :: names) = known env names := by simp [known, hname]
      rw [hknown, ih]
      by_cases hd : d = name
      · subst hd
        simp [hname]
      · simp [hd]
    | some v =>
      have hknown : known env (name :: names) = Dict.ofList ((name, v) :: names.filterMap fun name =>
          (env.property name).map fun value => (name, value)) := by simp [known, hname]
      have hget : (known env (name :: names)).get? d =
          ((known env names).get? d).or (if d = name then some v else none) := by
        rw [hknown]
        exact Assoc.get?_ofList_cons ..
      rw [hget, ih]
      by_cases hd : d = name
      · subst hd
        by_cases hm : d ∈ names <;> simp [hm, hname]
      · simp [hd]

/-- Nothing is lost with what was not sent if no provider looks at entries, and what is required on the way
is required by the key itself, unless the client does not have it either. -/
theorem alikeFrom_known {σ : Type} {e : Engine σ}
    (hentries : ∀ p ∈ e.providers, ∀ name entries entries' config,
      p.canResolve name entries config = p.canResolve name entries' config)
    (hnull : ∀ d ∈ e.requiredProperties key, P.get? d ≠ some .null)
    (hneeds : ∀ name, (e.context P config).Reached key name → ∀ p ∈ (e.context P config).takers name,
      ∀ d ∈ p.requiredProperties name, d ∈ e.requiredProperties key ∨ P.get? d = none) :
    (e.context (known (.ofProperties P) (e.requiredProperties key)) config).AlikeFrom key (e.context P config) where
  providers := rfl
  config := rfl
  canResolve name _ p hp := hentries p (List.mem_of_mem_filter hp) ..
  known name hname p hp d hd := by
    show (Engine.environment _ config).property d = (Engine.environment P config).property d
    rw [Engine.property_environment, Engine.property_environment, get?_known]
    have hproperty : (Environment.ofProperties P).property d = (P.get? d).bind Value.nonNull? := rfl
    rcases hneeds name hname p hp d hd with hkey | hnone
    · rw [if_pos hkey, hproperty]
      cases hP : P.get? d with
      | none => rfl
      | some v =>
        have hv : Value.nonNull? v = some v := if_neg fun h => hnull d hkey (by cases v <;> first | exact hP | cases h)
        rw [Option.bind_some, hv]
    · rw [hproperty, hnone]
      simp

/-! ### Resolving -/

variable {ρ σ : Type} [Held ρ σ] [Described ρ] {c : Client} {server : Server (Site ρ σ)} {s : Server.State ρ σ}

/-- A placeholder is resolved by asking what its key requires, and then for the key with what the
environment has of that. -/
theorem run_resolvePlaceholder {env : Environment} (hreaches : c.Reaches server) (hkey : Url.Carries key)
    (hnames : (Value.ofStrings (server.engine.requiredProperties key)).Fits) :
    (c.resolvePlaceholder (Transport.toServer server) env config (placeholder key)).run s =
      (c.resolve (Transport.toServer server) key (known env (server.engine.requiredProperties key))
        (Resolution.sanitize config)).run s.access := by
  have hplaceholder := placeholderKey?_placeholder hkey.ne_empty
  have hcall : c.resolvePlaceholder (Transport.toServer server) env config (placeholder key) = (do
      let names ← c.requiredProperties (Transport.toServer server) key
      c.resolve (Transport.toServer server) key (known env names) (Resolution.sanitize config)) := by
    delta resolvePlaceholder
    rw [hplaceholder]
  rw [hcall]
  have hrequired := run_requiredProperties hreaches hkey s
  rw [arrived_of_fits hnames] at hrequired
  exact run_bind_ok hrequired

/-- Resolving a placeholder comes to what the engine comes to with what was sent of the environment, and so
to what it comes to with all of it if no provider on the way can tell the difference. -/
theorem resolvePlaceholder_eq_resolve (c : Client) (server : Server (Site ρ σ)) (P config : Properties) (key : String)
    (s : Server.State ρ σ) (hreaches : c.Reaches server) (hkey : Url.Carries key)
    (honce : ∀ p ∈ config.entries, ∀ rest, p.1 ≠ Resolution.configPrefix ++ (Resolution.configPrefix ++ rest))
    (hnames : (Value.ofStrings (server.engine.requiredProperties key)).Fits) :
    let env := Environment.ofProperties P
    let sent := known env (server.engine.requiredProperties key)
    let resolved Q := (server.engine.resolve key Q config).run s.site
    Sendable ⟨key, sent, Resolution.sanitize config⟩ → (∀ a, (resolved sent).1 = .ok a → (Value.ofOption a).Fits) →
    (c.resolvePlaceholder (Transport.toServer server) env config (placeholder key)).run s =
        ((resolved sent).1.mapError fun e => refusal (.resolution e), { s.access with site := (resolved sent).2 }) ∧
      ((server.engine.context sent config).AlikeFrom key (server.engine.context P config) →
        resolved sent = resolved P) := by
  intro env sent resolved hsendable hfits
  refine ⟨?_, fun halike => ?_⟩
  · have hresolve := Engine.resolve_sanitize (e := server.engine) honce key sent
    rw [run_resolvePlaceholder hreaches hkey hnames, run_resolve hreaches hsendable, hresolve]
    exact Prod.ext (resolved_of_fits hfits) rfl
  · exact congrArg (fun run => run.run s.site) (halike.resolveWithin .refl Resolution.maxDepth [])

/-- A client at the root of a server that wants no token. -/
def atHome : Client := ⟨{ scheme := "http", host := some "localhost", path := [""] }, none⟩

/-- The state of a server that has not been asked for anything. -/
def fresh : Server.State Rehearsal.Player (Rehearsal.Stage Rehearsal.Daemon) := ⟨{ world := ⟨{}, {}⟩ }, 0, 0, none⟩

/-- Builds a location from a host and a user. -/
def location : Provider (Site Rehearsal.Player (Rehearsal.Stage Rehearsal.Daemon)) where
  name := "location"
  advertised _ _ := ["db.url"]
  requiredProperties _ := ["host", "user"]
  resolve _ required _ s := (.ok do
    let host ← required.get? "host"
    let user ← required.get? "user"
    return user.text ++ "@" ++ host.text, s)

def host : Provider (Site Rehearsal.Player (Rehearsal.Stage Rehearsal.Daemon)) where
  name := "host"
  advertised _ _ := ["host"]
  resolve _ _ _ s := (.ok (some "h"), s)

/-- The user is sent along, the host is found by the server. -/
theorem resolvePlaceholder_of_location :
    let server : Server (Site Rehearsal.Player (Rehearsal.Stage Rehearsal.Daemon)) := { engine := ⟨[location, host]⟩ }
    let P : Properties := (Dict.empty.insert "user" (.string "me")).insert "secret" (.int 7)
    let config : Properties := Dict.empty.insert "test-resources.db" (.bool true)
    atHome.Reaches server ∧ Url.Carries "db.url" ∧
      known (.ofProperties P) (server.engine.requiredProperties "db.url") = Dict.empty.insert "user" (.string "me") ∧
      (server.engine.context (known (.ofProperties P) (server.engine.requiredProperties "db.url")) config).AlikeFrom
        "db.url" (server.engine.context P config) ∧
      ((server.engine.resolve "db.url" P config).run fresh.site).1 = .ok (some "me@h") ∧
      ((atHome.resolvePlaceholder (Transport.toServer server) (.ofProperties P) config (placeholder "db.url")).run
        fresh).1 = .ok (some "me@h") := by
  intro server P config
  have hreaches : atHome.Reaches server := ⟨⟨rfl, rfl⟩, nofun, rfl⟩
  have hkey : Url.Carries "db.url" := ⟨by decide, by decide, by decide, by decide⟩
  have hrequired : server.engine.requiredProperties "db.url" = ["host", "user"] := by decide
  have hsent : known (.ofProperties P) (server.engine.requiredProperties "db.url") =
      Dict.empty.insert "user" (.string "me") := by decide
  have halike : (server.engine.context (known (.ofProperties P) (server.engine.requiredProperties "db.url"))
      config).AlikeFrom "db.url" (server.engine.context P config) := by
    refine alikeFrom_known (fun p hp name entries entries' config => ?_) ?_ fun name _ p hp d hd => ?_
    · rcases List.mem_pair.1 hp with rfl | rfl <;> rfl
    · rw [hrequired]
      decide
    · have hp : p ∈ server.engine.enabled (Resolution.sanitize config) := List.mem_of_mem_filter hp
      rw [hrequired]
      rcases List.mem_pair.1 (List.mem_of_mem_filter hp) with rfl | rfl
      · exact .inl hd
      · cases hd
  have hsendable : Sendable ⟨"db.url", known (.ofProperties P) (server.engine.requiredProperties "db.url"),
      Resolution.sanitize config⟩ := by
    rw [hsent]
    have hstripped : Resolution.sanitize config = Dict.empty.insert "db" (.bool true) := by decide
    rw [hstripped]
    refine ⟨?_, ?_, _, rfl, by decide⟩
    · exact List.forall_mem_singleton.2 ⟨trivial, by decide⟩
    · exact List.forall_mem_singleton.2 ⟨trivial, by decide⟩
  have honce : ∀ p ∈ config.entries, ∀ rest, p.1 ≠ Resolution.configPrefix ++ (Resolution.configPrefix ++ rest) := by
    refine List.forall_mem_singleton.2 fun rest he => ?_
    have hstrip : Text.dropPrefix? Resolution.configPrefix "test-resources.db" = some "db" := by decide
    have htwice : Text.dropPrefix? Resolution.configPrefix "db" = none := by decide
    rw [Text.dropPrefix?_eq_some.2 he, Option.some.injEq] at hstrip
    rw [Text.dropPrefix?_eq_some.2 hstrip.symm] at htwice
    cases htwice
  have hnames : (Value.ofStrings (server.engine.requiredProperties "db.url")).Fits := by
    rw [hrequired]
    exact Value.fits_ofStrings (by decide) (by decide)
  have hanswer : ((server.engine.resolve "db.url" (known (.ofProperties P) (server.engine.requiredProperties "db.url"))
      config).run fresh.site).1 = .ok (some "me@h") := by
    rw [hsent]
    rfl
  have hfits (a) (ha : ((server.engine.resolve "db.url" (known (.ofProperties P) (server.engine.requiredProperties
      "db.url")) config).run fresh.site).1 = .ok a) : (Value.ofOption a).Fits := by
    cases hanswer.symm.trans ha
    exact .string (by decide)
  obtain ⟨hresolved, hsame⟩ := resolvePlaceholder_eq_resolve atHome server P config "db.url" fresh hreaches hkey honce
    hnames hsendable hfits
  refine ⟨hreaches, hkey, hsent, halike, ?_, ?_⟩
  · exact (congrArg Prod.fst (hsame halike)).symm.trans hanswer
  · exact (congrArg Prod.fst hresolved).trans (congrArg (Except.mapError fun e => refusal (.resolution e)) hanswer)

/-! ### What is lost -/

/-- Answers the address of each member of `servers`. -/
def addressOfMembers : Provider (Site Rehearsal.Player (Rehearsal.Stage Rehearsal.Daemon)) where
  name := "members"
  advertised entries _ := ((entries.get? "servers").getD []).map fun member => "servers." ++ member ++ ".url"
  requiredGroups := ["servers"]
  resolve name _ _ s := (.ok (some ("at " ++ name)), s)

/-- The members of a group are listed by the client's own environment, and resolved without it. -/
theorem placeholder_of_member_is_lost :
    let server : Server (Site Rehearsal.Player (Rehearsal.Stage Rehearsal.Daemon)) := { engine := ⟨[addressOfMembers]⟩ }
    let P : Properties := Dict.empty.insert "servers.main" (.string "up")
    let env := Environment.ofProperties P
    let send := Transport.toServer server
    ((atHome.loadPlaceholders send env ∅).run fresh).1.toOption.map (fun listed => listed.byName.entries) =
        some [("servers.main.url", placeholder "servers.main.url")] ∧
      ((atHome.resolvePlaceholder send env ∅ (placeholder "servers.main.url")).run fresh).1.toOption = some none ∧
      ((server.engine.resolve "servers.main.url" P ∅).run fresh.site).1.toOption =
        some (some "at servers.main.url") := by
  decide +kernel

end Client

end Testbed
