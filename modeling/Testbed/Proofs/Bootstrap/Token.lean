import Testbed.Console
import Testbed.Proofs.Bootstrap.Launching
import Testbed.Proofs.CommandLine.Options

/-!
# The token of a launched server

A launched server reads its options from the arguments of the launch and, where these are silent, from its environment:
the variables of the launch over those that the launcher itself was started with. A client that has a token hands it
over, and it is what the server demands and the settings record. A client without one hands nothing over and takes
nothing back: the server demands the token of the launcher's own environment, of which the settings know nothing.
-/

namespace Testbed

open CommandLine Outcome
open Server.Access (required)

/-- The environment of a process launched by one that was started with `inherited`. -/
def Launch.variables (l : Launch) (inherited : String → Option String) (name : String) : Option String :=
  (l.environment.get? name).or (inherited name)

/-- The setup of the server that a command runs. -/
def Command.setup? : Command → Option Server.Setup
  | .server port portFile token minutes => some (Console.setup port portFile token minutes)
  | _ => none

namespace CommandLine

variable {vars : String → Option String} {args : List String}

theorem parse_server : parse vars ("server" :: args) = (readAll serverLevel vars args).map serverOf := by
  have hscan : Reading.scan top ("server" :: args) {} = .ok ({}, some ("server", args)) := rfl
  have hfinish : Reading.finish top vars true {} = .ok {} := rfl
  simp only [parse, readCommand, hscan, parseCommand, bind, Except.bind, hfinish]
  cases readAll serverLevel vars args <;> rfl

end CommandLine

namespace Bootstrap

open Host

variable {o : Options} {inherited : String → Option String} {h k : Host} {s : Settings}

namespace Options

/-- The options that a launch gives a server, with their values. -/
def given (o : Options) : List (String × String) :=
  (match o.explicitPort with
    | some port => ("port", Settings.portText port)
    | none => ("port-file", o.portFile.text)) ::
  (o.idleTimeoutMinutes.map fun m => ("idle-timeout-minutes", Text.ofNat m)).toList

theorem arguments_launch (o : Options) :
    o.launch.arguments = "server" :: o.given.map fun p => longArgument p.1 p.2 := by
  have hport (v : String) : "--port=" ++ v = longArgument "port" v := by simp [longArgument, ← String.toList_inj]
  have hfile (v : String) : "--port-file=" ++ v = longArgument "port-file" v := by
    simp [longArgument, ← String.toList_inj]
  have hidle (v : String) : "--idle-timeout-minutes=" ++ v = longArgument "idle-timeout-minutes" v := by
    simp [longArgument, ← String.toList_inj]
  cases hp : o.explicitPort <;> cases hm : o.idleTimeoutMinutes <;> simp [launch, given, hp, hm, hport, hfile, hidle]

theorem portFile_ne_empty (o : Options) : o.portFile.text ≠ "" := by
  obtain ⟨before, -, htext⟩ := o.settingsDirectory.exists_join_text
  have hlist : o.portFile.text.toList = before ++ Settings.portFileName.toList := htext _ (by decide)
  intro h
  rw [h] at hlist
  simp [Settings.portFileName] at hlist

theorem nodup_given (o : Options) : (o.given.map Prod.fst).Nodup := by
  cases hp : o.explicitPort <;> cases hm : o.idleTimeoutMinutes <;> simp [given, hp, hm]

theorem value?_given (o : Options) (name : String) : Reading.value? { given := o.given } name =
    if name = "port" then o.explicitPort.map Settings.portText
    else if name = "port-file" then (if o.explicitPort.isSome then none else some o.portFile.text)
    else if name = "idle-timeout-minutes" then o.idleTimeoutMinutes.map Text.ofNat
    else none := by
  cases hp : o.explicitPort <;> cases hm : o.idleTimeoutMinutes <;>
    simp only [Reading.value?, given, hp, hm] <;> grind

theorem variables_launch (o : Options) (inherited : String → Option String) (name : String) :
    o.launch.variables inherited name =
      if name = tokenVariable then o.accessToken.or (inherited name) else inherited name := by
  have hget : o.launch.environment.get? name = if name = tokenVariable then o.accessToken else none := by
    cases ht : o.accessToken with
    | none => simp [launch, ht, Dict.ofList, Dict.get?]
    | some token =>
      have hsingle := Assoc.get?_ofList_cons name (tokenVariable, token) []
      simpa [launch, ht, Dict.ofList, Dict.get?] using hsingle
  rw [Launch.variables, hget]
  split <;> rfl

end Options

theorem isPlain_serverLevel : serverLevel.IsPlain where
  commands := rfl
  needs := rfl
  names := by decide
  options := by simp [serverLevel]

theorem readAll_given (hminutes : ∀ m ∈ o.idleTimeoutMinutes, m < UInt32.size) (vars : String → Option String) :
    readAll serverLevel vars (o.given.map fun p => longArgument p.1 p.2) =
      Reading.addEnvironment vars serverLevel.options { given := o.given } := by
  have hport (port : UInt16) : (Shape.number UInt16.size).fault? (Settings.portText port) = none := by
    simp [Shape.fault?, Settings.portText, readNumber?_ofNat, port.toNat_lt]
  have hfile : Shape.path.fault? o.portFile.text = none := by simp [Shape.fault?, o.portFile_ne_empty]
  have hidle : ∀ m ∈ o.idleTimeoutMinutes, (Shape.number UInt64.size).fault? (Text.ofNat m) = none := by
    intro m hm
    have hlt : m < UInt64.size := Nat.lt_trans (hminutes m hm) (by decide)
    simp [Shape.fault?, readNumber?_ofNat, hlt]
  refine readAll_longArguments isPlain_serverLevel ?_ o.nodup_given
  rw [Options.given, List.forall_mem_cons]
  refine ⟨?_, fun p hp => ?_⟩
  · cases o.explicitPort with
    | some port => simp [serverLevel, hport]
    | none => simp [serverLevel, hfile]
  · obtain ⟨m, hm, rfl⟩ : ∃ m, o.idleTimeoutMinutes = some m ∧ ("idle-timeout-minutes", Text.ofNat m) = p := by
      simpa using hp
    simp [serverLevel, hidle m hm]

/-- What a launched server finds in its environment because it is told nothing else can be used. -/
structure Options.Suits (o : Options) (inherited : String → Option String) : Prop where
  port : o.explicitPort = none → ∀ v, inherited "TESTRESD_PORT" = some v → (readNumber? UInt16.size v).isSome
  idle : o.idleTimeoutMinutes = none →
    ∀ v, inherited "TESTRESD_IDLE_TIMEOUT_MINUTES" = some v → (readNumber? UInt64.size v).isSome

theorem parse_launch (hminutes : ∀ m ∈ o.idleTimeoutMinutes, m < UInt32.size) (vars : String → Option String) :
    parse vars o.launch.arguments =
      (Reading.addEnvironment vars serverLevel.options { given := o.given }).map serverOf := by
  rw [o.arguments_launch, parse_server, readAll_given hminutes]

theorem exists_parse_iff (hminutes : ∀ m ∈ o.idleTimeoutMinutes, m < UInt32.size) :
    (∃ c, parse (o.launch.variables inherited) o.launch.arguments = .ok c) ↔ o.Suits inherited := by
  have husable : (∀ option ∈ serverLevel.options, Reading.IsUsable (o.launch.variables inherited)
      { given := o.given } option) ↔ o.Suits inherited := by
    have hiff : o.Suits inherited ↔ _ := ⟨fun h => And.intro h.port h.idle, fun h => ⟨h.1, h.2⟩⟩
    rw [hiff]
    simp [serverLevel, Reading.IsUsable, o.value?_given, o.variables_launch, Shape.fault?, tokenVariable,
      Option.isSome_iff_ne_none]
  rw [← husable, ← Reading.exists_addEnvironment_iff isPlain_serverLevel.names, parse_launch hminutes]
  simp [map_eq_ok]

theorem eq_server_of_parse {c : Command} (hminutes : ∀ m ∈ o.idleTimeoutMinutes, m < UInt32.size)
    (hparse : parse (o.launch.variables inherited) o.launch.arguments = .ok c) :
    ∃ port minutes, c = .server port (if o.explicitPort.isSome then none else some o.portFile)
        (o.accessToken.or (inherited tokenVariable)) minutes ∧
      (∀ wanted ∈ o.explicitPort, port = wanted) ∧ (∀ m ∈ o.idleTimeoutMinutes, minutes = m) := by
  rw [parse_launch hminutes] at hparse
  obtain ⟨r, hr, rfl⟩ := map_eq_ok.1 hparse
  have hvalues := (Reading.value?_addEnvironment isPlain_serverLevel.names hr).1
  simp only [serverLevel, List.forall_mem_cons, o.value?_given, Option.bind_some, o.variables_launch] at hvalues
  obtain ⟨hport, hfile, htoken, hidle, -⟩ := hvalues
  refine ⟨_, _, congrArg₂ (fun file token => Command.server _ file token _) ?_ ?_, ?_, ?_⟩
  · have hfile : r.value? "port-file" = if o.explicitPort.isSome then none else some o.portFile.text := by
      simpa using hfile
    rw [pathOf, hfile]
    split <;> rfl
  · simpa [tokenVariable] using htoken
  · intro port hwanted
    rw [Option.mem_def] at hwanted
    have hport : r.value? "port" = some (Settings.portText port) := by simpa [hwanted] using hport
    have hlt : port.toNat < UInt16.size := port.toNat_lt
    simp [portOf, Reading.number?, hport, Settings.portText, readNumber?_ofNat, hlt]
  · intro m hm
    rw [Option.mem_def] at hm
    have hidle : r.value? "idle-timeout-minutes" = some (Text.ofNat m) := by simpa [hm] using hidle
    have hlt : m < UInt64.size := Nat.lt_trans (hminutes m hm) (by decide)
    simp [Reading.number?, hidle, readNumber?_ofNat, hlt]

/-! ### The run of the client -/

theorem launch_host (l : Launch) : (h.launch l).2.portFile = h.portFile ∧
    (h.launch l).2.launches = h.launches ++ [(l, h.files.exists? h.portFile)] := by
  rw [Host.launch]
  dsimp only
  split <;> exact ⟨rfl, rfl⟩

/-- A client that is answered after a launch has settled with the server it launched. -/
theorem settle_of_startOrConnect {looks : Nat} (hfile : h.portFile = o.portFile)
    (hrun : startOrConnect o looks h = (some (.ok s), k)) (hlaunched : k.launches ≠ h.launches) :
    ∃ l port, l.portFile = o.portFile ∧ (∃ there, l.launches = h.launches ++ [(o.launch, there)]) ∧
      settle o port l = (.ok s, k) := by
  have settled {l : Host} {port : UInt16} (h : (some (settle o port l).1, (settle o port l).2) = (some (.ok s), k)) :
      settle o port l = (.ok s, k) :=
    Prod.ext (Option.some.inj (congrArg Prod.fst h)) (congrArg Prod.snd h :)
  unfold startOrConnect at hrun
  split at hrun
  · cases hrun
  · cases hrun
    exact absurd rfl hlaunched
  unfold launch at hrun
  split at hrun
  · cases hrun
  rename_i early hprepare
  have hpasses := (passes_prepare hprepare).1
  split at hrun
  · cases hrun
  rename_i late hstarted
  obtain ⟨hlate, hlaunch⟩ := launch_host (h := early) o.launch
  rw [hstarted, hpasses.portFile, hfile] at hlate
  rw [hstarted, hpasses.launches] at hlaunch
  split at hrun
  · rename_i port hport
    exact ⟨late, port, hlate, ⟨_, hlaunch⟩, settled hrun⟩
  have hwatch := passes_watch (h := late) (o := o) hlate o.portFile looks 0
  split at hrun
  · cases hrun
  · cases hrun
  · rename_i port later hwatched
    rw [hwatched] at hwatch
    exact ⟨later, port, hwatch.portFile.trans hlate, ⟨_, hwatch.launches.trans hlaunch⟩, settled hrun⟩

/-! ### What is demanded and what is recorded -/

/-- The client was answered with settings that it wrote, those of a server it launched. -/
structure IsAnswered (o : Options) (h : Host) (s : Settings) (k : Host) : Prop where
  launched : ∃ there, k.launches = h.launches ++ [(o.launch, there)]
  settings : s = o.settings s.port
  recorded : IsRecorded o s.port k

theorem isAnswered_of_startOrConnect {looks : Nat} (hfile : h.portFile = o.portFile)
    (hrun : startOrConnect o looks h = (some (.ok s), k)) (hlaunched : k.launches ≠ h.launches) : IsAnswered o h s k := by
  obtain ⟨l, port, hl, ⟨there, hthere⟩, hsettle⟩ := settle_of_startOrConnect hfile hrun hlaunched
  obtain ⟨hsame, rfl, hrecorded, -⟩ := settle_ok hl hsettle
  exact ⟨⟨there, hsame.trans hthere⟩, rfl, hrecorded⟩

/-- The server reads its launch unless the environment it inherits has a port or an idle timeout that is none. It demands
the client's token or else the one it inherits; recorded is the client's, so the two agree exactly if the client has a
token or none is inherited. -/
theorem demanded_token (o : Options) (inherited : String → Option String)
    (hminutes : ∀ m ∈ o.idleTimeoutMinutes, m < UInt32.size) :
    ((∃ c, parse (o.launch.variables inherited) o.launch.arguments = .ok c) ↔ o.Suits inherited) ∧
    ∀ c, parse (o.launch.variables inherited) o.launch.arguments = .ok c → ∃ setup, c.setup? = some setup ∧
      (∀ wanted ∈ o.explicitPort, setup.port = wanted) ∧
      required setup.token = required (o.accessToken.or (inherited tokenVariable)) ∧
      ∀ looks h s k, h.portFile = o.portFile → startOrConnect o looks h = (some (.ok s), k) →
        k.launches ≠ h.launches → IsAnswered o h s k ∧
        (required setup.token = required s.accessToken ↔
          o.accessToken.isSome ∨ required (inherited tokenVariable) = none) := by
  refine ⟨exists_parse_iff hminutes, fun c hparse => ?_⟩
  obtain ⟨port, minutes, rfl, hport, -⟩ := eq_server_of_parse hminutes hparse
  refine ⟨_, rfl, fun wanted hwanted => hport wanted hwanted, by simp [required, Console.setup], ?_⟩
  intro looks h s k hfile hrun hlaunched
  have hanswered := isAnswered_of_startOrConnect hfile hrun hlaunched
  refine ⟨hanswered, ?_⟩
  rw [hanswered.settings]
  cases ht : o.accessToken <;> simp [Options.settings, required, Console.setup, ht]

/-- An environment with a token. -/
def surroundings (name : String) : Option String := if name = tokenVariable then some "inherited" else none

theorem demanded_token_stale :
    ∃ c setup, parse (staleOptions.launch.variables surroundings) staleOptions.launch.arguments = .ok c ∧
      c.setup? = some setup ∧ required setup.token = some "secret" ∧
      IsAnswered staleOptions staleHost (staleOptions.settings 4001) (startOrConnect staleOptions 5 staleHost).2 ∧
      required setup.token = required (staleOptions.settings 4001).accessToken := by
  obtain ⟨hparse, hdemanded⟩ := demanded_token staleOptions surroundings nofun
  obtain ⟨c, hc⟩ := hparse.2 ⟨fun _ => nofun, fun _ => nofun⟩
  obtain ⟨setup, hsetup, -, htoken, hrun⟩ := hdemanded c hc
  obtain ⟨hok, hlength⟩ : (startOrConnect staleOptions 5 staleHost).1 = some (.ok (staleOptions.settings 4001)) ∧
      (startOrConnect staleOptions 5 staleHost).2.launches.length = 1 := by decide +kernel
  obtain ⟨hanswered, hagree⟩ := hrun 5 staleHost _ _ rfl (Prod.ext hok rfl) fun hsame => by
    rw [hsame] at hlength
    cases hlength
  exact ⟨c, setup, hc, hsetup, htoken, hanswered, hagree.2 (.inl rfl)⟩

/-- A client that wants no token, where the settings record a server that is gone. -/
def tokenless : Options := { staleOptions with accessToken := none }

theorem inherited_token_is_demanded :
    ∃ c setup, parse (tokenless.launch.variables surroundings) tokenless.launch.arguments = .ok c ∧
      c.setup? = some setup ∧ required setup.token = some "inherited" ∧
      (startOrConnect tokenless 5 staleHost).1 = some (.ok (tokenless.settings 4001)) ∧
      required (tokenless.settings 4001).accessToken = none :=
  ⟨.server 0 (some tokenless.portFile) (some "inherited") 60, _, by decide +kernel, rfl, by decide +kernel,
    by decide +kernel, rfl⟩

end Bootstrap

end Testbed
