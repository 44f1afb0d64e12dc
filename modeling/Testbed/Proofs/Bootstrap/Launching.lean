import Testbed.Proofs.Bootstrap.Watching
import Testbed.Proofs.Files.Directories

/-!
# What comes of finding or starting a server

At most one server is launched, and none beside one that is recorded and alive. A port file that an earlier server left
behind is out of the way by then, so the port that is read afterwards is the one that was announced. The settings file is
written last: until a launched server has accepted a connection, whatever fails leaves it as it was. Everything up to then
is a passing of time (`Host.Passes`), in which only the port file comes and goes.
-/

namespace Testbed

open Files

/-! ### The settings file -/

namespace Settings

variable {s : Settings} {directory : Path} {f g : Files}

theorem read_store (h : s.store directory f = (.ok (), g)) : g.read (file directory) = .ok (Text.utf8 s.render) := by
  unfold store at h
  split at h
  · cases h
  rename_i made _
  rcases hreplace : made.replace (file directory) (temporaryFile directory) (Text.utf8 s.render) with ⟨outcome, k⟩
  rw [hreplace] at h
  obtain ⟨houtcome, rfl⟩ := Prod.mk.inj h
  rw [Outcome.mapError_eq_ok.1 houtcome] at hreplace
  exact read_replace hreplace

end Settings

/-! ### The passing of time -/

namespace Host

variable {h k l : Host} {directory : Path}

/-- From one host to a later one nothing is launched, and no settings file is touched. -/
structure Passes (h k : Host) : Prop where
  behaviour : k.behaviour = h.behaviour
  portFile : k.portFile = h.portFile
  launches : k.launches = h.launches
  settings : Spares Settings.fileName h.files k.files

theorem Passes.refl (h : Host) : h.Passes h := ⟨rfl, rfl, rfl, .refl _ _⟩

theorem Passes.trans (hhk : h.Passes k) (hkl : k.Passes l) : h.Passes l where
  behaviour := hkl.behaviour.trans hhk.behaviour
  portFile := hkl.portFile.trans hhk.portFile
  launches := hkl.launches.trans hhk.launches
  settings := hhk.settings.trans hkl.settings

theorem passes_files {f : Files} (hf : Spares Settings.fileName h.files f) : h.Passes { h with files := f } :=
  ⟨rfl, rfl, rfl, hf⟩

theorem spares_announced (a : Option Announcement) (directory : Path) (f : Files) :
    Spares Settings.fileName f (announced a (directory.join Settings.portFileName) f) := by
  have hplace {names : List String} (h : f.place (directory.join Settings.portFileName) = .ok names) :
      names.getLast? ≠ some Settings.fileName :=
    getLast?_ne_of_place_join Settings.isName_portFileName (by decide) h
  unfold announced
  split
  · exact spares_put (hplace ‹_›) _
  · exact spares_put (hplace ‹_›) _
  · exact spares_erase (hplace ‹_›)
  · exact .refl _ f

theorem passes_next (hfile : h.portFile = directory.join Settings.portFileName) : h.Passes h.next := by
  refine ⟨rfl, rfl, rfl, ?_⟩
  rw [next, hfile]
  exact spares_announced _ directory h.files

theorem passes_pause (hfile : h.portFile = directory.join Settings.portFileName) (ms : Nat) :
    h.Passes (h.pause ms) :=
  ⟨rfl, rfl, rfl, (passes_next hfile).settings⟩

end Host

namespace Bootstrap

open Host

variable {o : Options} {h k : Host} {e : Client.Error} {port : UInt16}

/-- An error that is no conflict of ports. -/
def NoConflict (e : Client.Error) : Prop := ∀ running requested, e ≠ .portConflict running requested

theorem passes_watch (hfile : h.portFile = o.portFile) (file : Path) (looks blank : Nat) :
    h.Passes (watch file looks blank h).2 := by
  induction looks generalizing h blank with
  | zero => exact .refl h
  | succ looks ih =>
    rw [watch]
    split
    · exact .refl h
    · exact .refl h
    · have hpause := passes_pause hfile lookInterval
      exact hpause.trans (ih (hpause.portFile.trans hfile) _)

theorem passes_await (hfile : h.portFile = o.portFile) (port : UInt16) (tries pause : Nat) :
    h.Passes (await port tries pause h).2 := by
  induction tries generalizing h pause with
  | zero => exact .refl h
  | succ tries ih =>
    rw [await]
    split
    · exact .refl h
    · have hpause := passes_pause hfile pause
      exact hpause.trans (ih (hpause.portFile.trans hfile) _)

theorem probe_of_await {tries pause : Nat} (hawait : await port tries pause h = (true, k)) : k.probe port = true := by
  induction tries generalizing h pause with
  | zero => cases hawait
  | succ tries ih =>
    rw [await] at hawait
    split at hawait
    · rename_i hprobe
      cases hawait
      exact hprobe
    · exact ih hawait

/-! ### Settling -/

/-- A launched server has accepted a connection, and the settings file holds its settings. -/
structure IsRecorded (o : Options) (port : UInt16) (k : Host) : Prop where
  accepts : k.probe port = true
  written : k.files.read (Settings.file o.settingsDirectory) = .ok (Text.utf8 (o.settings port).render)

theorem settle_ok {s : Settings} (hfile : h.portFile = o.portFile) (hsettle : settle o port h = (.ok s, k)) :
    k.launches = h.launches ∧ s = o.settings port ∧ IsRecorded o port k ∧
      k.files.find o.portFile = .error .notFound := by
  unfold settle at hsettle
  split at hsettle
  · cases hsettle
  rename_i late hawait
  have hpasses := passes_await hfile port probes firstPause
  rw [hawait] at hpasses
  split at hsettle
  · cases hsettle
  rename_i written hstore
  split at hsettle <;> cases hsettle
  rename_i any files hremove
  have haccepts := probe_of_await hawait
  have hspares : Spares Settings.fileName written files :=
    spares_removeAny Settings.isName_portFileName (by decide) hremove
  have hread := hspares.read (keepsDirectories_removeAny hremove) Settings.isName_fileName (Settings.read_store hstore)
  exact ⟨hpasses.launches, rfl, ⟨haccepts, hread⟩, find_of_removeAny hremove⟩

theorem passes_prepare {prepared : Except Client.Error Unit} (hprepare : prepare o h = (prepared, k)) :
    h.Passes k ∧ ∀ e, prepared = .error e → NoConflict e := by
  unfold prepare at hprepare
  split at hprepare
  · cases hprepare
    exact ⟨.refl h, by rintro e ⟨⟩; nofun⟩
  rename_i any files hremove
  have hremoved : Spares Settings.fileName h.files files :=
    spares_removeAny Settings.isName_portFileName (by decide) hremove
  split at hprepare
  · cases hprepare
    exact ⟨passes_files hremoved, by rintro e ⟨⟩; nofun⟩
  · rename_i made hmade
    cases hprepare
    exact ⟨passes_files (hremoved.trans (spares_makeDirectories _ hmade)), nofun⟩

/-- The settings directory is there, or the files are a tree in which the way to it never leads up. A way that leads up
from a directory still to be made can lead to a port file that nobody could have taken away. -/
def IsPlain (o : Options) (f : Files) : Prop :=
  f.isDirectory o.settingsDirectory = true ∨ f.IsTree ∧ ".." ∉ o.settingsDirectory.parts

/-- The settings are recorded, and their port accepts a connection. -/
structure IsLive (o : Options) (h : Host) (s : Settings) : Prop where
  recorded : Settings.load h.files o.settingsDirectory = .ok (some s)
  accepts : h.probe s.port = true

theorem IsLive.unique {s t : Settings} (hs : IsLive o h s) (ht : IsLive o h t) : s = t := by
  have hload := hs.recorded.symm.trans ht.recorded
  exact Option.some.inj (Except.ok.inj hload)

/-- A client whose recorded server is gone, as is the server before it, whose port file is still there. -/
def staleOptions : Options where
  settingsDirectory := ⟨"/shared"⟩
  accessToken := some "secret"
  program := ⟨"/usr/bin/testresd"⟩
  logFile := some ⟨"/var/log/testresd.log"⟩

/-- A server that announces its port after two looks and accepts connections a little later. At the port in the old port file
something else accepts them. -/
def staleHost : Host where
  behaviour := {
    start := Launch.start fun _ => true
    announce := fun moment => if moment = 2 then some (.write (Text.utf8 "4001")) else none
    accepts := fun moment port => port == 3999 || decide (4 ≤ moment) && port == 4001 }
  portFile := staleOptions.portFile
  files := { nodes := [(["shared"], .directory),
    (["shared", Settings.fileName], .file (Text.utf8 "server.uri=http://localhost:4000")),
    (["shared", Settings.portFileName], .file (Text.utf8 "3999"))] }

end Bootstrap

end Testbed
