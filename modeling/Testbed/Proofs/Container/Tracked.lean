import Testbed.Container
import Testbed.Rehearsal.Daemon
import Mathlib.Order.BooleanAlgebra.Set

/-!
# What runs at a container runtime

`Tracks` says what is assumed of a runtime about the containers that run at it. A start then accounts for the one it
runs (`start_accounts`): it is held by the resource or given up again, wherever the start fails. Closing takes down
what is held (`close_subset`). The scripted runtime is one of this sort (`Rehearsal.Daemon.tracks_ids`).
-/

namespace Testbed

namespace Container

variable {τ : Type} [Runtime τ]

/-- What is assumed of a runtime with `active` the ids of the containers that run: only running one adds its id, and
a removal that succeeds takes the id away, as giving a container up does. -/
structure Tracks (active : τ → Set String) : Prop where
  run_ok : ∀ {spec rt id rt'}, Runtime.run spec rt = (.ok id, rt') → active rt' ⊆ insert id (active rt)
  run_error : ∀ {spec rt f rt'}, Runtime.run spec rt = (.error f, rt') → active rt' ⊆ active rt
  host : ∀ id rt, active (Runtime.host id rt).2 ⊆ active rt
  hostPort : ∀ id port rt, active (Runtime.hostPort id port rt).2 ⊆ active rt
  accepts : ∀ id port address timeout rt, active (Runtime.accepts id port address timeout rt).2 ⊆ active rt
  remove : ∀ {id rt rt'}, Runtime.remove id rt = (.ok (), rt') → active rt' ⊆ active rt \ {id}
  release : ∀ id rt, active (Runtime.release id rt) ⊆ active rt \ {id}

/-- No removal is refused. -/
def Removes (τ : Type) [Runtime τ] : Prop := ∀ id (rt : τ), (Runtime.remove id rt).1 = .ok ()

/-- The id of the container held, if there is one. -/
def held (c : Container) : Set String := {id | c.running = some id}

variable {active : τ → Set String} {c c' : Container} {id : String} {rt rt₁ rt₂ rt₃ : τ}
  {outcome : Except Fault Unit}

/-! ### Starting and closing -/

theorem held_of_none (h : c.running = none) : c.held = ∅ :=
  Set.eq_empty_iff_forall_notMem.2 fun id hid => by cases h.symm.trans hid

theorem held_of_some (h : c.running = some id) : c.held = {id} :=
  Set.ext fun _ => ⟨fun hx => (Option.some.inj (h.symm.trans hx)).symm, fun hx => Set.mem_singleton_iff.1 hx ▸ h⟩

theorem Tracks.lookUpPorts (h : Tracks active) (id : String) (ports : List UInt16) (rt : τ) :
    active (lookUpPorts id ports rt).2 ⊆ active rt := by
  induction ports generalizing rt with
  | nil => exact subset_rfl
  | cons p ports ih =>
    have hport := h.hostPort id p rt
    rw [Container.lookUpPorts]
    rcases hmapped : Runtime.hostPort id p rt with ⟨f | mapped, rt₁⟩
    · rwa [hmapped] at hport
    · rw [hmapped] at hport
      have hports := (ih rt₁).trans hport
      rcases hrest : Container.lookUpPorts id ports rt₁ with ⟨f | found, rt₂⟩ <;> simpa only [hrest] using hports

theorem Tracks.awaitPorts (h : Tracks active) (id host : String) (timeout : Nat) (ports : List (UInt16 × UInt16))
    (rt : τ) : active (awaitPorts id host timeout ports rt).2 ⊆ active rt := by
  induction ports generalizing rt with
  | nil => exact subset_rfl
  | cons p ports ih =>
    rw [Container.awaitPorts]
    split
    · exact subset_rfl
    · exact subset_rfl
    · rename_i address _ _
      have hport := h.accepts id p.1 address timeout rt
      rcases hopen : Runtime.accepts id p.1 address timeout rt with ⟨_ | _, rt₁⟩
      · rwa [hopen] at hport
      · rw [hopen] at hport
        exact (ih rt₁).trans hport

theorem Tracks.releaseHeld (h : Tracks active) (c : Container) (rt : τ) :
    active (c.releaseHeld rt) ⊆ active rt \ c.held := by
  rw [Container.releaseHeld]
  cases hc : c.running with
  | none => rw [held_of_none hc, Set.sdiff_empty]
  | some id =>
    rw [held_of_some hc]
    exact h.release id rt

/-- What the start of `c` in `rt` leads to accounts for what runs: nothing more runs without being held, and what
was run is held if it runs. -/
structure Accounts (active : τ → Set String) (c : Container) (rt : τ)
    (result : Except Fault Unit × Container × τ) : Prop where
  loose : active result.2.2 \ result.2.1.held ⊆ active rt \ c.held
  launched : ∀ id rt₁, Runtime.run c.spec rt = (.ok id, rt₁) → id ∈ active result.2.2 → id ∈ result.2.1.held

theorem Tracks.accounts_notRun {f : Failure} (h : Tracks active) (hrun : Runtime.run c.spec rt = (.error f, rt₁)) :
    Accounts active c rt (outcome, c, rt₁) where
  loose := Set.sdiff_subset_sdiff_left (h.run_error hrun)
  launched id rt₂ hid := by cases hrun.symm.trans hid

theorem Tracks.accounts_givenUp (h : Tracks active) (hrun : Runtime.run c.spec rt = (.ok id, rt₁))
    (hlooked : active rt₂ ⊆ active rt₁) (hheld : c'.running = c.running) :
    Accounts active c rt (outcome, c', Runtime.release id rt₂) where
  loose := by
    rintro x ⟨hx, hnot⟩
    obtain ⟨hx, hne⟩ := h.release id rt₂ hx
    refine ⟨(h.run_ok hrun (hlooked hx)).resolve_left hne, fun hc => hnot (hheld.trans hc)⟩
  launched id' rt' hid hactive := by
    obtain ⟨-, hne⟩ := h.release id rt₂ hactive
    cases hrun.symm.trans hid
    exact absurd rfl hne

theorem Tracks.accounts_up (h : Tracks active) (hrun : Runtime.run c.spec rt = (.ok id, rt₁))
    (hlooked : active rt₂ ⊆ active rt₁) (hheld : c'.running = some id)
    (hawaited : active rt₃ ⊆ active (c.releaseHeld rt₂)) : Accounts active c rt (outcome, c', rt₃) where
  loose := by
    rintro x ⟨hx, hnot⟩
    obtain ⟨hx, hreleased⟩ := h.releaseHeld c rt₂ (hawaited hx)
    refine ⟨(h.run_ok hrun (hlooked hx)).resolve_left fun hid => ?_, hreleased⟩
    exact hnot (hid ▸ hheld)
  launched id' rt' hid _ := by
    cases hrun.symm.trans hid
    exact hheld

theorem start_accounts (h : Tracks active) (c : Container) (rt : τ) : Accounts active c rt (c.start rt) := by
  rw [start]
  rcases hrun : Runtime.run c.spec rt with ⟨f | id, rt₁⟩
  · exact h.accounts_notRun hrun
  -- from here on the container runs: every way out gives it up or holds it
  have hhost := h.host id rt₁
  rcases hnamed : Runtime.host id rt₁ with ⟨f | host, rt₂⟩
  · rw [hnamed] at hhost
    simp only [hnamed]
    exact h.accounts_givenUp hrun hhost rfl
  rw [hnamed] at hhost
  have hports := (h.lookUpPorts id c.spec.exposedPorts rt₂).trans hhost
  rcases hlooked : Container.lookUpPorts id c.spec.exposedPorts rt₂ with ⟨f | found, rt₃⟩
  · rw [hlooked] at hports
    simp only [hnamed, hlooked]
    exact h.accounts_givenUp hrun hports rfl
  · rw [hlooked] at hports
    simp only [hnamed, hlooked]
    split
    · exact h.accounts_up hrun hports rfl (h.awaitPorts ..)
    · exact h.accounts_up hrun hports rfl subset_rfl

theorem close_subset (h : Tracks active) (hremoves : Removes τ) (c : Container) (rt : τ) :
    active (c.close rt).2.2 ⊆ active rt \ c.held := by
  rw [close]
  cases hc : c.running with
  | none => rw [held_of_none hc, Set.sdiff_empty]
  | some id =>
    have hok := hremoves id rt
    rcases hremove : Runtime.remove id rt with ⟨f | _, rt₁⟩
    · rw [hremove] at hok
      cases hok
    · simp only [hremove, held_of_some hc]
      exact h.remove hremove

end Container

/-! ### The scripted runtime -/

namespace Rehearsal.Daemon

variable {d : Daemon}

/-- The ids of the containers at the runtime. -/
def ids (d : Daemon) : Set String := {id | ∃ c ∈ d.containers, c.id = id}

theorem ids_mono {d' : Daemon} (h : d'.containers ⊆ d.containers) : d'.ids ⊆ d.ids :=
  fun _ ⟨c, hc, hid⟩ => ⟨c, h hc, hid⟩

@[simp] theorem containers_dropNetwork (network : Option String) (d : Daemon) :
    (d.dropNetwork network).containers = d.containers := by
  cases network with
  | none => rfl
  | some n =>
    rw [dropNetwork]
    split <;> rfl

@[simp] theorem containers_ensureNetwork (network : Option String) (d : Daemon) :
    (d.ensureNetwork network).2.containers = d.containers := by
  cases network with
  | none => rfl
  | some n =>
    rw [ensureNetwork]
    split
    · rfl
    · split <;> rfl

@[simp] theorem containers_pullMissing (image : String) (d : Daemon) :
    (d.pullMissing image).containers = d.containers := by
  rw [pullMissing]
  split <;> rfl

@[simp] theorem containers_awaitLogs (id : String) (script : LogScript) (waits : List (String × Container.LogStream))
    (d : Daemon) : (awaitLogs id script waits d).2.containers = d.containers := by
  induction waits generalizing d with
  | nil => rfl
  | cons wait waits ih =>
    obtain ⟨message, stream⟩ := wait
    cases stream <;>
    · simp only [awaitLogs]
      split
      · exact ih _
      · split <;> rfl

theorem containers_takeDown (id : String) (d : Daemon) :
    (d.takeDown id).containers = d.containers.filter (·.id ≠ id) := by
  rw [takeDown]
  split
  · rename_i hnone
    exact (List.filter_eq_self.2 fun c hc => by simpa using List.find?_eq_none.1 hnone c hc).symm
  · rw [containers_dropNetwork]

theorem ids_takeDown (id : String) (d : Daemon) : (d.takeDown id).ids ⊆ d.ids \ {id} := by
  rintro x ⟨c, hc, rfl⟩
  rw [containers_takeDown] at hc
  obtain ⟨hc, hne⟩ := List.mem_filter.1 hc
  exact ⟨⟨c, hc, rfl⟩, by simpa using hne⟩

theorem filter_concat_subset (cs : List Running) (c : Running) :
    (cs ++ [c]).filter (·.id ≠ c.id) ⊆ cs := by
  intro x hx
  obtain ⟨hx, hne⟩ := List.mem_filter.1 hx
  rcases List.mem_append.1 hx with hx | hx
  · exact hx
  · rw [List.mem_singleton.1 hx] at hne
    simp at hne

/-- What running a container can come to: it is the newest one, or gone again. -/
inductive Ran (d : Daemon) : Except Container.Failure String × Daemon → Prop
  | up {c d'} (h : d'.containers = d.containers ++ [c]) : Ran d (.ok c.id, d')
  | down {f d'} (h : d'.containers ⊆ d.containers) : Ran d (.error f, d')

theorem exists_created (spec : Container.Spec) (image : String) (d : Daemon) :
    ∃ c, (d.create spec image).1 = c.id ∧ (d.create spec image).2.containers = d.containers ++ [c] :=
  ⟨_, rfl, rfl⟩

theorem run_ran (spec : Container.Spec) (d : Daemon) : Ran d (run spec d) := by
  rw [run]
  split
  · exact .down (List.Subset.refl _)
  have hnetwork := containers_ensureNetwork spec.network d
  rcases hensured : d.ensureNetwork spec.network with ⟨f | _, d₁⟩
  · rw [hensured] at hnetwork
    exact .down (hnetwork ▸ List.Subset.refl _)
  rw [hensured] at hnetwork
  dsimp only
  generalize (Container.Spec.nameAndTag spec.image).1 ++ ":" ++ (Container.Spec.nameAndTag spec.image).2 = image
  obtain ⟨c, hid, hcreated⟩ := exists_created spec image (d₁.pullMissing image)
  rw [containers_pullMissing, hnetwork] at hcreated
  have hgone : ((d₁.pullMissing image).create spec image).2.containers.filter (·.id ≠ c.id) ⊆ d.containers :=
    hcreated ▸ filter_concat_subset d.containers c
  split
  · exact .down (by rw [containers_dropNetwork, containers_pullMissing, hnetwork]; exact List.Subset.refl _)
  split
  · refine .down ?_
    rw [abandon, containers_dropNetwork, hid]
    exact hgone
  -- what the log holds decides the outcome only
  generalize (Dict.get? _ image).getD _ = script
  generalize hstarted : log (.start _) _ = d₂
  have hlogs := containers_awaitLogs c.id script spec.logWaits d₂
  have hall : d₂.containers = d.containers ++ [c] := hstarted ▸ hcreated
  rw [hid]
  rcases hwaited : awaitLogs c.id script spec.logWaits d₂ with ⟨f | _, d₃⟩
  · rw [hwaited, hall] at hlogs
    refine .down ?_
    rw [containers_takeDown, hlogs]
    exact filter_concat_subset d.containers c
  · rw [hwaited, hall] at hlogs
    exact .up hlogs

theorem tracks_ids : Container.Tracks ids where
  run_ok {spec d id d'} h := by
    have hran : Ran d (.ok id, d') := h ▸ run_ran spec d
    cases hran with
    | up hup =>
      rintro x ⟨c, hc, rfl⟩
      rw [hup] at hc
      rcases List.mem_append.1 hc with hc | hc
      · exact .inr ⟨c, hc, rfl⟩
      · exact .inl (congrArg Running.id (List.mem_singleton.1 hc))
  run_error {spec d f d'} h := by
    have hran : Ran d (.error f, d') := h ▸ run_ran spec d
    cases hran with
    | down hdown => exact ids_mono hdown
  host _ _ := subset_rfl
  hostPort id port d := by
    have hsame : (hostPort id port d).2 = d := by
      rw [hostPort]
      split <;> rfl
    exact (congrArg ids hsame).le
  accepts _ _ _ _ _ := subset_rfl
  remove {id d d'} h := by
    obtain rfl : d.takeDown id = d' := congrArg Prod.snd h
    exact ids_takeDown id d
  release := ids_takeDown

theorem removes_daemon : Container.Removes Daemon := fun _ _ => rfl

end Rehearsal.Daemon

end Testbed
