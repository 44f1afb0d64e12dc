import Testbed.Proofs.Container.Tracked
import Testbed.Proofs.Registry.Runs

/-!
# No container is left running

A container that was run is held until it is taken down: by the start that ran it, then by the resource, then by the
registry. What runs without being held by a registered resource (`loose`) never grows with a call: a resource that does
not start is closed, one that starts is registered, and a teardown removes what it takes out
(`Setting.loose_perform`). So a call that fails leaves nothing of its own running, and once everything is closed
nothing runs that was started in between (`nothing_left_running`). That goes for every world in which resources of one
kind are containers at a runtime, such as a stage (`houses_players`).
-/

namespace Testbed

namespace Container

open Registry

variable {τ ρ σ : Type}

/-! ### Calls -/

/-- What is made runs nothing yet. -/
structure MakesFresh (runtime : σ → τ) (make : σ → Except Fault Container × σ) : Prop where
  spares : ∀ w, runtime (make w).2 = runtime w
  fresh : ∀ {w c w'}, make w = (.ok c, w') → c.running = none

theorem makesFresh_spec (runtime : σ → τ) (spec : Spec) : MakesFresh runtime fun w => (.ok { spec }, w) where
  spares _ := rfl
  fresh h := by cases h; rfl

/-- Other resources are made and started without a container. -/
structure Leaves (containers : Kind ρ σ Container) (runtime : σ → τ) {α : Type} (kind : Kind ρ σ α)
    (make : σ → Except Fault α × σ) : Prop where
  other : ∀ a, containers.unwrap? (kind.wrap a) = none
  make : ∀ w, runtime (make w).2 = runtime w
  start : ∀ a w, runtime (kind.start a w).2.2 = runtime w

/-- A call that gets a container, one that gets another resource, or a teardown. -/
inductive Orderly (containers : Kind ρ σ Container) (runtime : σ → τ) : Call ρ σ → Prop
  | container {property key make} (hmake : MakesFresh runtime make) :
    Orderly containers runtime (.getOrCreate containers property key make)
  | other {α : Type} {kind : Kind ρ σ α} {property key make} (hleaves : Leaves containers runtime kind make) :
    Orderly containers runtime (.getOrCreate kind property key make)
  | closeScope (scope : Scope) : Orderly containers runtime (.closeScope scope)
  | closeAll : Orderly containers runtime .closeAll

variable {active : τ → Set String} {containers : Kind ρ σ Container} {runtime : σ → τ}
  {entries : List (Entry ρ)} {reg : Registry ρ} {property : String} {key : Key} {r : ρ}
  {make : σ → Except Fault Container × σ} {world w : σ} {call : Call ρ σ} {calls : List (Call ρ σ)}
  {s : Registry ρ × σ}

theorem Leaves.runtime_start {α : Type} {kind : Kind ρ σ α} {make : σ → Except Fault α × σ} {a a' : α} {w₁ w₂ : σ}
    {outcome : Except Fault Unit} (h : Leaves containers runtime kind make) (hm : make w = (.ok a, w₁))
    (hs : kind.start a w₁ = (outcome, a', w₂)) : runtime w₂ = runtime w := by
  rw [← h.make w, hm, ← h.start a w₁, hs]

/-! ### What is held -/

/-- The id of the container that a resource holds, if it is one. -/
def heldAs (containers : Kind ρ σ Container) (r : ρ) : Set String :=
  {id | ∃ c, containers.unwrap? r = some c ∧ id ∈ c.held}

def heldIn (containers : Kind ρ σ Container) (entries : List (Entry ρ)) : Set String :=
  {id | ∃ e ∈ entries, id ∈ heldAs containers e.resource}

/-- The containers that run without being held by a live resource. -/
def loose (containers : Kind ρ σ Container) (runtime : σ → τ) (active : τ → Set String) (s : Registry ρ × σ) :
    Set String := active (runtime s.2) \ heldIn containers s.1.live

theorem heldAs_wrap (containers : Kind ρ σ Container) (c : Container) :
    heldAs containers (containers.wrap c) = c.held := by
  ext id
  simp [heldAs, containers.unwrap?_wrap]

theorem heldAs_of_none (h : containers.unwrap? r = none) : heldAs containers r = ∅ :=
  Set.eq_empty_iff_forall_notMem.2 fun id ⟨c, hc, _⟩ => by cases h.symm.trans hc

theorem heldIn_nil (containers : Kind ρ σ Container) : heldIn containers [] = ∅ :=
  Set.eq_empty_iff_forall_notMem.2 fun _ ⟨_, he, _⟩ => by cases he

theorem heldIn_add : heldIn containers (reg.add property key r).live =
    heldIn containers reg.live ∪ heldAs containers r := by
  ext id
  simp [heldIn, live_add, or_and_right, exists_or]

/-! ### Containers at a runtime -/

variable [Runtime τ]

/-- What is made in `world` has a container run, which gets the id `id`. -/
def Launches (runtime : σ → τ) (make : σ → Except Fault Container × σ) (world : σ) (id : String) : Prop :=
  ∃ c w rt, make world = (.ok c, w) ∧ Runtime.run c.spec (runtime w) = (.ok id, rt)

/-- Apart from what ran in `world` before, only `ids` run in `w`. -/
structure Covers (runtime : σ → τ) (active : τ → Set String) (make : σ → Except Fault Container × σ) (world : σ)
    (ids : Set String) (w : σ) : Prop where
  loose : active (runtime w) \ ids ⊆ active (runtime world)
  launched : ∀ id, Launches runtime make world id → id ∈ active (runtime w) → id ∈ ids

theorem Covers.of_empty (h : Covers runtime active make world ∅ w) : active (runtime w) ⊆ active (runtime world) :=
  Set.sdiff_empty.symm.subset.trans h.loose

/-- In the world `σ` resources of the kind `containers` are containers at the runtime `runtime`, and no other
resource is. -/
structure Houses [Held ρ σ] (containers : Kind ρ σ Container) (runtime : σ → τ) : Prop where
  start : ∀ c w, ((containers.start c w).1, (containers.start c w).2.1, runtime (containers.start c w).2.2) =
    c.start (runtime w)
  close : ∀ c w, runtime (Held.close (containers.wrap c) w).2 = (c.close (runtime w)).2.2
  spares : ∀ r w, containers.unwrap? r = none → runtime (Held.close r w).2 = runtime w

/-- What is assumed of a world and of its runtime. -/
structure Setting [Held ρ σ] (containers : Kind ρ σ Container) (runtime : σ → τ) (active : τ → Set String) : Prop where
  houses : Houses containers runtime
  tracks : Tracks active
  removes : Removes τ

namespace Setting

variable [Held ρ σ] (h : Setting containers runtime active)
include h

theorem closeResource_subset (r : ρ) (w : σ) :
    active (runtime (Held.close r w).2) ⊆ active (runtime w) \ heldAs containers r := by
  cases hr : containers.unwrap? r with
  | none => rw [h.houses.spares r w hr, heldAs_of_none hr, Set.sdiff_empty]
  | some c =>
    obtain rfl := containers.wrap_of_unwrap? hr
    rw [h.houses.close, heldAs_wrap]
    exact close_subset h.tracks h.removes c (runtime w)

theorem closeEach_subset (entries : List (Entry ρ)) (w : σ) :
    active (runtime (closeEach entries w)) ⊆ active (runtime w) \ heldIn containers entries := by
  induction entries generalizing w with
  | nil =>
    rw [heldIn_nil, Set.sdiff_empty]
    exact subset_rfl
  | cons e entries ih =>
    intro x hx
    obtain ⟨hx, hrest⟩ := ih (Held.close e.resource w).2 hx
    obtain ⟨hx, hfirst⟩ := h.closeResource_subset e.resource w hx
    refine ⟨hx, fun ⟨f, hf, hid⟩ => ?_⟩
    rcases List.mem_cons.1 hf with rfl | hf
    · exact hfirst hid
    · exact hrest ⟨f, hf, hid⟩

/-! ### Getting a container -/

theorem covers_start {c c' : Container} {w' : σ} {outcome : Except Fault Unit} (hmake : MakesFresh runtime make)
    (hm : make world = (.ok c, w)) (hs : containers.start c w = (outcome, c', w')) :
    Covers runtime active make world c'.held w' := by
  have haccounts := start_accounts h.tracks c (runtime w)
  rw [← h.houses.start, hs] at haccounts
  have hsame : runtime w = runtime world := by rw [← hmake.spares world, hm]
  refine ⟨?_, ?_⟩
  · rw [← hsame]
    exact haccounts.loose.trans Set.sdiff_subset
  · rintro id ⟨c₁, w₁, rt, hm₁, hrun⟩ hactive
    cases hm.symm.trans hm₁
    exact haccounts.launched id rt hrun hactive

theorem covers_bringUp_error {e : Error} (hmake : MakesFresh runtime make)
    (hb : bringUp containers key make world = (.error e, w)) : Covers runtime active make world ∅ w := by
  have hmade := bringUp_made containers key make world
  rw [hb] at hmade
  cases hmade with
  | notMade hm =>
    refine ⟨?_, ?_⟩
    · rw [Set.sdiff_empty, ← hmake.spares world, hm]
    · rintro id ⟨c, w₁, rt, hm₁, -⟩
      cases hm.symm.trans hm₁
  | @notStarted _ _ _ c w hm hs =>
    have hcovers := h.covers_start hmake hm hs
    have hclosed := h.closeResource_subset (containers.wrap c) w
    rw [heldAs_wrap] at hclosed
    refine ⟨?_, fun id hlaunch hactive => ?_⟩
    · rw [Set.sdiff_empty]
      exact hclosed.trans hcovers.loose
    · -- a start that fails may leave the container held, and then the close takes it down
      obtain ⟨hactive, hnot⟩ := hclosed hactive
      exact hnot (hcovers.launched id hlaunch hactive)

theorem covers_bringUp_ok {c : Container} (hmake : MakesFresh runtime make)
    (hb : bringUp containers key make world = (.ok c, w)) : Covers runtime active make world c.held w := by
  have hmade := bringUp_made containers key make world
  rw [hb] at hmade
  cases hmade with
  | started hm hs => exact h.covers_start hmake hm hs

theorem covers_getOrCreate_error {e : Error} {reg' : Registry ρ} (hmake : MakesFresh runtime make)
    (hrun : reg.getOrCreate containers property key make world = (.error e, reg', w)) :
    active (runtime w) ⊆ active (runtime world) ∧
      ∀ id, reg.find? key = none → Launches runtime make world id → id ∉ active (runtime w) := by
  have hgot := getOrCreate_got containers property key make reg world
  rw [hrun] at hgot
  cases hgot with
  | mismatch hf => exact ⟨subset_rfl, fun id hfree => by cases hfree.symm.trans hf⟩
  | failed hf hb =>
    have hcovers := h.covers_bringUp_error hmake hb
    exact ⟨hcovers.of_empty, fun id _ hlaunch hactive => hcovers.launched id hlaunch hactive⟩

/-! ### Runs -/

theorem loose_container (hmake : MakesFresh runtime make) (property : String) (key : Key) (s : Registry ρ × σ) :
    let t := (Call.getOrCreate containers property key make).perform s
    loose containers runtime active t ⊆ loose containers runtime active s ∧
      ∀ id, s.1.find? key = none → Launches runtime make s.2 id → id ∉ loose containers runtime active t := by
  intro t
  have hgot := getOrCreate_got containers property key make s.1 s.2
  have ht : t = (s.1.getOrCreate containers property key make s.2).2 := rfl
  rw [ht]
  generalize s.1.getOrCreate containers property key make s.2 = result at hgot ⊢
  cases hgot with
  | found hf | mismatch hf =>
    refine ⟨?_, fun id hfree => by cases hfree.symm.trans hf⟩
    rw [loose, live_note]
    exact subset_rfl
  | failed hf hb =>
    have hcovers := h.covers_bringUp_error hmake hb
    refine ⟨Set.sdiff_subset_sdiff_left hcovers.of_empty, fun id _ hlaunch hactive => ?_⟩
    exact hcovers.launched id hlaunch hactive.1
  | @created c w hf hb =>
    have hcovers := h.covers_bringUp_ok hmake hb
    rw [loose, heldIn_add, heldAs_wrap, loose]
    refine ⟨?_, fun id _ hlaunch ⟨hactive, hnot⟩ => hnot (.inr (hcovers.launched id hlaunch hactive))⟩
    rintro id ⟨hactive, hnot⟩
    exact ⟨hcovers.loose ⟨hactive, fun hid => hnot (.inr hid)⟩, fun hid => hnot (.inl hid)⟩

theorem runtime_bringUp {α : Type} {kind : Kind ρ σ α} {make : σ → Except Fault α × σ} {r : Except Error α}
    (hleaves : Leaves containers runtime kind make) (hb : bringUp kind key make world = (r, w)) :
    runtime w = runtime world := by
  have hmade := bringUp_made kind key make world
  rw [hb] at hmade
  cases hmade with
  | notMade hm => rw [← hleaves.make world, hm]
  | notStarted hm hs => rw [h.houses.spares _ _ (hleaves.other _), hleaves.runtime_start hm hs]
  | started hm hs => exact hleaves.runtime_start hm hs

theorem loose_other {α : Type} {kind : Kind ρ σ α} {make : σ → Except Fault α × σ}
    (hleaves : Leaves containers runtime kind make) (property : String) (key : Key) (s : Registry ρ × σ) :
    loose containers runtime active ((Call.getOrCreate kind property key make).perform s) ⊆
      loose containers runtime active s := by
  have hgot := getOrCreate_got kind property key make s.1 s.2
  rw [Call.perform]
  generalize s.1.getOrCreate kind property key make s.2 = result at hgot ⊢
  cases hgot with
  | found | mismatch =>
    rw [loose, live_note]
    exact subset_rfl
  | failed _ hb =>
    rw [loose, h.runtime_bringUp hleaves hb]
    exact subset_rfl
  | created _ hb =>
    rw [loose, heldIn_add, h.runtime_bringUp hleaves hb, heldAs_of_none (hleaves.other _), Set.union_empty]
    exact subset_rfl

theorem loose_teardown (target : Target) (s : Registry ρ × σ) :
    loose containers runtime active (target.perform s) ⊆ loose containers runtime active s := by
  rintro id ⟨hactive, hnot⟩
  obtain ⟨hactive, hgone⟩ := h.closeEach_subset _ _ hactive
  refine ⟨hactive, fun ⟨e, he, hid⟩ => ?_⟩
  -- what was live is either closed or still live
  cases hcovers : target.covers e.key with
  | true => exact hgone ⟨e, by rw [Target.takeOut_fst]; exact List.mem_filter.2 ⟨he, hcovers⟩, hid⟩
  | false =>
    refine hnot ⟨e, ?_, hid⟩
    show e ∈ (target.takeOut s.1).2.live
    rw [Target.live_takeOut]
    exact List.mem_filter.2 ⟨he, by rw [hcovers]; rfl⟩

theorem loose_perform (hcall : Orderly containers runtime call) (s : Registry ρ × σ) :
    loose containers runtime active (call.perform s) ⊆ loose containers runtime active s := by
  cases hcall with
  | container hmake => exact (h.loose_container hmake _ _ s).1
  | other hleaves => exact h.loose_other hleaves _ _ s
  | closeScope scope => exact h.loose_teardown (.within scope) s
  | closeAll => exact h.loose_teardown .everything s

theorem loose_performAll (hcalls : ∀ call ∈ calls, Orderly containers runtime call) (s : Registry ρ × σ) :
    loose containers runtime active (performAll calls s) ⊆ loose containers runtime active s := by
  induction calls generalizing s with
  | nil => exact subset_rfl
  | cons call calls ih =>
    obtain ⟨hfirst, hcalls⟩ := List.forall_mem_cons.1 hcalls
    rw [performAll_cons]
    exact (ih hcalls _).trans (h.loose_perform hfirst s)

/-- Once everything is closed, what runs is held by nothing. -/
theorem active_closeAll (s : Registry ρ × σ) :
    active (runtime (Call.closeAll.perform s).2) ⊆ loose containers runtime active s := by
  have hteardown := h.loose_teardown .everything s
  have hnone : heldIn containers (Target.everything.perform s).1.live = ∅ := heldIn_nil containers
  rwa [loose, hnone, Set.sdiff_empty] at hteardown

end Setting

/-! ### Worlds with containers -/

section

open Rehearsal

theorem houses_players : Houses (Player.containers : Kind Player (Stage τ) Container) Stage.runtime where
  start _ _ := rfl
  close _ _ := rfl
  spares r _ h := by
    cases r with
    | container c => cases h
    | standIn label s => rfl

theorem leaves_standIns (label : String) (plan : Plan) :
    Leaves (Player.containers : Kind Player (Stage τ) Container) Stage.runtime (Player.standIns label)
      (makeStandIn plan) where
  other _ := rfl
  make _ := rfl
  start _ _ := rfl

end

/-! ### Runs that close everything -/

/-- Removals taken to succeed, a call that fails to get a container leaves none of its own running, and once all is
closed after a run of calls, nothing runs but what ran before it without being held by the registry: no container
that a call of the run started does. -/
theorem nothing_left_running [Held ρ σ] (containers : Kind ρ σ Container) (runtime : σ → τ) (active : τ → Set String)
    (hhouses : Houses containers runtime) (htracks : Tracks active) (hremoves : Removes τ) :
    (∀ property key make (reg : Registry ρ) world, MakesFresh runtime make →
      ∀ e reg' w, reg.getOrCreate containers property key make world = (.error e, reg', w) →
        active (runtime w) ⊆ active (runtime world) ∧
          ∀ id, reg.find? key = none → Launches runtime make world id → id ∉ active (runtime w)) ∧
    ∀ (calls : List (Call ρ σ)) s, (∀ call ∈ calls, Orderly containers runtime call) →
      let last := performAll (calls ++ [.closeAll]) s
      active (runtime last.2) ⊆ active (runtime s.2) \ heldIn containers s.1.live ∧
        ∀ before property key make after id, calls = before ++ .getOrCreate containers property key make :: after →
          (performAll before s).1.find? key = none → Launches runtime make (performAll before s).2 id →
            id ∉ active (runtime last.2) := by
  have h : Setting containers runtime active := ⟨hhouses, htracks, hremoves⟩
  refine ⟨fun property key make reg world hmake e reg' w hrun => h.covers_getOrCreate_error hmake hrun, ?_⟩
  intro calls s hcalls last
  have hlast : active (runtime last.2) ⊆ loose containers runtime active (performAll calls s) := by
    rw [show last = Call.closeAll.perform (performAll calls s) from performAll_append calls [.closeAll] s]
    exact h.active_closeAll _
  refine ⟨hlast.trans (h.loose_performAll hcalls s), ?_⟩
  rintro before property key make after id rfl hfree hlaunch hactive
  have hmake : MakesFresh runtime make := by
    cases hcalls _ (List.mem_append_right _ List.mem_cons_self) with
    | container hmake => exact hmake
    | other hleaves =>
      -- containers are no other resources
      cases (hleaves.other { spec := { image := "" } }).symm.trans (containers.unwrap?_wrap _)
  have hafter := hlast hactive
  rw [performAll_append, performAll_cons] at hafter
  refine (h.loose_container hmake property key _).2 id hfree hlaunch (h.loose_performAll (fun call hc => ?_) _ hafter)
  exact hcalls call (List.mem_append_right _ (List.mem_cons_of_mem _ hc))

end Container

namespace Rehearsal.Daemon

/-- A container of someone else's runs, one port is listened on, and one gets no host port. -/
def onePort : Daemon := { containers := [⟨"other", none, []⟩], listening := [6379], unmapped := [7000] }

/-- Makes a container of `image` that is to listen on `port`. -/
def makeListening (image : String) (port : UInt16) (stage : Stage Daemon) : Except Fault Container × Stage Daemon :=
  (.ok { spec := { image, exposedPorts := [port], wait := [.ports] } }, stage)

def keyOf (name : String) : Registry.Key := ⟨"o", name, .root, ∅⟩

def getListening (image : String) (port : UInt16) : Registry.Call Player (Stage Daemon) :=
  .getOrCreate Player.containers "p" (keyOf image) (makeListening image port)

def atStart : Registry Player × Stage Daemon := (.empty, { runtime := onePort })

def firstGets : List (Registry.Call Player (Stage Daemon)) :=
  [getListening "redis" 6379, .standIn "A" "q" (keyOf "a") {}]

/-- With a container and a stand-in registered. -/
def afterFirst : Registry Player × Stage Daemon := Registry.performAll firstGets atStart

/-- The container of `db` does not listen in time, that of `web` gets no host port. -/
theorem nothing_left_running_of_gets :
    let calls := firstGets ++ [getListening "db" 5432, getListening "web" 7000]
    let ran := Registry.performAll calls atStart
    let last := Registry.performAll (calls ++ [.closeAll]) atStart
    (∀ call ∈ calls, Container.Orderly Player.containers Stage.runtime call) ∧
      (∃ e reg w, afterFirst.1.getOrCreate Player.containers "p" (keyOf "db") (makeListening "db" 5432) afterFirst.2 =
        (.error e, reg, w) ∧ Container.Launches Stage.runtime (makeListening "db" 5432) afterFirst.2 "c2" ∧
          "c2" ∉ w.runtime.ids) ∧
      ran.2.runtime.created = 3 ∧ ran.2.runtime.containers.map Running.id = ["other", "c1"] ∧
      last.2.runtime.ids ⊆ {"other"} ∧ "c1" ∉ last.2.runtime.ids := by
  intro calls ran last
  have hmake (image : String) (port : UInt16) :
      Container.MakesFresh Stage.runtime (makeListening image port) := Container.makesFresh_spec Stage.runtime _
  have hcalls : ∀ call ∈ calls, Container.Orderly Player.containers Stage.runtime call := by
    intro call hcall
    simp only [calls, firstGets, List.cons_append, List.nil_append, List.mem_cons, List.not_mem_nil, or_false] at hcall
    rcases hcall with rfl | rfl | rfl | rfl
    · exact .container (hmake "redis" 6379)
    · exact .other (Container.leaves_standIns "A" {})
    · exact .container (hmake "db" 5432)
    · exact .container (hmake "web" 7000)
  obtain ⟨hfailed, hclosed⟩ := Container.nothing_left_running Player.containers Stage.runtime ids
    Container.houses_players tracks_ids removes_daemon
  have hlaunch : Container.Launches Stage.runtime (makeListening "db" 5432) afterFirst.2 "c2" := ⟨_, _, _, rfl, rfl⟩
  obtain ⟨e, reg, w, hrun⟩ : ∃ e reg w, afterFirst.1.getOrCreate Player.containers "p" (keyOf "db")
      (makeListening "db" 5432) afterFirst.2 = (.error e, reg, w) := ⟨_, _, _, rfl⟩
  have hnot := (hfailed "p" (keyOf "db") _ afterFirst.1 afterFirst.2 (hmake "db" 5432) e reg w hrun).2 "c2" rfl hlaunch
  obtain ⟨hleft, hstarted⟩ := hclosed calls atStart hcalls
  refine ⟨hcalls, ⟨e, reg, w, hrun, hlaunch, hnot⟩, rfl, rfl, fun id hid => ?_, ?_⟩
  · obtain ⟨c, hc, rfl⟩ := (hleft hid).1
    rw [List.mem_singleton.1 hc]
    rfl
  · exact hstarted [] "p" (keyOf "redis") (makeListening "redis" 6379) _ "c1" rfl rfl ⟨_, _, _, rfl, rfl⟩

end Rehearsal.Daemon

end Testbed
