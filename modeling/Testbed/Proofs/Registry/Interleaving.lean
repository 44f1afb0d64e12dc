import Testbed.Registry.Shared
import Testbed.Proofs.Registry.Views

/-!
# The steps of callers that share a registry

`Creation.Moves` and `Target.Moves` list what one step of a creation and of a teardown can be, each with
the lock it waited for and with what it does to the shared state. A step of the whole system (`Step`)
moves one caller and leaves the others where they are, so what relates callers in pairs (`Apart`) is
kept if the caller that moved relates to no other.
-/

namespace Testbed.Registry

variable {ρ σ ι : Type} {α : ι → Type}

namespace Shared
variable {s : Shared ρ σ α}

@[simp] theorem callers_fetchLock (key : Key) : (s.fetchLock key).2.callers = s.callers := by
  unfold fetchLock; split <;> rfl

@[simp] theorem registry_fetchLock (key : Key) : (s.fetchLock key).2.registry = s.registry := by
  unfold fetchLock; split <;> rfl

@[simp] theorem callers_dropLock (key : Key) (m : Nat) : (s.dropLock key m).callers = s.callers := by
  unfold dropLock; split <;> rfl

@[simp] theorem registry_dropLock (key : Key) (m : Nat) : (s.dropLock key m).registry = s.registry := by
  unfold dropLock; split <;> rfl

end Shared

section
variable [Held ρ σ]

/-- What a step of a creation can be. -/
inductive Creation.Moves (s : Shared ρ σ α) (c : Creation ρ σ α) :
    Creation.Phase (α c.sort) → Creation.Phase (α c.sort) → Shared ρ σ α → Prop
  | enter (h : s.isTornDown = false) : Moves s c .waiting .entered s
  | fetch (h : s.isGuarded = false) :
    Moves s c .entered (.fetched (s.fetchLock c.key).1) (s.fetchLock c.key).2
  | lock {m} (h : s.isLocked m = false) : Moves s c (.fetched m) (.locked m) s
  | find {m e a} (hf : s.registry.find? c.key = some e) (ha : c.kind.unwrap? e.resource = some a) :
    Moves s c (.locked m) (.settled m (.ok a)) { s with registry := s.registry.note c.property c.key }
  | mistake {m e} (hf : s.registry.find? c.key = some e) (ha : c.kind.unwrap? e.resource = none) :
    Moves s c (.locked m) (.settled m (.error (.typeMismatch c.key c.kind.label)))
      { s with registry := s.registry.note c.property c.key }
  | miss {m} (hf : s.registry.find? c.key = none) : Moves s c (.locked m) (.missed m) s
  | fail {m e world} (hb : bringUp c.kind c.key c.make s.world = (.error e, world)) :
    Moves s c (.missed m) (.settled m (.error e)) { s with world }
  | start {m a world} (hb : bringUp c.kind c.key c.make s.world = (.ok a, world)) :
    Moves s c (.missed m) (.started m a) { s with world }
  | insert {m a} : Moves s c (.started m a) (.settled m (.ok a))
      { s with registry := s.registry.add c.property c.key (c.kind.wrap a) }
  | unlock {m o} : Moves s c (.settled m o) (.unlocked m o) s
  | guard {m o} (h : s.isGuarded = false) : Moves s c (.unlocked m o) (.guarding m o) s
  | compare {m o} : Moves s c (.guarding m o) (.compared m o) (s.dropLock c.key m)
  | unguard {m o} : Moves s c (.compared m o) (.unguarded m o) s
  | release {m o} : Moves s c (.unguarded m o) (.released o) s
  | leave {o} : Moves s c (.released o) (.done o) s

/-- What a step of a teardown can be. -/
inductive Target.Moves (s : Shared ρ σ α) (target : Target) :
    Teardown ρ → Teardown ρ → Shared ρ σ α → Prop
  | enter (h : s.isBusy = false) : Moves s target .waiting .entered s
  | detach : Moves s target .entered (.detached (target.takeOut s.registry).1)
      { s with registry := (target.takeOut s.registry).2 }
  | close {removed} : Moves s target (.detached removed) (.closed (!removed.isEmpty))
      { s with world := closeEach removed s.world }
  | leave {any} : Moves s target (.closed any) (.done any) s

namespace Shared

/-- A step of caller number `i`. -/
inductive Step (s : Shared ρ σ α) (i : Nat) : Shared ρ σ α → Prop
  | creation {c p p' t} (hi : s.callers[i]? = some (.creation c p)) (h : c.Moves s p p' t) :
    Step s i { t with callers := s.callers.set i (.creation c p') }
  | teardown {target p p' t} (hi : s.callers[i]? = some (.teardown target p))
    (h : target.Moves s p p' t) :
    Step s i { t with callers := s.callers.set i (.teardown target p') }

variable {s t : Shared ρ σ α} {i : Nat}

theorem moves_of_stepCreation {c : Creation ρ σ α} {p p' : Creation.Phase (α c.sort)}
    (h : s.stepCreation c p = some (p', t)) : c.Moves s p p' t ∧ t.callers = s.callers := by
  cases p with
  | waiting =>
    rw [stepCreation] at h
    split at h
    · cases h
    · rename_i hs; cases h; exact ⟨.enter (by simpa using hs), rfl⟩
  | entered =>
    rw [stepCreation] at h
    split at h
    · cases h
    · rename_i hs; cases h; exact ⟨.fetch (by simpa using hs), callers_fetchLock c.key⟩
  | fetched m =>
    rw [stepCreation] at h
    split at h
    · cases h
    · rename_i hs; cases h; exact ⟨.lock (by simpa using hs), rfl⟩
  | locked m =>
    rw [stepCreation, lookUp] at h
    cases hf : s.registry.find? c.key with
    | none =>
      rw [hf] at h; cases h
      exact ⟨.miss hf, rfl⟩
    | some e =>
      rw [hf] at h
      cases ha : c.kind.unwrap? e.resource with
      | some a => simp only [ha] at h; cases h; exact ⟨.find hf ha, rfl⟩
      | none => simp only [ha] at h; cases h; exact ⟨.mistake hf ha, rfl⟩
  | missed m =>
    rw [stepCreation] at h
    rcases hb : bringUp c.kind c.key c.make s.world with ⟨e | a, world⟩
    · rw [hb] at h; cases h; exact ⟨.fail hb, rfl⟩
    · rw [hb] at h; cases h; exact ⟨.start hb, rfl⟩
  | started m a => cases h; exact ⟨.insert, rfl⟩
  | settled m o => cases h; exact ⟨.unlock, rfl⟩
  | unlocked m o =>
    rw [stepCreation] at h
    split at h
    · cases h
    · rename_i hs; cases h; exact ⟨.guard (by simpa using hs), rfl⟩
  | guarding m o =>
    cases h; exact ⟨.compare, callers_dropLock c.key m⟩
  | compared m o => cases h; exact ⟨.unguard, rfl⟩
  | unguarded m o => cases h; exact ⟨.release, rfl⟩
  | released o => cases h; exact ⟨.leave, rfl⟩
  | done o => cases h

theorem moves_of_stepTeardown {target : Target} {p p' : Teardown ρ}
    (h : s.stepTeardown target p = some (p', t)) : target.Moves s p p' t ∧ t.callers = s.callers := by
  cases p with
  | waiting =>
    rw [stepTeardown] at h
    split at h
    · cases h
    · rename_i hs; cases h; exact ⟨.enter (by simpa using hs), rfl⟩
  | entered => cases h; exact ⟨.detach, rfl⟩
  | detached removed => cases h; exact ⟨.close, rfl⟩
  | closed any => cases h; exact ⟨.leave, rfl⟩
  | done any => cases h

theorem step_of_step? (h : s.step? i = some t) : s.Step i t := by
  unfold step? at h
  split at h
  · cases h
  · rename_i hi
    obtain ⟨⟨p', t⟩, ht, rfl⟩ := Option.map_eq_some_iff.1 h
    obtain ⟨hm, hcallers⟩ := moves_of_stepCreation ht
    show Step s i { t with callers := t.callers.set i _ }
    rw [hcallers]
    exact .creation hi hm
  · rename_i hi
    obtain ⟨⟨p', t⟩, ht, rfl⟩ := Option.map_eq_some_iff.1 h
    obtain ⟨hm, hcallers⟩ := moves_of_stepTeardown ht
    show Step s i { t with callers := t.callers.set i _ }
    rw [hcallers]
    exact .teardown hi hm

/-- What every step keeps, every run keeps. -/
theorem run_induction {P : Shared ρ σ α → Prop} (step : ∀ {s i t}, Step s i t → P s → P t)
    (turns : List Nat) (h : P s) : P (s.run turns) := by
  induction turns generalizing s with
  | nil => exact h
  | cons i turns ih =>
    rw [run_cons]
    refine ih ?_
    cases ht : s.step? i with
    | none => exact h
    | some t => exact step (step_of_step? ht) h

end Shared

end

/-! ### Setting one caller -/

section
variable {γ : Type} {l : List γ} {i j : Nat} {a b : γ}

theorem getElem?_set_cases (h : (l.set i a)[j]? = some b) : j = i ∧ b = a ∨ j ≠ i ∧ l[j]? = some b := by
  rw [List.getElem?_set] at h
  split at h
  · rename_i hij
    split at h
    · cases h; exact .inl ⟨hij.symm, rfl⟩
    · cases h
  · rename_i hij; exact .inr ⟨fun hj => hij hj.symm, h⟩

theorem exists_set {P : γ → Prop} (hi : l[i]? = some a) :
    (∃ (j : Nat) (c : γ), (l.set i b)[j]? = some c ∧ P c) ↔
      P b ∨ ∃ (j : Nat) (c : γ), j ≠ i ∧ l[j]? = some c ∧ P c := by
  constructor
  · rintro ⟨j, c, hj, hP⟩
    rcases getElem?_set_cases hj with ⟨-, rfl⟩ | ⟨hne, hj⟩
    · exact .inl hP
    · exact .inr ⟨j, c, hne, hj, hP⟩
  · rintro (hP | ⟨j, c, hne, hj, hP⟩)
    · exact ⟨i, b, List.getElem?_set_self (List.getElem?_eq_some_iff.1 hi).1, hP⟩
    · exact ⟨j, c, (List.getElem?_set_ne hne.symm).trans hj, hP⟩

theorem exists_iff_or {P : γ → Prop} (hi : l[i]? = some a) :
    (∃ (j : Nat) (c : γ), l[j]? = some c ∧ P c) ↔
      P a ∨ ∃ (j : Nat) (c : γ), j ≠ i ∧ l[j]? = some c ∧ P c := by
  obtain ⟨hlt, rfl⟩ := List.getElem?_eq_some_iff.1 hi
  have := exists_set (b := l[i]) (P := P) hi
  rwa [List.set_getElem_self] at this

/-- No two members stand in the relation `P`. -/
def Apart (P : γ → γ → Prop) (l : List γ) : Prop :=
  ∀ ⦃j k : Nat⦄ ⦃c d : γ⦄, l[j]? = some c → l[k]? = some d → P c d → j = k

theorem Apart.set {P : γ → γ → Prop} (h : Apart P l)
    (ha : ∀ j d, j ≠ i → l[j]? = some d → ¬ P a d ∧ ¬ P d a) : Apart P (l.set i a) := by
  intro j k c d hj hk hP
  rcases getElem?_set_cases hj with ⟨rfl, rfl⟩ | ⟨hji, hj'⟩ <;>
    rcases getElem?_set_cases hk with ⟨rfl, rfl⟩ | ⟨hki, hk'⟩
  · rfl
  · exact absurd hP (ha k d hki hk').1
  · exact absurd hP (ha j c hji hj').2
  · exact h hj' hk' hP

end

section
variable [Held ρ σ] {s t : Shared ρ σ α} {i j : Nat} {c : Creation ρ σ α} {p : Creation.Phase (α c.sort)}

/-- A caller keeps its call. -/
theorem Shared.Step.exists_phase (hs : s.Step i t) (hj : s.callers[j]? = some (.creation c p)) :
    ∃ q, t.callers[j]? = some (.creation c q) := by
  cases hs with
  | creation hi hm =>
    by_cases hij : i = j
    · subst hij
      rw [hi] at hj; cases hj
      exact ⟨_, List.getElem?_set_self (List.getElem?_eq_some_iff.1 hi).1⟩
    · exact ⟨p, (List.getElem?_set_ne hij).trans hj⟩
  | teardown hi hm =>
    have hij : i ≠ j := fun hij => by
      subst hij
      rw [hi] at hj; cases hj
    exact ⟨p, (List.getElem?_set_ne hij).trans hj⟩

theorem Shared.exists_phase_run (hj : s.callers[j]? = some (.creation c p)) (turns : List Nat) :
    ∃ q, (s.run turns).callers[j]? = some (.creation c q) :=
  run_induction (P := fun t => ∃ q, t.callers[j]? = some (.creation c q))
    (fun hs ⟨_, hq⟩ => hs.exists_phase hq) turns ⟨p, hj⟩

end

end Testbed.Registry
