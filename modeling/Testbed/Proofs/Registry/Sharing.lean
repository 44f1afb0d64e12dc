import Testbed.Proofs.Registry.Exclusion
import Testbed.Rehearsal.Daemon
import Testbed.Rehearsal.Stage

/-!
# One resource between two teardowns

A stretch begins where `key` is not live: at the start of a run or with a teardown that covers the key.
It goes on while no such teardown takes anything out. In it `startedIn` lists the resources started for
the key, and `Shares` says that these are the ones that are live or about to be registered (`Has`), that
there is at most one, and that every creation of the stretch that succeeded got the live one.
-/

namespace Testbed.Registry

variable {ρ σ ι : Type} {α : ι → Type}

/-- The outcome once it is settled. -/
def Creation.Phase.result? {β : Type} : Creation.Phase β → Option (Except Error β)
  | settled _ o | unlocked _ o | guarding _ o | compared _ o | unguarded _ o | released o | done o =>
    some o
  | _ => none

theorem Creation.Phase.eq_of_isInside_eq_false {β : Type} {p : Creation.Phase β}
    (h : p.isInside = false) : p = .waiting ∨ ∃ o, p = .done o := by
  cases p with
  | waiting => exact .inl rfl
  | done o => exact .inr ⟨o, rfl⟩
  | _ => cases h

/-- The resource it has started for `key` and not registered yet. -/
def Caller.pending? (key : Key) : Caller ρ σ α → Option ρ
  | creation c (.started _ a) => if c.key = key then some (c.kind.wrap a) else none
  | _ => none

namespace Shared

section
variable [Held ρ σ]

/-- Whether the turn of caller `i` takes out what lives under `key`. -/
def tearsDown (key : Key) (i : Nat) (s : Shared ρ σ α) : Bool :=
  match s.callers[i]? with
  | some (.teardown target .entered) => target.covers key
  | _ => false

/-- The resource that the turn of caller `i` makes and starts for `key`. -/
def startedBy? (key : Key) (i : Nat) (s : Shared ρ σ α) : Option ρ :=
  match s.callers[i]? with
  | some (.creation c (.missed _)) =>
    match (bringUp c.kind c.key c.make s.world).1 with
    | .ok a => if c.key = key then some (c.kind.wrap a) else none
    | .error _ => none
  | _ => none

/-- The resources started for `key` in `turns`, oldest first. -/
def startedIn (key : Key) : List Nat → Shared ρ σ α → List ρ
  | [], _ => []
  | i :: turns, s => (s.startedBy? key i).toList ++ startedIn key turns ((s.step? i).getD s)

/-- No turn takes out what lives under `key`. -/
def Undisturbed (key : Key) : List Nat → Shared ρ σ α → Prop
  | [], _ => True
  | i :: turns, s => s.tearsDown key i = false ∧ Undisturbed key turns ((s.step? i).getD s)

instance decidableUndisturbed (key : Key) :
    (turns : List Nat) → (s : Shared ρ σ α) → Decidable (s.Undisturbed key turns)
  | [], _ => .isTrue trivial
  | i :: turns, s =>
    have := decidableUndisturbed key turns ((s.step? i).getD s)
    inferInstanceAs (Decidable (_ ∧ _))

/-- The turns after which a stretch for `key` begins. -/
inductive Begins (key : Key) (s : Shared ρ σ α) : List Nat → Prop
  | atOnce (h : s.registry.find? key = none) : Begins key s []
  | tornDown {turns : List Nat} {i : Nat} (h : (s.run turns).tearsDown key i) : Begins key s (turns ++ [i])

end

/-- Whether `r` is the resource under `key` or about to be. -/
def Has (key : Key) (r : ρ) (s : Shared ρ σ α) : Prop :=
  (∃ e, s.registry.find? key = some e ∧ e.resource = r) ∨
    ∃ (i : Nat) (c : Caller ρ σ α), s.callers[i]? = some c ∧ c.pending? key = some r

/-- There is nothing under `key` and no creation is inside. -/
structure Quiet (key : Key) (s : Shared ρ σ α) : Prop where
  absent : s.registry.find? key = none
  outside : ∀ {i : Nat} {c : Creation ρ σ α} {p}, s.callers[i]? = some (.creation c p) →
    p.isInside = false

end Shared

/-! ### What there is after a step -/

section
variable {s t : Shared ρ σ α} {i : Nat} {key : Key} {r : ρ}

/-- In the stretch from `b` to `s` the resources `made` were started for `key`. -/
structure Shares (key : Key) (b : Shared ρ σ α) (made : List ρ) (s : Shared ρ σ α) : Prop where
  length_le : made.length ≤ 1
  mem_iff : ∀ r, r ∈ made ↔ s.Has key r
  /-- Who was waiting at `b` and succeeded got what is live. -/
  result : ∀ {i : Nat} {c : Creation ρ σ α} {p a}, b.callers[i]? = some (.creation c .waiting) →
    s.callers[i]? = some (.creation c p) → c.key = key → p.result? = some (.ok a) →
    ∃ e, s.registry.find? key = some e ∧ c.kind.wrap a = e.resource

/-- Whoever succeeded in the stretch got the one resource started in it. -/
theorem Shares.eq_singleton {b : Shared ρ σ α} {made : List ρ} (h : Shares key b made s) {e : Entry ρ}
    (he : s.registry.find? key = some e) : made = [e.resource] := by
  have hm : e.resource ∈ made := (h.mem_iff _).2 (.inl ⟨e, he, rfl⟩)
  obtain ⟨r, rfl⟩ := List.length_eq_one_iff.1 (Nat.le_antisymm h.length_le (List.length_pos_of_mem hm))
  rw [List.mem_singleton.1 hm]

theorem covers_eq_false {target : Target} (hi : s.callers[i]? = some (.teardown target .entered))
    (hkeep : s.tearsDown key i = false) : target.covers key = false := by
  rwa [Shared.tearsDown, hi] at hkeep

theorem pending?_eq_some {c : Caller ρ σ α} (h : c.pending? key = some r) :
    ∃ (d : Creation ρ σ α) (m : Nat) (a : α d.sort), c = .creation d (.started m a) ∧ d.key = key := by
  unfold Caller.pending? at h
  split at h
  · split at h
    · rename_i hkey; exact ⟨_, _, _, rfl, hkey⟩
    · cases h
  · cases h

theorem exists_of_tearsDown (h : s.tearsDown key i) :
    ∃ target : Target, s.callers[i]? = some (.teardown target .entered) ∧ target.covers key := by
  unfold Shared.tearsDown at h
  split at h
  · rename_i hi; exact ⟨_, hi, h⟩
  · cases h

theorem Shared.IsFresh.quiet (h : s.IsFresh) (hnone : s.registry.find? key = none) : s.Quiet key where
  absent := hnone
  outside {i c p} hi := by
    have hp : p = .waiting := h _ (List.mem_of_getElem? hi)
    rw [hp]; rfl

theorem Shares.of_quiet (h : s.Quiet key) : Shares key s [] s where
  length_le := Nat.zero_le 1
  mem_iff r := by
    refine ⟨fun hr => absurd hr List.not_mem_nil, ?_⟩
    rintro (⟨e, he, -⟩ | ⟨i, c, hi, hc⟩)
    · rw [h.absent] at he; cases he
    · obtain ⟨d, m, a, rfl, -⟩ := pending?_eq_some hc
      cases h.outside hi
  result hb hi _ hp := by
    rw [hb] at hi
    cases hi; cases hp

variable [Held ρ σ]

/-- What is live stays live. -/
theorem find?_step (hs : s.Step i t) (hkeep : s.tearsDown key i = false) {e : Entry ρ}
    (he : s.registry.find? key = some e) : t.registry.find? key = some e := by
  cases hs with
  | creation hi hm =>
    cases hm with
    | fetch => exact (congrArg (find? · key) (Shared.registry_fetchLock _)).trans he
    | compare => exact (congrArg (find? · key) (Shared.registry_dropLock _ _)).trans he
    | find | mistake => exact find?_note.trans he
    | insert => exact find?_add.trans (by rw [he, Option.some_or])
    | _ => exact he
  | teardown hi hm =>
    cases hm with
    | detach =>
      refine (Target.find?_takeOut _ _).trans ?_
      rw [covers_eq_false hi hkeep, if_neg Bool.false_ne_true, he]
    | _ => exact he

/-- A key has what it had and what is started for it. -/
theorem has_step (h : Safe s) (hs : s.Step i t) (hkeep : s.tearsDown key i = false) :
    t.Has key r ↔ s.Has key r ∨ s.startedBy? key i = some r := by
  cases hs with
  | @creation c _ _ _ hi hm =>
    rw [Shared.Has, Shared.Has, exists_set hi, exists_iff_or hi, Shared.startedBy?, hi]
    cases hm with
    | @start m a _ hb =>
      have hbefore : (Caller.creation c (.missed m)).pending? key = none := rfl
      have hafter : (Caller.creation c (.started m a)).pending? key =
        if c.key = key then some (c.kind.wrap a) else none := rfl
      simp only [hb, hbefore, hafter, reduceCtorEq, false_or]
      exact or_left_comm.trans or_comm
    | fail hb => simp [Caller.pending?, hb]
    | insert =>
      -- what was about to be registered is registered
      by_cases hkey : c.key = key
      · subst hkey
        have habsent := h.absent hi rfl
        simp [Caller.pending?, habsent, find?_add_self habsent]
      · simp [Caller.pending?, hkey, find?_add_of_ne (Ne.symm hkey)]
    | _ => simp [Caller.pending?]
  | teardown hi hm =>
    rw [Shared.Has, Shared.Has, exists_set hi, exists_iff_or hi, Shared.startedBy?, hi]
    cases hm with
    | detach => simp [Caller.pending?, Target.find?_takeOut, covers_eq_false hi hkeep]
    | _ => simp [Caller.pending?]

/-- A turn that starts a resource is taken. -/
theorem startedBy?_of_step?_eq_none (h : s.step? i = none) : s.startedBy? key i = none := by
  unfold Shared.startedBy?
  split
  · rename_i c m hi
    rw [Shared.step?, hi] at h
    rcases hb : bringUp c.kind c.key c.make s.world with ⟨e | a, world⟩ <;>
      simp [Shared.stepCreation, hb] at h
  · rfl

/-- A resource is started for a key that has none. -/
theorem not_has_of_startedBy? (h : Safe s) (hr : s.startedBy? key i = some r) (r' : ρ) :
    ¬ s.Has key r' := by
  unfold Shared.startedBy? at hr
  split at hr
  · rename_i c m hi
    split at hr
    · split at hr
      · rename_i hkey
        rintro (⟨e, he, -⟩ | ⟨j, d, hj, hd⟩)
        · rw [← hkey, h.absent hi rfl] at he; cases he
        · obtain ⟨d, n, a, rfl, hkey'⟩ := pending?_eq_some hd
          obtain rfl := h.eq_of_isMaking hi hj (hkey.trans hkey'.symm) rfl rfl
          rw [hi] at hj; cases hj
      · cases hr
    · cases hr
  · cases hr

/-! ### Stretches -/

namespace Shares
variable {b : Shared ρ σ α} {made : List ρ}

theorem step (h : Shares key b made s) (hsafe : Safe s) (hs : s.Step i t)
    (hkeep : s.tearsDown key i = false) :
    Shares key b (made ++ (s.startedBy? key i).toList) t where
  length_le := by
    cases hr : s.startedBy? key i with
    | none => rw [Option.toList_none, List.append_nil]; exact h.length_le
    | some r =>
      have hnil : made = [] := List.eq_nil_iff_forall_not_mem.2 fun r' hr' =>
        not_has_of_startedBy? hsafe hr r' ((h.mem_iff r').1 hr')
      rw [hnil]; exact Nat.le_refl 1
  mem_iff r := by
    rw [List.mem_append, h.mem_iff, Option.mem_toList, has_step hsafe hs hkeep]
  result {j c p a} hb hj hkey hp := by
    subst hkey
    have hold {q} (hj : s.callers[j]? = some (.creation c q)) (hq : q.result? = some (.ok a)) :
        ∃ e, t.registry.find? c.key = some e ∧ c.kind.wrap a = e.resource := by
      obtain ⟨e, he, hw⟩ := h.result hb hj rfl hq
      exact ⟨e, find?_step hs hkeep he, hw⟩
    cases hs with
    | creation hi hm =>
      rcases getElem?_set_cases hj with ⟨rfl, heq⟩ | ⟨-, hj'⟩
      · cases heq
        cases hm with
        | find hf ha => cases hp; exact ⟨_, find?_note.trans hf, c.kind.wrap_of_unwrap? ha⟩
        | insert => cases hp; exact ⟨_, find?_add_self (hsafe.absent hi rfl), rfl⟩
        | unlock | guard | compare | unguard | release | leave => exact hold hi hp
        | _ => cases hp
      · exact hold hj' hp
    | teardown hi hm =>
      rcases getElem?_set_cases hj with ⟨-, heq⟩ | ⟨-, hj'⟩
      · cases heq
      · exact hold hj' hp

theorem run (h : Shares key b made s) (hsafe : Safe s) (turns : List Nat)
    (hkeep : s.Undisturbed key turns) : Shares key b (made ++ s.startedIn key turns) (s.run turns) := by
  induction turns generalizing s made with
  | nil => rw [Shared.startedIn, List.append_nil]; exact h
  | cons i turns ih =>
    rw [Shared.startedIn, ← List.append_assoc, Shared.run_cons]
    obtain ⟨hi, hrest⟩ := hkeep
    cases ht : s.step? i with
    | none =>
      rw [ht] at hrest
      rw [startedBy?_of_step?_eq_none ht, Option.toList_none, List.append_nil]
      exact ih h hsafe hrest
    | some t =>
      rw [ht] at hrest
      have hs := Shared.step_of_step? ht
      exact ih (h.step hsafe hs hi) (hsafe.step hs) hrest

end Shares

/-! ### Where a stretch begins -/

/-- A teardown that covers a key leaves nothing under it, and it is inside alone. -/
theorem Safe.quiet_of_tearsDown (h : Safe s) (ht : s.tearsDown key i) :
    ((s.step? i).getD s).Quiet key := by
  obtain ⟨target, hi, hcovers⟩ := exists_of_tearsDown ht
  have hstep : (s.step? i).getD s =
      { s with
        registry := (target.takeOut s.registry).2
        callers := s.callers.set i (.teardown target (.detached (target.takeOut s.registry).1)) } := by
    rw [Shared.step?, hi]; rfl
  rw [hstep]
  refine ⟨(Target.find?_takeOut _ _).trans (if_pos hcovers), fun {j c p} hj => ?_⟩
  rcases getElem?_set_cases hj with ⟨-, heq⟩ | ⟨hne, hj'⟩
  · cases heq
  · exact Bool.eq_false_iff.2 fun hin => hne (h.alone hi hj' ⟨rfl, hin⟩).symm

theorem Shared.Begins.quiet {before : List Nat} (hb : s.Begins key before) (h : s.IsFresh) :
    (s.run before).Quiet key := by
  cases hb with
  | atOnce hnone => exact h.quiet hnone
  | tornDown ht =>
    rw [Shared.run_append]
    exact ((Safe.of_isFresh h).run _).quiet_of_tearsDown ht

/-- For callers that take their steps in any order: creations with equal keys are never both between the
lock and the unlock; what is inserted replaces nothing, and not while a teardown is inside; and in a
stretch between two teardowns at most one resource is started for a key, which every creation that
succeeds gets. -/
theorem exclusion_and_one_start {s₀ : Shared ρ σ α} (h : s₀.IsFresh) :
    (∀ turns,
      let s := s₀.run turns
      (∀ (i j : Nat) (c d : Creation ρ σ α) p q, s.callers[i]? = some (.creation c p) →
        s.callers[j]? = some (.creation d q) → c.key = d.key → p.holds?.isSome → q.holds?.isSome →
        i = j) ∧
      ∀ i t, s.step? i = some t → t.registry.live.Sublist s.registry.live ∨
        ∃ e, t.registry.live = s.registry.live ++ [e] ∧ s.registry.find? e.key = none ∧
          s.isTornDown = false) ∧
    ∀ key before, s₀.Begins key before →
      let b := s₀.run before
      (∀ (i : Nat) (c : Creation ρ σ α) p, b.callers[i]? = some (.creation c p) →
        p = .waiting ∨ ∃ o, p = .done o) ∧
      ∀ turns, b.Undisturbed key turns →
        let t := b.run turns
        (b.startedIn key turns).length ≤ 1 ∧
        ∀ (i : Nat) (c : Creation ρ σ α), b.callers[i]? = some (.creation c .waiting) → c.key = key →
          ∃ p, t.callers[i]? = some (.creation c p) ∧ ∀ a, p.result? = some (.ok a) →
            ∃ e, t.registry.find? key = some e ∧ c.kind.wrap a = e.resource ∧
              b.startedIn key turns = [e.resource] := by
  have hsafe (turns : List Nat) : Safe (s₀.run turns) := (Safe.of_isFresh h).run turns
  refine ⟨fun turns => ⟨?_, ?_⟩, fun key before hb => ⟨?_, fun turns hkeep => ?_⟩⟩
  · exact fun i j c d p q hi hj => (hsafe turns).eq_of_holds hi hj
  · exact fun i t ht => (hsafe turns).live_step (Shared.step_of_step? ht)
  · exact fun i c p hi => Creation.Phase.eq_of_isInside_eq_false ((hb.quiet h).outside hi)
  · have hshares := (Shares.of_quiet (hb.quiet h)).run (hsafe before) turns hkeep
    rw [List.nil_append] at hshares
    refine ⟨hshares.length_le, fun i c hwait hkey => ?_⟩
    obtain ⟨p, hp⟩ := Shared.exists_phase_run hwait turns
    refine ⟨p, hp, fun a ha => ?_⟩
    obtain ⟨e, he, hw⟩ := hshares.result hwait hp hkey ha
    exact ⟨e, he, hw, hshares.eq_singleton he⟩

end

section
open Rehearsal

/-- Two creations come in after a teardown. The second waits for the lock of the first and gets the
resource that the first has started. -/
theorem one_start_of_two_creations :
    let key : Key := ⟨"o", "n", .root, ∅⟩
    let call : Creation Player (Stage Daemon) fun _ : Unit => StandIn :=
      ⟨(), Player.standIns "A", "p", key, makeStandIn {}⟩
    let s₀ : Shared Player (Stage Daemon) fun _ : Unit => StandIn :=
      { registry := empty, world := { runtime := {} },
        callers := [.teardown .everything .waiting, .creation call .waiting, .creation call .waiting] }
    let b := s₀.run [0, 0]
    let turns := [0, 0] ++ (List.replicate 17 [1, 2]).flatten
    s₀.IsFresh ∧ s₀.Begins key [0, 0] ∧ b.Undisturbed key turns ∧
      (b.run turns).outcomes.map (fun o => o.2.toOption.map (·.serial)) = [some 1, some 1] ∧
      ∃ a : StandIn, a.serial = 1 ∧ b.startedIn key turns = [.standIn "A" a] := by
  intro key call s₀ b turns
  have hfresh : s₀.IsFresh := by simp [Shared.IsFresh, s₀]
  have hbegins : s₀.Begins key ([0] ++ [0]) := .tornDown rfl
  have hkeep : b.Undisturbed key turns := by decide
  have houtcomes : (b.run turns).outcomes.map (fun o => o.2.toOption.map (·.serial)) =
      [some 1, some 1] := by decide
  have hsecond : (((b.run turns).callers[2]?.bind Caller.outcome?).bind fun o =>
      o.2.toOption.map (·.serial)) = some 1 := by decide
  have h := ((exclusion_and_one_start hfresh).2 key [0, 0] hbegins).2 turns hkeep
  obtain ⟨p, hp, hshared⟩ := h.2 2 call rfl rfl
  rw [hp] at hsecond
  refine ⟨hfresh, hbegins, hkeep, houtcomes, ?_⟩
  cases p with
  | done o =>
    cases o with
    | ok a =>
      obtain ⟨e, -, hw, hstarted⟩ := hshared a rfl
      rw [← hw] at hstarted
      exact ⟨a, Option.some.inj hsecond, hstarted⟩
    | error => cases hsecond
  | _ => cases hsecond

end

end Testbed.Registry
