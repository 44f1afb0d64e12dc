import Testbed.Proofs.Registry.Interleaving

/-!
# What the locks of a shared registry keep apart

`Safe`: a teardown is inside alone, a key lock is held by one creation, the table keeps the lock of
every creation that has fetched it and not compared yet, and a creation that makes a resource finds
none under its key. The third carries the second over to keys: creations with equal keys look up one
lock. A lock is forgotten only at two references, which the table and the creation that compares make
up, so no other creation has fetched it.
-/

namespace Testbed.Registry

variable {ρ σ ι : Type} {α : ι → Type}

namespace Creation.Phase
variable {β : Type} {p : Phase β} {m : Nat}

/-- The key lock that the table has to keep, up to `guarding`. -/
def needs? : Phase β → Option Nat
  | fetched m | locked m | missed m | started m _ | settled m _ | unlocked m _ | guarding m _ => some m
  | _ => none

/-- Whether it makes the resource under its key. -/
def isMaking : Phase β → Bool
  | missed _ | started _ _ => true
  | _ => false

theorem needs?_of_holds? (h : p.holds? = some m) : p.needs? = some m := by
  cases p <;> first | exact h | cases h

theorem refersTo?_of_needs? (h : p.needs? = some m) : p.refersTo? = some m := by
  cases p <;> first | exact h | cases h

theorem exists_holds?_of_isMaking (h : p.isMaking) : ∃ m, p.holds? = some m := by
  cases p <;> first | exact ⟨_, rfl⟩ | cases h

end Creation.Phase

theorem Caller.isInside_of_isTearingDown {c : Caller ρ σ α} (h : c.isTearingDown) : c.isInside := by
  cases c with
  | creation => cases h
  | teardown => exact h

/-! ### The table of key locks -/

theorem two_le_countP {γ : Type} {l : List γ} {P : γ → Bool} {i j : Nat} {a b : γ} (hij : i ≠ j)
    (hi : l[i]? = some a) (hj : l[j]? = some b) (ha : P a) (hb : P b) : 2 ≤ l.countP P := by
  induction l generalizing i j with
  | nil => cases hi
  | cons x l ih =>
    have rest {k : Nat} {c : γ} (hx : P x) (hk : l[k]? = some c) (hc : P c) : 2 ≤ (x :: l).countP P := by
      have := List.countP_pos_iff.2 ⟨c, List.mem_of_getElem? hk, hc⟩
      rw [List.countP_cons_of_pos hx]
      exact Nat.succ_le_succ this
    cases i with
    | zero =>
      cases j with
      | zero => exact absurd rfl hij
      | succ j => cases hi; exact rest ha hj hb
    | succ i =>
      cases j with
      | zero => cases hj; exact rest hb hi ha
      | succ j =>
        rw [List.countP_cons]
        exact Nat.le_add_right_of_le (ih (fun h => hij (congrArg _ h)) hi hj)

theorem lookup_filter_of_ne {l : List (Key × Nat)} {k key : Key} (h : k ≠ key) :
    (l.filter (·.1 ≠ key)).lookup k = l.lookup k := by
  induction l with
  | nil => rfl
  | cons x l ih =>
    by_cases hx : x.1 = key
    · have hk : (k == x.1) = false := by rw [hx]; exact beq_false_of_ne h
      rw [List.filter_cons_of_neg (by simpa using hx), ih, List.lookup_cons, hk]
    · rw [List.filter_cons_of_pos (by simpa using hx), List.lookup_cons, List.lookup_cons, ih]

namespace Shared
variable {s : Shared ρ σ α} {k key : Key} {m n : Nat}

theorem lookup_fetchLock_self : (s.fetchLock key).2.keyLocks.lookup key = some (s.fetchLock key).1 := by
  unfold fetchLock
  split
  · rename_i h; exact h
  · rename_i h; simp [List.lookup_append, h]

theorem lookup_fetchLock (h : s.keyLocks.lookup k = some n) :
    (s.fetchLock key).2.keyLocks.lookup k = some n := by
  unfold fetchLock
  split
  · exact h
  · simp [List.lookup_append, h]

/-- Dropping a lock takes away no other, and nothing at all unless two refer to it. -/
theorem lookup_dropLock (h : s.keyLocks.lookup k = some n) (hk : k = key → s.references m ≠ 2) :
    (s.dropLock key m).keyLocks.lookup k = some n := by
  unfold dropLock
  split
  · rename_i hm
    exact (lookup_filter_of_ne fun he => hk he hm).trans h
  · exact h

theorem mem_of_lookup (h : s.keyLocks.lookup key = some m) : (key, m) ∈ s.keyLocks := by
  obtain ⟨l₁, l₂, hl, -⟩ := List.lookup_eq_some_iff.1 h
  simp [hl]

/-- The table and two callers are three. -/
theorem three_le_references {i j : Nat} {c d : Caller ρ σ α} (ht : s.keyLocks.lookup key = some m)
    (hij : i ≠ j) (hi : s.callers[i]? = some c) (hj : s.callers[j]? = some d)
    (hc : c.refersTo? = some m) (hd : d.refersTo? = some m) : 3 ≤ s.references m := by
  have htable : 0 < s.keyLocks.countP (·.2 = m) := List.countP_pos_iff.2 ⟨(key, m), mem_of_lookup ht, by simp⟩
  have hcallers : 2 ≤ s.callers.countP fun c => c.refersTo? = some m :=
    two_le_countP hij hi hj (by simpa using hc) (by simpa using hd)
  exact Nat.add_le_add htable hcallers

end Shared

/-! ### What a step asks for -/

section
variable [Held ρ σ] {s t : Shared ρ σ α}

theorem Creation.Moves.isInside_or {c : Creation ρ σ α} {p p'} (h : c.Moves s p p' t) :
    p.isInside ∨ s.isTornDown = false := by
  cases h with
  | enter h => exact .inr h
  | _ => exact .inl rfl

theorem Creation.Moves.holds?_or {c : Creation ρ σ α} {p p'} {m : Nat} (h : c.Moves s p p' t)
    (hp : p'.holds? = some m) : p.holds? = some m ∨ s.isLocked m = false := by
  cases h with
  | lock h => cases hp; exact .inr h
  | _ => first | exact .inl hp | cases hp

theorem Target.Moves.isInside_or {target : Target} {p p' : Teardown ρ} (h : target.Moves s p p' t) :
    p.isInside ∨ s.isBusy = false := by
  cases h with
  | enter h => exact .inr h
  | _ => exact .inl rfl

end

/-! ### What is kept apart -/

/-- The locks do what they are for. -/
structure Safe (s : Shared ρ σ α) : Prop where
  /-- A teardown is inside alone. -/
  alone : Apart (fun c d => c.isTearingDown ∧ d.isInside) s.callers
  tabled : ∀ {i m : Nat} {c : Creation ρ σ α} {p}, s.callers[i]? = some (.creation c p) →
    p.needs? = some m → s.keyLocks.lookup c.key = some m
  /-- A key lock is held by one creation. -/
  held : Apart (fun c d => ∃ m, c.holds? = some m ∧ d.holds? = some m) s.callers
  absent : ∀ {i : Nat} {c : Creation ρ σ α} {p}, s.callers[i]? = some (.creation c p) → p.isMaking →
    s.registry.find? c.key = none

/-- Nobody has begun. -/
def Shared.IsFresh (s : Shared ρ σ α) : Prop :=
  ∀ c ∈ s.callers, match c with
    | .creation _ p => p = .waiting
    | .teardown _ p => p = .waiting

namespace Safe
variable {s t : Shared ρ σ α} {i j : Nat}

theorem of_isFresh (h : s.IsFresh) : Safe s := by
  have hcreation {i : Nat} {c : Creation ρ σ α} {p} (hi : s.callers[i]? = some (.creation c p)) :
      p = .waiting := h _ (List.mem_of_getElem? hi)
  have hinside {i : Nat} {c : Caller ρ σ α} (hi : s.callers[i]? = some c) : c.isInside = false := by
    have := h _ (List.mem_of_getElem? hi)
    cases c <;> subst this <;> rfl
  have hholds {i : Nat} {c : Caller ρ σ α} (hi : s.callers[i]? = some c) : c.holds? = none := by
    have := h _ (List.mem_of_getElem? hi)
    cases c with
    | creation => subst this; rfl
    | teardown => rfl
  refine ⟨?_, ?_, ?_, ?_⟩
  · intro i j c d _ hj hP
    rw [hinside hj] at hP; cases hP.2
  · intro i c p m hi hp
    rw [hcreation hi] at hp; cases hp
  · rintro i j c d hi _ ⟨m, hc, -⟩
    rw [hholds hi] at hc; cases hc
  · intro i c p hi hp
    rw [hcreation hi] at hp; cases hp

/-- Creations with equal keys are not both between the lock and the unlock. -/
theorem eq_of_holds (h : Safe s) {c d : Creation ρ σ α} {p q} (hi : s.callers[i]? = some (.creation c p))
    (hj : s.callers[j]? = some (.creation d q)) (hkey : c.key = d.key) (hp : p.holds?.isSome)
    (hq : q.holds?.isSome) : i = j := by
  obtain ⟨m, hm⟩ := Option.isSome_iff_exists.1 hp
  obtain ⟨n, hn⟩ := Option.isSome_iff_exists.1 hq
  have hlookup := h.tabled hi (Creation.Phase.needs?_of_holds? hm)
  rw [hkey, h.tabled hj (Creation.Phase.needs?_of_holds? hn)] at hlookup
  cases hlookup
  exact h.held hi hj ⟨_, hm, hn⟩

theorem eq_of_isMaking (h : Safe s) {c d : Creation ρ σ α} {p q}
    (hi : s.callers[i]? = some (.creation c p)) (hj : s.callers[j]? = some (.creation d q))
    (hkey : c.key = d.key) (hp : p.isMaking) (hq : q.isMaking) : i = j :=
  h.eq_of_holds hi hj hkey (Option.isSome_iff_exists.2 (Creation.Phase.exists_holds?_of_isMaking hp))
    (Option.isSome_iff_exists.2 (Creation.Phase.exists_holds?_of_isMaking hq))

/-! ### Steps -/

section
variable [Held ρ σ]

theorem alone_step (h : Safe s) (hs : s.Step i t) :
    Apart (fun c d => c.isTearingDown ∧ d.isInside) t.callers := by
  cases hs with
  | creation hi hm =>
    refine h.alone.set fun j d hji hj => ⟨fun hP => (nomatch hP.1), fun hP => ?_⟩
    rcases hm.isInside_or with hin | hfree
    · exact hji (h.alone hj hi ⟨hP.1, hin⟩)
    · exact Bool.noConfusion (hfree.symm.trans (List.any_eq_true.2 ⟨d, List.mem_of_getElem? hj, hP.1⟩))
  | teardown hi hm =>
    refine h.alone.set fun j d hji hj => ?_
    rcases hm.isInside_or with hin | hfree
    · exact ⟨fun hP => hji (h.alone hi hj ⟨hin, hP.2⟩).symm, fun hP => hji (h.alone hj hi ⟨hP.1, hin⟩)⟩
    · have hout : ¬ d.isInside := fun hd =>
        Bool.noConfusion (hfree.symm.trans (List.any_eq_true.2 ⟨d, List.mem_of_getElem? hj, hd⟩))
      exact ⟨fun hP => hout hP.2, fun hP => hout (Caller.isInside_of_isTearingDown hP.1)⟩

theorem held_step (h : Safe s) (hs : s.Step i t) :
    Apart (fun c d => ∃ m, c.holds? = some m ∧ d.holds? = some m) t.callers := by
  cases hs with
  | creation hi hm =>
    refine h.held.set fun j d hji hj => ?_
    have hother {m} (hp : Creation.Phase.holds? _ = some m) : d.holds? ≠ some m := fun hd => by
      rcases hm.holds?_or hp with hold | hfree
      · exact hji (h.held hj hi ⟨m, hd, hold⟩)
      · refine Bool.noConfusion (hfree.symm.trans (List.any_eq_true.2 ⟨d, List.mem_of_getElem? hj, ?_⟩))
        simpa using hd
    exact ⟨fun ⟨_, hp, hd⟩ => hother hp hd, fun ⟨_, hd, hp⟩ => hother hp hd⟩
  | teardown hi hm =>
    exact h.held.set fun j d _ _ => ⟨fun ⟨_, hm, _⟩ => (nomatch hm), fun ⟨_, _, hm⟩ => (nomatch hm)⟩

theorem tabled_step (h : Safe s) (hs : s.Step i t) {m : Nat} {c : Creation ρ σ α} {p}
    (hj : t.callers[j]? = some (.creation c p)) (hp : p.needs? = some m) :
    t.keyLocks.lookup c.key = some m := by
  cases hs with
  | creation hi hm =>
    rcases getElem?_set_cases hj with ⟨rfl, heq⟩ | ⟨hne, hj'⟩
    · cases heq
      cases hm with
      | fetch => cases hp; exact Shared.lookup_fetchLock_self
      | lock | find | mistake | miss | fail | start | insert | unlock | guard => exact h.tabled hi hp
      | _ => cases hp
    · have hold := h.tabled hj' hp
      cases hm with
      | fetch => exact Shared.lookup_fetchLock hold
      | compare =>
        refine Shared.lookup_dropLock hold fun hkey => ?_
        -- both have fetched the lock of one key
        have hown := h.tabled hi rfl
        rw [← hkey, hold] at hown
        cases hown
        have := Shared.three_le_references hold hne hj' hi (Creation.Phase.refersTo?_of_needs? hp) rfl
        exact (Nat.ne_of_lt this).symm
      | _ => exact hold
  | teardown hi hm =>
    rcases getElem?_set_cases hj with ⟨-, heq⟩ | ⟨-, hj'⟩
    · cases heq
    · cases hm <;> exact h.tabled hj' hp

theorem absent_step (h : Safe s) (hs : s.Step i t) {c : Creation ρ σ α} {p}
    (hj : t.callers[j]? = some (.creation c p)) (hp : p.isMaking) : t.registry.find? c.key = none := by
  cases hs with
  | creation hi hm =>
    rcases getElem?_set_cases hj with ⟨rfl, heq⟩ | ⟨hne, hj'⟩
    · cases heq
      cases hm with
      | miss hf => exact hf
      | start => exact h.absent hi rfl
      | _ => cases hp
    · have hold := h.absent hj' hp
      cases hm with
      | fetch => exact (congrArg (find? · c.key) (Shared.registry_fetchLock _)).trans hold
      | compare => exact (congrArg (find? · c.key) (Shared.registry_dropLock _ _)).trans hold
      | find | mistake => exact find?_note.trans hold
      | insert =>
        have hother : c.key ≠ _ := fun hkey => hne (h.eq_of_isMaking hj' hi hkey hp rfl)
        exact (find?_add_of_ne hother).trans hold
      | _ => exact hold
  | teardown hi hm =>
    rcases getElem?_set_cases hj with ⟨-, heq⟩ | ⟨-, hj'⟩
    · cases heq
    · have hold := h.absent hj' hp
      cases hm with
      | detach =>
        refine (Target.find?_takeOut _ _).trans ?_
        rw [hold, ite_self]
      | _ => exact hold

theorem step (h : Safe s) (hs : s.Step i t) : Safe t :=
  ⟨h.alone_step hs, h.tabled_step hs, h.held_step hs, h.absent_step hs⟩

theorem run (h : Safe s) (turns : List Nat) : Safe (s.run turns) :=
  Shared.run_induction (fun hs h => h.step hs) turns h

/-- What is inserted replaces nothing, and not while a teardown is inside. -/
theorem live_step (h : Safe s) (hs : s.Step i t) : t.registry.live.Sublist s.registry.live ∨
    ∃ e, t.registry.live = s.registry.live ++ [e] ∧ s.registry.find? e.key = none ∧
      s.isTornDown = false := by
  cases hs with
  | creation hi hm =>
    cases hm with
    | insert =>
      refine .inr ⟨_, live_add, h.absent hi rfl, Bool.eq_false_iff.2 fun ht => ?_⟩
      obtain ⟨d, hd, htorn⟩ := List.any_eq_true.1 ht
      obtain ⟨j, hj⟩ := List.mem_iff_getElem?.1 hd
      obtain rfl := h.alone hj hi ⟨htorn, rfl⟩
      rw [hi] at hj
      cases hj; cases htorn
    | fetch => rw [Shared.registry_fetchLock]; exact .inl (.refl _)
    | compare => rw [Shared.registry_dropLock]; exact .inl (.refl _)
    | find | mistake => rw [live_note]; exact .inl (.refl _)
    | _ => exact .inl (.refl _)
  | teardown hi hm =>
    cases hm with
    | detach => rw [Target.live_takeOut]; exact .inl List.filter_sublist
    | _ => exact .inl (.refl _)

end

end Safe

end Testbed.Registry
