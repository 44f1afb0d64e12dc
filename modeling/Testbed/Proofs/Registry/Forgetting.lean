import Mathlib.Data.List.Induction
import Testbed.Proofs.Registry.Exclusion
import Testbed.Rehearsal.Daemon
import Testbed.Rehearsal.Stage

/-!
# Which key locks are forgotten

A lock is taken out of the table by a comparison that finds no reference but the table's and the caller's own. Of the
other callers that can refer to it then, those that have yet to compare will take it out, or leave it, in their turn; but
one that has compared and given back the guard and not yet its reference (`Lingers`) will not look again. So a lock that
nobody needs is in the table exactly if the last comparison over its key was made while another creation lingered
(`LeavesBehind`).
-/

namespace Testbed.Registry

variable {ρ σ ι : Type} {α : ι → Type}

/-- Whether it has fetched the lock of `key` and not compared yet. -/
def Caller.NeedsKey (key : Key) : Caller ρ σ α → Prop
  | creation c p => c.key = key ∧ p.needs?.isSome
  | teardown _ _ => False

namespace Shared

/-- A creation is to compare the references to lock `m` of `key`. -/
def Compares (s : Shared ρ σ α) (i : Nat) (key : Key) (m : Nat) : Prop :=
  ∃ (c : Creation ρ σ α) (o : _), s.callers[i]? = some (.creation c (.guarding m o)) ∧ c.key = key

/-- A creation has compared and given back the guard, and still refers to lock `m`. -/
def Lingers (s : Shared ρ σ α) (m : Nat) : Prop :=
  ∃ (i : Nat) (c : Creation ρ σ α) (o : _), s.callers[i]? = some (.creation c (.unguarded m o))

/-- Some creation has fetched the lock of `key` and not compared yet. -/
def Needs (s : Shared ρ σ α) (key : Key) : Prop :=
  ∃ (i : Nat) (c : Caller ρ σ α), s.callers[i]? = some c ∧ c.NeedsKey key

/-- The last comparison over `key` was made while a creation lingered over the lock. -/
inductive LeavesBehind [Held ρ σ] (s : Shared ρ σ α) (key : Key) : List Nat → Prop
  | amid {turns : List Nat} {i m : Nat} (h : (s.run turns).Compares i key m) (hlingers : (s.run turns).Lingers m) :
    LeavesBehind s key (turns ++ [i])
  | since {turns : List Nat} {i : Nat} (h : LeavesBehind s key turns) (hno : ∀ m, ¬ (s.run turns).Compares i key m) :
    LeavesBehind s key (turns ++ [i])

end Shared

namespace Creation.Phase
variable {β : Type} {p : Phase β} {m : Nat}

theorem isInside_of_needs? (h : p.needs? = some m) : p.isInside := by
  cases p <;> first | rfl | cases h

theorem refersTo?_cases (h : p.refersTo? = some m) :
    p.needs? = some m ∨ p.holdsGuard ∨ ∃ o, p = unguarded m o := by
  cases p with
  | compared => exact .inr (.inl rfl)
  | unguarded _ o => cases h; exact .inr (.inr ⟨o, rfl⟩)
  | _ => exact .inl h

end Creation.Phase

/-! ### The order of the table -/

/-- The guard is held by one creation, and the table has one lock for a key and one key for a lock. -/
structure Orderly (s : Shared ρ σ α) : Prop where
  guarded : Apart (fun c d => c.holdsGuard ∧ d.holdsGuard) s.callers
  keys : (s.keyLocks.map Prod.fst).Nodup
  locks : (s.keyLocks.map Prod.snd).Nodup
  issued : ∀ m ∈ s.keyLocks.map Prod.snd, m < s.nextLock

section
variable {s t : Shared ρ σ α} {i : Nat} {key k : Key} {m : Nat}

namespace Shared

theorem fetchLock_of_lookup (h : s.keyLocks.lookup key = some m) : s.fetchLock key = (m, s) := by
  rw [fetchLock, h]

theorem fetchLock_of_lookup_eq_none (h : s.keyLocks.lookup key = none) : s.fetchLock key =
    (s.nextLock, { s with keyLocks := s.keyLocks ++ [(key, s.nextLock)], nextLock := s.nextLock + 1 }) := by
  rw [fetchLock, h]

theorem isSome_lookup_iff_mem : (s.keyLocks.lookup key).isSome ↔ ∃ m, (key, m) ∈ s.keyLocks := by
  rw [← not_iff_not, Option.not_isSome_iff_eq_none, List.lookup_eq_none_iff]
  simp only [bne_iff_ne, Prod.forall]
  exact ⟨fun h ⟨m, hm⟩ => h key m hm rfl, fun h k m hm hk => h ⟨m, hk ▸ hm⟩⟩

theorem lookup_fetchLock_of_ne (h : k ≠ key) : (s.fetchLock key).2.keyLocks.lookup k = s.keyLocks.lookup k := by
  have hbeq : (k == key) = false := beq_false_of_ne h
  cases hlook : s.keyLocks.lookup key with
  | some m => rw [fetchLock_of_lookup hlook]
  | none => simp [fetchLock_of_lookup_eq_none hlook, List.lookup_append, List.lookup_cons, hbeq]

theorem lookup_dropLock_of_ne (h : k ≠ key) : (s.dropLock key m).keyLocks.lookup k = s.keyLocks.lookup k := by
  unfold dropLock
  split
  · exact lookup_filter_of_ne h
  · rfl

theorem isSome_lookup_dropLock (h : (s.keyLocks.lookup key).isSome) :
    ((s.dropLock key m).keyLocks.lookup key).isSome ↔ s.references m ≠ 2 := by
  unfold dropLock
  split
  · rename_i htwo
    refine iff_of_false ?_ fun hne => hne htwo
    rw [Option.not_isSome_iff_eq_none, List.lookup_eq_none_iff]
    intro p hp
    have hne : p.1 ≠ key := by simpa using (List.mem_filter.1 hp).2
    exact bne_iff_ne.2 (Ne.symm hne)
  · rename_i hne
    exact iff_of_true h hne

theorem Compares.unique {n : Nat} (h : s.Compares i key m) (h' : s.Compares i key n) : m = n := by
  obtain ⟨c, o, hi, -⟩ := h
  obtain ⟨c', o', hi', -⟩ := h'
  rw [hi] at hi'; cases hi'
  rfl

theorem not_needs_of_not_isInside
    (hout : ∀ (c : Creation ρ σ α) (p : _), .creation c p ∈ s.callers → p.isInside = false) (key : Key) :
    ¬ s.Needs key := by
  rintro ⟨i, c, hi, hc⟩
  cases c with
  | teardown => cases hc
  | creation c p =>
    obtain ⟨m, hm⟩ := Option.isSome_iff_exists.1 hc.2
    have hin := Creation.Phase.isInside_of_needs? hm
    rw [hout c p (List.mem_of_getElem? hi)] at hin
    cases hin

/-- The needs for a lock are what they were if those of the one caller that is set are. -/
theorem needs_set {a b : Caller ρ σ α} (hi : s.callers[i]? = some a) (hb : b.NeedsKey key ↔ a.NeedsKey key) :
    (∃ (j : Nat) (c : Caller ρ σ α), (s.callers.set i b)[j]? = some c ∧ c.NeedsKey key) ↔ s.Needs key :=
  (exists_set hi).trans ((or_congr_left hb).trans (exists_iff_or hi).symm)

end Shared

namespace Orderly

theorem of_isFresh (h : s.IsFresh) (hnone : s.keyLocks = []) : Orderly s where
  guarded := by
    rintro i j c d hi hj ⟨hc, -⟩
    have := h _ (List.mem_of_getElem? hi)
    cases c with
    | creation => subst this; cases hc
    | teardown => cases hc
  keys := by simp [hnone]
  locks := by simp [hnone]
  issued := by simp [hnone]

/-- Where the callers and the table are what they were. -/
theorem congr (h : Orderly s) (hguarded : Apart (fun c d => c.holdsGuard ∧ d.holdsGuard) t.callers)
    (hlocks : t.keyLocks = s.keyLocks) (hnext : t.nextLock = s.nextLock) : Orderly t := by
  refine ⟨hguarded, ?_, ?_, ?_⟩
  · rw [hlocks]; exact h.keys
  · rw [hlocks]; exact h.locks
  · rw [hlocks, hnext]; exact h.issued

theorem fetchLock (h : Orderly s) (key : Key) : Orderly (s.fetchLock key).2 := by
  cases hlook : s.keyLocks.lookup key with
  | some m => rw [Shared.fetchLock_of_lookup hlook]; exact h
  | none =>
    rw [Shared.fetchLock_of_lookup_eq_none hlook]
    have hkey : key ∉ s.keyLocks.map Prod.fst := by
      have habsent := List.lookup_eq_none_iff.1 hlook
      simp only [bne_iff_ne] at habsent
      simpa using fun m hm => habsent (key, m) hm rfl
    have hlock : s.nextLock ∉ s.keyLocks.map Prod.snd := fun hm => Nat.lt_irrefl _ (h.issued _ hm)
    refine ⟨h.guarded, ?_, ?_, ?_⟩
    · rw [List.map_append]
      exact List.concat_eq_append ▸ h.keys.concat hkey
    · rw [List.map_append]
      exact List.concat_eq_append ▸ h.locks.concat hlock
    · intro m hm
      rw [List.map_append, List.mem_append] at hm
      rcases hm with hm | hm
      · exact Nat.lt_succ_of_lt (h.issued m hm)
      · exact Nat.lt_succ_of_le (Nat.le_of_eq (List.mem_singleton.1 hm))

theorem dropLock (h : Orderly s) (key : Key) (m : Nat) : Orderly (s.dropLock key m) := by
  unfold Shared.dropLock
  split
  · have hsub : (s.keyLocks.filter (·.1 ≠ key)).Sublist s.keyLocks := List.filter_sublist
    refine ⟨h.guarded, ?_, ?_, ?_⟩
    · exact h.keys.sublist (hsub.map Prod.fst)
    · exact h.locks.sublist (hsub.map Prod.snd)
    · exact fun n hn => h.issued n ((hsub.map Prod.snd).subset hn)
  · exact h

/-- One lock is not that of two keys. -/
theorem eq_of_lookup (h : Orderly s) (hk : s.keyLocks.lookup k = some m)
    (hkey : s.keyLocks.lookup key = some m) : k = key :=
  congrArg Prod.fst (List.inj_on_of_nodup_map h.locks (Shared.mem_of_lookup hk) (Shared.mem_of_lookup hkey) rfl)

end Orderly

end

/-! ### References -/

theorem two_le_countP_iff {γ : Type} {l : List γ} {P : γ → Bool} {i : Nat} {a : γ} (hi : l[i]? = some a) (ha : P a) :
    2 ≤ l.countP P ↔ ∃ (j : Nat) (b : γ), j ≠ i ∧ l[j]? = some b ∧ P b := by
  refine ⟨fun h => ?_, fun ⟨j, b, hji, hj, hb⟩ => two_le_countP hji hj hi hb ha⟩
  induction l generalizing i with
  | nil => cases hi
  | cons x l ih =>
    have rest (h : 0 < l.countP P) : ∃ (j : Nat) (b : γ), l[j]? = some b ∧ P b := by
      obtain ⟨b, hb, hP⟩ := List.countP_pos_iff.1 h
      obtain ⟨j, hj⟩ := List.mem_iff_getElem?.1 hb
      exact ⟨j, b, hj, hP⟩
    cases i with
    | zero =>
      cases hi
      rw [List.countP_cons_of_pos ha] at h
      obtain ⟨j, b, hj, hb⟩ := rest (by omega)
      exact ⟨j + 1, b, Nat.succ_ne_zero j, hj, hb⟩
    | succ i =>
      by_cases hx : P x
      · exact ⟨0, x, (Nat.succ_ne_zero i).symm, rfl, hx⟩
      · rw [List.countP_cons_of_neg hx] at h
        obtain ⟨j, b, hji, hj, hb⟩ := ih hi h
        exact ⟨j + 1, b, fun he => hji (Nat.succ.inj he), hj, hb⟩

section
variable {s t : Shared ρ σ α} {i : Nat} {key k : Key} {m : Nat}

/-- There are more references than the table's and the caller's own exactly if another caller refers to the lock. -/
theorem Orderly.references_ne_two_iff (h : Orderly s) {c : Caller ρ σ α} (ht : s.keyLocks.lookup key = some m)
    (hi : s.callers[i]? = some c) (hc : c.refersTo? = some m) :
    s.references m ≠ 2 ↔ ∃ (j : Nat) (d : Caller ρ σ α), j ≠ i ∧ s.callers[j]? = some d ∧ d.refersTo? = some m := by
  have htable : s.keyLocks.countP (·.2 = m) = 1 := by
    have hmem : m ∈ s.keyLocks.map Prod.snd := List.mem_map_of_mem (Shared.mem_of_lookup ht)
    have hcount := List.count_eq_one_of_mem h.locks hmem
    rw [List.count, List.countP_map] at hcount
    rw [← hcount]
    exact List.countP_congr fun p _ => by simp
  have hown : 0 < s.callers.countP fun c => c.refersTo? = some m :=
    List.countP_pos_iff.2 ⟨c, List.mem_of_getElem? hi, by simpa using hc⟩
  have hothers := two_le_countP_iff (P := fun c => c.refersTo? = some m) hi (by simpa using hc)
  simp only [decide_eq_true_eq] at hothers
  rw [← hothers, Shared.references, htable]
  omega

/-- The others that refer to the lock of a creation that compares. -/
theorem Orderly.exists_refersTo_iff (hord : Orderly s) (hsafe : Safe s) {c : Creation ρ σ α} {o}
    (hi : s.callers[i]? = some (.creation c (.guarding m o))) :
    (∃ (j : Nat) (d : Caller ρ σ α), j ≠ i ∧ s.callers[j]? = some d ∧ d.refersTo? = some m) ↔
      (∃ (j : Nat) (d : Caller ρ σ α), j ≠ i ∧ s.callers[j]? = some d ∧ d.NeedsKey c.key) ∨ s.Lingers m := by
  have hlock : s.keyLocks.lookup c.key = some m := hsafe.tabled hi rfl
  constructor
  · rintro ⟨j, d, hji, hj, hd⟩
    cases d with
    | teardown => cases hd
    | creation d p =>
      rcases Creation.Phase.refersTo?_cases hd with hp | hp | ⟨o', rfl⟩
      · have hkey : d.key = c.key := hord.eq_of_lookup (hsafe.tabled hj hp) hlock
        exact .inl ⟨j, _, hji, hj, hkey, Option.isSome_iff_exists.2 ⟨m, hp⟩⟩
      · -- no two creations are at the table at once
        exact absurd (hord.guarded hj hi ⟨hp, rfl⟩) hji
      · exact .inr ⟨j, d, o', hj⟩
  · rintro (⟨j, d, hji, hj, hd⟩ | ⟨j, d, o', hj⟩)
    · cases d with
      | teardown => cases hd
      | creation d p =>
        obtain ⟨hkey, hp⟩ := hd
        obtain ⟨n, hn⟩ := Option.isSome_iff_exists.1 hp
        have hsame := hsafe.tabled hj hn
        rw [hkey, hlock] at hsame
        cases hsame
        exact ⟨j, _, hji, hj, Creation.Phase.refersTo?_of_needs? hn⟩
    · refine ⟨j, _, fun hji => ?_, hj, rfl⟩
      subst hji
      rw [hi] at hj; cases hj

end

/-! ### Steps -/

section
variable [Held ρ σ] {s t : Shared ρ σ α} {i : Nat} {key : Key} {m : Nat}

theorem Creation.Moves.holdsGuard_or {c : Creation ρ σ α} {p p'} (h : c.Moves s p p' t) (hp : p'.holdsGuard) :
    p.holdsGuard ∨ s.isGuarded = false := by
  cases h with
  | guard h => exact .inr h
  | compare => exact .inl rfl
  | _ => cases hp

namespace Orderly

theorem guarded_step (h : Orderly s) (hs : s.Step i t) : Apart (fun c d => c.holdsGuard ∧ d.holdsGuard) t.callers := by
  cases hs with
  | creation hi hm =>
    refine h.guarded.set fun j d hji hj => ?_
    have hother (hp : Creation.Phase.holdsGuard _) : ¬ d.holdsGuard := fun hd => by
      rcases hm.holdsGuard_or hp with hold | hfree
      · exact hji (h.guarded hj hi ⟨hd, hold⟩)
      · exact Bool.noConfusion (hfree.symm.trans (List.any_eq_true.2 ⟨d, List.mem_of_getElem? hj, hd⟩))
    exact ⟨fun hP => hother hP.1 hP.2, fun hP => hother hP.2 hP.1⟩
  | teardown hi hm => exact h.guarded.set fun j d _ _ => ⟨fun hP => (nomatch hP.1), fun hP => (nomatch hP.2)⟩

theorem step (h : Orderly s) (hs : s.Step i t) : Orderly t := by
  have hguarded := h.guarded_step hs
  cases hs with
  | creation hi hm =>
    cases hm with
    | fetch => exact (h.fetchLock _).congr hguarded rfl rfl
    | compare => exact (h.dropLock _ _).congr hguarded rfl rfl
    | _ => exact h.congr hguarded rfl rfl
  | teardown hi hm => cases hm <;> exact h.congr hguarded rfl rfl

theorem run (h : Orderly s) (turns : List Nat) : Orderly (s.run turns) :=
  Shared.run_induction (fun hs h => h.step hs) turns h

end Orderly

namespace Shared

/-- A step that compares no references over `key` changes nothing of it, or fetches its lock. -/
theorem Step.kept_of_not_compares (hs : s.Step i t) (hno : ∀ m, ¬ s.Compares i key m) :
    t.keyLocks.lookup key = s.keyLocks.lookup key ∧ (t.Needs key ↔ s.Needs key) ∨
      (t.keyLocks.lookup key).isSome ∧ t.Needs key := by
  cases hs with
  | @creation c _ _ _ hi hm =>
    cases hm with
    | fetch =>
      by_cases hkey : c.key = key
      · subst hkey
        refine .inr ⟨Option.isSome_iff_exists.2 ⟨_, lookup_fetchLock_self⟩, ?_⟩
        exact (exists_set hi).2 (.inl ⟨rfl, rfl⟩)
      · refine .inl ⟨lookup_fetchLock_of_ne (Ne.symm hkey), needs_set hi ?_⟩
        exact iff_of_false (fun hP => hkey hP.1) fun hP => hkey hP.1
    | compare =>
      have hkey : c.key ≠ key := fun hkey => hno _ ⟨c, _, hi, hkey⟩
      refine .inl ⟨lookup_dropLock_of_ne (Ne.symm hkey), needs_set hi ?_⟩
      exact iff_of_false (fun hP => hkey hP.1) fun hP => hkey hP.1
    | _ => exact .inl ⟨rfl, needs_set hi .rfl⟩
  | teardown hi hm => cases hm <;> exact .inl ⟨rfl, needs_set hi .rfl⟩

/-- A creation that compares leaves the lock if another needs it, or lingers over it. -/
theorem Step.kept_of_compares (hs : s.Step i t) (h : s.Compares i key m) (hsafe : Safe s) (hord : Orderly s) :
    (t.keyLocks.lookup key).isSome ↔ t.Needs key ∨ s.Lingers m := by
  obtain ⟨c, o, hi, rfl⟩ := h
  have hlock : s.keyLocks.lookup c.key = some m := hsafe.tabled hi rfl
  cases hs with
  | teardown hi' => rw [hi] at hi'; cases hi'
  | creation hi' hm =>
    rw [hi] at hi'; cases hi'
    cases hm
    have hneeds : (∃ (j : Nat) (d : Caller ρ σ α),
        (s.callers.set i (.creation c (.compared m o)))[j]? = some d ∧ d.NeedsKey c.key) ↔
        ∃ (j : Nat) (d : Caller ρ σ α), j ≠ i ∧ s.callers[j]? = some d ∧ d.NeedsKey c.key :=
      (exists_set hi).trans (or_iff_right fun hP => (nomatch hP.2))
    refine (isSome_lookup_dropLock (Option.isSome_iff_exists.2 ⟨m, hlock⟩)).trans ?_
    refine (hord.references_ne_two_iff hlock hi rfl).trans ?_
    refine Iff.trans ?_ (or_congr_left hneeds.symm)
    exact hord.exists_refersTo_iff hsafe hi

/-- A comparison never has to wait. -/
theorem Compares.exists_step? (h : s.Compares i key m) : ∃ t, s.step? i = some t := by
  obtain ⟨c, o, hi, -⟩ := h
  exact ⟨_, by rw [step?, hi]; rfl⟩

/-! ### Runs -/

theorem run_snoc (turns : List Nat) (i : Nat) : s.run (turns ++ [i]) = ((s.run turns).step? i).getD (s.run turns) := by
  rw [run_append]; rfl

namespace LeavesBehind
variable {turns : List Nat}

theorem snoc_cases {all : List Nat} (h : s.LeavesBehind key all) (hall : all = turns ++ [i]) :
    (∃ m, (s.run turns).Compares i key m ∧ (s.run turns).Lingers m) ∨
      s.LeavesBehind key turns ∧ ∀ m, ¬ (s.run turns).Compares i key m := by
  cases h with
  | amid h hlingers => obtain ⟨rfl, rfl⟩ := List.append_singleton_inj.1 hall; exact .inl ⟨_, h, hlingers⟩
  | since h hno => obtain ⟨rfl, rfl⟩ := List.append_singleton_inj.1 hall; exact .inr ⟨h, hno⟩

theorem snoc_iff_of_compares (h : (s.run turns).Compares i key m) :
    s.LeavesBehind key (turns ++ [i]) ↔ (s.run turns).Lingers m := by
  refine ⟨fun hleft => ?_, .amid h⟩
  rcases hleft.snoc_cases rfl with ⟨n, hn, hlingers⟩ | ⟨-, hno⟩
  · rwa [h.unique hn]
  · exact absurd h (hno m)

theorem snoc_iff_of_not_compares (hno : ∀ m, ¬ (s.run turns).Compares i key m) :
    s.LeavesBehind key (turns ++ [i]) ↔ s.LeavesBehind key turns := by
  refine ⟨fun hleft => ?_, fun h => .since h hno⟩
  rcases hleft.snoc_cases rfl with ⟨m, hm, -⟩ | ⟨h, -⟩
  · exact absurd hm (hno m)
  · exact h

end LeavesBehind

/-- A lock is in the table exactly if a creation needs it or it was left behind. -/
theorem IsFresh.isSome_lookup_run_iff (h : s.IsFresh) (hnone : s.keyLocks = []) (key : Key) (turns : List Nat) :
    ((s.run turns).keyLocks.lookup key).isSome ↔ (s.run turns).Needs key ∨ s.LeavesBehind key turns := by
  -- on the last turn, which tells whether a lock is left behind
  induction turns using List.reverseRecOn with
  | nil =>
    have hneeds : ¬ s.Needs key := by
      rintro ⟨i, c, hi, hc⟩
      have := h _ (List.mem_of_getElem? hi)
      cases c with
      | creation => subst this; cases hc.2
      | teardown => cases hc
    have hleft : ¬ s.LeavesBehind key [] := fun hleft => by
      generalize hnil : ([] : List Nat) = turns at hleft
      cases hleft <;> exact List.append_ne_nil_of_right_ne_nil _ (List.cons_ne_nil _ _) hnil.symm
    rw [run_nil, hnone]
    exact iff_of_false (fun hP => (nomatch hP)) fun hP => hP.elim hneeds hleft
  | append_singleton turns i ih =>
    have hsafe : Safe (s.run turns) := (Safe.of_isFresh h).run turns
    have hord : Orderly (s.run turns) := (Orderly.of_isFresh h hnone).run turns
    rw [run_snoc]
    by_cases hcompares : ∃ m, (s.run turns).Compares i key m
    · obtain ⟨m, hm⟩ := hcompares
      obtain ⟨t, ht⟩ := hm.exists_step?
      rw [ht, LeavesBehind.snoc_iff_of_compares hm]
      exact (step_of_step? ht).kept_of_compares hm hsafe hord
    · have hno : ∀ m, ¬ (s.run turns).Compares i key m := fun m hm => hcompares ⟨m, hm⟩
      rw [LeavesBehind.snoc_iff_of_not_compares hno]
      cases ht : (s.run turns).step? i with
      | none => exact ih
      | some t =>
        rcases (step_of_step? ht).kept_of_not_compares hno with ⟨hlookup, hneeds⟩ | ⟨hsome, hneeds⟩
        · rw [Option.getD_some, hlookup, hneeds]
          exact ih
        · exact iff_of_true hsome (.inl hneeds)

end Shared

end

/-! ### Locks left behind -/

section
variable [Held ρ σ] {s : Shared ρ σ α}

/-- The table has one lock for every key that a creation needs one for, and for those left behind. When no creation is
inside it is empty unless a lock was left behind. -/
theorem lock_is_kept_iff (hfresh : s.IsFresh) (hnone : s.keyLocks = []) (turns : List Nat) :
    ((s.run turns).keyLocks.map Prod.fst).Nodup ∧
      (∀ key, (∃ m, (key, m) ∈ (s.run turns).keyLocks) ↔ (s.run turns).Needs key ∨ s.LeavesBehind key turns) ∧
      ((∀ (c : Creation ρ σ α) (p : _), .creation c p ∈ (s.run turns).callers → p.isInside = false) →
        ((s.run turns).keyLocks = [] ↔ ∀ key, ¬ s.LeavesBehind key turns)) := by
  have hkept (key : Key) : (∃ m, (key, m) ∈ (s.run turns).keyLocks) ↔
      (s.run turns).Needs key ∨ s.LeavesBehind key turns :=
    Shared.isSome_lookup_iff_mem.symm.trans (hfresh.isSome_lookup_run_iff hnone key turns)
  refine ⟨((Orderly.of_isFresh hfresh hnone).run turns).keys, hkept, fun hout => ?_⟩
  constructor
  · intro hempty key hleft
    obtain ⟨m, hm⟩ := (hkept key).2 (.inr hleft)
    rw [hempty] at hm; cases hm
  · intro hno
    refine List.eq_nil_iff_forall_not_mem.2 fun ⟨key, m⟩ hm => ?_
    exact ((hkept key).1 ⟨m, hm⟩).elim (Shared.not_needs_of_not_isInside hout key) (hno key)

end

section
open Rehearsal

/-- The second of three creations under one key compares while the first lingers. When the two are done their lock is
left behind, and the third takes it out. -/
theorem lock_is_kept_for_third :
    let key : Key := ⟨"o", "n", .root, ∅⟩
    let call : Creation Player (Stage Daemon) fun _ : Unit => StandIn :=
      ⟨(), Player.standIns "A", "p", key, makeStandIn {}⟩
    let s : Shared Player (Stage Daemon) fun _ : Unit => StandIn :=
      { registry := empty, world := { runtime := {} }, callers := List.replicate 3 (.creation call .waiting) }
    let turns := [0, 0, 1, 1] ++ List.replicate 8 0 ++ List.replicate 8 1 ++ [0, 0]
    s.IsFresh ∧ s.keyLocks = [] ∧ s.LeavesBehind key turns ∧
      ∀ k, ¬ s.LeavesBehind k (turns ++ List.replicate 10 2) := by
  intro key call s turns
  have hfresh : s.IsFresh := by simp [Shared.IsFresh, s]
  refine ⟨hfresh, rfl, ?_, ?_⟩
  · have hkept : (key, 0) ∈ (s.run turns).keyLocks := by decide
    have hout : ∀ c ∈ (s.run turns).callers, c.isInside = false := by decide
    have hneeds : ¬ (s.run turns).Needs key := Shared.not_needs_of_not_isInside (fun _ _ hc => hout _ hc) key
    exact (((lock_is_kept_iff hfresh rfl turns).2.1 key).1 ⟨0, hkept⟩).resolve_left hneeds
  · have hout : ∀ c ∈ (s.run (turns ++ List.replicate 10 2)).callers, c.isInside = false := by decide
    exact ((lock_is_kept_iff hfresh rfl _).2.2 fun _ _ hc => hout _ hc).1 (by decide)

/-- Both of two creations under one key are done, and their lock is still in the table. -/
theorem lock_is_left_behind :
    let key : Key := ⟨"o", "n", .root, ∅⟩
    let call : Creation Player (Stage Daemon) fun _ : Unit => StandIn :=
      ⟨(), Player.standIns "A", "p", key, makeStandIn {}⟩
    let s : Shared Player (Stage Daemon) fun _ : Unit => StandIn :=
      { registry := empty, world := { runtime := {} }, callers := List.replicate 2 (.creation call .waiting) }
    let t := s.run ([0, 0, 1, 1] ++ List.replicate 8 0 ++ List.replicate 8 1 ++ [0, 0])
    s.IsFresh ∧ s.keyLocks = [] ∧ (∀ c ∈ t.callers, c.outcome?.isSome) ∧ t.keyLocks = [(key, 0)] := by
  intro key call s t
  refine ⟨by simp [Shared.IsFresh, s], rfl, ?_, ?_⟩
  · decide
  · decide

end

end Testbed.Registry
