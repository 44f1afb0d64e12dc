import Testbed.Server.Idle
import Mathlib.Data.List.Chain
import Mathlib.Order.Bounds.Basic

/-!
# When an idle server shuts itself down

A server is overdue while more than its timeout has passed since its last access, and it shuts itself down at the first
check that finds it overdue (`shutdownTime_eq_some_iff`). The check before found it in time, so it is left alone for
longer than the timeout and for no more than one period beyond it, and as long as no access lets the timeout pass it
stays up (`shuts_down_at_first_overdue_check`).
-/

namespace Testbed.Server.Idle

variable {l l' : List Nat} {accesses accesses' : Set Nat} {timeout : Option Nat} {a n t last T p steps checks : Nat}

/-! ### Accesses

They count by their times alone: neither their order nor how often a time is told makes a difference. -/

theorem foldl_max_le_iff : l.foldl max a ≤ n ↔ a ≤ n ∧ ∀ x ∈ l, x ≤ n := by
  induction l generalizing a with
  | nil => simp
  | cons x l ih => rw [List.foldl_cons, ih, Nat.max_le, List.forall_mem_cons, and_assoc]

theorem foldl_max_mem (l : List Nat) (a : Nat) : l.foldl max a ∈ a :: l := by
  induction l generalizing a with
  | nil => exact List.mem_singleton_self a
  | cons x l ih =>
    rw [List.foldl_cons]
    rcases List.mem_cons.1 (ih (max a x)) with h | h
    · rw [h]
      rcases le_total a x with hax | hxa
      · simp [max_eq_right hax]
      · simp [max_eq_left hxa]
    · exact List.mem_cons_of_mem _ (List.mem_cons_of_mem _ h)

theorem foldl_max_mono (h : ∀ t ∈ l, t ∈ l') : l.foldl max a ≤ l'.foldl max a := by
  obtain ⟨ha, hl'⟩ := foldl_max_le_iff.1 (Nat.le_refl (l'.foldl max a))
  exact foldl_max_le_iff.2 ⟨ha, fun t ht => hl' t (h t ht)⟩

theorem foldl_max_congr (h : ∀ t, t ∈ l ↔ t ∈ l') : l.foldl max a = l'.foldl max a :=
  Nat.le_antisymm (foldl_max_mono fun t => (h t).1) (foldl_max_mono fun t => (h t).2)

theorem lastBefore_congr (h : ∀ t, t ∈ l ↔ t ∈ l') (t : Nat) : lastBefore l t = lastBefore l' t :=
  foldl_max_congr fun x => by rw [List.mem_filter, List.mem_filter, h]

theorem firstExpired_congr (h : ∀ t, t ∈ l ↔ t ∈ l') (timeout period checks n : Nat) :
    firstExpired timeout period l checks n = firstExpired timeout period l' checks n := by
  induction checks generalizing n with
  | zero => rfl
  | succ checks ih => rw [firstExpired, firstExpired, lastBefore_congr h, ih]

theorem shutdownTime_congr (h : ∀ t, t ∈ l ↔ t ∈ l') (timeout : Option Nat) :
    shutdownTime timeout l = shutdownTime timeout l' := by
  simp only [shutdownTime, foldl_max_congr h, firstExpired_congr h]

/-- The last access before `t`; the start of the server counts as one. -/
def IsLastAccess (accesses : Set Nat) (t last : Nat) : Prop := IsGreatest {a | a = 0 ∨ a ∈ accesses ∧ a < t} last

theorem isLastAccess_lastBefore (l : List Nat) (t : Nat) : IsLastAccess {a | a ∈ l} t (lastBefore l t) := by
  constructor
  · rcases List.mem_cons.1 (foldl_max_mem (l.filter (· < t)) 0) with h | h
    · exact .inl h
    · have hmem := List.mem_filter.1 h
      exact .inr ⟨hmem.1, of_decide_eq_true hmem.2⟩
  · rintro a (rfl | ⟨ha, hlt⟩)
    · exact Nat.zero_le _
    · exact (foldl_max_le_iff.1 (Nat.le_refl (lastBefore l t))).2 a (by simpa using ⟨ha, hlt⟩)

theorem IsLastAccess.congr (h : ∀ a < t, a ∈ accesses ↔ a ∈ accesses') :
    IsLastAccess accesses t last ↔ IsLastAccess accesses' t last := by
  have hsame : {a | a = 0 ∨ a ∈ accesses ∧ a < t} = {a | a = 0 ∨ a ∈ accesses' ∧ a < t} :=
    Set.ext fun a => or_congr_right (and_congr_left (h a))
  rw [IsLastAccess, IsLastAccess, hsame]

theorem exists_list_of_accesses (accesses : Set Nat) (t : Nat) : ∃ l : List Nat, ∀ a < t, a ∈ l ↔ a ∈ accesses := by
  classical
  refine ⟨(List.range t).filter (· ∈ accesses), fun a ha => ?_⟩
  simp [ha]

theorem exists_isLastAccess (accesses : Set Nat) (t : Nat) : ∃ last, IsLastAccess accesses t last := by
  obtain ⟨l, hl⟩ := exists_list_of_accesses accesses t
  exact ⟨lastBefore l t, (IsLastAccess.congr hl).1 (isLastAccess_lastBefore l t)⟩

/-! ### Checks -/

/-- More than the timeout has passed at `t` since the last access. -/
def IsOverdue (T : Nat) (accesses : Set Nat) (t : Nat) : Prop := ∃ last, IsLastAccess accesses t last ∧ T < t - last

theorem isOverdue_iff : IsOverdue T {a | a ∈ l} t ↔ T < t - lastBefore l t := by
  constructor
  · rintro ⟨last, hlast, hover⟩
    rwa [(isLastAccess_lastBefore l t).unique hlast]
  · exact fun hover => ⟨_, isLastAccess_lastBefore l t, hover⟩

theorem IsOverdue.congr (h : ∀ a < t, a ∈ accesses ↔ a ∈ accesses') :
    IsOverdue T accesses t ↔ IsOverdue T accesses' t :=
  exists_congr fun _ => and_congr_left' (IsLastAccess.congr h)

theorem isOverdue_of_lt (h : ∀ a ∈ accesses, a ≤ n) (ht : n + T < t) : IsOverdue T accesses t := by
  obtain ⟨last, hlast⟩ := exists_isLastAccess accesses t
  refine ⟨last, hlast, ?_⟩
  have hle : last ≤ n := by
    rcases hlast.1 with rfl | ⟨hmem, -⟩
    · exact Nat.zero_le n
    · exact h last hmem
  omega

theorem isExpired_iff : isExpired t ⟨some T, lastBefore l t⟩ = true ↔ IsOverdue T {a | a ∈ l} t := by
  rw [isOverdue_iff]
  exact decide_eq_true_iff

/-- Of the checks made from number `n` on, the first that finds the server overdue counts. -/
theorem firstExpired_eq_some_iff : firstExpired T p l checks n = some t ↔
    ∃ k < checks, t = (n + k) * p ∧ IsOverdue T {a | a ∈ l} t ∧
      ∀ j < k, ¬IsOverdue T {a | a ∈ l} ((n + j) * p) := by
  induction checks generalizing n with
  | zero => exact iff_of_false nofun (by rintro ⟨k, hk, -⟩; cases hk)
  | succ checks ih =>
    rw [firstExpired]
    by_cases hover : IsOverdue T {a | a ∈ l} (n * p)
    · rw [if_pos (isExpired_iff.2 hover)]
      constructor
      · rintro ⟨⟩
        exact ⟨0, Nat.succ_pos _, rfl, hover, nofun⟩
      · rintro ⟨k, -, rfl, -, hfirst⟩
        cases k with
        | zero => rfl
        | succ k => exact absurd hover (hfirst 0 (Nat.succ_pos k))
    · rw [if_neg (mt isExpired_iff.1 hover), ih]
      -- the check after `j` others from `n + 1` on is the one after `j + 1` from `n` on
      have hnext (j : Nat) : n + 1 + j = n + (j + 1) := Nat.succ_add_eq_add_succ n j
      simp only [hnext]
      constructor
      · rintro ⟨k, hk, rfl, hlate, hfirst⟩
        refine ⟨k + 1, Nat.succ_lt_succ hk, rfl, hlate, fun j hj => ?_⟩
        cases j with
        | zero => exact hover
        | succ j => exact hfirst j (Nat.lt_of_succ_lt_succ hj)
      · rintro ⟨k, hk, rfl, hlate, hfirst⟩
        cases k with
        | zero => exact absurd hlate hover
        | succ k =>
          exact ⟨k, Nat.lt_of_succ_lt_succ hk, rfl, hlate, fun j hj => hfirst (j + 1) (Nat.succ_lt_succ hj)⟩

/-- The times of the checks that find the server overdue. -/
def overdueChecks (T steps : Nat) (accesses : Set Nat) : Set Nat :=
  {t | (∃ n, t = n * period T steps) ∧ IsOverdue T accesses t}

theorem period_pos (T : Nat) (hsteps : 0 < steps) : 0 < period T steps := by
  simp only [period]
  omega

theorem shutdownTime_eq_some_iff (hsteps : 0 < steps) : shutdownTime timeout l steps = some t ↔
    ∃ T ∈ timeout, IsLeast (overdueChecks T steps {a | a ∈ l}) t := by
  cases timeout with
  | none => exact iff_of_false nofun nofun
  | some T =>
    have hpos := period_pos T hsteps
    simp only [shutdownTime, Option.bind_some, firstExpired_eq_some_iff, Nat.zero_add, Option.mem_some_iff,
      exists_eq_left']
    constructor
    · rintro ⟨k, -, rfl, hover, hfirst⟩
      refine ⟨⟨⟨k, rfl⟩, hover⟩, ?_⟩
      rintro u ⟨⟨n, rfl⟩, hlate⟩
      exact Nat.mul_le_mul_right _ (Nat.le_of_not_lt fun hn => hfirst n hn hlate)
    · rintro ⟨⟨⟨k, rfl⟩, hover⟩, hleast⟩
      refine ⟨k, ?_, rfl, hover, fun j hj hlate => ?_⟩
      · -- by the last of the checks the timeout has passed since all accesses
        have hlast : l.foldl max 0 + T < ((l.foldl max 0 + T) / period T steps + 1) * period T steps :=
          (Nat.div_lt_iff_lt_mul hpos).1 (Nat.lt_succ_self _)
        have hlate : IsOverdue T {a | a ∈ l} _ := isOverdue_of_lt (foldl_max_le_iff.1 (Nat.le_refl _)).2 hlast
        have hle := Nat.le_of_mul_le_mul_right (hleast ⟨⟨_, rfl⟩, hlate⟩) hpos
        omega
      · have hle := Nat.le_of_mul_le_mul_right (hleast ⟨⟨j, rfl⟩, hlate⟩) hpos
        omega

/-! ### The shutdown -/

/-- With these accesses, of which there may be no end, the server is shut down at `t`: those before `t` decide it. -/
def ShutsDown (timeout : Option Nat) (steps : Nat) (accesses : Set Nat) (t : Nat) : Prop :=
  ∃ l : List Nat, (∀ a < t, a ∈ l ↔ a ∈ accesses) ∧ shutdownTime timeout l steps = some t

theorem isLeast_overdueChecks_congr (h : ∀ a < t, a ∈ accesses ↔ a ∈ accesses')
    (hleast : IsLeast (overdueChecks T steps accesses) t) : IsLeast (overdueChecks T steps accesses') t := by
  obtain ⟨⟨htick, hover⟩, hfirst⟩ := hleast
  refine ⟨⟨htick, (IsOverdue.congr h).1 hover⟩, ?_⟩
  rintro u ⟨hu, hlate⟩
  refine Nat.le_of_not_lt fun hlt => ?_
  have hbefore : ∀ a < u, a ∈ accesses ↔ a ∈ accesses' := fun a ha => h a (ha.trans hlt)
  exact Nat.not_le_of_lt hlt (hfirst ⟨hu, (IsOverdue.congr hbefore).2 hlate⟩)

theorem shutsDown_iff (hsteps : 0 < steps) :
    ShutsDown timeout steps accesses t ↔ ∃ T ∈ timeout, IsLeast (overdueChecks T steps accesses) t := by
  constructor
  · rintro ⟨l, hl, hshutdown⟩
    obtain ⟨T, hT, hleast⟩ := (shutdownTime_eq_some_iff hsteps).1 hshutdown
    exact ⟨T, hT, isLeast_overdueChecks_congr hl hleast⟩
  · rintro ⟨T, hT, hleast⟩
    obtain ⟨l, hl⟩ := exists_list_of_accesses accesses t
    refine ⟨l, hl, (shutdownTime_eq_some_iff hsteps).2 ⟨T, hT, ?_⟩⟩
    exact isLeast_overdueChecks_congr (fun a ha => (hl a ha).symm) hleast

/-- The check one period earlier has found the server in time. -/
theorem sub_le_of_isLeast (hsteps : 0 < steps) (hleast : IsLeast (overdueChecks T steps accesses) t)
    (hlast : IsLastAccess accesses t last) : t - last ≤ T + period T steps := by
  have hpos := period_pos T hsteps
  obtain ⟨⟨⟨n, rfl⟩, -⟩, hfirst⟩ := hleast
  cases n with
  | zero => omega
  | succ n =>
    have hstep : (n + 1) * period T steps = n * period T steps + period T steps := Nat.succ_mul _ _
    obtain ⟨before, hbefore⟩ := exists_isLastAccess accesses (n * period T steps)
    have hle : before ≤ last := hlast.2 (hbefore.1.imp_right fun h => ⟨h.1, by omega⟩)
    have hintime : n * period T steps - before ≤ T := by
      refine Nat.le_of_not_lt fun hlate => ?_
      have hcheck := hfirst ⟨⟨n, rfl⟩, before, hbefore, hlate⟩
      omega
    omega

/-- Accesses of which none lets the timeout pass since the one before it come too early for the shutdown. -/
theorem add_lt_of_isOverdue {times : List Nat} (hover : IsOverdue T accesses t) (htimes : ∀ a ∈ times, a ∈ accesses)
    (hgaps : (0 :: times).IsChain fun a b => b ≤ a + T) : ∀ a ∈ 0 :: times, a + T < t := by
  obtain ⟨last, hlast, hlate⟩ := hover
  have hstart : 0 + T < t := by omega
  generalize 0 = first at hgaps hstart
  induction times generalizing first with
  | nil => exact List.forall_mem_singleton.2 hstart
  | cons a times ih =>
    obtain ⟨ha, htimes⟩ := List.forall_mem_cons.1 htimes
    obtain ⟨hgap, hgaps⟩ := List.isChain_cons_cons.1 hgaps
    have hle : a ≤ last := hlast.2 (.inr ⟨ha, by omega⟩)
    exact List.forall_mem_cons.2 ⟨hstart, ih htimes a hgaps (by omega)⟩

theorem isLeast_overdueChecks_of_start (hsteps : 0 < steps) (hstart : accesses ⊆ {0}) :
    IsLeast (overdueChecks T steps accesses) ((T / period T steps + 1) * period T steps) := by
  have hpos := period_pos T hsteps
  constructor
  · have hlate : 0 + T < (T / period T steps + 1) * period T steps := by
      rw [Nat.zero_add]
      exact (Nat.div_lt_iff_lt_mul hpos).1 (Nat.lt_succ_self _)
    exact ⟨⟨_, rfl⟩, isOverdue_of_lt (fun a ha => (hstart ha).le) hlate⟩
  · rintro u ⟨⟨n, rfl⟩, last, -, hlate⟩
    exact Nat.mul_le_mul_right _ ((Nat.div_lt_iff_lt_mul hpos).2 (by omega))

/-- A server is shut down at the first check that finds it overdue, and without a timeout at none. It has then been idle
for longer than the timeout and at most one period more; up to then some access has let the timeout pass; and one that
nobody accesses is shut down by the first check after the timeout. -/
theorem shuts_down_at_first_overdue_check (timeout : Option Nat) (steps : Nat) (hsteps : 0 < steps)
    (accesses : Set Nat) (t : Nat) :
    (ShutsDown timeout steps accesses t ↔ ∃ T ∈ timeout, IsLeast (overdueChecks T steps accesses) t) ∧
    ∀ T ∈ timeout,
      (ShutsDown timeout steps accesses t →
        (∃ last, IsLastAccess accesses t last ∧ T < t - last ∧ t - last ≤ T + period T steps) ∧
        ∀ times : List Nat, (∀ a ∈ times, a ∈ accesses) → ((0 :: times).IsChain fun a b => b ≤ a + T) →
          ∀ a ∈ 0 :: times, a + T < t) ∧
      (accesses ⊆ {0} →
        (ShutsDown timeout steps accesses t ↔ t = (T / period T steps + 1) * period T steps)) := by
  have hiff : ShutsDown timeout steps accesses t ↔ ∃ T ∈ timeout, IsLeast (overdueChecks T steps accesses) t :=
    shutsDown_iff hsteps
  refine ⟨hiff, fun T hT => ⟨fun hdown => ?_, fun hstart => ?_⟩⟩
  · obtain ⟨T', hT', hleast⟩ := hiff.1 hdown
    obtain rfl : T = T' := Option.some.inj (hT.symm.trans hT')
    obtain ⟨last, hlast, hlate⟩ := hleast.1.2
    refine ⟨⟨last, hlast, hlate, sub_le_of_isLeast hsteps hleast hlast⟩, fun times htimes hgaps => ?_⟩
    exact add_lt_of_isOverdue hleast.1.2 htimes hgaps
  · have hfirst := isLeast_overdueChecks_of_start (T := T) hsteps hstart
    rw [hiff]
    constructor
    · rintro ⟨T', hT', hleast⟩
      obtain rfl : T = T' := Option.some.inj (hT.symm.trans hT')
      exact hleast.unique hfirst
    · rintro rfl
      exact ⟨T, hT, hfirst⟩

/-- On a clock of microseconds a timeout of 2.5 ms is checked every 10 ms: an access just before a check puts the
shutdown off to the next one. -/
theorem shuts_down_after_late_access :
    ShutsDown (some 2500) 1000 {9000} 20000 ∧
      ∃ last, IsLastAccess {9000} 20000 last ∧ 2500 < 20000 - last ∧ 20000 - last ≤ 2500 + period 2500 1000 := by
  have hdown : ShutsDown (some 2500) 1000 {9000} 20000 := ⟨[9000], by simp, by decide⟩
  have hresult := shuts_down_at_first_overdue_check (some 2500) 1000 (by decide) {9000} 20000
  exact ⟨hdown, ((hresult.2 2500 rfl).1 hdown).1⟩

end Testbed.Server.Idle
