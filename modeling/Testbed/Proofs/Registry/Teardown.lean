import Testbed.Proofs.Registry.Accounts
import Testbed.Proofs.Registry.Searches

/-!
# What a teardown closes and what it leaves

What lives in the scope or below goes and is closed once, whatever the closes come to. All else stays:
every listing and every search gives what it gave before, in the same order, without what went
(`closeScope_frame`). Closing everything is closing the root scope (`closeAll_eq_closeScope_root`): the one
drops the answer lists, the other takes the live keys out of them, which comes to the same as long as no
dead key is listed (`detach_root_eq_detachAll_iff`).
-/

namespace Testbed.Registry

variable {ρ σ α : Type} {reg : Registry ρ} {p : String}

/-! ### What is left to see -/

theorem list_takeOut [Described ρ] (reg : Registry ρ) (target : Target) (scope : Scope) :
    (target.takeOut reg).2.list scope = (reg.list scope).filter fun x => !target.covers x.key := by
  rw [list, list, Target.live_takeOut, List.filter_map, List.filter_filter, List.filter_filter]
  simp only [Function.comp_def, Bool.and_comm]

theorem found_takeOut (hc : reg.Consistent) (target : Target) (kind : Kind ρ σ α) (scope : Scope)
    (p : String) : found kind scope p (target.takeOut reg).2 =
      (found kind scope p reg).filter fun e => !target.covers e.key := by
  rw [found, found, answerers_takeOut hc, List.filter_filter, List.filter_filter]
  simp only [Bool.and_comm]

theorem found_subset_live (hc : reg.Consistent) (kind : Kind ρ σ α) (scope : Scope) (p : String) :
    found kind scope p reg ⊆ reg.live := fun _ he => ((mem_found hc).1 he).1

/-! ### What is closed -/

theorem countP_eq_ite {β : Type} {test : β → Bool} {l : List β} (h : l.countP test ≤ 1) :
    l.countP test = if ∃ x ∈ l, test x then 1 else 0 := by
  split
  · rename_i hx
    obtain ⟨x, hx, ht⟩ := hx
    have hpos : 0 < l.countP test := List.countP_pos_iff.2 ⟨x, hx, ht⟩
    omega
  · rename_i hx
    exact List.countP_eq_zero.2 fun x hm ht => hx ⟨x, hm, ht⟩

section
variable {s : Registry (Numbered ρ) × Watched σ}

/-- No two live entries hold one resource. -/
theorem Accounted.numbers_nodup (h : Accounted s) : (s.1.live.map (·.resource.number)).Nodup := by
  rw [List.nodup_iff_count_le_one]
  intro n
  have hkept := h.kept n
  have hcount : (s.1.live.map (·.resource.number)).count n = s.1.holders n := by
    rw [List.count, List.countP_map, holders]
    exact List.countP_congr fun e _ => by simp
  rw [hcount]
  split at hkept <;> omega

/-- A teardown closes once each resource that it takes out and no other. -/
theorem Accounted.closes_perform [Held ρ σ] (h : Accounted s) (target : Target) (n : Nat) :
    (target.perform s).2.closes n = s.2.closes n +
      if ∃ e ∈ s.1.live, e.resource.number = n ∧ target.covers e.key then 1 else 0 := by
  obtain ⟨-, l, hl, -, hn⟩ := closeEach_watched (target.takeOut s.1).1 s.2
  have hgone := holders_takeOut s.1 target n
  have hkept := h.kept n
  have hle : (target.takeOut s.1).1.countP (fun e => e.resource.number = n) ≤ 1 := by
    split at hkept <;> omega
  rw [Target.perform, Watched.closes, hl, List.countP_append, hn, countP_eq_ite hle, Target.takeOut_fst]
  refine congrArg (s.2.closes n + ·) (if_congr ?_ rfl rfl)
  constructor
  · rintro ⟨e, he, hnum⟩
    obtain ⟨hm, hcov⟩ := List.mem_filter.1 he
    exact ⟨e, hm, by simpa using hnum, hcov⟩
  · rintro ⟨e, hm, hnum, hcov⟩
    exact ⟨e, List.mem_filter.2 ⟨hm, hcov⟩, by simpa using hnum⟩

end

/-! ### Closing a scope -/

/-- After any calls on an empty registry: closing a scope says whether anything lived in it or below,
takes out exactly that, and leaves every listing and every search as it was without it. In the numbered
run each resource taken out is closed once and no other is, whether or not a close fails. -/
theorem closeScope_frame [Described ρ] [Held ρ σ] (calls : List (Call ρ σ)) (world : σ) (scope : Scope) :
    let s := performAll calls (empty, world)
    let r := s.1.closeScope scope s.2
    let keep := fun e : Entry ρ => !scope.includes e.key.scope
    (r.1 = true ↔ ∃ e ∈ s.1.live, scope.includes e.key.scope) ∧
    r.2.1.live = s.1.live.filter keep ∧
    (∀ t, r.2.1.list t = (s.1.list t).filter fun x => !scope.includes x.key.scope) ∧
    (∀ {τ α : Type} (kind : Kind ρ τ α) t p,
      found kind t p s.1 ⊆ s.1.live ∧
      findByProperty kind t p s.1 = (found kind t p s.1).filterMap (fun e => kind.unwrap? e.resource) ∧
      findByProperty kind t p r.2.1 =
        ((found kind t p s.1).filter keep).filterMap fun e => kind.unwrap? e.resource) ∧
    let n := numberedRun calls world
    let m := n.1.closeScope scope n.2
    erase n = s ∧ erase m.2 = r.2 ∧ (n.1.live.map (·.resource.number)).Nodup ∧
      ∀ i, m.2.2.closes i = n.2.closes i +
        if ∃ e ∈ n.1.live, e.resource.number = i ∧ scope.includes e.key.scope then 1 else 0 := by
  intro s r keep
  have hc : s.1.Consistent := consistent_empty.performAll calls
  have hreg : r.2.1 = ((Target.within scope).takeOut s.1).2 := rfl
  refine ⟨?_, ?_, fun t => ?_, fun kind t p => ⟨found_subset_live hc kind t p, ?_, ?_⟩, ?_⟩
  · show (!((Target.within scope).takeOut s.1).1.isEmpty) = true ↔ _
    rw [Target.takeOut_fst]
    simp [Target.covers]
  · rw [hreg, Target.live_takeOut]; rfl
  · rw [hreg, list_takeOut]; rfl
  · exact findByProperty_eq_found kind t p s.1
  · rw [hreg, findByProperty_eq_found, found_takeOut hc]; rfl
  · intro n m
    have ha : Accounted n := accounted_numberedRun calls world
    have hn : erase n = s := erase_numberedRun calls world
    refine ⟨hn, ?_, ha.numbers_nodup, fun i => ha.closes_perform (.within scope) i⟩
    have hm : erase m.2 = (Call.closeScope scope).perform (erase n) := erase_perform (.closeScope scope) n
    rw [hm, hn]; rfl

/-! ### Closing everything -/

theorem forget_eq_empty_iff {gone : Key → Bool} :
    forget reg.answered gone = ∅ ↔ ∀ p, ∀ k ∈ reg.listed p, gone k = true := by
  constructor
  · intro h p k hk
    cases hp : reg.answered.get? p with
    | none => rw [listed, hp] at hk; cases hk
    | some keys =>
      rw [listed, hp] at hk
      have hget := get?_forget (p := p) reg.answered gone
      rw [h, hp, Option.map_some] at hget
      by_contra hgone
      have hkept : k ∈ keys.filter fun k => !gone k := List.mem_filter.2 ⟨hk, by simpa using hgone⟩
      rw [Option.filter_some, if_pos (by simpa using List.ne_nil_of_mem hkept)] at hget
      cases hget
  · intro h
    refine Dict.ext_get? fun p => ?_
    rw [get?_forget, Dict.get?_empty]
    cases hp : reg.answered.get? p with
    | none => rfl
    | some keys =>
      have hnil : (keys.filter fun k => !gone k) = [] := List.filter_eq_nil_iff.2 fun k hk => by
        simp [h p k (Consistent.mem_listed_of_get? hp hk)]
      simp [hnil, Option.filter_some]

/-- The two ways to take everything out agree exactly if no dead key is listed and, where nothing lives, no
list is kept at all. -/
theorem detach_root_eq_detachAll_iff : reg.detach .root = reg.detachAll ↔
    (∀ p, ∀ k ∈ reg.listed p, (reg.find? k).isSome) ∧ (reg.live = [] → reg.answered = ∅) := by
  have hall : (reg.live.filter fun e => Scope.root.includes e.key.scope) = reg.live :=
    List.filter_eq_self.2 fun _ _ => rfl
  by_cases hl : reg.live = []
  · rw [detach_of_isEmpty (hall.trans hl), detachAll]
    constructor
    · intro h
      have hanswered : reg.answered = ∅ := congrArg (fun r => r.2.answered) h
      refine ⟨fun p k hk => ?_, fun _ => hanswered⟩
      rw [listed, hanswered] at hk
      cases hk
    · rintro ⟨-, h⟩
      obtain ⟨live, answered, nextId⟩ := reg
      cases hl
      cases h rfl
      rfl
  · have hnone : (reg.live.filter fun e => !Scope.root.includes e.key.scope) = [] :=
      List.filter_eq_nil_iff.2 fun _ _ => Bool.false_ne_true
    rw [detach_of_ne_nil (by rwa [hall]), hall, hnone, detachAll, Prod.mk.injEq, Registry.mk.injEq]
    simp only [true_and, and_true, forget_eq_empty_iff, List.any_eq_true, decide_eq_true_eq, find?_isSome,
      hl, false_implies]

/-- Where nothing lives no answer list is kept. -/
theorem Consistent.answered_eq_empty (h : reg.Consistent) (hl : reg.live = []) : reg.answered = ∅ := by
  refine Dict.ext_get? fun p => ?_
  rw [Dict.get?_empty]
  cases hp : reg.answered.get? p with
  | none => rfl
  | some keys =>
    cases keys with
    | nil => exact absurd hp (h.ne_nil p)
    | cons k keys =>
      obtain ⟨e, he⟩ := h.mem_listed_find? (Consistent.mem_listed_of_get? hp (List.mem_cons_self ..))
      have hmem := (find?_eq_some he).1
      rw [hl] at hmem
      cases hmem

theorem Consistent.detach_root (h : reg.Consistent) : reg.detach .root = reg.detachAll :=
  detach_root_eq_detachAll_iff.2 ⟨h.listed_live, h.answered_eq_empty⟩

theorem Consistent.closeAll_eq [Held ρ σ] (h : reg.Consistent) (world : σ) :
    reg.closeAll world = reg.closeScope .root world := by
  rw [closeAll, closeScope, h.detach_root]

/-- After any calls on an empty registry: closing everything and closing the root scope take out the same
resources in the same order, answer alike and lead to the same world and to the same registry, which holds and
lists nothing. In the numbered run each live resource is closed once by either, and no other is. -/
theorem closeAll_eq_closeScope_root [Held ρ σ] (calls : List (Call ρ σ)) (world : σ) :
    let s := performAll calls (empty, world)
    let r := s.1.closeScope .root s.2
    s.1.detachAll = s.1.detach .root ∧ s.1.closeAll s.2 = r ∧ (r.1 = true ↔ s.1.live ≠ []) ∧
    r.2.1 = { live := [], answered := ∅, nextId := s.1.nextId } ∧
    let n := numberedRun calls world
    erase n = s ∧ n.1.closeAll n.2 = n.1.closeScope .root n.2 ∧
      ∀ i, (n.1.closeAll n.2).2.2.closes i = n.2.closes i +
        if ∃ e ∈ n.1.live, e.resource.number = i then 1 else 0 := by
  intro s r
  have hc : s.1.Consistent := consistent_empty.performAll calls
  have hr : s.1.closeAll s.2 = r := hc.closeAll_eq s.2
  refine ⟨hc.detach_root.symm, hr, ?_, ?_, ?_⟩
  · rw [← hr]
    show (!s.1.live.isEmpty) = true ↔ _
    simp
  · rw [← hr]; rfl
  · intro n
    refine ⟨erase_numberedRun calls world, (consistent_numberedRun calls world).closeAll_eq n.2, fun i => ?_⟩
    show (Target.everything.perform n).2.closes i = _
    rw [(accounted_numberedRun calls world).closes_perform .everything i]
    simp only [Target.covers, and_true]
    rfl

end Testbed.Registry
