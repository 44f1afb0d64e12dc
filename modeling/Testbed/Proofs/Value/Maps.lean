import Testbed.Proofs.Value.Order
import Mathlib

/-!
# The map of a list of pairs

`LastWins` says of a map what it holds of a list of pairs: the last pair of each key, by ascending key.
There is one such map (`LastWins.eq_ofList`), and what it is made of is part of what was written
(`LastWins.subperm`).
-/

namespace Testbed.Value

variable {written m n : List (Value × Value)} {p : Value × Value} {k v : Value}

/-- `p` is in the list and no pair behind it has its key. -/
def IsLast (p : Value × Value) (written : List (Value × Value)) : Prop :=
  ∃ before after, written = before ++ p :: after ∧ ∀ q ∈ after, q.1 ≠ p.1

/-- `m` holds the last pair of each key, by ascending key. -/
structure LastWins (written m : List (Value × Value)) : Prop where
  ascending : Assoc.Ascending m
  mem_iff : ∀ p, p ∈ m ↔ IsLast p written

theorem isLast_cons {q : Value × Value} :
    IsLast p (q :: written) ↔ IsLast p written ∨ p = q ∧ ∀ r ∈ written, r.1 ≠ p.1 := by
  constructor
  · rintro ⟨before, after, h, hafter⟩
    cases before with
    | nil =>
      obtain ⟨rfl, rfl⟩ := List.cons.inj h
      exact .inr ⟨rfl, hafter⟩
    | cons b before =>
      obtain ⟨rfl, rfl⟩ := List.cons.inj h
      exact .inl ⟨before, after, rfl, hafter⟩
  · rintro (⟨before, after, rfl, hafter⟩ | ⟨rfl, hafter⟩)
    · exact ⟨q :: before, after, rfl, hafter⟩
    · exact ⟨[], written, rfl, hafter⟩

theorem get?_ofList_eq_none_iff : Assoc.get? k (Assoc.ofList written) = none ↔ ∀ q ∈ written, q.1 ≠ k := by
  rw [Assoc.get?_eq_none_iff, Assoc.mem_keys_ofList, List.mem_map]
  exact not_exists.trans (forall_congr' fun _ => not_and)

theorem lastWins_ofList (written : List (Value × Value)) : LastWins written (Assoc.ofList written) := by
  refine ⟨Assoc.ascending_ofList written, fun p => ?_⟩
  rw [← Assoc.get?_eq_some_iff (Assoc.ascending_ofList written)]
  induction written with
  | nil => simp [IsLast]
  | cons q written ih =>
    have hq : (if p.1 = q.1 then some q.2 else none) = some p.2 ↔ p = q := by
      rw [Prod.ext_iff]
      by_cases hk : p.1 = q.1 <;> simp [hk, eq_comm]
    rw [isLast_cons, ← ih, Assoc.get?_ofList_cons, Option.or_eq_some_iff, get?_ofList_eq_none_iff, hq, and_comm]

namespace LastWins

theorem unique (hm : LastWins written m) (hn : LastWins written n) : m = n := by
  refine hm.ascending.ext hn.ascending fun k => Option.ext fun v => ?_
  rw [Assoc.get?_eq_some_iff hm.ascending, Assoc.get?_eq_some_iff hn.ascending, hm.mem_iff, hn.mem_iff]

theorem eq_ofList (h : LastWins written m) : m = Assoc.ofList written := h.unique (lastWins_ofList written)

theorem eq_iff {other : List (Value × Value)} (hm : LastWins written m) (hn : LastWins other n) :
    m = n ↔ ∀ p, IsLast p written ↔ IsLast p other := by
  constructor
  · rintro rfl p
    rw [← hm.mem_iff, hn.mem_iff]
  · intro h
    exact hm.unique ⟨hn.ascending, fun p => by rw [hn.mem_iff, h]⟩

/-- Pairs written by ascending key are the map themselves. -/
theorem eq_of_ascending (h : LastWins written m) (hw : Assoc.Ascending written) : m = written := by
  rw [h.eq_ofList, Assoc.ofList_eq_self hw]

theorem subperm (h : LastWins written m) : m.Subperm written := by
  refine List.subperm_of_subset ?_ fun p hp => ?_
  · refine h.ascending.imp fun {p q} hpq he => ?_
    rw [he, Std.compare_self] at hpq
    cases hpq
  · obtain ⟨before, after, rfl, -⟩ := (h.mem_iff p).1 hp
    exact List.mem_append_right _ (List.mem_cons_self ..)

theorem forall_mem {P : Value × Value → Prop} (h : LastWins written m) (hP : ∀ p ∈ written, P p) : ∀ p ∈ m, P p :=
  fun p hp => hP p (h.subperm.subset hp)

theorem sum_map_le (h : LastWins written m) (f : Value × Value → Nat) : (m.map f).sum ≤ (written.map f).sum := by
  obtain ⟨l, hl, hsub⟩ := h.subperm
  rw [← (hl.map f).sum_eq]
  exact (hsub.map f).sum_le_sum fun _ _ => Nat.zero_le _

end LastWins

end Testbed.Value
