import Testbed.Proofs.Text.ByteOrder
import Testbed.Proofs.Value.Order

/-!
# Which of two values comes first

`Before` says of the order of values what it is, kind by kind: lists and maps are compared part by part, a pair of a map
by its key and then its value. It is what the comparison computes (`order_eq_lt_iff`), so of two values that differ
exactly one is before the other.
-/

namespace Testbed.Value

/-- The one value comes first. -/
inductive Before : Value → Value → Prop
  | kind {v w : Value} (h : v.rank < w.rank) : Before v w
  | bool : Before (.bool false) (.bool true)
  | int {i j : Int32} (h : i.toInt < j.toInt) : Before (.int i) (.int j)
  | string {s t : String} (h : Text.utf8 s < Text.utf8 t) : Before (.string s) (.string t)
  | list {xs ys : List Value} (h : List.Lex Before xs ys) : Before (.list xs) (.list ys)
  | map {ps qs : List (Value × Value)} (h : List.Lex (Prod.Lex Before Before) ps qs) : Before (.map ps) (.map qs)

variable {v w x : Value} {xs ys : List Value} {ps qs : List (Value × Value)}

theorem before_iff_of_rank_ne (h : v.rank ≠ w.rank) : Before v w ↔ v.rank < w.rank := by
  refine ⟨fun hvw => ?_, .kind⟩
  cases hvw with
  | kind hlt => exact hlt
  | _ => exact absurd rfl h

theorem order_eq_lt_iff_of_rank_ne (h : v.rank ≠ w.rank) : order v w = .lt ↔ Before v w := by
  rw [order_of_rank_ne h, before_iff_of_rank_ne h]
  exact Nat.compare_eq_lt

theorem before_bool_iff {b c : Bool} : Before (.bool b) (.bool c) ↔ b = false ∧ c = true := by
  refine ⟨fun h => ?_, fun ⟨hb, hc⟩ => hb ▸ hc ▸ .bool⟩
  cases h with
  | kind h => exact absurd h (Nat.lt_irrefl _)
  | bool => exact ⟨rfl, rfl⟩

theorem before_int_iff {i j : Int32} : Before (.int i) (.int j) ↔ i.toInt < j.toInt := by
  refine ⟨fun h => ?_, .int⟩
  cases h with
  | kind h => exact absurd h (Nat.lt_irrefl _)
  | int h => exact h

theorem before_string_iff {s t : String} : Before (.string s) (.string t) ↔ Text.utf8 s < Text.utf8 t := by
  refine ⟨fun h => ?_, .string⟩
  cases h with
  | kind h => exact absurd h (Nat.lt_irrefl _)
  | string h => exact h

theorem before_list_iff : Before (.list xs) (.list ys) ↔ List.Lex Before xs ys := by
  refine ⟨fun h => ?_, .list⟩
  cases h with
  | kind h => exact absurd h (Nat.lt_irrefl _)
  | list h => exact h

theorem before_map_iff : Before (.map ps) (.map qs) ↔ List.Lex (Prod.Lex Before Before) ps qs := by
  refine ⟨fun h => ?_, .map⟩
  cases h with
  | kind h => exact absurd h (Nat.lt_irrefl _)
  | map h => exact h

theorem orderItems_eq_lt_iff (h : ∀ v ∈ xs, ∀ {w}, order v w = .lt ↔ Before v w) :
    orderItems xs ys = .lt ↔ List.Lex Before xs ys := by
  induction xs generalizing ys with
  | nil => cases ys <;> simp [orderItems]
  | cons x xs ih =>
    obtain ⟨hx, hxs⟩ := List.forall_mem_cons.1 h
    cases ys with
    | nil => simp [orderItems]
    | cons y ys => rw [orderItems, Ordering.then_eq_lt, order_eq_iff, hx, ih hxs, List.cons_lex_cons_iff]

theorem orderPairs_eq_lt_iff
    (h : ∀ p ∈ ps, (∀ {w}, order p.1 w = .lt ↔ Before p.1 w) ∧ ∀ {w}, order p.2 w = .lt ↔ Before p.2 w) :
    orderPairs ps qs = .lt ↔ List.Lex (Prod.Lex Before Before) ps qs := by
  induction ps generalizing qs with
  | nil => cases qs <;> simp [orderPairs]
  | cons p ps ih =>
    obtain ⟨⟨hk, hv⟩, hps⟩ := List.forall_mem_cons.1 h
    cases qs with
    | nil => simp [orderPairs]
    | cons q qs =>
      rw [orderPairs, Ordering.then_eq_lt, Ordering.then_eq_lt, order_eq_iff, order_eq_iff, hk, hv, ih hps,
        List.cons_lex_cons_iff, Prod.lex_def, Prod.ext_iff, and_or_left, or_assoc, and_assoc]

theorem order_eq_lt_iff : order v w = .lt ↔ Before v w := by
  induction v generalizing w with
  | null =>
    cases w with
    | null =>
      refine iff_of_false (by simp [order]) fun h => ?_
      cases h with
      | kind h => exact Nat.lt_irrefl _ h
    | _ => exact order_eq_lt_iff_of_rank_ne (by simp [rank])
  | bool b =>
    cases w with
    | bool c => rw [before_bool_iff]; cases b <;> cases c <;> simp [order, compare]
    | _ => exact order_eq_lt_iff_of_rank_ne (by simp [rank])
  | int i =>
    cases w with
    | int j => rw [before_int_iff, ← Int32.lt_iff_toInt_lt, order, Std.compare_eq_lt]
    | _ => exact order_eq_lt_iff_of_rank_ne (by simp [rank])
  | string s =>
    cases w with
    | string t => rw [before_string_iff, order, Text.compare_eq_lt_iff]
    | _ => exact order_eq_lt_iff_of_rank_ne (by simp [rank])
  | list xs ih =>
    cases w with
    | list ys => rw [order, before_list_iff, orderItems_eq_lt_iff ih]
    | _ => exact order_eq_lt_iff_of_rank_ne (by simp [rank])
  | map ps ih =>
    cases w with
    | map qs => rw [order, before_map_iff, orderPairs_eq_lt_iff ih]
    | _ => exact order_eq_lt_iff_of_rank_ne (by simp [rank])

theorem order_eq_gt_iff : order v w = .gt ↔ Before w v := by
  rw [order_swap, Ordering.swap_eq_gt, order_eq_lt_iff]

namespace Before

theorem irrefl (v : Value) : ¬ Before v v := by
  rw [← order_eq_lt_iff, order_eq_iff.2 rfl]
  nofun

theorem trans (hvw : Before v w) (hwx : Before w x) : Before v x :=
  order_eq_lt_iff.1 (order_lt_trans (order_eq_lt_iff.2 hvw) (order_eq_lt_iff.2 hwx))

theorem trichotomy (v w : Value) : Before v w ∨ v = w ∨ Before w v := by
  rw [← order_eq_lt_iff, ← order_eq_gt_iff, ← order_eq_iff]
  cases order v w <;> simp

end Before

end Testbed.Value
