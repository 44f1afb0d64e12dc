import Testbed.Value

/-!
# The order of wire values

Values are totally ordered, and only equal values compare as equal: `Value.order` is lawful
(`order_eq_iff`), antisymmetric (`order_swap`) and transitive (`order_lt_trans`), so maps keyed by
values have all the laws of `Assoc`. A list of pairs compares as the list of its keys and values in turn
(`orderPairs_eq_orderItems`). The inductions go by `Value.induct`, whose step for a collection has the
hypothesis for every part.
-/

namespace Testbed.Value

variable {v w x : Value} {xs ys zs : List Value} {ps qs : List (Value × Value)}

/-- Induction over values, the step for a collection having the claim for each of its parts. -/
@[elab_as_elim, induction_eliminator]
theorem induct {motive : Value → Prop} (null : motive .null) (bool : ∀ b, motive (.bool b))
    (int : ∀ i, motive (.int i)) (string : ∀ s, motive (.string s))
    (list : ∀ items, (∀ v ∈ items, motive v) → motive (.list items))
    (map : ∀ pairs, (∀ p ∈ pairs, motive p.1 ∧ motive p.2) → motive (.map pairs)) (v : Value) : motive v := by
  refine Value.rec (motive_1 := motive) (motive_2 := fun xs => ∀ v ∈ xs, motive v)
    (motive_3 := fun ps => ∀ p ∈ ps, motive p.1 ∧ motive p.2) (motive_4 := fun p => motive p.1 ∧ motive p.2)
    null bool int string list map ?_ ?_ ?_ ?_ ?_ v
  · exact List.forall_mem_nil _
  · exact fun x xs hx hxs => List.forall_mem_cons.2 ⟨hx, hxs⟩
  · exact List.forall_mem_nil _
  · exact fun p ps hp hps => List.forall_mem_cons.2 ⟨hp, hps⟩
  · exact fun k v hk hv => ⟨hk, hv⟩

/-! ### Pairs -/

/-- The keys and values of a list of pairs in turn. -/
def inTurn (ps : List (Value × Value)) : List Value := ps.flatMap fun p => [p.1, p.2]

theorem inTurn_cons (p : Value × Value) (ps : List (Value × Value)) : inTurn (p :: ps) = p.1 :: p.2 :: inTurn ps := rfl

theorem forall_mem_inTurn {motive : Value → Prop} (h : ∀ p ∈ ps, motive p.1 ∧ motive p.2) :
    ∀ v ∈ inTurn ps, motive v := by
  intro v hv
  obtain ⟨p, hp, hv⟩ := List.mem_flatMap.1 hv
  rcases List.mem_cons.1 hv with rfl | hv
  · exact (h p hp).1
  · exact List.mem_singleton.1 hv ▸ (h p hp).2

theorem inTurn_inj : inTurn ps = inTurn qs ↔ ps = qs := by
  refine ⟨fun h => ?_, congrArg inTurn⟩
  induction ps generalizing qs with
  | nil =>
    cases qs with
    | nil => rfl
    | cons q qs => cases h
  | cons p ps ih =>
    cases qs with
    | nil => cases h
    | cons q qs =>
      rw [inTurn_cons, inTurn_cons] at h
      injection h with hk h
      injection h with hv h
      rw [ih h, Prod.ext hk hv]

theorem orderPairs_eq_orderItems (ps qs : List (Value × Value)) :
    orderPairs ps qs = orderItems (inTurn ps) (inTurn qs) := by
  induction ps generalizing qs with
  | nil => cases qs <;> rfl
  | cons p ps ih =>
    cases qs with
    | nil => rfl
    | cons q qs => rw [orderPairs, ih, inTurn_cons, inTurn_cons, orderItems, orderItems]

/-! ### Kinds -/

/-- Values of two kinds compare as their kinds do. -/
theorem order_of_rank_ne (h : v.rank ≠ w.rank) : order v w = compare v.rank w.rank := by
  cases v <;> cases w <;> first | rfl | exact absurd rfl h

theorem rank_le_of_order_lt (h : order v w = .lt) : v.rank ≤ w.rank := by
  by_cases hrank : v.rank = w.rank
  · exact Nat.le_of_eq hrank
  · rw [order_of_rank_ne hrank] at h
    exact Nat.le_of_lt (Nat.compare_eq_lt.1 h)

theorem order_lt_of_rank_lt (h : v.rank < w.rank) : order v w = .lt := by
  rw [order_of_rank_ne (Nat.ne_of_lt h)]
  exact Nat.compare_eq_lt.2 h

/-! ### Equality -/

theorem order_eq_iff_of_rank_ne (h : v.rank ≠ w.rank) : order v w = .eq ↔ v = w := by
  rw [order_of_rank_ne h]
  exact iff_of_false (fun he => h (Std.LawfulEqOrd.eq_of_compare he)) fun he => h (he ▸ rfl)

theorem orderItems_eq_iff (h : ∀ v ∈ xs, ∀ {w}, order v w = .eq ↔ v = w) : orderItems xs ys = .eq ↔ xs = ys := by
  induction xs generalizing ys with
  | nil => cases ys <;> simp [orderItems]
  | cons x xs ih =>
    obtain ⟨hx, hxs⟩ := List.forall_mem_cons.1 h
    cases ys with
    | nil => simp [orderItems]
    | cons y ys => rw [orderItems, Ordering.then_eq_eq, hx, ih hxs, List.cons.injEq]

theorem order_eq_iff : order v w = .eq ↔ v = w := by
  induction v generalizing w with
  | null =>
    cases w with
    | null => exact iff_of_true rfl rfl
    | _ => exact order_eq_iff_of_rank_ne nofun
  | bool b =>
    cases w with
    | bool c => rw [order, Std.compare_eq_iff_eq, bool.injEq]
    | _ => exact order_eq_iff_of_rank_ne nofun
  | int i =>
    cases w with
    | int j => rw [order, Std.compare_eq_iff_eq, int.injEq]
    | _ => exact order_eq_iff_of_rank_ne nofun
  | string s =>
    cases w with
    | string t => rw [order, Std.compare_eq_iff_eq, string.injEq]
    | _ => exact order_eq_iff_of_rank_ne nofun
  | list xs ih =>
    cases w with
    | list ys => rw [order, orderItems_eq_iff ih, list.injEq]
    | _ => exact order_eq_iff_of_rank_ne nofun
  | map ps ih =>
    cases w with
    | map qs =>
      rw [order, orderPairs_eq_orderItems, orderItems_eq_iff (forall_mem_inTurn ih), inTurn_inj, map.injEq]
    | _ => exact order_eq_iff_of_rank_ne nofun

/-! ### Antisymmetry -/

theorem order_swap_of_rank_ne (h : v.rank ≠ w.rank) : order v w = (order w v).swap := by
  rw [order_of_rank_ne h, order_of_rank_ne (Ne.symm h)]
  exact Std.OrientedOrd.eq_swap

theorem orderItems_swap (h : ∀ v ∈ xs, ∀ w, order v w = (order w v).swap) :
    orderItems xs ys = (orderItems ys xs).swap := by
  induction xs generalizing ys with
  | nil => cases ys <;> rfl
  | cons x xs ih =>
    obtain ⟨hx, hxs⟩ := List.forall_mem_cons.1 h
    cases ys with
    | nil => rfl
    | cons y ys => rw [orderItems, orderItems, Ordering.swap_then, hx, ih hxs]

theorem order_swap (v w : Value) : order v w = (order w v).swap := by
  induction v generalizing w with
  | null =>
    cases w with
    | null => rfl
    | _ => exact order_swap_of_rank_ne nofun
  | bool b =>
    cases w with
    | bool c => exact Std.OrientedOrd.eq_swap
    | _ => exact order_swap_of_rank_ne nofun
  | int i =>
    cases w with
    | int j => exact Std.OrientedOrd.eq_swap
    | _ => exact order_swap_of_rank_ne nofun
  | string s =>
    cases w with
    | string t => exact Std.OrientedOrd.eq_swap
    | _ => exact order_swap_of_rank_ne nofun
  | list xs ih =>
    cases w with
    | list ys => exact orderItems_swap ih
    | _ => exact order_swap_of_rank_ne nofun
  | map ps ih =>
    cases w with
    | map qs =>
      rw [order, order, orderPairs_eq_orderItems, orderPairs_eq_orderItems]
      exact orderItems_swap (forall_mem_inTurn ih)
    | _ => exact order_swap_of_rank_ne nofun

/-! ### Transitivity -/

theorem orderItems_lt_trans (h : ∀ v ∈ xs, ∀ {w x}, order v w = .lt → order w x = .lt → order v x = .lt)
    (hxy : orderItems xs ys = .lt) (hyz : orderItems ys zs = .lt) : orderItems xs zs = .lt := by
  induction xs generalizing ys zs with
  | nil =>
    cases ys with
    | nil => cases hxy
    | cons y ys => cases zs <;> first | rfl | cases hyz
  | cons x xs ih =>
    obtain ⟨hx, hxs⟩ := List.forall_mem_cons.1 h
    cases ys with
    | nil => cases hxy
    | cons y ys =>
      cases zs with
      | nil => cases hyz
      | cons z zs =>
        rw [orderItems, Ordering.then_eq_lt, order_eq_iff] at hxy hyz ⊢
        rcases hxy with hxy | ⟨rfl, hxy⟩
        · rcases hyz with hyz | ⟨rfl, -⟩
          · exact .inl (hx hxy hyz)
          · exact .inl hxy
        · exact hyz.imp_right fun ⟨hz, hyz⟩ => ⟨hz, ih hxs hxy hyz⟩

/-- Of kinds that differ the lower one decides. -/
theorem order_lt_trans_of_rank_ne (hvw : order v w = .lt) (hwx : order w x = .lt)
    (h : v.rank ≠ w.rank ∨ w.rank ≠ x.rank) : order v x = .lt := by
  have hvw := rank_le_of_order_lt hvw
  have hwx := rank_le_of_order_lt hwx
  exact order_lt_of_rank_lt (by omega)

theorem order_lt_trans (hvw : order v w = .lt) (hwx : order w x = .lt) : order v x = .lt := by
  induction v generalizing w x with
  | null =>
    cases w with
    | null => cases hvw
    | _ => exact order_lt_trans_of_rank_ne hvw hwx (.inl nofun)
  | bool b =>
    cases w with
    | bool c =>
      cases x with
      | bool d =>
        rw [order] at hvw hwx ⊢
        exact Std.TransCmp.lt_trans hvw hwx
      | _ => exact order_lt_trans_of_rank_ne hvw hwx (.inr nofun)
    | _ => exact order_lt_trans_of_rank_ne hvw hwx (.inl nofun)
  | int i =>
    cases w with
    | int j =>
      cases x with
      | int k =>
        rw [order] at hvw hwx ⊢
        exact Std.TransCmp.lt_trans hvw hwx
      | _ => exact order_lt_trans_of_rank_ne hvw hwx (.inr nofun)
    | _ => exact order_lt_trans_of_rank_ne hvw hwx (.inl nofun)
  | string s =>
    cases w with
    | string t =>
      cases x with
      | string u =>
        rw [order] at hvw hwx ⊢
        exact Std.TransCmp.lt_trans hvw hwx
      | _ => exact order_lt_trans_of_rank_ne hvw hwx (.inr nofun)
    | _ => exact order_lt_trans_of_rank_ne hvw hwx (.inl nofun)
  | list xs ih =>
    cases w with
    | list ys =>
      cases x with
      | list zs => exact orderItems_lt_trans ih hvw hwx
      | _ => exact order_lt_trans_of_rank_ne hvw hwx (.inr nofun)
    | _ => exact order_lt_trans_of_rank_ne hvw hwx (.inl nofun)
  | map ps ih =>
    cases w with
    | map qs =>
      cases x with
      | map rs =>
        rw [order, orderPairs_eq_orderItems] at hvw hwx ⊢
        exact orderItems_lt_trans (forall_mem_inTurn ih) hvw hwx
      | _ => exact order_lt_trans_of_rank_ne hvw hwx (.inr nofun)
    | _ => exact order_lt_trans_of_rank_ne hvw hwx (.inl nofun)

instance : Std.OrientedOrd Value where
  eq_swap := order_swap _ _

instance : Std.LawfulEqOrd Value where
  compare_self := order_eq_iff.2 rfl
  eq_of_compare := order_eq_iff.1

instance : Std.TransOrd Value where
  isLE_trans {v w x} hvw hwx := by
    rw [Ordering.isLE_iff_eq_lt_or_eq_eq] at hvw hwx ⊢
    rcases hvw with hvw | hvw
    · rcases hwx with hwx | hwx
      · exact .inl (order_lt_trans hvw hwx)
      · exact .inl (order_eq_iff.1 hwx ▸ hvw)
    · rwa [order_eq_iff.1 hvw]

instance : DecidableEq Value := fun _ _ => decidable_of_iff _ order_eq_iff

end Testbed.Value
