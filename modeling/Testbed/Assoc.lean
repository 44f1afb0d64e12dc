/-!
# Ascending association lists

A finite map is the list of its pairs in strictly ascending key order. Every map of the library,
whether keyed by text or by wire values, is such a list, so two maps with the same entries are equal
and iteration order is key order.
-/

namespace Testbed.Assoc

variable {κ α β : Type} [Ord κ]

/-- Keys strictly ascend. -/
def Ascending (m : List (κ × α)) : Prop :=
  m.Pairwise fun p q => compare p.1 q.1 = .lt

/-- The value under `k`. -/
def get? (k : κ) : List (κ × α) → Option α
  | [] => none
  | p :: m => if compare k p.1 = .eq then some p.2 else get? k m

/-- Puts `a` under `k`, replacing what is there. -/
def insert (k : κ) (a : α) : List (κ × α) → List (κ × α)
  | [] => [(k, a)]
  | p :: m =>
    match compare k p.1 with
    | .lt => (k, a) :: p :: m
    | .eq => (k, a) :: m
    | .gt => p :: insert k a m

/-- Puts `a` under `k` unless `k` is taken. -/
def insertNew (k : κ) (a : α) : List (κ × α) → List (κ × α)
  | [] => [(k, a)]
  | p :: m =>
    match compare k p.1 with
    | .lt => (k, a) :: p :: m
    | .eq => p :: m
    | .gt => p :: insertNew k a m

/-- The map of `ps`, in which the last pair of an equal key wins. -/
def ofList (ps : List (κ × α)) : List (κ × α) :=
  ps.foldr (fun p m => insertNew p.1 p.2 m) []

/-- Takes `k` out. -/
def erase (k : κ) (m : List (κ × α)) : List (κ × α) :=
  m.filter fun p => compare k p.1 != .eq

@[simp] theorem get?_nil (k : κ) : get? k ([] : List (κ × α)) = none := rfl

theorem get?_cons (k : κ) (p : κ × α) (m : List (κ × α)) :
    get? k (p :: m) = if compare k p.1 = .eq then some p.2 else get? k m := rfl

/-- A key below every key of the map is not in it. -/
theorem get?_eq_none {k : κ} {m : List (κ × α)} (h : ∀ p ∈ m, compare k p.1 = .lt) :
    get? k m = none := by
  induction m with
  | nil => rfl
  | cons p m ih =>
    rw [get?_cons, h p (List.mem_cons_self ..), if_neg nofun]
    exact ih fun q hq => h q (List.mem_cons_of_mem _ hq)

@[simp] theorem ofList_nil : ofList ([] : List (κ × α)) = [] := rfl

@[simp] theorem ofList_cons (p : κ × α) (ps : List (κ × α)) :
    ofList (p :: ps) = insertNew p.1 p.2 (ofList ps) := rfl

theorem mem_insert {k : κ} {a : α} {p : κ × α} :
    ∀ {m : List (κ × α)}, p ∈ insert k a m → p = (k, a) ∨ p ∈ m
  | [], h => by simpa [insert] using h
  | q :: m, h => by
    simp only [insert] at h
    split at h
    · simpa using h
    · rcases List.mem_cons.1 h with h | h
      · exact .inl h
      · exact .inr (List.mem_cons_of_mem _ h)
    · rcases List.mem_cons.1 h with h | h
      · exact .inr (h ▸ List.mem_cons_self ..)
      · exact (mem_insert h).imp_right (List.mem_cons_of_mem _)

theorem mem_insertNew {k : κ} {a : α} {p : κ × α} :
    ∀ {m : List (κ × α)}, p ∈ insertNew k a m → p = (k, a) ∨ p ∈ m
  | [], h => by simpa [insertNew] using h
  | q :: m, h => by
    simp only [insertNew] at h
    split at h
    · simpa using h
    · exact .inr h
    · rcases List.mem_cons.1 h with h | h
      · exact .inr (h ▸ List.mem_cons_self ..)
      · exact (mem_insertNew h).imp_right (List.mem_cons_of_mem _)

section

variable [Std.TransOrd κ]

theorem Ascending.insert {m : List (κ × α)} (hm : Ascending m) (k : κ) (a : α) :
    Ascending (insert k a m) := by
  induction m with
  | nil => simp [Assoc.insert, Ascending]
  | cons q m ih =>
    have ⟨hq, hm'⟩ := List.pairwise_cons.1 hm
    simp only [Assoc.insert]
    split
    · rename_i h
      refine List.pairwise_cons.2 ⟨fun p hp => ?_, hm⟩
      rcases List.mem_cons.1 hp with rfl | hp
      · exact h
      · exact Std.TransCmp.lt_trans h (hq p hp)
    · rename_i h
      exact List.pairwise_cons.2 ⟨fun p hp => Std.TransCmp.lt_of_eq_of_lt h (hq p hp), hm'⟩
    · rename_i h
      refine List.pairwise_cons.2 ⟨fun p hp => ?_, ih hm'⟩
      rcases mem_insert hp with rfl | hp
      · exact Std.OrientedCmp.lt_of_gt h
      · exact hq p hp

theorem Ascending.insertNew {m : List (κ × α)} (hm : Ascending m) (k : κ) (a : α) :
    Ascending (insertNew k a m) := by
  induction m with
  | nil => simp [Assoc.insertNew, Ascending]
  | cons q m ih =>
    have ⟨hq, hm'⟩ := List.pairwise_cons.1 hm
    simp only [Assoc.insertNew]
    split
    · rename_i h
      refine List.pairwise_cons.2 ⟨fun p hp => ?_, hm⟩
      rcases List.mem_cons.1 hp with rfl | hp
      · exact h
      · exact Std.TransCmp.lt_trans h (hq p hp)
    · exact hm
    · rename_i h
      refine List.pairwise_cons.2 ⟨fun p hp => ?_, ih hm'⟩
      rcases mem_insertNew hp with rfl | hp
      · exact Std.OrientedCmp.lt_of_gt h
      · exact hq p hp

theorem ascending_ofList : ∀ ps : List (κ × α), Ascending (ofList ps)
  | [] => List.Pairwise.nil
  | p :: ps => (ascending_ofList ps).insertNew p.1 p.2

end

theorem mem_ofList {p : κ × α} {ps : List (κ × α)} (h : p ∈ ofList ps) : p ∈ ps := by
  induction ps with
  | nil => exact h
  | cons q ps ih =>
    rcases mem_insertNew h with rfl | h
    · exact List.mem_cons_self ..
    · exact List.mem_cons_of_mem _ (ih h)

theorem ofList_eq_self {m : List (κ × α)} (hm : Ascending m) : ofList m = m := by
  induction m with
  | nil => rfl
  | cons p m ih =>
    have ⟨hp, hm'⟩ := List.pairwise_cons.1 hm
    rw [ofList_cons, ih hm']
    cases m with
    | nil => rfl
    | cons q m => simp [insertNew, hp q (List.mem_cons_self ..)]

section

variable [Std.LawfulEqOrd κ] [DecidableEq κ]

theorem get?_insert (k l : κ) (a : α) (m : List (κ × α)) :
    get? k (insert l a m) = if k = l then some a else get? k m := by
  induction m with
  | nil => simp [insert, get?_cons]
  | cons p m ih =>
    simp only [insert]
    split
    · simp [get?_cons]
    · rename_i h
      obtain rfl := Std.LawfulEqOrd.eq_of_compare h
      by_cases hk : k = p.1 <;> simp [get?_cons, hk]
    · rename_i h
      simp only [get?_cons, ih, Std.compare_eq_iff_eq]
      by_cases hk : k = p.1
      · subst hk
        have : p.1 ≠ l := by rintro rfl; simp at h
        simp [this]
      · simp [hk]

theorem get?_insertNew [Std.TransOrd κ] {m : List (κ × α)} (hm : Ascending m) (k l : κ) (a : α) :
    get? k (insertNew l a m) = if k = l then some ((get? l m).getD a) else get? k m := by
  induction m with
  | nil => simp [insertNew, get?_cons]
  | cons p m ih =>
    have ⟨hp, hm'⟩ := List.pairwise_cons.1 hm
    simp only [insertNew]
    split
    · rename_i h
      have : get? l (p :: m) = none := get?_eq_none fun q hq => by
        rcases List.mem_cons.1 hq with rfl | hq
        · exact h
        · exact Std.TransCmp.lt_trans h (hp q hq)
      simp [get?_cons k, this]
    · rename_i h
      obtain rfl := Std.LawfulEqOrd.eq_of_compare h
      by_cases hk : k = p.1 <;> simp [get?_cons, hk]
    · rename_i h
      have : l ≠ p.1 := by rintro rfl; simp at h
      simp only [get?_cons, ih hm', Std.compare_eq_iff_eq, if_neg this]
      by_cases hk : k = p.1
      · subst hk; simp [this.symm]
      · simp [hk]

theorem get?_eq_some_iff {k : κ} {a : α} {m : List (κ × α)} (hm : Ascending m) : get? k m = some a ↔ (k, a) ∈ m := by
  induction m with
  | nil => simp
  | cons q m ih =>
    obtain ⟨hq, hm⟩ := List.pairwise_cons.1 hm
    simp only [get?_cons, List.mem_cons, ← ih hm, Prod.ext_iff, Std.compare_eq_iff_eq]
    by_cases hk : k = q.1
    · -- the key of the head is below all others
      subst hk
      simp [get?_eq_none hq, eq_comm]
    · simp [hk]

/-- The last pair of a key is the one found. -/
theorem get?_ofList_cons [Std.TransOrd κ] (k : κ) (p : κ × α) (ps : List (κ × α)) :
    get? k (ofList (p :: ps)) = (get? k (ofList ps)).or (if k = p.1 then some p.2 else none) := by
  rw [ofList_cons, get?_insertNew (ascending_ofList ps)]
  by_cases hk : k = p.1
  · subst hk; cases get? p.1 (ofList ps) <;> simp
  · simp [hk]

theorem get?_erase (k l : κ) (m : List (κ × α)) :
    get? k (erase l m) = if k = l then none else get? k m := by
  induction m with
  | nil => simp [erase]
  | cons p m ih =>
    unfold erase at ih ⊢
    by_cases hl : l = p.1
    · subst hl
      by_cases hk : k = p.1 <;> simp_all [get?_cons]
    · by_cases hk : k = p.1
      · subst hk; simp [get?_cons, hl, Ne.symm hl]
      · simp [get?_cons, hl, hk, ih]

theorem get?_map (f : α → β) (k : κ) (m : List (κ × α)) :
    get? k (m.map fun p => (p.1, f p.2)) = (get? k m).map f := by
  induction m with
  | nil => rfl
  | cons p m ih => by_cases h : k = p.1 <;> simp [get?_cons, h, ih]

theorem get?_filter [Std.TransOrd κ] {m : List (κ × α)} (hm : Ascending m) (keep : κ → α → Bool)
    (k : κ) : get? k (m.filter fun p => keep p.1 p.2) = (get? k m).filter (keep k) := by
  induction m with
  | nil => rfl
  | cons p m ih =>
    have ⟨hp, hm'⟩ := List.pairwise_cons.1 hm
    by_cases hk : k = p.1
    · subst hk
      have := get?_eq_none hp
      cases hkeep : keep p.1 p.2 <;>
        simp [get?_cons, hkeep, ih hm', this, Option.filter_some]
    · cases hkeep : keep p.1 p.2 <;> simp [get?_cons, hk, hkeep, ih hm']

theorem get?_ofList_append [Std.TransOrd κ] (k : κ) (ps qs : List (κ × α)) :
    get? k (ofList (ps ++ qs)) = (get? k (ofList qs)).or (get? k (ofList ps)) := by
  induction ps with
  | nil => simp
  | cons p ps ih => rw [List.cons_append, get?_ofList_cons, ih, get?_ofList_cons, Option.or_assoc]

theorem get?_eq_none_iff {k : κ} {m : List (κ × α)} : get? k m = none ↔ k ∉ m.map Prod.fst := by
  induction m with
  | nil => simp
  | cons p m ih => by_cases hk : k = p.1 <;> simp [get?_cons, hk, ih]

theorem mem_keys_ofList [Std.TransOrd κ] {k : κ} {ps : List (κ × α)} :
    k ∈ (ofList ps).map Prod.fst ↔ k ∈ ps.map Prod.fst := by
  rw [← Decidable.not_iff_not, ← get?_eq_none_iff]
  induction ps with
  | nil => simp
  | cons p ps ih =>
    rw [get?_ofList_cons, Option.or_eq_none_iff, ih, List.map_cons, List.mem_cons, not_or, and_comm]
    simp

/-- Where no key has two values, the pairs are what the map holds. -/
theorem get?_ofList_iff [Std.TransOrd κ] {k : κ} {a : α} {ps : List (κ × α)}
    (h : ∀ p ∈ ps, ∀ q ∈ ps, p.1 = q.1 → p.2 = q.2) : get? k (ofList ps) = some a ↔ (k, a) ∈ ps := by
  have hmem {b : α} (hb : get? k (ofList ps) = some b) : (k, b) ∈ ps :=
    mem_ofList ((get?_eq_some_iff (ascending_ofList ps)).1 hb)
  refine ⟨hmem, fun ha => ?_⟩
  cases hb : get? k (ofList ps) with
  | none => exact absurd (mem_keys_ofList.2 (List.mem_map_of_mem ha)) (get?_eq_none_iff.1 hb)
  | some b => exact congrArg some (h _ (hmem hb) _ ha rfl)

end

/-- Maps that give the same value under every key are equal. -/
theorem Ascending.ext [Std.TransOrd κ] [Std.LawfulEqOrd κ] {m n : List (κ × α)}
    (hm : Ascending m) (hn : Ascending n) (h : ∀ k, get? k m = get? k n) : m = n := by
  induction m generalizing n with
  | nil =>
    cases n with
    | nil => rfl
    | cons q n => simpa [get?_cons] using h q.1
  | cons p m ih =>
    have ⟨hp, hm'⟩ := List.pairwise_cons.1 hm
    cases n with
    | nil => simpa [get?_cons] using h p.1
    | cons q n =>
      have ⟨hq, hn'⟩ := List.pairwise_cons.1 hn
      have hpm := get?_eq_none hp
      have hqn := get?_eq_none hq
      cases hc : compare p.1 q.1 with
      | lt =>
        have := get?_eq_none (m := q :: n) (k := p.1) fun r hr => by
          rcases List.mem_cons.1 hr with rfl | hr
          · exact hc
          · exact Std.TransCmp.lt_trans hc (hq r hr)
        simp [← h, get?_cons] at this
      | gt =>
        have := get?_eq_none (m := p :: m) (k := q.1) fun r hr => by
          rcases List.mem_cons.1 hr with rfl | hr
          · exact Std.OrientedCmp.lt_of_gt hc
          · exact Std.TransCmp.lt_trans (Std.OrientedCmp.lt_of_gt hc) (hp r hr)
        simp [h, get?_cons] at this
      | eq =>
        have hk := Std.LawfulEqOrd.eq_of_compare hc
        have hv := h p.1
        rw [get?_cons, get?_cons, hk] at hv
        simp only [Std.compare_self, if_true, Option.some.injEq] at hv
        rw [ih hm' hn' fun k => ?_, Prod.ext hk hv]
        by_cases hkk : compare k p.1 = .eq
        · rw [Std.LawfulEqOrd.eq_of_compare hkk, hpm, hk, hqn]
        · simpa [get?_cons, hkk, hk ▸ hkk] using h k

end Testbed.Assoc
