import Testbed.Proofs.Registry.Runs

/-!
# The answer lists and the live resources agree

`Consistent`: every listed key is live and every live key is listed, no list is empty or names a key
twice, keys are unique and registration numbers ascend below the next one. Noting, adding and taking
out keep it, so every run does.
-/

namespace Testbed.Registry

variable {ρ σ : Type}

/-- The answer lists and the live resources of a registry agree. -/
structure Consistent (reg : Registry ρ) : Prop where
  listed_live : ∀ p, ∀ k ∈ reg.listed p, (reg.find? k).isSome
  listed_nodup : ∀ p, (reg.listed p).Nodup
  /-- A property without keys is not kept. -/
  ne_nil : ∀ p, reg.answered.get? p ≠ some []
  live_listed : ∀ e ∈ reg.live, ∃ p, e.key ∈ reg.listed p
  keys_nodup : (reg.live.map (·.key)).Nodup
  /-- Registration numbers ascend. -/
  ids : reg.live.Pairwise fun e f => e.id < f.id
  id_lt : ∀ e ∈ reg.live, e.id < reg.nextId

theorem consistent_empty : (empty : Registry ρ).Consistent where
  listed_live _ _ hk := absurd hk List.not_mem_nil
  listed_nodup _ := List.nodup_nil
  ne_nil _ := nofun
  live_listed _ he := absurd he List.not_mem_nil
  keys_nodup := List.nodup_nil
  ids := .nil
  id_lt _ he := absurd he List.not_mem_nil

namespace Consistent
variable {reg reg' : Registry ρ} {p : String} {key : Key} {r : ρ}

theorem find?_of_mem (h : reg.Consistent) {e : Entry ρ} (he : e ∈ reg.live) : reg.find? e.key = some e :=
  Registry.find?_of_mem h.keys_nodup he

theorem mem_listed_find? (h : reg.Consistent) {k : Key} (hk : k ∈ reg.listed p) :
    ∃ e, reg.find? k = some e := Option.isSome_iff_exists.1 (h.listed_live p k hk)

theorem note (h : reg.Consistent) (hk : (reg.find? key).isSome) : (reg.note p key).Consistent where
  listed_live q k hq := by
    rw [find?_note]
    rcases mem_listed_note.1 hq with hq | ⟨-, rfl⟩
    · exact h.listed_live q k hq
    · exact hk
  listed_nodup q := by
    rw [listed_note]
    split
    · rename_i hq
      exact (h.listed_nodup p).append (List.nodup_singleton key) (List.disjoint_singleton.2 hq.2)
    · exact h.listed_nodup q
  ne_nil q := by
    by_cases hm : key ∈ reg.listed p
    · rw [note_eq_self hm]; exact h.ne_nil q
    · rw [get?_note hm]
      split
      · simp
      · exact h.ne_nil q
  live_listed e he := by
    obtain ⟨q, hq⟩ := h.live_listed e (by simpa using he)
    exact ⟨q, mem_listed_note.2 (.inl hq)⟩
  keys_nodup := by rw [live_note]; exact h.keys_nodup
  ids := by rw [live_note]; exact h.ids
  id_lt := by rw [live_note, nextId_note]; exact h.id_lt

theorem add (h : reg.Consistent) (hk : reg.find? key = none) : (reg.add p key r).Consistent where
  listed_live q k hq := by
    rw [find?_add]
    rcases mem_listed_note.1 hq with hq | ⟨-, rfl⟩
    · obtain ⟨e, he⟩ := h.mem_listed_find? hq
      rw [he]; rfl
    · rw [hk, if_pos rfl]; rfl
  listed_nodup q := by
    rw [listed_add, listed_note]
    split
    · rename_i hq
      exact (h.listed_nodup p).append (List.nodup_singleton key) (List.disjoint_singleton.2 hq.2)
    · exact h.listed_nodup q
  ne_nil q := by
    have hm : key ∉ reg.listed p := fun hm => by
      have := h.listed_live p key hm
      rw [hk] at this; cases this
    show (reg.note p key).answered.get? q ≠ some []
    rw [get?_note hm]
    split
    · simp
    · exact h.ne_nil q
  live_listed e he := by
    rw [live_add, List.mem_append, List.mem_singleton] at he
    rcases he with he | rfl
    · obtain ⟨q, hq⟩ := h.live_listed e he
      exact ⟨q, mem_listed_note.2 (.inl hq)⟩
    · exact ⟨p, mem_listed_note.2 (.inr ⟨rfl, rfl⟩)⟩
  keys_nodup := by
    rw [live_add, List.map_append]
    refine h.keys_nodup.append (List.nodup_singleton _) (List.disjoint_singleton.2 fun hm => ?_)
    obtain ⟨e, he, hkey⟩ := List.mem_map.1 hm
    exact find?_eq_none.1 hk e he hkey
  ids := by
    rw [live_add]
    refine List.pairwise_append.2 ⟨h.ids, List.pairwise_singleton _ _, fun e he f hf => ?_⟩
    rw [List.mem_singleton.1 hf]; exact h.id_lt e he
  id_lt e he := by
    rw [nextId_add]
    rw [live_add, List.mem_append, List.mem_singleton] at he
    rcases he with he | rfl
    · exact Nat.lt_succ_of_lt (h.id_lt e he)
    · exact Nat.lt_succ_self _

/-! ### Taking out -/

theorem mem_listed_of_get? {keys : List Key} (hp : reg.answered.get? p = some keys) {k : Key}
    (hk : k ∈ keys) : k ∈ reg.listed p := by
  rw [listed, hp]; exact hk

/-- A listed key is covered when its resource is. -/
theorem any_covered (h : reg.Consistent) (t : Target) {k : Key} (hk : k ∈ reg.listed p) :
    ((reg.live.filter fun e => t.covers e.key).any fun e => e.key = k) = t.covers k := by
  obtain ⟨e, he⟩ := h.mem_listed_find? hk
  obtain ⟨hm, rfl⟩ := find?_eq_some he
  rw [Bool.eq_iff_iff]
  simp only [List.any_eq_true, List.mem_filter, decide_eq_true_eq]
  constructor
  · rintro ⟨f, ⟨-, hf⟩, hkey⟩
    rwa [← hkey]
  · exact fun hc => ⟨e, ⟨hm, hc⟩, rfl⟩

/-- A teardown filters every answer list and drops those it leaves empty. -/
theorem get?_takeOut (h : reg.Consistent) (t : Target) : (t.takeOut reg).2.answered.get? p =
    ((reg.answered.get? p).map fun keys => keys.filter fun k => !t.covers k).filter
      fun keys => !keys.isEmpty := by
  cases t with
  | within scope =>
    have hgone : ∀ k ∈ reg.listed p, _ := fun k hk => h.any_covered (.within scope) hk
    simp only [Target.covers] at hgone ⊢
    by_cases hr : (reg.live.filter fun e => scope.includes e.key.scope) = []
    · -- nothing lives in the scope, so no listed key does and no list shrinks
      rw [Target.takeOut, detach_of_isEmpty hr]
      cases hp : reg.answered.get? p with
      | none => rfl
      | some keys =>
        have hkeep : (keys.filter fun k => !scope.includes k.scope) = keys :=
          List.filter_eq_self.2 fun k hk => by
            rw [← hgone k (mem_listed_of_get? hp hk), hr]; rfl
        have hne : keys ≠ [] := fun hnil => h.ne_nil p (hnil ▸ hp)
        simp [hkeep, hne, Option.filter_some]
    · rw [Target.takeOut, detach_of_ne_nil hr]
      show (forget reg.answered _).get? p = _
      rw [get?_forget]
      cases hp : reg.answered.get? p with
      | none => rfl
      | some keys =>
        have hkeep : (keys.filter fun k => !((reg.live.filter fun e => scope.includes e.key.scope).any
            fun e => e.key = k)) = keys.filter fun k => !scope.includes k.scope :=
          List.filter_congr fun k hk => by rw [hgone k (mem_listed_of_get? hp hk)]
        simp only [Option.map_some, hkeep]
  | everything =>
    show none = _
    cases reg.answered.get? p <;> simp [Target.covers, Option.filter_some]

theorem listed_takeOut (h : reg.Consistent) (t : Target) :
    (t.takeOut reg).2.listed p = (reg.listed p).filter fun k => !t.covers k := by
  rw [listed, h.get?_takeOut, listed]
  cases reg.answered.get? p with
  | none => rfl
  | some keys =>
    by_cases hk : (keys.filter fun k => !t.covers k) = [] <;> simp [hk, Option.filter_some]

theorem takeOut (h : reg.Consistent) (t : Target) : (t.takeOut reg).2.Consistent where
  listed_live q k hq := by
    rw [h.listed_takeOut, List.mem_filter] at hq
    rw [Target.find?_takeOut, if_neg (by simpa using hq.2)]
    exact h.listed_live q k hq.1
  listed_nodup q := by
    rw [h.listed_takeOut]; exact (h.listed_nodup q).filter _
  ne_nil q hq := by
    rw [h.get?_takeOut, Option.filter_eq_some_iff] at hq
    exact absurd hq.2 (by simp)
  live_listed e he := by
    rw [Target.live_takeOut, List.mem_filter] at he
    obtain ⟨q, hq⟩ := h.live_listed e he.1
    exact ⟨q, by rw [h.listed_takeOut]; exact List.mem_filter.2 ⟨hq, he.2⟩⟩
  keys_nodup := by
    rw [Target.live_takeOut]; exact (List.filter_sublist.map _).nodup h.keys_nodup
  ids := by
    rw [Target.live_takeOut]; exact h.ids.filter _
  id_lt e he := by
    rw [Target.nextId_takeOut]
    exact h.id_lt e (List.mem_of_mem_filter (Target.live_takeOut t reg ▸ he))

/-! ### Runs -/

theorem change (h : reg.Consistent) (hc : Change reg reg') : reg'.Consistent := by
  cases hc with
  | same => exact h
  | noted hk => exact h.note hk
  | added hk => exact h.add hk
  | tookOut t => exact h.takeOut t

theorem performAll [Held ρ σ] (calls : List (Call ρ σ)) {s : Registry ρ × σ} (h : s.1.Consistent) :
    (performAll calls s).1.Consistent :=
  performAll_induction (P := fun s => s.1.Consistent) (fun call s h => h.change (call.change s)) calls h

end Consistent

/-- After any calls on an empty registry the answer lists and the live resources agree, and whatever a
later call registers gets a number above all those of the resources live now. -/
theorem consistent_and_id_lt_of_later [Held ρ σ] (calls more : List (Call ρ σ)) (later : Call ρ σ)
    (world : σ) :
    let s := performAll calls (empty, world)
    let t := performAll more s
    s.1.Consistent ∧
      ∀ e ∈ s.1.live, ∀ f ∈ (later.perform t).1.live, f ∉ t.1.live → e.id < f.id := by
  intro s t
  have hs : s.1.Consistent := consistent_empty.performAll calls
  refine ⟨hs, fun e he f hf hnew => ?_⟩
  rw [(later.change t).id_eq hf hnew]
  exact Nat.lt_of_lt_of_le (hs.id_lt e he) (nextId_le_performAll more s)

/-- A key closed and created anew: the second resource gets the number after the first. -/
theorem id_lt_of_recreated :
    let key : Key := ⟨"o", "n", .root, ∅⟩
    let create : Call Rehearsal.Player (Rehearsal.Stage Rehearsal.Daemon) := .standIn "A" "p" key {}
    let s := performAll [create] (empty, { runtime := {} })
    let t := performAll [.closeScope .root] s
    ∃ e ∈ s.1.live, ∃ f ∈ (create.perform t).1.live, f ∉ t.1.live ∧ e.id < f.id := by
  intro key create s t
  let entry (n : Nat) : Entry Rehearsal.Player := ⟨n, key, .standIn "A" ⟨n, {}⟩⟩
  have he : entry 1 ∈ s.1.live := .head _
  have hf : entry 2 ∈ (create.perform t).1.live := .head _
  have hnew : entry 2 ∉ t.1.live := List.not_mem_nil
  exact ⟨_, he, _, hf, hnew, (consistent_and_id_lt_of_later [create] [.closeScope .root] create _).2
    _ he _ hf hnew⟩

end Testbed.Registry
