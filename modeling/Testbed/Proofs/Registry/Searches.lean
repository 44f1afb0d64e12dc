import Testbed.Proofs.Registry.Consistent

/-!
# The resources that answered a property

`answerers` is the list of live entries under the keys a property lists, in first-answer order; a search
keeps those within a scope and of a kind (`findByProperty_eq_found`). A call that asks for a property puts
at most one entry at the end of its answerers (`Asked`), and a teardown filters them.
-/

namespace Testbed.Registry

variable {ρ σ α : Type} {reg reg' : Registry ρ} {p q : String} {key : Key} {r : ρ} {e : Entry ρ}

/-- The live resources that answered `p`, in first-answer order. -/
def answerers (reg : Registry ρ) (p : String) : List (Entry ρ) := (reg.listed p).filterMap reg.find?

/-- The live resources of a kind within `scope` that answered `p`, in first-answer order. -/
def found (kind : Kind ρ σ α) (scope : Scope) (p : String) (reg : Registry ρ) : List (Entry ρ) :=
  (reg.answerers p).filter fun e => scope.includes e.key.scope && (kind.unwrap? e.resource).isSome

theorem findByProperty_eq_found (kind : Kind ρ σ α) (scope : Scope) (p : String) (reg : Registry ρ) :
    findByProperty kind scope p reg = (found kind scope p reg).filterMap fun e => kind.unwrap? e.resource := by
  rw [findByProperty_eq, found, answerers]
  induction reg.listed p with
  | nil => rfl
  | cons k ks ih =>
    cases hf : reg.find? k with
    | none =>
      have hskip : ((k :: ks).filterMap reg.find?) = ks.filterMap reg.find? := List.filterMap_cons_none hf
      rw [hskip, ← ih, List.filter_cons]
      split
      · rw [List.filterMap_cons_none (by rw [hf]; rfl)]
      · rfl
    | some e =>
      obtain ⟨-, rfl⟩ := find?_eq_some hf
      rw [List.filterMap_cons_some hf, List.filter_cons, List.filter_cons]
      by_cases hs : scope.includes e.key.scope
      · cases hu : kind.unwrap? e.resource <;> simp [hs, hf, hu, ih]
      · simp [hs, ih]

theorem mem_answerers (hc : reg.Consistent) : e ∈ reg.answerers p ↔ e ∈ reg.live ∧ e.key ∈ reg.listed p := by
  rw [answerers, List.mem_filterMap]
  constructor
  · rintro ⟨k, hk, he⟩
    obtain ⟨hm, rfl⟩ := find?_eq_some he
    exact ⟨hm, hk⟩
  · rintro ⟨hm, hk⟩
    exact ⟨e.key, hk, hc.find?_of_mem hm⟩

theorem mem_found (hc : reg.Consistent) {kind : Kind ρ σ α} {scope : Scope} :
    e ∈ found kind scope p reg ↔ e ∈ reg.live ∧ scope.includes e.key.scope ∧
      (kind.unwrap? e.resource).isSome ∧ e.key ∈ reg.listed p := by
  rw [found, List.mem_filter, mem_answerers hc, Bool.and_eq_true]
  constructor
  · rintro ⟨⟨hm, hk⟩, hs, hu⟩
    exact ⟨hm, hs, hu, hk⟩
  · rintro ⟨hm, hs, hu, hk⟩
    exact ⟨⟨hm, hk⟩, hs, hu⟩

/-- What is not live answers nothing. -/
theorem Consistent.not_mem_listed (hc : reg.Consistent) (h : reg.find? key = none) :
    key ∉ reg.listed p := by
  intro hk
  have hlive := hc.listed_live p key hk
  rw [h] at hlive
  cases hlive

/-! ### After a call -/

theorem answerers_note : (reg.note p key).answerers q =
    reg.answerers q ++ if q = p ∧ key ∉ reg.listed p then (reg.find? key).toList else [] := by
  have hfind : (reg.note p key).find? = reg.find? := funext fun _ => find?_note
  rw [answerers, hfind, listed_note]
  split
  · rename_i h
    rw [List.filterMap_append, answerers, h.1]
    cases hf : reg.find? key <;> simp [hf]
  · rw [List.append_nil, answerers]

/-- What was listed is found as before. -/
theorem filterMap_find?_add (hc : reg.Consistent) (h : reg.find? key = none) :
    (reg.listed q).filterMap (reg.add p key r).find? = reg.answerers q := by
  refine List.filterMap_congr fun k hk => find?_add_of_ne ?_
  rintro rfl
  exact hc.not_mem_listed h hk

theorem answerers_add (hc : reg.Consistent) (h : reg.find? key = none) : (reg.add p key r).answerers q =
    reg.answerers q ++ if q = p then [⟨reg.nextId, key, r⟩] else [] := by
  rw [answerers, listed_add, listed_note]
  by_cases hq : q = p
  · subst hq
    rw [if_pos ⟨rfl, hc.not_mem_listed h⟩, if_pos rfl, List.filterMap_append, filterMap_find?_add hc h]
    simp [find?_add_self h]
  · rw [if_neg fun hq' => hq hq'.1, if_neg hq, List.append_nil, filterMap_find?_add hc h]

/-- A teardown takes what it covers out of every search. -/
theorem answerers_takeOut (hc : reg.Consistent) (t : Target) :
    (t.takeOut reg).2.answerers p = (reg.answerers p).filter fun e => !t.covers e.key := by
  rw [answerers, hc.listed_takeOut, answerers]
  induction reg.listed p with
  | nil => rfl
  | cons k ks ih =>
    by_cases hk : t.covers k
    · cases hf : reg.find? k with
      | none => simp [hk, hf, ih]
      | some e =>
        obtain ⟨-, rfl⟩ := find?_eq_some hf
        simp [hk, hf, ih]
    · have hfind : (t.takeOut reg).2.find? k = reg.find? k := by
        rw [Target.find?_takeOut, if_neg hk]
      cases hf : reg.find? k with
      | none => simp [hk, hf, hfind, ih]
      | some e =>
        obtain ⟨-, rfl⟩ := find?_eq_some hf
        simp [hk, hf, hfind, ih]

/-- What a call that asks for `p` under `key` makes of a registry, whatever comes of it: nothing live
goes, and what is then live under `key` answers `p`. -/
structure Asked (p : String) (key : Key) (reg reg' : Registry ρ) : Prop where
  live_subset : reg.live ⊆ reg'.live
  answerers : ∀ q, reg'.answerers q =
    reg.answerers q ++ if q = p ∧ key ∉ reg.listed p then (reg'.find? key).toList else []

theorem asked_of_getOrCreate [Held ρ σ] (hc : reg.Consistent) (kind : Kind ρ σ α) (p : String) (key : Key)
    (make : σ → Except Fault α × σ) (world : σ) :
    Asked p key reg (reg.getOrCreate kind p key make world).2.1 := by
  have hg := getOrCreate_got kind p key make reg world
  generalize reg.getOrCreate kind p key make world = r at hg
  have hnote : Asked p key reg (reg.note p key) :=
    ⟨fun e he => by rw [live_note]; exact he, fun q => by rw [answerers_note, find?_note]⟩
  cases hg with
  | found | mismatch => exact hnote
  | failed hf =>
    refine ⟨fun e he => he, fun q => ?_⟩
    rw [hf, Option.toList_none, ite_self, List.append_nil]
  | created hf =>
    refine ⟨fun e he => by rw [live_add]; exact List.mem_append_left _ he, fun q => ?_⟩
    rw [answerers_add hc hf, find?_add_self hf]
    by_cases hq : q = p
    · rw [if_pos hq, if_pos ⟨hq, hc.not_mem_listed hf⟩]; rfl
    · rw [if_neg hq, if_neg fun hq' => hq hq'.1]

end Testbed.Registry
