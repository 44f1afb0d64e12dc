import Testbed.Proofs.Registry.Consistent

/-!
# What callers see after a call that failed

`SameView`: listings, the number of live resources and every search by property are as before. A call
that fails in making or in starting changes nothing at all. A type mismatch keeps listings and number
but notes its property, so the resource of the other kind turns up in searches for a property that it
did not answer, unless it is listed there already (`view_of_error`). Without mismatches a property
whose requests all fail is never answered (`FailsOnly.listed`).
-/

namespace Testbed.Registry

variable {ρ σ α : Type}

def Error.isTypeMismatch : Error → Bool
  | .typeMismatch _ _ => true
  | _ => false

/-- No caller can tell `reg'` from `reg`, whatever scope, property and kind of resource it asks for. -/
structure SameView [Described ρ] (reg reg' : Registry ρ) : Prop where
  list : ∀ scope, reg'.list scope = reg.list scope
  size : reg'.size = reg.size
  find : ∀ {σ α : Type} (kind : Kind ρ σ α) scope p,
    findByProperty kind scope p reg' = findByProperty kind scope p reg

theorem SameView.refl [Described ρ] (reg : Registry ρ) : SameView reg reg :=
  ⟨fun _ => rfl, rfl, fun _ _ _ => rfl⟩

/-- Resources as they are. -/
def Kind.whole (ρ σ : Type) : Kind ρ σ ρ where
  label := "resource"
  wrap := id
  unwrap? := some
  unwrap?_wrap _ := rfl
  wrap_of_unwrap? h := (Option.some.inj h).symm
  start r w := (.ok (), r, w)

/-! ### Searches after a note -/

section
variable {reg : Registry ρ} {p q : String} {key : Key} {kind : Kind ρ σ α} {scope : Scope}

theorem list_note [Described ρ] : (reg.note p key).list scope = reg.list scope := by
  rw [list, live_note, list]

theorem size_note : (reg.note p key).size = reg.size := by
  rw [size, live_note, size]

theorem findByProperty_note_of_ne (h : q ≠ p) :
    findByProperty kind scope q (reg.note p key) = findByProperty kind scope q reg := by
  rw [findByProperty_eq, listed_note, if_neg fun hq => h hq.1]
  simp only [find?_note]
  rfl

/-- A note adds at most the resource under its key to the searches for its property. -/
theorem findByProperty_note : findByProperty kind scope p (reg.note p key) =
    findByProperty kind scope p reg ++
      if key ∉ reg.listed p ∧ scope.includes key.scope then
        ((reg.find? key).bind fun e => kind.unwrap? e.resource).toList else [] := by
  by_cases hm : key ∈ reg.listed p
  · rw [note_eq_self hm, if_neg fun h => h.1 hm, List.append_nil]
  · rw [findByProperty_eq, listed_note, if_pos ⟨rfl, hm⟩, List.filter_append, List.filterMap_append]
    simp only [find?_note]
    refine congrArg (findByProperty kind scope p reg ++ ·) ?_
    by_cases hs : scope.includes key.scope
    · rw [if_pos ⟨hm, hs⟩]
      cases hu : (reg.find? key).bind fun e => kind.unwrap? e.resource <;> simp [hs, hu]
    · rw [if_neg fun h => hs h.2]
      simp [hs]

/-- A new note of a live resource is seen by a search for resources as they are. -/
theorem not_sameView_note [Described ρ] {e : Entry ρ} (he : reg.find? key = some e)
    (hm : key ∉ reg.listed p) : ¬ SameView reg (reg.note p key) := by
  intro h
  have hfind := h.find (Kind.whole ρ Unit) .root p
  have hroot : Scope.root.includes key.scope = true := rfl
  rw [findByProperty_note, if_pos ⟨hm, hroot⟩, he] at hfind
  simp [Kind.whole] at hfind

end

/-! ### Failed calls -/

section
variable [Held ρ σ] {kind : Kind ρ σ α} {p : String} {key : Key} {make : σ → Except Fault α × σ}
  {reg reg' : Registry ρ} {world w : σ} {e : Error}

theorem isTypeMismatch_of_bringUp (h : bringUp kind key make world = (.error e, w)) :
    e.isTypeMismatch = false := by
  have hm := bringUp_made kind key make world
  rw [h] at hm
  cases hm <;> rfl

/-- A call fails before the registry is touched, or on a resource of another kind that it has noted. -/
theorem reg_of_error (h : reg.getOrCreate kind p key make world = (.error e, reg', w)) :
    e.isTypeMismatch = false ∧ reg' = reg ∨
      e.isTypeMismatch = true ∧ reg' = reg.note p key ∧ (reg.find? key).isSome := by
  have hg := getOrCreate_got kind p key make reg world
  rw [h] at hg
  cases hg with
  | mismatch hf => exact .inr ⟨rfl, rfl, by rw [hf]; rfl⟩
  | failed _ hb => exact .inl ⟨isTypeMismatch_of_bringUp hb, rfl⟩

theorem list_of_error [Described ρ] (h : reg.getOrCreate kind p key make world = (.error e, reg', w))
    (scope : Scope) : reg'.list scope = reg.list scope := by
  rcases reg_of_error h with ⟨-, rfl⟩ | ⟨-, rfl, -⟩
  · rfl
  · exact list_note

theorem size_of_error (h : reg.getOrCreate kind p key make world = (.error e, reg', w)) :
    reg'.size = reg.size := by
  rcases reg_of_error h with ⟨-, rfl⟩ | ⟨-, rfl, -⟩
  · rfl
  · exact size_note

/-- The view is kept unless the call failed on a resource that its property does not list yet. -/
theorem sameView_of_error [Described ρ] (h : reg.getOrCreate kind p key make world = (.error e, reg', w)) :
    SameView reg reg' ↔ e.isTypeMismatch = false ∨ key ∈ reg.listed p := by
  rcases reg_of_error h with ⟨he, rfl⟩ | ⟨he, rfl, hf⟩
  · exact ⟨fun _ => .inl he, fun _ => .refl _⟩
  · obtain ⟨f, hf⟩ := Option.isSome_iff_exists.1 hf
    constructor
    · intro hv
      by_contra hn
      exact not_sameView_note hf (fun hm => hn (.inr hm)) hv
    · rintro (hn | hm)
      · rw [he] at hn; cases hn
      · rw [note_eq_self hm]; exact .refl _

theorem find_of_error {σ' β : Type} (h : reg.getOrCreate kind p key make world = (.error e, reg', w))
    (other : Kind ρ σ' β) (scope : Scope) (q : String) :
    findByProperty other scope q reg' = findByProperty other scope q reg ++
      if q = p ∧ e.isTypeMismatch ∧ key ∉ reg.listed p ∧ scope.includes key.scope then
        ((reg.find? key).bind fun f => other.unwrap? f.resource).toList else [] := by
  rcases reg_of_error h with ⟨he, rfl⟩ | ⟨he, rfl, -⟩
  · rw [if_neg fun hq => Bool.false_ne_true (he ▸ hq.2.1), List.append_nil]
  · by_cases hq : q = p
    · subst hq
      simp only [findByProperty_note, he, true_and]
    · rw [findByProperty_note_of_ne hq, if_neg fun h => hq h.1, List.append_nil]

end

/-! ### Properties whose requests all fail -/

section
variable [Held ρ σ]

/-- Whether the call, if it asks for `p`, fails in making or in starting a resource. -/
def Call.Fails (p : String) (s : Registry ρ × σ) : Call ρ σ → Prop
  | getOrCreate kind q key make => q = p →
    ∃ e, (s.1.getOrCreate kind q key make s.2).1 = .error e ∧ e.isTypeMismatch = false
  | closeScope _ | closeAll => True

/-- Every request for `p` in the run fails in making or in starting a resource. -/
def FailsOnly (p : String) : List (Call ρ σ) → Registry ρ × σ → Prop
  | [], _ => True
  | call :: calls, s => call.Fails p s ∧ FailsOnly p calls (call.perform s)

variable {p : String} {s : Registry ρ × σ}

/-- A call that fails on `p`, or is not about it, lists nothing under it. -/
theorem Call.Fails.listed {call : Call ρ σ} (h : call.Fails p s) (hc : s.1.Consistent)
    (hs : s.1.listed p = []) : (call.perform s).1.listed p = [] := by
  cases call with
  | getOrCreate kind q key make =>
    have hg := getOrCreate_got kind q key make s.1 s.2
    simp only [Fails] at h
    rw [perform]
    generalize s.1.getOrCreate kind q key make s.2 = r at hg h
    have hnote (h : q ≠ p) : (s.1.note q key).listed p = [] := by
      rw [listed_note, if_neg fun hq => h hq.1.symm, hs]
    cases hg with
    | found | created =>
      refine hnote fun hq => ?_
      obtain ⟨e, he, -⟩ := h hq
      cases he
    | mismatch =>
      refine hnote fun hq => ?_
      obtain ⟨e, he, hm⟩ := h hq
      cases he; cases hm
    | failed => exact hs
  | closeScope scope =>
    rw [perform_closeScope]
    show ((Target.within scope).takeOut s.1).2.listed p = []
    rw [hc.listed_takeOut, hs, List.filter_nil]
  | closeAll =>
    rw [perform_closeAll]
    show (Target.everything.takeOut s.1).2.listed p = []
    rw [hc.listed_takeOut, hs, List.filter_nil]

theorem FailsOnly.listed {calls : List (Call ρ σ)} (h : FailsOnly p calls s) (hc : s.1.Consistent)
    (hs : s.1.listed p = []) : (performAll calls s).1.listed p = [] := by
  induction calls generalizing s with
  | nil => exact hs
  | cons call calls ih => exact ih h.2 (hc.change (call.change s)) (h.1.listed hc hs)

end

/-! ### The whole view -/

/-- After any calls on an empty registry: a failing call keeps listings and number, keeps the whole
view exactly when it failed in making or in starting or its key was listed under its property, and
else appends the mismatched resource to the searches for that property. A property whose requests all
failed in making or in starting finds nothing. -/
theorem view_of_error [Described ρ] [Held ρ σ] (calls : List (Call ρ σ)) (world : σ) :
    let s := performAll calls (empty, world)
    (∀ {α : Type} (kind : Kind ρ σ α) p key make e reg w,
      s.1.getOrCreate kind p key make s.2 = (.error e, reg, w) →
        (∀ scope, reg.list scope = s.1.list scope) ∧ reg.size = s.1.size ∧
        (SameView s.1 reg ↔ e.isTypeMismatch = false ∨ key ∈ s.1.listed p) ∧
        ∀ {σ' β : Type} (other : Kind ρ σ' β) scope q,
          findByProperty other scope q reg = findByProperty other scope q s.1 ++
            if q = p ∧ e.isTypeMismatch ∧ key ∉ s.1.listed p ∧ scope.includes key.scope then
              ((s.1.find? key).bind fun f => other.unwrap? f.resource).toList else []) ∧
    ∀ p, FailsOnly p calls (empty, world) →
      ∀ {σ' β : Type} (other : Kind ρ σ' β) scope, findByProperty other scope p s.1 = [] := by
  intro s
  refine ⟨fun kind p key make e reg w h => ?_, fun p h σ' β other scope => ?_⟩
  · exact ⟨list_of_error h, size_of_error h, sameView_of_error h, find_of_error h⟩
  · have hl : s.1.listed p = [] := h.listed consistent_empty rfl
    rw [findByProperty_eq, hl]; rfl

section
open Rehearsal

/-- A stand-in of kind `A` is live; the only request for `q` asks for kind `B` under its key and fails. -/
theorem mismatch_answers_property :
    let key : Key := ⟨"o", "n", .root, ∅⟩
    let kind : Kind Player (Stage Daemon) StandIn := Player.standIns "A"
    let start : Registry Player × Stage Daemon := (empty, { runtime := {} })
    let s := performAll [.standIn "A" "p" key {}] start
    let r := s.1.getOrCreate (Player.standIns "B") "q" key (makeStandIn {}) s.2
    r.1 = .error (.typeMismatch key "B") ∧
      findByProperty kind .root "q" s.1 = [] ∧
      (findByProperty kind .root "q" r.2.1).map (·.serial) = [1] ∧
      ¬ SameView s.1 r.2.1 := by
  intro key kind start s r
  have before : findByProperty kind .root "q" s.1 = [] := by decide
  have after : (findByProperty kind .root "q" r.2.1).map (·.serial) = [1] := by
    decide
  refine ⟨rfl, before, after, fun h => ?_⟩
  rw [h.find, before] at after
  cases after

/-- The same mismatch, and a property whose only request failed in starting. -/
theorem view_of_mismatch :
    let key : Key := ⟨"o", "n", .root, ∅⟩
    let kind : Kind Player (Stage Daemon) StandIn := Player.standIns "A"
    let start : Registry Player × Stage Daemon := (empty, { runtime := {} })
    let calls : List (Call Player (Stage Daemon)) :=
      [.standIn "A" "p" key {}, .standIn "A" "r" { key with name := "m" } { failsToStart := true }]
    let s := performAll calls start
    let r := s.1.getOrCreate (Player.standIns "B") "q" key (makeStandIn {}) s.2
    r.1 = .error (.typeMismatch key "B") ∧ ¬ SameView s.1 r.2.1 ∧ FailsOnly "r" calls start ∧
      findByProperty kind .root "r" s.1 = [] := by
  intro key kind start calls s r
  have hr : r = (.error (.typeMismatch key "B"), r.2.1, r.2.2) := rfl
  have hfails : FailsOnly "r" calls start :=
    ⟨fun h => absurd h (by decide), fun _ => ⟨_, rfl, rfl⟩, trivial⟩
  have h := view_of_error calls start.2
  refine ⟨rfl, fun hv => ?_, hfails, h.2 "r" hfails _ _⟩
  rcases (h.1 _ _ _ _ _ _ _ hr).2.2.1.1 hv with hm | hl
  · cases hm
  · exact absurd hl (by decide)

end

end Testbed.Registry
