import Testbed.CommandLine
import Testbed.Proofs.Outcome
import Testbed.Proofs.Text.Decimal

/-!
# Options and their values

Arguments of the form `--name=value` give a level's options their values, and what they do not give may come from the
environment: an option has the value it was given, else that of its variable (`value?_addEnvironment`). A level is read
unless one of these values cannot be used (`exists_addEnvironment_iff`).
-/

namespace Testbed.CommandLine

open Outcome

variable {level : Level} {o : Opt} {os : List Opt} {vars : String → Option String} {r r' : Reading}
  {name v : String} {rest : List String}

/-- A level of options that all take a value and stand beside each other, and of nothing else. -/
structure Level.IsPlain (level : Level) : Prop where
  commands : level.commands = []
  needs : level.needs = 0
  names : (level.options.map Opt.name).Nodup
  options : ∀ o ∈ level.options, o.shape ≠ .flag ∧ o.excludes = none ∧ '=' ∉ o.name.toList ∧ o.name ≠ "help"

theorem find?_of_mem (hnodup : (os.map Opt.name).Nodup) (ho : o ∈ os) : os.find? (fun p => p.name = o.name) = some o := by
  induction os with
  | nil => cases ho
  | cons p os ih =>
    obtain ⟨hfresh, hnodup⟩ := List.nodup_cons.1 hnodup
    rcases List.mem_cons.1 ho with rfl | ho
    · simp
    · have hne : p.name ≠ o.name := fun hsame => hfresh (hsame ▸ List.mem_map_of_mem ho)
      rw [List.find?_cons_of_neg (by simp [hne]), ih hnodup ho]

theorem readNumber?_ofNat (bound n : Nat) : readNumber? bound (Text.ofNat n) = if n < bound then some n else none := by
  rw [← Text.readUnsigned?_ofNat, readNumber?]
  split
  · rename_i digits h
    have hminus : '-' ∈ (Text.ofNat n).toList := h ▸ List.mem_cons_self
    exact absurd (Text.isDigit_of_mem_ofNat hminus) (by decide)
  · rfl

/-- An argument that gives an option its value. -/
def longArgument (name v : String) : String := "--" ++ (name ++ "=" ++ v)

namespace Reading

/-! ### Values given -/

theorem value?_snoc : value? { r with given := r.given ++ [(o.name, v)] } name =
    if o.name = name then some v else r.value? name := by
  by_cases h : o.name = name <;> simp [value?, h]

theorem isGiven_iff : r.isGiven name = true ↔ (r.value? name).isSome := by
  simp [isGiven, value?]

theorem isGiven_eq_false_iff : r.isGiven name = false ↔ r.value? name = none := by
  rw [← Bool.not_eq_true, isGiven_iff]
  simp

theorem give_eq (h : r.isGiven o.name = false) : give o v r = match o.shape.fault? v with
    | some fault => .error fault
    | none => .ok { r with given := r.given ++ [(o.name, v)] } :=
  if_neg (by simp [h])

/-! ### Arguments -/

theorem splitLong_append (h : '=' ∉ name.toList) : splitLong (name ++ "=" ++ v) = (name, some v) := by
  have hchars : (name ++ "=" ++ v).toList = name.toList ++ '=' :: v.toList := by simp
  have hsplit : Text.splitOnce? '=' (name ++ "=" ++ v) = some (name, v) := by
    rw [Text.splitOnce?, hchars, Text.splitOnceChars?_append_cons h]
    simp
  rw [splitLong, hsplit]

theorem toList_longArgument (name v : String) :
    (longArgument name v).toList = '-' :: '-' :: (name ++ "=" ++ v).toList := by
  rw [longArgument, String.toList_append]
  rfl

theorem take_longArgument (hlevel : level.IsPlain) (ho : o ∈ level.options) (hpending : r.pending = none)
    (honly : r.onlyOperands = false) : take level (longArgument o.name v) r = give o v r := by
  obtain ⟨hshape, -, hname, hhelp⟩ := hlevel.options o ho
  have hne : (o.name ++ "=" ++ v).toList ≠ [] := by simp
  obtain ⟨c, cs, hcs⟩ := List.exists_cons_of_ne_nil hne
  have hlong : long level o.name (some v) r = give o v r := by
    rw [long, if_neg hhelp, find?_of_mem hlevel.names ho]
    cases hs : o.shape with
    | flag => exact absurd hs hshape
    | text | path | number => simp [settle, hpending, bind, Except.bind]
  have hsplit : splitLong (String.ofList (c :: cs)) = (o.name, some v) := by
    rw [← hcs, String.ofList_toList, splitLong_append hname]
  rw [take, if_neg (by simp [honly]), toList_longArgument, hcs]
  simp only [hsplit, hlong]

/-- Each option at most once, with a value it can take: all of them are read. -/
theorem scan_longArguments {ps : List (String × String)} (hlevel : level.IsPlain)
    (hps : ∀ p ∈ ps, ∃ o ∈ level.options, o.name = p.1 ∧ o.shape.fault? p.2 = none)
    (hnodup : (ps.map Prod.fst).Nodup) (hnew : ∀ p ∈ ps, r.value? p.1 = none) (hpending : r.pending = none)
    (honly : r.onlyOperands = false) : scan level (ps.map fun p => longArgument p.1 p.2) r =
      .ok ({ r with given := r.given ++ ps }, none) := by
  induction ps generalizing r with
  | nil => simp [scan]
  | cons p ps ih =>
    obtain ⟨name, v⟩ := p
    rw [List.map_cons, List.nodup_cons] at hnodup
    rw [List.forall_mem_cons] at hps hnew
    obtain ⟨⟨o, ho, hname, hv⟩, hps⟩ := hps
    dsimp only at hname hv
    subst hname
    have hgive : give o v r = .ok { r with given := r.given ++ [(o.name, v)] } := by
      rw [give_eq (isGiven_eq_false_iff.2 hnew.1), hv]
    have hrest : ∀ p ∈ ps, value? { r with given := r.given ++ [(o.name, v)] } p.1 = none := by
      intro p hp
      have hne : o.name ≠ p.1 := fun hsame => hnodup.1 (List.mem_map.2 ⟨p, hp, hsame.symm⟩)
      rw [value?_snoc, if_neg hne, hnew.2 p hp]
    rw [List.map_cons, scan, hlevel.commands]
    simp only [take_longArgument hlevel ho hpending honly, hgive, bind, Except.bind]
    rw [ih hps hnodup.2 hrest hpending honly]
    simp

/-! ### The environment -/

/-- What an option that is not given takes from the environment can be used. -/
def IsUsable (vars : String → Option String) (r : Reading) (o : Opt) : Prop :=
  r.value? o.name = none → ∀ v, o.environment.bind vars = some v → o.shape.fault? v = none

theorem addEnvironment_cons : addEnvironment vars (o :: os) r =
    match (r.value? o.name), o.environment.bind vars with
    | none, some v =>
      match o.shape.fault? v with
      | some fault => .error fault
      | none => addEnvironment vars os { r with given := r.given ++ [(o.name, v)] }
    | _, _ => addEnvironment vars os r := by
  rw [addEnvironment]
  cases hv : o.environment.bind vars with
  | none => cases r.value? o.name <;> rfl
  | some v =>
    cases hgiven : r.value? o.name with
    | some w =>
      have hisGiven : r.isGiven o.name = true := isGiven_iff.2 (by rw [hgiven]; rfl)
      simp [hisGiven]
    | none =>
      have hisGiven := isGiven_eq_false_iff.2 hgiven
      simp only [hisGiven, give_eq hisGiven]
      cases o.shape.fault? v <;> rfl

theorem value?_addEnvironment (hnodup : (os.map Opt.name).Nodup) (h : addEnvironment vars os r = .ok r') :
    (∀ o ∈ os, r'.value? o.name = (r.value? o.name).or (o.environment.bind vars)) ∧
      ∀ name ∉ os.map Opt.name, r'.value? name = r.value? name := by
  induction os generalizing r with
  | nil =>
    cases h
    exact ⟨nofun, fun _ _ => rfl⟩
  | cons o os ih =>
    obtain ⟨hfresh, hnodup⟩ := List.nodup_cons.1 hnodup
    -- what the rest is read from: it has the value of the first option already
    obtain ⟨s, hs, hfirst, hothers⟩ : ∃ s, addEnvironment vars os s = .ok r' ∧
        s.value? o.name = (r.value? o.name).or (o.environment.bind vars) ∧
        ∀ name ≠ o.name, s.value? name = r.value? name := by
      rw [addEnvironment_cons] at h
      cases hgiven : r.value? o.name with
      | some w => exact ⟨r, by simpa [hgiven] using h, by simp [hgiven], fun _ _ => rfl⟩
      | none =>
        cases hv : o.environment.bind vars with
        | none => exact ⟨r, by simpa [hgiven, hv] using h, by simp [hgiven], fun _ _ => rfl⟩
        | some v =>
          simp only [hgiven, hv] at h
          cases hfault : o.shape.fault? v with
          | some fault => simp [hfault] at h
          | none =>
            simp only [hfault] at h
            refine ⟨_, h, by simp [value?_snoc], fun name hname => ?_⟩
            rw [value?_snoc, if_neg hname.symm]
    obtain ⟨hvalues, hkept⟩ := ih hnodup hs
    refine ⟨List.forall_mem_cons.2 ⟨?_, fun p hp => ?_⟩, fun name hname => ?_⟩
    · rw [hkept _ hfresh, hfirst]
    · have hne : p.name ≠ o.name := fun hsame => hfresh (hsame ▸ List.mem_map_of_mem hp)
      rw [hvalues p hp, hothers _ hne]
    · rw [List.map_cons, List.mem_cons, not_or] at hname
      rw [hkept _ hname.2, hothers _ hname.1]

theorem exists_addEnvironment_iff (hnodup : (os.map Opt.name).Nodup) :
    (∃ r', addEnvironment vars os r = .ok r') ↔ ∀ o ∈ os, IsUsable vars r o := by
  induction os generalizing r with
  | nil => exact iff_of_true ⟨r, rfl⟩ nofun
  | cons o os ih =>
    obtain ⟨hfresh, hnodup⟩ := List.nodup_cons.1 hnodup
    rw [List.forall_mem_cons, addEnvironment_cons]
    cases hgiven : r.value? o.name with
    | some w => simpa [IsUsable, hgiven] using ih hnodup
    | none =>
      cases hv : o.environment.bind vars with
      | none => simpa [IsUsable, hgiven, hv] using ih hnodup
      | some v =>
        cases hfault : o.shape.fault? v with
        | some fault => simp [IsUsable, hgiven, hv, hfault]
        | none =>
          have hothers : ∀ p ∈ os, (IsUsable vars { r with given := r.given ++ [(o.name, v)] } p ↔ IsUsable vars r p) := by
            intro p hp
            have hne : o.name ≠ p.name := fun hsame => hfresh (hsame ▸ List.mem_map_of_mem hp)
            rw [IsUsable, IsUsable, value?_snoc, if_neg hne]
          have hrest := (ih hnodup).trans (forall₂_congr hothers)
          simpa [IsUsable, hgiven, hv, hfault] using hrest

/-! ### A level as a whole -/

theorem check_eq_ok (hlevel : level.IsPlain) (hasCommand : Bool) : check level hasCommand r = .ok () := by
  have hexcludes : level.options.any (fun o => r.isGiven o.name && (o.excludes.map r.isGiven).getD false) = false := by
    rw [List.any_eq_false]
    intro o ho
    rw [(hlevel.options o ho).2.1]
    simp
  rw [check, hlevel.commands, hlevel.needs, hexcludes]
  simp

theorem finish_eq (hlevel : level.IsPlain) (hasCommand : Bool) (hpending : r.pending = none) :
    r.finish level vars hasCommand = addEnvironment vars level.options r := by
  simp only [finish, settle, hpending, check_eq_ok hlevel, bind, Except.bind]
  cases addEnvironment vars level.options r <;> rfl

end Reading

/-- A plain level given values that its options can take: what comes of the arguments alone is what the environment is
added to. -/
theorem readAll_longArguments {ps : List (String × String)} (hlevel : level.IsPlain)
    (hps : ∀ p ∈ ps, ∃ o ∈ level.options, o.name = p.1 ∧ o.shape.fault? p.2 = none)
    (hnodup : (ps.map Prod.fst).Nodup) : readAll level vars (ps.map fun p => longArgument p.1 p.2) =
      Reading.addEnvironment vars level.options { given := ps } := by
  have hscan := Reading.scan_longArguments (r := {}) hlevel hps hnodup (fun _ _ => rfl) rfl rfl
  simp only [readAll, hscan, bind, Except.bind]
  exact Reading.finish_eq hlevel false rfl

end Testbed.CommandLine
