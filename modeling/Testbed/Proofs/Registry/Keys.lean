import Testbed.Proofs.Registry.Views
import Testbed.Proofs.Value.Text

/-!
# Which creations share a resource

A key holds the text of each creation parameter, so creations share a resource exactly if their parameters have the same
texts (`shared_iff_same_texts`). A text may be that of several values, and then different parameters share one
(`shared_by_different_params`).
-/

namespace Testbed.Registry

variable {owner name : String} {scope : Scope} {P Q : Properties}

theorem Key.ofParams_eq_iff : Key.ofParams owner name scope P = Key.ofParams owner name scope Q ↔
    ∀ n, (P.get? n).map Value.text = (Q.get? n).map Value.text := by
  have hparams : Key.ofParams owner name scope P = Key.ofParams owner name scope Q ↔
      P.map Value.text = Q.map Value.text := by simp [Key.ofParams]
  rw [hparams]
  constructor
  · intro h n
    rw [← Dict.get?_map, h, Dict.get?_map]
  · intro h
    refine Dict.ext_get? fun n => ?_
    rw [Dict.get?_map, Dict.get?_map, h n]

theorem eq_of_same_texts (h : ∀ n v w, P.get? n = some v → Q.get? n = some w → v.Comparable w)
    (htexts : ∀ n, (P.get? n).map Value.text = (Q.get? n).map Value.text) : P = Q := by
  refine Dict.ext_get? fun n => ?_
  have hn := htexts n
  cases hP : P.get? n with
  | none =>
    rw [hP] at hn
    exact (Option.map_eq_none_iff.1 hn.symm).symm
  | some v =>
    rw [hP] at hn
    obtain ⟨w, hQ, htext⟩ := Option.map_eq_some_iff.1 hn.symm
    rw [hQ, (h n v w hP hQ).text_eq_iff.1 htext.symm]

/-- Creations with the same owner, name and scope share a key, and so a resource, exactly if their parameters have the
same texts; where texts tell values apart, exactly if their parameters are the same. -/
theorem shared_iff_same_texts (owner name : String) (scope : Scope) (P Q : Properties) :
    let key := Key.ofParams owner name scope P
    let other := Key.ofParams owner name scope Q
    (key = other ↔ ∀ n, (P.get? n).map Value.text = (Q.get? n).map Value.text) ∧
    ((∀ n v w, P.get? n = some v → Q.get? n = some w → v.Comparable w) → (key = other ↔ P = Q)) ∧
    ∀ (ρ : Type) (reg : Registry ρ) (property : String) (r : ρ), reg.find? other = none →
      ((reg.add property key r).find? other = some ⟨reg.nextId, key, r⟩ ↔
        ∀ n, (P.get? n).map Value.text = (Q.get? n).map Value.text) := by
  intro key other
  have hkey : key = other ↔ ∀ n, (P.get? n).map Value.text = (Q.get? n).map Value.text := Key.ofParams_eq_iff
  refine ⟨hkey, fun h => ⟨fun heq => eq_of_same_texts h (hkey.1 heq), fun heq => ?_⟩, fun ρ reg property r hnone => ?_⟩
  · show Key.ofParams owner name scope P = Key.ofParams owner name scope Q
    rw [heq]
  · rw [← hkey, find?_add, hnone, Option.none_or]
    constructor
    · intro h
      by_contra hne
      rw [if_neg fun heq => hne heq.symm] at h
      cases h
    · intro heq
      rw [if_pos heq.symm]

/-- A creation with one parameter. -/
def sized (v : Value) : Properties := Dict.empty.insert "size" v

theorem sized_inj {v w : Value} : sized v = sized w ↔ v = w := by
  refine ⟨fun h => ?_, congrArg sized⟩
  have hget : (sized v).get? "size" = (sized w).get? "size" := by rw [h]
  rw [sized, sized, Dict.get?_insert, Dict.get?_insert, if_pos rfl, if_pos rfl] at hget
  exact Option.some.inj hget

/-- A number and a string, a list and a string, and lists of different lengths share one key. -/
theorem shared_by_different_params :
    let key v := Key.ofParams "o" "n" .root (sized v)
    (key (.string "1") = key (.int 1) ∧ sized (.string "1") ≠ sized (.int 1)) ∧
    (key (.string "[a]") = key (.list [.string "a"]) ∧ sized (.string "[a]") ≠ sized (.list [.string "a"])) ∧
    key (.list [.string "a, b"]) = key (.list [.string "a", .string "b"]) ∧
      sized (.list [.string "a, b"]) ≠ sized (.list [.string "a", .string "b"]) := by
  intro key
  refine ⟨⟨by decide, ?_⟩, ⟨by decide, ?_⟩, by decide, ?_⟩
  · rw [ne_eq, sized_inj]
    nofun
  · rw [ne_eq, sized_inj]
    nofun
  · rw [ne_eq, sized_inj]
    simp

/-- Lists of a word and a number are told apart by their texts. -/
theorem not_shared_by_legible_sizes :
    let P := sized (.list [.string "mb", .int 5])
    let Q := sized (.list [.string "mb", .int (-5)])
    (∀ n v w, P.get? n = some v → Q.get? n = some w → v.Comparable w) ∧
      Key.ofParams "o" "n" .root P ≠ Key.ofParams "o" "n" .root Q := by
  intro P Q
  have hword : Value.IsWord "mb" := by
    refine ⟨by decide, Value.not_mem_marks_of_all (by decide), by decide, by decide, fun i h => ?_⟩
    exact Value.ofInt_ne (c := 'm') (by decide) (by decide) i h.symm
  have hlegible (i : Int32) : Value.Legible (.list [.string "mb", .int i]) := by
    refine .list fun v hv => ?_
    rcases List.mem_pair.1 hv with rfl | rfl
    · exact .string hword
    · exact .int i
  have hget {x : Value} {n : String} {v : Value} (h : (sized x).get? n = some v) : v = x := by
    rw [sized, Dict.get?_insert] at h
    split at h
    · exact (Option.some.inj h).symm
    · cases h
  have hcomparable : ∀ n v w, P.get? n = some v → Q.get? n = some w → v.Comparable w := by
    intro n v w hv hw
    rw [hget hv, hget hw]
    exact .inr ⟨hlegible 5, hlegible (-5)⟩
  refine ⟨hcomparable, fun hkey => ?_⟩
  have hsame : P = Q := ((shared_iff_same_texts "o" "n" .root P Q).2.1 hcomparable).1 hkey
  simp [P, Q, sized_inj] at hsame

end Testbed.Registry
