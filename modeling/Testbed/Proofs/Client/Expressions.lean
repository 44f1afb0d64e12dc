import Testbed.Client.Lazy
import Mathlib.Data.List.Basic

/-!
# Which expressions are placeholders

The expressions that name a key are the placeholder given out for it and this without its wrapper, and no other
(`placeholderKey?_eq_some_iff`). A wrapper counts only if it is whole, and it is taken off once: whatever a key holds,
be it braces or a placeholder of its own, stays in it.
-/

namespace Testbed.Client

variable {e key : String}

theorem unwrapped_wrapped (inner : String) : unwrapped ("$\x7b" ++ inner ++ "\x7d") = inner := by
  have hopen : Text.dropPrefix? "$\x7b" ("$\x7b" ++ inner ++ "\x7d") = some (inner ++ "\x7d") := by
    rw [Text.dropPrefix?_eq_some, String.append_assoc]
  have hclose : (inner ++ "\x7d").toList = inner.toList ++ ['\x7d'] := String.toList_append
  simp [unwrapped, hopen, hclose]

theorem placeholder_eq (key : String) : placeholder key = "$\x7b" ++ (placeholderStem ++ key) ++ "\x7d" := by
  simp only [placeholder, String.append_assoc]

/-- All that is taken off is a whole wrapper. -/
theorem eq_wrapped_or (e : String) : e = "$\x7b" ++ unwrapped e ++ "\x7d" ∨ unwrapped e = e := by
  unfold unwrapped
  split
  · rename_i cs hcs
    obtain ⟨rest, hrest, rfl⟩ := Option.map_eq_some_iff.1 hcs
    split
    · rename_i hlast
      left
      have hclosed : rest = String.ofList rest.toList.dropLast ++ "\x7d" := by
        rw [← String.toList_inj, String.toList_append, String.toList_ofList]
        exact (List.dropLast_append_getLast? _ hlast).symm
      rw [Text.dropPrefix?_eq_some.1 hrest, String.append_assoc, ← hclosed]
    · exact .inr rfl
  · exact .inr rfl

theorem unwrapped_stem (key : String) : unwrapped (placeholderStem ++ key) = placeholderStem ++ key := by
  rcases eq_wrapped_or (placeholderStem ++ key) with h | h
  · -- the stem does not begin as a wrapper does
    rw [← String.toList_inj] at h
    simp [placeholderStem] at h
  · exact h

theorem placeholderKey?_eq_some_iff :
    placeholderKey? e = some key ↔ key ≠ "" ∧ (e = placeholder key ∨ e = placeholderStem ++ key) := by
  have hkey : placeholderKey? e = some key ↔ key ≠ "" ∧ unwrapped e = placeholderStem ++ key := by
    rw [placeholderKey?, Option.filter_eq_some_iff, Text.dropPrefix?_eq_some]
    simp [and_comm]
  rw [hkey]
  refine and_congr_right fun _ => ⟨fun h => ?_, fun h => ?_⟩
  · rcases eq_wrapped_or e with he | he
    · left
      rw [he, h, placeholder_eq]
    · exact .inr (he.symm.trans h)
  · rcases h with rfl | rfl
    · rw [placeholder_eq, unwrapped_wrapped]
    · exact unwrapped_stem key

theorem placeholderKey?_placeholder (h : key ≠ "") : placeholderKey? (placeholder key) = some key :=
  placeholderKey?_eq_some_iff.2 ⟨h, .inl rfl⟩

theorem placeholder_injective : Function.Injective placeholder := by
  intro a b h
  simpa [placeholder, ← String.toList_inj] using h

/-- An expression names just the key whose placeholder it is, wrapped or bare, so each placeholder is for one key. -/
theorem placeholder_tells_key (e key : String) :
    (placeholderKey? e = some key ↔ key ≠ "" ∧ (e = placeholder key ∨ e = placeholderStem ++ key)) ∧
    (key ≠ "" → placeholderKey? (placeholder key) = some key) ∧
    Function.Injective placeholder :=
  ⟨placeholderKey?_eq_some_iff, placeholderKey?_placeholder, placeholder_injective⟩

/-- A key with braces, a dollar sign and the stem in it. -/
theorem placeholder_tells_nested_key :
    let key := "auto.test.resources.$\x7bdb\x7d"
    key ≠ "" ∧ placeholder key = "$\x7bauto.test.resources.auto.test.resources.$\x7bdb\x7d\x7d" ∧
      placeholderKey? (placeholder key) = some key ∧ placeholderKey? (placeholderStem ++ key) = some key ∧
      placeholderKey? "$\x7bauto.test.resources.db" = none := by
  intro key
  have hne : key ≠ "" := by decide
  obtain ⟨hbare, hwrapped, -⟩ := placeholder_tells_key (placeholderStem ++ key) key
  exact ⟨hne, by decide, hwrapped hne, hbare.2 ⟨hne, .inr rfl⟩, by decide⟩

end Testbed.Client
