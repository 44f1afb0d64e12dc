import Testbed.Text.Blank
import Testbed.Proofs.Text.Decimal
import Mathlib.Data.List.TakeWhile

/-!
# Outer blanks

Trimming stops at the first character that is not blank, so a text keeps all of its characters exactly if it has
no blank at either end.
-/

namespace Testbed.Text

variable {c : Char} {cs ds : List Char}

theorem dropBlank_sublist (cs : List Char) : (dropBlank cs).Sublist cs := (List.dropWhile_suffix _).sublist

theorem dropBlankEnd_sublist (cs : List Char) : (dropBlankEnd cs).Sublist cs := by
  have h := (dropBlank_sublist cs.reverse).reverse
  rwa [List.reverse_reverse] at h

theorem trimChars_sublist (cs : List Char) : (trimChars cs).Sublist cs :=
  (dropBlankEnd_sublist _).trans (dropBlank_sublist cs)

theorem dropBlank_eq_self_iff : dropBlank cs = cs ↔ ∀ c ∈ cs.head?, isBlank c = false := by
  cases cs with
  | nil => simp [dropBlank]
  | cons c cs =>
    cases hc : isBlank c with
    | true =>
      refine iff_of_false (fun h => ?_) (by simp [hc])
      have hdropped : dropBlank (c :: cs) = dropBlank cs := List.dropWhile_cons_of_pos hc
      have hlength := (dropBlank_sublist cs).length_le
      rw [← hdropped, h, List.length_cons] at hlength
      omega
    | false => simp [dropBlank, hc]

theorem dropBlankEnd_eq_self_iff : dropBlankEnd cs = cs ↔ ∀ c ∈ cs.getLast?, isBlank c = false := by
  have h : dropBlankEnd cs = cs ↔ dropBlank cs.reverse = cs.reverse := by
    rw [dropBlankEnd, dropBlank, List.reverse_eq_iff]
  rw [h, dropBlank_eq_self_iff, List.head?_reverse]

/-- Blanks are dropped from the end up to the last character that is none. -/
theorem dropBlankEnd_append_cons (hc : isBlank c = false) :
    dropBlankEnd (cs ++ c :: ds) = cs ++ c :: dropBlankEnd ds := by
  have hstop : (c :: cs.reverse).dropWhile isBlank = c :: cs.reverse := List.dropWhile_cons_of_neg (by simp [hc])
  have hsplit : (cs ++ c :: ds).reverse = ds.reverse ++ c :: cs.reverse := by simp
  rw [dropBlankEnd, dropBlankEnd, hsplit, List.dropWhile_append, hstop]
  split
  · rename_i hempty
    rw [List.isEmpty_iff] at hempty
    simp [hempty]
  · simp

theorem dropBlankEnd_cons (hc : isBlank c = false) : dropBlankEnd (c :: ds) = c :: dropBlankEnd ds := by
  rw [← List.nil_append (c :: ds), dropBlankEnd_append_cons hc, List.nil_append]

/-- Blanks are dropped from the start up to the first character that is none. -/
theorem dropBlank_append_cons (hc : isBlank c = false) : dropBlank (cs ++ c :: ds) = dropBlank cs ++ c :: ds := by
  have hstop : (c :: ds).dropWhile isBlank = c :: ds := List.dropWhile_cons_of_neg (by simp [hc])
  rw [dropBlank, dropBlank, List.dropWhile_append, hstop]
  split
  · rename_i hempty
    rw [List.isEmpty_iff.1 hempty, List.nil_append]
  · rfl

theorem dropBlank_append_of_blank (h : ∀ c ∈ cs, isBlank c = true) : dropBlank (cs ++ ds) = dropBlank ds :=
  List.dropWhile_append_of_pos h

theorem dropBlankEnd_append_of_blank (h : ∀ c ∈ ds, isBlank c = true) : dropBlankEnd (cs ++ ds) = dropBlankEnd cs := by
  have hdrop : dropBlank (ds.reverse ++ cs.reverse) = dropBlank cs.reverse :=
    dropBlank_append_of_blank fun c hc => h c (List.mem_reverse.1 hc)
  rw [dropBlank, dropBlank] at hdrop
  rw [dropBlankEnd, dropBlankEnd, List.reverse_append, hdrop]

theorem trimChars_append_of_blank (h : ∀ c ∈ ds, isBlank c = true) : trimChars (cs ++ ds) = trimChars cs := by
  have hdrop : dropBlank (cs ++ ds) = if (dropBlank cs).isEmpty then [] else dropBlank cs ++ ds := by
    rw [dropBlank, dropBlank, List.dropWhile_append, List.dropWhile_eq_nil_iff.2 h]
  rw [trimChars, trimChars, hdrop]
  split
  · rename_i hempty
    rw [List.isEmpty_iff.1 hempty]
  · exact dropBlankEnd_append_of_blank h

/-- Nothing is trimmed off. -/
structure IsTrimmed (cs : List Char) : Prop where
  start : ∀ c ∈ cs.head?, isBlank c = false
  finish : ∀ c ∈ cs.getLast?, isBlank c = false

theorem trimChars_eq_self_iff : trimChars cs = cs ↔ IsTrimmed cs := by
  constructor
  · intro h
    have hstart : dropBlank cs = cs := by
      refine (dropBlank_sublist cs).eq_of_length_le (List.Sublist.length_le ?_)
      have hrest := dropBlankEnd_sublist (dropBlank cs)
      rwa [← trimChars, h] at hrest
    rw [trimChars, hstart] at h
    exact ⟨dropBlank_eq_self_iff.1 hstart, dropBlankEnd_eq_self_iff.1 h⟩
  · intro h
    rw [trimChars, dropBlank_eq_self_iff.2 h.start, dropBlankEnd_eq_self_iff.2 h.finish]

theorem trim_eq_self {s : String} (h : IsTrimmed s.toList) : trim s = s := by
  rw [trim, trimChars_eq_self_iff.2 h, String.ofList_toList]

theorem isTrimmed_of_ends {d : Char} (hc : isBlank c = false) (hd : isBlank d = false) :
    IsTrimmed (c :: (cs ++ [d])) where
  start := by simpa using hc
  finish := by simpa [List.getLast?_cons] using hd

/-- What is trimmed off is blank. -/
theorem exists_trimChars (cs : List Char) : ∃ before after, cs = before ++ trimChars cs ++ after ∧
    (∀ c ∈ before, isBlank c = true) ∧ ∀ c ∈ after, isBlank c = true := by
  have hend (ds : List Char) : ds = dropBlankEnd ds ++ (ds.reverse.takeWhile isBlank).reverse := by
    rw [dropBlankEnd, ← List.reverse_append, List.takeWhile_append_dropWhile, List.reverse_reverse]
  refine ⟨cs.takeWhile isBlank, ((dropBlank cs).reverse.takeWhile isBlank).reverse, ?_, ?_, ?_⟩
  · rw [List.append_assoc, trimChars, ← hend, dropBlank, List.takeWhile_append_dropWhile]
  · exact fun c hc => List.mem_takeWhile_imp hc
  · exact fun c hc => List.mem_takeWhile_imp (List.mem_reverse.1 hc)

theorem IsTrimmed.trimChars_append {before after : List Char} (h : IsTrimmed cs)
    (hbefore : ∀ c ∈ before, isBlank c = true) (hafter : ∀ c ∈ after, isBlank c = true) :
    trimChars (before ++ cs ++ after) = cs := by
  rw [trimChars_append_of_blank hafter, trimChars, dropBlank_append_of_blank hbefore, ← trimChars,
    trimChars_eq_self_iff.2 h]

theorem isBlank_eq_false_of_isDigit (h : c.isDigit = true) : isBlank c = false := by
  have hrange := toNat_of_isDigit h
  simp only [isBlank]
  simp
  omega

end Testbed.Text
