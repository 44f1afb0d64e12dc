/-!
# Cutting text at a character

`splitOn` cuts at every occurrence and always yields at least one piece; `splitOnce?` cuts at the
first one only; `dropPrefix?` removes a literal beginning.
-/

namespace Testbed.Text

def splitChars (sep : Char) : List Char → List (List Char)
  | [] => [[]]
  | c :: cs =>
    if c = sep then [] :: splitChars sep cs
    else match splitChars sep cs with
      | [] => [[c]]
      | piece :: pieces => (c :: piece) :: pieces

def splitOn (sep : Char) (s : String) : List String :=
  (splitChars sep s.toList).map String.ofList

/-- What stands before the first `sep`. -/
def upTo (sep : Char) (s : String) : String :=
  String.ofList (s.toList.takeWhile (· ≠ sep))

def splitOnceChars? (sep : Char) : List Char → Option (List Char × List Char)
  | [] => none
  | c :: cs =>
    if c = sep then some ([], cs)
    else (splitOnceChars? sep cs).map fun (before, after) => (c :: before, after)

/-- The text before and after the first `sep`. -/
def splitOnce? (sep : Char) (s : String) : Option (String × String) :=
  (splitOnceChars? sep s.toList).map fun (before, after) =>
    (String.ofList before, String.ofList after)

def dropPrefixChars? : List Char → List Char → Option (List Char)
  | [], cs => some cs
  | _ :: _, [] => none
  | p :: ps, c :: cs => if p = c then dropPrefixChars? ps cs else none

/-- What follows `start` in `s`, if `s` begins with it. -/
def dropPrefix? (start s : String) : Option String :=
  (dropPrefixChars? start.toList s.toList).map String.ofList

theorem dropPrefixChars?_eq_some {p cs r : List Char} :
    dropPrefixChars? p cs = some r ↔ cs = p ++ r := by
  induction p generalizing cs with
  | nil => simp [dropPrefixChars?]
  | cons a p ih =>
    cases cs with
    | nil => simp [dropPrefixChars?]
    | cons c cs =>
      by_cases h : a = c
      · simp [dropPrefixChars?, h, ih]
      · simp [dropPrefixChars?, h, Ne.symm h]

theorem dropPrefix?_eq_some {p s r : String} : dropPrefix? p s = some r ↔ s = p ++ r := by
  simp only [dropPrefix?, Option.map_eq_some_iff, dropPrefixChars?_eq_some]
  constructor
  · rintro ⟨x, hx, rfl⟩; simp [← String.toList_inj, hx]
  · rintro rfl; exact ⟨r.toList, by simp, by simp⟩

theorem dropPrefix?_eq_none {p s : String} : dropPrefix? p s = none ↔ ∀ r, s ≠ p ++ r := by
  rw [Option.eq_none_iff_forall_ne_some]
  exact forall_congr' fun r => not_congr dropPrefix?_eq_some

theorem takeWhile_ne_eq_iff {sep : Char} {piece cs : List Char} :
    cs.takeWhile (· ≠ sep) = piece ↔ sep ∉ piece ∧ (cs = piece ∨ ∃ rest, cs = piece ++ sep :: rest) := by
  induction cs generalizing piece with
  | nil => cases piece <;> simp
  | cons c cs ih =>
    by_cases hc : c = sep
    · have hstop : (c :: cs).takeWhile (· ≠ sep) = [] := by simp [hc]
      cases piece with
      | nil => simp [hc]
      | cons d piece => grind
    · have hstep : (c :: cs).takeWhile (· ≠ sep) = c :: cs.takeWhile (· ≠ sep) := by simp [hc]
      cases piece with
      | nil => simp [hc]
      | cons d piece => grind

theorem upTo_eq_iff {sep : Char} {s piece : String} : upTo sep s = piece ↔
    sep ∉ piece.toList ∧ (s = piece ∨ ∃ rest, s = piece ++ (String.singleton sep ++ rest)) := by
  rw [upTo, ← String.toList_inj, String.toList_ofList, takeWhile_ne_eq_iff]
  refine and_congr_right fun _ => or_congr String.toList_inj ⟨?_, ?_⟩
  · rintro ⟨rest, h⟩
    exact ⟨String.ofList rest, by simp [← String.toList_inj, h]⟩
  · rintro ⟨rest, rfl⟩
    exact ⟨rest.toList, by simp⟩

/-- The first separator is the one behind what holds none. -/
theorem splitOnceChars?_append_cons {sep : Char} {before after : List Char} (h : sep ∉ before) :
    splitOnceChars? sep (before ++ sep :: after) = some (before, after) := by
  induction before with
  | nil => simp [splitOnceChars?]
  | cons c before ih =>
    rw [List.mem_cons, not_or] at h
    rw [List.cons_append, splitOnceChars?, if_neg (Ne.symm h.1), ih h.2, Option.map_some]

theorem splitOnce?_append {sep : Char} {before : String} (h : sep ∉ before.toList) (after : String) :
    splitOnce? sep (before ++ (String.singleton sep ++ after)) = some (before, after) := by
  have hchars : (before ++ (String.singleton sep ++ after)).toList = before.toList ++ sep :: after.toList := by simp
  rw [splitOnce?, hchars, splitOnceChars?_append_cons h]
  simp

theorem splitChars_ne_nil (sep : Char) (cs : List Char) : splitChars sep cs ≠ [] := by
  cases cs with
  | nil => simp [splitChars]
  | cons c cs => unfold splitChars; split <;> (try split) <;> simp

theorem splitChars_cons_of_ne {sep c : Char} (h : c ≠ sep) (cs : List Char) :
    ∃ piece pieces, splitChars sep cs = piece :: pieces ∧
      splitChars sep (c :: cs) = (c :: piece) :: pieces := by
  obtain ⟨piece, pieces, hs⟩ := List.exists_cons_of_ne_nil (splitChars_ne_nil sep cs)
  exact ⟨piece, pieces, hs, by simp [splitChars, h, hs]⟩

/-- No piece holds the character at which a text is cut. -/
theorem not_mem_of_mem_splitChars {sep : Char} {piece cs : List Char}
    (h : piece ∈ splitChars sep cs) : sep ∉ piece := by
  induction cs generalizing piece with
  | nil => simp_all [splitChars]
  | cons c cs ih =>
    by_cases hc : c = sep
    · rw [splitChars, if_pos hc] at h
      rcases List.mem_cons.1 h with rfl | h
      · exact List.not_mem_nil
      · exact ih h
    · obtain ⟨first, pieces, hs, hcs⟩ := splitChars_cons_of_ne hc cs
      rw [hcs] at h
      rcases List.mem_cons.1 h with rfl | h
      · exact fun hm => (List.mem_cons.1 hm).elim (fun e => hc e.symm)
          (ih (hs ▸ List.mem_cons_self ..))
      · exact ih (hs ▸ List.mem_cons_of_mem _ h)

theorem splitChars_of_not_mem {sep : Char} {piece : List Char} (h : sep ∉ piece) :
    splitChars sep piece = [piece] := by
  induction piece with
  | nil => rfl
  | cons c piece ih =>
    rw [List.mem_cons, not_or] at h
    rw [splitChars, if_neg (Ne.symm h.1), ih h.2]

/-- Texts on both sides of a separator are cut each by itself. -/
theorem splitChars_append_sep (sep : Char) (cs rest : List Char) :
    splitChars sep (cs ++ sep :: rest) = splitChars sep cs ++ splitChars sep rest := by
  induction cs with
  | nil => simp [splitChars]
  | cons c cs ih =>
    by_cases hc : c = sep
    · rw [List.cons_append, splitChars, if_pos hc, splitChars, if_pos hc, ih, List.cons_append]
    · obtain ⟨piece, pieces, hs, hcs⟩ := splitChars_cons_of_ne hc cs
      rw [hs] at ih
      rw [hcs, List.cons_append, splitChars, if_neg hc, ih]
      rfl

theorem splitChars_append_cons {sep : Char} {piece rest : List Char} (h : sep ∉ piece) :
    splitChars sep (piece ++ sep :: rest) = piece :: splitChars sep rest := by
  rw [splitChars_append_sep, splitChars_of_not_mem h, List.singleton_append]

/-- Pieces that do not hold the separator are the pieces of the text they are joined to. -/
theorem splitChars_intercalate {sep : Char} {pieces : List (List Char)} (hne : pieces ≠ [])
    (h : ∀ piece ∈ pieces, sep ∉ piece) : splitChars sep ([sep].intercalate pieces) = pieces := by
  induction pieces with
  | nil => exact absurd rfl hne
  | cons piece pieces ih =>
    have hpiece := h piece (List.mem_cons_self ..)
    cases pieces with
    | nil => simpa [List.intercalate] using splitChars_of_not_mem hpiece
    | cons next pieces =>
      have hrest := ih nofun fun q hq => h q (List.mem_cons_of_mem _ hq)
      rw [List.intercalate_cons_cons, List.append_assoc, List.singleton_append, splitChars_append_cons hpiece, hrest]

end Testbed.Text
