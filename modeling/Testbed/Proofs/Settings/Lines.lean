import Testbed.Proofs.Text.Blank
import Testbed.Settings

/-!
# Lines of a settings file

A line has an entry if there is a separator in it that no backslash precedes. The key is what stands before, without
outer blanks and without the backslashes, so there are many ways to write it (`Spells`), and all of them are read as the
key (`entryOf?_of_key`).
-/

namespace Testbed.Settings

open Text

/-- The second text is the first with a backslash before some of its characters, at least before those that are not
`bare`. -/
inductive Spells (bare : Char → Prop) : List Char → List Char → Prop
  | nil : Spells bare [] []
  | plain {c cs ds} (hc : bare c) (h : Spells bare cs ds) : Spells bare (c :: cs) (c :: ds)
  | escaped {c cs ds} (h : Spells bare cs ds) : Spells bare (c :: cs) ('\\' :: c :: ds)

def BareInValue (c : Char) : Prop := c ≠ '\\'

def BareInKey (c : Char) : Prop := c ≠ '\\' ∧ c ≠ '=' ∧ c ≠ ':'

instance : DecidablePred BareInValue := fun c => inferInstanceAs (Decidable (c ≠ '\\'))

instance : DecidablePred BareInKey := fun c => inferInstanceAs (Decidable (c ≠ '\\' ∧ c ≠ '=' ∧ c ≠ ':'))

def AllBlank (cs : List Char) : Prop := ∀ c ∈ cs, isBlank c = true

instance : DecidablePred AllBlank := List.decidableBAll fun c => isBlank c = true

def IsSeparator (c : Char) : Prop := c = '=' ∨ c = ':'

variable {bare : Char → Prop} {key : String} {c sep : Char} {cs ds line name k v lead gap rest : List Char}

/-! ### Entries -/

/-- The entry of a line, if it is one. -/
def entryOf? (line : List Char) : Option (String × String) :=
  if isComment (trimChars line) then none else splitEntry? (trimChars line)

theorem entries_eq (text : String) : entries text = (splitChars '\n' text.toList).filterMap entryOf? := rfl

theorem entries_empty : entries "" = [] := by decide

theorem entries_append_newline (first rest : String) :
    entries (first ++ "\n" ++ rest) = entries first ++ entries rest := by
  have htext : (first ++ "\n" ++ rest).toList = first.toList ++ '\n' :: rest.toList := by simp
  rw [entries_eq, htext, splitChars_append_sep, List.filterMap_append, ← entries_eq, ← entries_eq]

theorem entries_line {text : String} (h : '\n' ∉ text.toList) : entries text = (entryOf? text.toList).toList := by
  rw [entries_eq, splitChars_of_not_mem h]
  cases hentry : entryOf? text.toList <;> simp [hentry]

/-! ### Backslashes -/

/-- Neither of the first two cases of unescaping is left for the last one. -/
theorem ne_backslash (hpair : ∀ d ds, c = '\\' → cs = d :: ds → False) (hlast : c = '\\' → cs = [] → False) :
    c ≠ '\\' := by
  rintro rfl
  cases cs with
  | nil => exact hlast rfl rfl
  | cons d ds => exact hpair d ds rfl rfl

theorem splitKey?_cons (hc : BareInKey c) (cs : List Char) :
    splitKey? (c :: cs) = (splitKey? cs).map fun (name, rest) => (c :: name, rest) := by
  obtain ⟨hslash, heq, hcolon⟩ := hc
  rw [splitKey?, if_neg (by simp [heq, hcolon])]
  all_goals simp [hslash]

namespace Spells

theorem self (h : ∀ c ∈ cs, bare c) : Spells bare cs cs := by
  induction cs with
  | nil => exact .nil
  | cons c cs ih =>
    obtain ⟨hc, hcs⟩ := List.forall_mem_cons.1 h
    exact .plain hc (ih hcs)

theorem of_all [DecidablePred bare] (h : cs.all (bare ·) = true) : Spells bare cs cs :=
  self fun _ hc => of_decide_eq_true (List.all_eq_true.1 h _ hc)

theorem append {cs' ds' : List Char} (h : Spells bare cs ds) (h' : Spells bare cs' ds') :
    Spells bare (cs ++ cs') (ds ++ ds') := by
  induction h with
  | nil => exact h'
  | plain hc _ ih => exact .plain hc ih
  | escaped _ ih => exact .escaped ih

theorem getLast?_eq (h : Spells bare cs ds) : ds.getLast? = cs.getLast? := by
  induction h with
  | nil => rfl
  | plain _ _ ih => rw [List.getLast?_cons, List.getLast?_cons, ih]
  | escaped _ ih => rw [List.getLast?_cons, List.getLast?_cons, List.getLast?_cons, ih]; rfl

theorem isTrimmed (h : Spells bare cs ds) (hcs : IsTrimmed cs) : IsTrimmed ds where
  start c hc := by
    cases h with
    | nil => cases hc
    | plain => exact hcs.start c hc
    | escaped => cases hc; decide
  finish c hc := hcs.finish c (h.getLast?_eq ▸ hc)

theorem ne_nil (h : Spells bare cs ds) (hcs : cs ≠ []) : ds ≠ [] := by
  rintro rfl
  cases h
  exact hcs rfl

/-- A text without separators is one with all of them escaped, but for a backslash that may be left at its end. -/
theorem exists_of_not_mem (heq : '=' ∉ cs) (hcolon : ':' ∉ cs) :
    ∃ name k, Spells BareInKey name k ∧ (cs = k ∨ cs = k ++ ['\\']) := by
  fun_induction unescape cs with
  | case1 => exact ⟨[], [], .nil, .inl rfl⟩
  | case2 c cs ih =>
    simp only [List.mem_cons, not_or] at heq hcolon
    obtain ⟨name, k, hspells, hk⟩ := ih heq.2.2 hcolon.2.2
    exact ⟨c :: name, '\\' :: c :: k, .escaped hspells, by simpa using hk⟩
  | case3 => exact ⟨[], [], .nil, .inr rfl⟩
  | case4 c cs hpair hlast ih =>
    simp only [List.mem_cons, not_or] at heq hcolon
    obtain ⟨name, k, hspells, hk⟩ := ih heq.2 hcolon.2
    have hc : BareInKey c := ⟨ne_backslash hpair hlast, Ne.symm heq.1, Ne.symm hcolon.1⟩
    exact ⟨c :: name, c :: k, .plain hc hspells, by simpa using hk⟩

theorem isComment_eq_false (h : Spells bare cs ds) (hcs : isComment cs = false) : isComment ds = false := by
  cases h with
  | nil => exact hcs
  | plain => exact hcs
  | escaped => rfl

theorem unescape_eq (h : Spells BareInValue v ds) : unescape ds = v := by
  induction h with
  | nil => rfl
  | escaped _ ih => rw [unescape, ih]
  | plain hc _ ih =>
    rw [unescape, ih]
    all_goals
      intros
      simp_all [BareInValue]

theorem splitKey?_append (h : Spells BareInKey name k) (hsep : IsSeparator sep) (rest : List Char) :
    splitKey? (k ++ sep :: rest) = some (name, rest) := by
  induction h with
  | nil => rcases hsep with rfl | rfl <;> rfl
  | escaped _ ih =>
    rw [List.cons_append, List.cons_append, splitKey?, ih]
    rfl
  | plain hc _ ih =>
    rw [List.cons_append, splitKey?_cons hc, ih]
    rfl

theorem splitKey?_eq_none (h : Spells BareInKey name k) : splitKey? k = none ∧ splitKey? (k ++ ['\\']) = none := by
  induction h with
  | nil => exact ⟨rfl, rfl⟩
  | escaped _ ih => simp [splitKey?, ih]
  | plain hc _ ih => simp [splitKey?_cons hc, ih]

/-- Blanks dropped from the start of a spelling are blanks of what it spells. -/
theorem exists_dropBlank (h : Spells bare name k) :
    ∃ name', Spells bare name' (dropBlank k) ∧ trimChars name' = trimChars name := by
  induction h with
  | nil => exact ⟨[], .nil, rfl⟩
  | @plain c cs ds hc h ih =>
    cases hblank : isBlank c with
    | true =>
      obtain ⟨name', hspells, htrim⟩ := ih
      have hdrop (es : List Char) : dropBlank (c :: es) = dropBlank es := List.dropWhile_cons_of_pos hblank
      refine ⟨name', (hdrop ds).symm ▸ hspells, ?_⟩
      rw [htrim, trimChars, trimChars, hdrop]
    | false =>
      have hdrop : dropBlank (c :: ds) = c :: ds := List.dropWhile_cons_of_neg (by simp [hblank])
      exact ⟨c :: cs, hdrop.symm ▸ .plain hc h, rfl⟩
  | @escaped c cs ds h _ =>
    have hdrop : dropBlank ('\\' :: c :: ds) = '\\' :: c :: ds := List.dropWhile_cons_of_neg (by decide)
    exact ⟨c :: cs, hdrop.symm ▸ .escaped h, rfl⟩

end Spells

theorem bareInKey_of_isBlank (h : isBlank c = true) : BareInKey c := by
  refine ⟨?_, ?_, ?_⟩ <;>
  · rintro rfl
    cases h

/-! ### Keys -/

/-- Nothing in the key ends it or is taken out of it. -/
structure IsPlainKey (key : String) : Prop where
  ne_empty : key ≠ ""
  noComment : isComment key.toList = false
  plain : ∀ c ∈ key.toList, c ≠ '=' ∧ c ≠ ':' ∧ c ≠ '\\' ∧ c ≠ '\n' ∧ isBlank c = false

theorem isPlainKey_of_all (hempty : key ≠ "") (hcomment : isComment key.toList = false)
    (hall : key.toList.all (fun c => c ≠ '=' ∧ c ≠ ':' ∧ c ≠ '\\' ∧ c ≠ '\n' ∧ isBlank c = false) = true) :
    IsPlainKey key :=
  ⟨hempty, hcomment, fun c hc => of_decide_eq_true (List.all_eq_true.1 hall c hc)⟩

theorem isTrimmed_of_isPlainKey (hkey : IsPlainKey key) : IsTrimmed key.toList where
  start c hc := (hkey.plain c (List.mem_of_mem_head? hc)).2.2.2.2
  finish c hc := (hkey.plain c (List.mem_of_mem_getLast? hc)).2.2.2.2

theorem spells_self (hkey : IsPlainKey key) : Spells BareInKey key.toList key.toList := by
  refine .self fun c hc => ?_
  obtain ⟨heq, hcolon, hslash, -⟩ := hkey.plain c hc
  exact ⟨hslash, heq, hcolon⟩

theorem splitKey?_append_of_some (h : splitKey? cs = some (name, rest)) (ds : List Char) :
    splitKey? (cs ++ ds) = some (name, rest ++ ds) := by
  fun_induction splitKey? cs generalizing name with
  | case1 => cases h
  | case2 c cs ih =>
    obtain ⟨⟨name', rest'⟩, hrest, heq⟩ := Option.map_eq_some_iff.1 h
    cases heq
    rw [List.cons_append, List.cons_append, splitKey?, ih hrest]
    rfl
  | case3 => cases h
  | case4 c cs _ _ hsep =>
    cases h
    rcases hsep with rfl | rfl <;> rfl
  | case5 c cs hpair hlast hsep ih =>
    have hc := ne_backslash hpair hlast
    obtain ⟨⟨name', rest'⟩, hrest, heq⟩ := Option.map_eq_some_iff.1 h
    cases heq
    rw [List.cons_append, splitKey?_cons ⟨hc, not_or.1 hsep⟩, ih hrest]
    rfl

theorem splitKey?_dropBlank_eq_none (h : splitKey? cs = none) : splitKey? (dropBlank cs) = none := by
  induction cs with
  | nil => exact h
  | cons c cs ih =>
    cases hblank : isBlank c with
    | true =>
      have hdrop : dropBlank (c :: cs) = dropBlank cs := List.dropWhile_cons_of_pos hblank
      rw [splitKey?_cons (bareInKey_of_isBlank hblank), Option.map_eq_none_iff] at h
      rw [hdrop]
      exact ih h
    | false =>
      have hdrop : dropBlank (c :: cs) = c :: cs := List.dropWhile_cons_of_neg (by simp [hblank])
      rwa [hdrop]

theorem splitKey?_trimChars_eq_none (h : splitKey? line = none) : splitKey? (trimChars line) = none := by
  obtain ⟨blanks, hblanks⟩ : dropBlankEnd (dropBlank line) <+: dropBlank line := by
    have hsuffix := List.dropWhile_suffix (l := (dropBlank line).reverse) isBlank
    rwa [← List.reverse_prefix, List.reverse_reverse] at hsuffix
  rw [trimChars]
  cases hsome : splitKey? (dropBlankEnd (dropBlank line)) with
  | none => rfl
  | some p =>
    have hwhole := splitKey?_append_of_some hsome blanks
    rw [hblanks, splitKey?_dropBlank_eq_none h] at hwhole
    cases hwhole

/-- What a value on a line is read as. -/
def kept (value : List Char) : List Char := dropBlankEnd (unescape (dropBlank (dropBlankEnd value)))

/-- A line is read by its key, of which blanks at the ends are no part, and what follows the separator. -/
theorem splitEntry?_of_spells (h : Spells BareInKey name k) (hsep : IsSeparator sep) (rest : List Char) :
    splitEntry? (trimChars (k ++ sep :: rest)) = some (String.ofList (trimChars name), String.ofList (kept rest)) := by
  have hblank : isBlank sep = false := by rcases hsep with rfl | rfl <;> rfl
  obtain ⟨name', hspells, htrim⟩ := h.exists_dropBlank
  rw [trimChars, dropBlank_append_cons hblank, dropBlankEnd_append_cons hblank, splitEntry?,
    hspells.splitKey?_append hsep, ← htrim]
  rfl

theorem entryOf?_eq_none (h : splitKey? line = none) : entryOf? line = none := by
  rw [entryOf?, splitEntry?, splitKey?_trimChars_eq_none h]
  split <;> rfl

theorem entryOf?_of_key (hkey : IsPlainKey key) (hlead : AllBlank lead) (hk : Spells BareInKey key.toList k)
    (hgap : AllBlank gap) (hsep : IsSeparator sep) (rest : List Char) :
    entryOf? ((lead ++ k ++ gap) ++ sep :: rest) = some (key, String.ofList (kept rest)) := by
  have hblank : isBlank sep = false := by rcases hsep with rfl | rfl <;> rfl
  have htrimmed := isTrimmed_of_isPlainKey hkey
  have hspells : Spells BareInKey (lead ++ key.toList ++ gap) (lead ++ k ++ gap) :=
    ((Spells.self fun c hc => bareInKey_of_isBlank (hlead c hc)).append hk).append
      (Spells.self fun c hc => bareInKey_of_isBlank (hgap c hc))
  have hname : trimChars (lead ++ key.toList ++ gap) = key.toList := by
    rw [trimChars_append_of_blank hgap, trimChars, dropBlank_append_of_blank hlead, ← trimChars,
      trimChars_eq_self_iff.2 htrimmed]
  -- the line is no comment, for its key starts as none
  have hcomment : isComment (trimChars ((lead ++ k ++ gap) ++ sep :: rest)) = false := by
    obtain ⟨first, others, rfl⟩ := List.exists_cons_of_ne_nil (hk.ne_nil (by simpa using hkey.ne_empty))
    have hfirst : isBlank first = false := (hk.isTrimmed htrimmed).start first rfl
    rw [trimChars, dropBlank_append_cons hblank, dropBlankEnd_append_cons hblank, List.append_assoc,
      dropBlank_append_of_blank hlead, List.cons_append, dropBlank, List.dropWhile_cons_of_neg (by simp [hfirst])]
    exact hk.isComment_eq_false hkey.noComment
  rw [entryOf?, if_neg (Bool.eq_false_iff.1 hcomment), splitEntry?_of_spells hspells hsep, hname, String.ofList_toList]

end Testbed.Settings
