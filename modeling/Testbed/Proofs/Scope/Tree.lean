import Testbed.Scope
import Mathlib.Data.List.Induction
import Mathlib.Logic.Relation

/-!
# The tree of scopes

However a scope comes about (`Built`), its segments are non-empty and free of dots, so its text falls into just
these segments again (`parse_text`). Inclusion can therefore be read off the texts (`includes_iff_text`) as well
as off the way up to the root (`includes_iff_reaches`).
-/

namespace Testbed.Scope

variable {s t u : Scope} {path segment : String}

/-- The scopes there are: any of these ways may follow any other. -/
inductive Built : Scope → Prop
  | root : Built root
  | parse (path : String) : Built (parse path)
  | ofProperties (properties : Properties) : Built (ofProperties properties)
  | child {s t : Scope} {segment : String} (hs : Built s) (h : s.child segment = .ok t) : Built t
  | parent {s t : Scope} (hs : Built s) (h : s.parent? = some t) : Built t

/-! ### Segments -/

theorem wellFormed_root : root.WellFormed := by
  intro x hx
  cases hx

theorem wellFormed_parse (path : String) : (parse path).WellFormed := by
  intro x hx
  have ⟨hmem, hne⟩ := List.mem_filter.1 hx
  obtain ⟨piece, hpiece, rfl⟩ := List.mem_map.1 hmem
  refine ⟨by simpa using hne, ?_⟩
  rw [String.toList_ofList]
  exact Text.not_mem_of_mem_splitChars hpiece

theorem child_eq_ok : s.child segment = .ok t ↔
    segment ≠ "" ∧ '.' ∉ segment.toList ∧ t = ⟨s.segments ++ [segment]⟩ := by
  unfold child
  split
  · simp_all
  · split
    · simp_all
    · simp_all [eq_comm]

theorem parent?_eq_some : s.parent? = some t ↔ ∃ segment, s.segments = t.segments ++ [segment] := by
  obtain ⟨segments⟩ := s
  induction segments using List.reverseRecOn with
  | nil => simp [parent?]
  | append_singleton above segment =>
    have hparent : (⟨above ++ [segment]⟩ : Scope).parent? = some ⟨above⟩ := by simp [parent?]
    rw [hparent]
    constructor
    · intro h
      cases h
      exact ⟨segment, rfl⟩
    · rintro ⟨other, h⟩
      have habove := (List.append_inj' h rfl).1
      rw [habove]

theorem Built.wellFormed (h : Built s) : s.WellFormed := by
  induction h with
  | root => exact wellFormed_root
  | parse path => exact wellFormed_parse path
  | ofProperties properties =>
    unfold Scope.ofProperties
    split
    · exact wellFormed_root
    · exact wellFormed_root
    · exact wellFormed_parse _
  | child _ h ih =>
    obtain ⟨hne, hdot, rfl⟩ := child_eq_ok.1 h
    intro x hx
    rcases List.mem_append.1 hx with hx | hx
    · exact ih x hx
    · obtain rfl := List.mem_singleton.1 hx
      exact ⟨hne, hdot⟩
  | parent _ h ih =>
    obtain ⟨segment, hsegments⟩ := parent?_eq_some.1 h
    intro x hx
    exact ih x (hsegments ▸ List.mem_append_left _ hx)

/-! ### Texts -/

theorem toList_text (s : Scope) : s.text.toList = ['.'].intercalate (s.segments.map String.toList) := by
  simp [text]

theorem splitOn_text (hs : s.WellFormed) (hne : s.segments ≠ []) : Text.splitOn '.' s.text = s.segments := by
  have hpieces : ∀ piece ∈ s.segments.map String.toList, '.' ∉ piece := by
    intro piece hpiece
    obtain ⟨x, hx, rfl⟩ := List.mem_map.1 hpiece
    exact (hs x hx).2
  rw [Text.splitOn, toList_text, Text.splitChars_intercalate (by simpa using hne) hpieces]
  simp

theorem parse_text (hs : s.WellFormed) : parse s.text = s := by
  by_cases hne : s.segments = []
  · obtain ⟨segments⟩ := s
    subst hne
    rfl
  · have hkept : s.segments.filter (· ≠ "") = s.segments := by
      refine List.filter_eq_self.2 fun x hx => ?_
      simpa using (hs x hx).1
    rw [parse, splitOn_text hs hne, hkept]

theorem Built.iff_wellFormed : Built s ↔ s.WellFormed := by
  refine ⟨Built.wellFormed, fun hs => ?_⟩
  rw [← parse_text hs]
  exact .parse _

theorem text_inj (hs : s.WellFormed) (ht : t.WellFormed) : s.text = t.text ↔ s = t := by
  refine ⟨fun h => ?_, fun h => h ▸ rfl⟩
  rw [← parse_text hs, h, parse_text ht]

/-! ### Inclusion -/

theorem includes_iff : s.includes t = true ↔ s.segments <+: t.segments := by
  simp [includes]

theorem includes_antisymm (hst : s.includes t = true) (hts : t.includes s = true) : s = t := by
  have hsegments := (includes_iff.1 hst).eq_of_length_le (includes_iff.1 hts).length_le
  cases s
  cases t
  simp_all

theorem includes_trans (hst : s.includes t = true) (htu : t.includes u = true) : s.includes u = true :=
  includes_iff.2 ((includes_iff.1 hst).trans (includes_iff.1 htu))

/-- The text of a scope below another one goes on behind a dot. -/
theorem includes_iff_text (hs : s.WellFormed) (ht : t.WellFormed) : s.includes t = true ↔
    s = root ∨ t.text = s.text ∨ ∃ rest, t.text = s.text ++ "." ++ rest := by
  rw [includes_iff]
  constructor
  · rintro ⟨below, h⟩
    by_cases hroot : s.segments = []
    · left
      cases s
      simp_all [root]
    by_cases hbelow : below = []
    · right; left
      rw [text, text, ← h, hbelow, List.append_nil]
    · right; right
      refine ⟨".".intercalate below, ?_⟩
      rw [text, ← h, String.intercalate_append_of_ne_nil hroot hbelow]
      rfl
  · rintro (rfl | h | ⟨rest, h⟩)
    · exact List.nil_prefix
    · obtain rfl := (text_inj ht hs).1 h
      exact List.prefix_refl _
    · by_cases hroot : s.segments = []
      · rw [hroot]
        exact List.nil_prefix
      have hne : t.segments ≠ [] := by
        intro hnil
        have hlength := congrArg String.length h
        have hdot : ".".length = 1 := rfl
        simp only [text, hnil, String.intercalate_nil, String.length_append, String.length_empty, hdot] at hlength
        omega
      have hcut : Text.splitOn '.' t.text = Text.splitOn '.' s.text ++ Text.splitOn '.' rest := by
        simp only [Text.splitOn, h, String.toList_append, List.append_assoc]
        rw [show (".".toList ++ rest.toList : List Char) = '.' :: rest.toList from rfl, Text.splitChars_append_sep,
          List.map_append]
      rw [splitOn_text ht hne, splitOn_text hs hroot] at hcut
      exact ⟨_, hcut.symm⟩

/-- One step up to the root. -/
def IsParent (s t : Scope) : Prop := s.parent? = some t

theorem includes_iff_reaches : s.includes t = true ↔ Relation.ReflTransGen IsParent t s := by
  constructor
  · intro h
    obtain ⟨below, hbelow⟩ := includes_iff.1 h
    induction below using List.reverseRecOn generalizing t with
    | nil =>
      obtain rfl : s = t := includes_antisymm h (includes_iff.2 ⟨[], by simp [← hbelow]⟩)
      exact .refl
    | append_singleton above segment ih =>
      have hstep : IsParent t ⟨s.segments ++ above⟩ := parent?_eq_some.2 ⟨segment, by simp [← hbelow]⟩
      exact .head hstep (ih (includes_iff.2 ⟨above, rfl⟩) rfl)
  · intro h
    induction h with
    | refl => exact includes_iff.2 (List.prefix_refl _)
    | tail _ hstep ih =>
      obtain ⟨segment, hsegments⟩ := parent?_eq_some.1 hstep
      exact includes_trans (includes_iff.2 ⟨[segment], hsegments.symm⟩) ih

/-- The text carries the whole scope: it is read as the scope, tells scopes apart, and shows what includes
what, which is an order and goes by the steps up to the root. -/
theorem text_carries_tree (hs : Built s) (ht : Built t) :
    (∀ x ∈ s.segments, x ≠ "" ∧ '.' ∉ x.toList) ∧
    parse s.text = s ∧
    (s.text = t.text ↔ s = t) ∧
    (s.includes t = true ↔ s = root ∨ t.text = s.text ∨ ∃ rest, t.text = s.text ++ "." ++ rest) ∧
    (s.includes s = true ∧ (s.includes t = true → t.includes s = true → s = t) ∧
      ∀ u, Built u → s.includes t = true → t.includes u = true → s.includes u = true) ∧
    (s.includes t = true ↔ Relation.ReflTransGen IsParent t s) := by
  have hs' := hs.wellFormed
  have ht' := ht.wellFormed
  refine ⟨hs', parse_text hs', text_inj hs' ht', includes_iff_text hs' ht', ⟨?_, includes_antisymm, ?_⟩,
    includes_iff_reaches⟩
  · exact includes_iff.2 (List.prefix_refl _)
  · intro u _ hst htu
    exact includes_trans hst htu

/-- A scope read from a list, and one below it. -/
theorem text_carries_child :
    let s := ofProperties (Dict.empty.insert propertyName (.list [.string "a.", .int 1]))
    let t : Scope := ⟨["[a", ", 1]", "x"]⟩
    s.child "x" = .ok t ∧ t.text = "[a., 1].x" ∧ parse t.text = t ∧ Relation.ReflTransGen IsParent t s := by
  intro s t
  have hchild : s.child "x" = .ok t := by decide +kernel
  have hs : Built s := .ofProperties _
  obtain ⟨-, -, -, -, -, hreaches⟩ := text_carries_tree hs (.child hs hchild)
  obtain ⟨-, hparse, -⟩ := text_carries_tree (.child hs hchild) hs
  exact ⟨hchild, by decide +kernel, hparse, hreaches.1 (by decide +kernel)⟩

end Testbed.Scope
