import Mathlib.Data.List.Basic

/-!
# Each once, in the order of the first sight

A list that is gathered element by element, each put at the end unless it is to be skipped or there already.
-/

namespace Testbed

variable {α : Type} {xs new : List α} {a b x : α}

/-- No `b` stands in front of the first `a`. -/
def Precedes (xs : List α) (a b : α) : Prop :=
  ∃ before after, xs = before ++ a :: after ∧ a ∉ before ∧ b ∉ before

namespace Precedes

theorem head : Precedes (a :: xs) a b := ⟨[], xs, by simp⟩

theorem cons (ha : x ≠ a) (hb : x ≠ b) (h : Precedes xs a b) : Precedes (x :: xs) a b := by
  obtain ⟨before, after, rfl, hnota, hnotb⟩ := h
  exact ⟨x :: before, after, by simp [ha.symm, hb.symm, hnota, hnotb]⟩

/-- In a list that is in order the one that comes first is the one before. -/
theorem of_pairwise {R : α → α → Prop} (hxs : xs.Pairwise R) (hb : b ∈ xs) (hne : a ≠ b) (h : Precedes xs a b) :
    R a b := by
  obtain ⟨before, after, rfl, -, hnotb⟩ := h
  have hafter : b ∈ after := by simpa [hnotb, hne.symm] using hb
  exact List.rel_of_pairwise_cons (List.pairwise_append.1 hxs).2.1 hafter

end Precedes

/-- `new` is what `xs` adds to `seen`, but for what is skipped. -/
structure Gathers (skip : α → Prop) (seen xs new : List α) : Prop where
  nodup : new.Nodup
  mem_iff : ∀ x, x ∈ new ↔ x ∈ xs ∧ ¬skip x ∧ x ∉ seen
  inOrder : new.Pairwise (Precedes xs)

namespace Gathers

variable {skip : α → Prop} {seen : List α}

theorem pass (hx : skip x ∨ x ∈ seen) (h : Gathers skip seen xs new) : Gathers skip seen (x :: xs) new := by
  have hne : ∀ y ∈ new, x ≠ y := by
    rintro _ hy rfl
    obtain ⟨-, hskip, hseen⟩ := (h.mem_iff x).1 hy
    exact hx.elim hskip hseen
  refine ⟨h.nodup, fun y => ?_, h.inOrder.imp_of_mem fun ha hb hab => hab.cons (hne _ ha) (hne _ hb)⟩
  rw [h.mem_iff, List.mem_cons]
  refine and_congr_left fun ⟨hskip, hseen⟩ => (or_iff_right ?_).symm
  rintro rfl
  exact hx.elim hskip hseen

theorem take (hskip : ¬skip x) (hseen : x ∉ seen) (h : Gathers skip (seen ++ [x]) xs new) :
    Gathers skip seen (x :: xs) (x :: new) := by
  have hnot : x ∉ new := fun hx => ((h.mem_iff x).1 hx).2.2 (by simp)
  have hne : ∀ y ∈ new, x ≠ y := fun y hy hxy => hnot (hxy ▸ hy)
  refine ⟨List.nodup_cons.2 ⟨hnot, h.nodup⟩, fun y => ?_, List.pairwise_cons.2 ⟨fun _ _ => .head, ?_⟩⟩
  · simp only [List.mem_cons, h.mem_iff, List.mem_append, List.not_mem_nil, or_false, not_or]
    by_cases hy : y = x
    · simp [hy, hskip, hseen]
    · simp [hy]
  · exact h.inOrder.imp_of_mem fun ha hb hab => hab.cons (hne _ ha) (hne _ hb)

/-- What is gathered from a list that is in order is in order. -/
theorem pairwise {R : α → α → Prop} (h : Gathers skip seen xs new) (hxs : xs.Pairwise R) : new.Pairwise R :=
  (h.inOrder.and h.nodup).imp_of_mem fun _ hb ⟨hprecedes, hne⟩ =>
    hprecedes.of_pairwise hxs ((h.mem_iff _).1 hb).1 hne

end Gathers

theorem exists_gathers [DecidableEq α] (skip : α → Prop) [DecidablePred skip] (seen xs : List α) :
    ∃ new, xs.foldl (fun seen x => if skip x ∨ x ∈ seen then seen else seen ++ [x]) seen = seen ++ new ∧
      Gathers skip seen xs new := by
  induction xs generalizing seen with
  | nil => exact ⟨[], by simp, ⟨.nil, by simp, .nil⟩⟩
  | cons x xs ih =>
    rw [List.foldl_cons]
    split
    · rename_i hx
      obtain ⟨new, hnew, h⟩ := ih seen
      exact ⟨new, hnew, h.pass hx⟩
    · rename_i hx
      obtain ⟨hskip, hseen⟩ := not_or.1 hx
      obtain ⟨new, hnew, h⟩ := ih (seen ++ [x])
      exact ⟨x :: new, by simp [hnew], h.take hskip hseen⟩

end Testbed
