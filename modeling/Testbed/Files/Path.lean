import Testbed.Text.Split

/-!
# Paths

A path is kept as it was written, since messages show it; its parts decide where it leads. Every path
has finitely many above it.
-/

namespace Testbed

structure Path where
  text : String
  deriving DecidableEq, Repr, Inhabited

namespace Path

/-- The parts between slashes: names, single dots that lead nowhere, and double dots that lead up. -/
def parts (p : Path) : List String := (Text.splitOn '/' p.text).filter (· ≠ "")

/-- Whether the path ends in a slash, and so leads to nothing but a directory. -/
def endsInSlash (p : Path) : Bool := p.text.toList.getLast? = some '/'

/-- Whether a part is no name. -/
def isDots (part : String) : Bool := part = "." || part = ".."

/-- Whether the last part is a name that a node can be made under. -/
def endsInName (p : Path) : Bool := (p.parts.getLast?.map fun part => !isDots part).getD false

def isAbsolute (p : Path) : Bool := p.text.toList.head? = some '/'

/-- `name` within `p`. -/
def join (p : Path) (name : String) : Path :=
  if Path.isAbsolute ⟨name⟩ ∨ p.text = "" then ⟨name⟩
  else if p.text.toList.getLast? = some '/' then ⟨p.text ++ name⟩
  else ⟨p.text ++ "/" ++ name⟩

/-- Drops the slashes and single dots that lead nowhere from the end of a text, which is given from
its end. -/
def dropIdle : List Char → List Char
  | '/' :: cs => dropIdle cs
  | '.' :: '/' :: cs => dropIdle cs
  | cs => cs

/-- Drops the last name, again from the end; what is left of the root is the root. -/
def dropName : List Char → List Char
  | [] => []
  | _ :: cs =>
    let before := cs.dropWhile (· ≠ '/')
    match dropIdle before with
    | [] => before.take 1
    | kept => kept

/-- Everything before the last name, the empty path if that is all; the root has no parent. -/
def parent? (p : Path) : Option Path :=
  match dropIdle p.text.toList.reverse with
  | [] => none
  | reversed => some ⟨String.ofList (dropName reversed).reverse⟩

/-- A name up to its last dot, all of it if that dot is its first character or missing. -/
def stem (name : List Char) : List Char :=
  match name.reverse.dropWhile (· ≠ '.') with
  | [] | [_] => name
  | _ :: before => before.reverse

/-- The path whose last name has `extension` in place of its own. The old one goes first, so a name at
the very end that then is a double dot leads up and gets none. -/
def withExtension (p : Path) (extension : String) : Path :=
  let text := p.text.toList
  let reversed := dropIdle text.reverse
  let name := (reversed.takeWhile (· ≠ '/')).reverse
  if name.isEmpty ∨ isDots (String.ofList name) then p
  else
    let before := (reversed.dropWhile (· ≠ '/')).reverse
    let isLast := reversed.length = text.length
    if stem name = ['.'] ∧ isLast then ⟨String.ofList (before ++ ['.', '.'])⟩
    else ⟨String.ofList (before ++ stem name ++ '.' :: extension.toList)⟩

/-! ### The way up -/

theorem length_dropIdle_le (cs : List Char) : (dropIdle cs).length ≤ cs.length := by
  fun_induction dropIdle cs <;> simp_all <;> omega

theorem length_dropName_lt {cs : List Char} (h : cs ≠ []) : (dropName cs).length < cs.length := by
  cases cs with
  | nil => exact absurd rfl h
  | cons c cs =>
    have hbefore : (cs.dropWhile (· ≠ '/')).length ≤ cs.length :=
      (List.dropWhile_suffix _).length_le
    have hkept := length_dropIdle_le (cs.dropWhile (· ≠ '/'))
    rw [dropName, List.length_cons]
    split
    · rw [List.length_take]; omega
    · omega

theorem length_parent?_lt {p q : Path} (h : p.parent? = some q) :
    q.text.toList.length < p.text.toList.length := by
  have hlen := length_dropIdle_le p.text.toList.reverse
  rw [List.length_reverse] at hlen
  unfold parent? at h
  split at h
  · simp at h
  · next reversed hne =>
    cases h
    have hlt : (dropName (dropIdle p.text.toList.reverse)).length <
        (dropIdle p.text.toList.reverse).length := length_dropName_lt (by simpa using hne)
    simp; omega

/-- The path itself and all those above it, up to where no name is left. -/
def ancestors (p : Path) : List Path :=
  p :: match _ : p.parent? with
    | none => []
    | some q => ancestors q
termination_by p.text.toList.length
decreasing_by exact length_parent?_lt ‹_›

end Path

end Testbed
