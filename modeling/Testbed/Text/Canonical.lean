import Testbed.Text.CombiningClass
import Testbed.Text.Composite

/-!
# The composed canonical form

Texts that mean the same have one canonical form: composites are taken apart, marks put in the order
of their classes, and what can be composed is composed again. ASCII is in this form already.
-/

namespace Testbed.Text

/-- How deep composites are nested. -/
def nesting : Nat := 2

/-- Takes a character apart as far as it goes. -/
def takeApart : Nat → Char → List Char
  | 0, c => [c]
  | n + 1, c =>
    match Composite.ofWhole? c with
    | none => [c]
    | some x => takeApart n x.first ++ [x.second]

/-- Puts a character in front of marks in order; it moves behind those of lower classes. -/
def settle (c : Char) : List Char → List Char
  | [] => [c]
  | d :: ds =>
    if 0 < combiningClass d ∧ combiningClass d < combiningClass c then d :: settle c ds
    else c :: d :: ds

/-- Puts runs of marks in the order of their classes. -/
def orderMarks (cs : List Char) : List Char := cs.foldr settle []

/-- Whether nothing stands between a character and the one it may be composed with; `marks` are
those that do, the last one first. -/
def isNear (marks : List Char) (c : Char) : Bool :=
  match marks with
  | [] => true
  | m :: _ => combiningClass m < combiningClass c

/-- Composes what follows `start` with it where possible; `marks` are those kept between them, the
last one first. -/
def composeFrom (start : Char) (marks : List Char) : List Char → List Char
  | [] => start :: marks.reverse
  | c :: cs =>
    match if isNear marks c then Composite.ofParts? start c else none with
    | some x => composeFrom x.whole marks cs
    | none =>
      if combiningClass c = 0 then start :: marks.reverse ++ composeFrom c [] cs
      else composeFrom start (c :: marks) cs

def compose : List Char → List Char
  | [] => []
  | c :: cs => composeFrom c [] cs

def isAscii (c : Char) : Bool := c.toNat < 0x80

def canonical (cs : List Char) : List Char :=
  if cs.all isAscii then cs else compose (orderMarks (cs.flatMap (takeApart nesting)))

end Testbed.Text
