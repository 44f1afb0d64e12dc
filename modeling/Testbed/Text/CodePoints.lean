import Testbed.Text.Blank
import Testbed.Text.Hexadecimal
import Testbed.Text.Split

/-!
# Sets of code points

A property of characters is kept as the ranges of code points that have it. A table of such ranges
is written as words: `300-36F` for a range, `AD` for a single code point.
-/

namespace Testbed.Text

/-- Ranges of code points, first and last one included. -/
structure CodePoints where
  ranges : List (Nat × Nat)
  deriving Repr

namespace CodePoints

def contains (s : CodePoints) (c : Char) : Bool :=
  s.ranges.any fun (first, last) => first ≤ c.toNat && c.toNat ≤ last

/-- One range, or a single code point as the range that holds no other. -/
def range? (word : List Char) : Option (Nat × Nat) :=
  match splitOnceChars? '-' word with
  | some (first, last) => do return (← readHex? first, ← readHex? last)
  | none => (readHex? word).map fun n => (n, n)

/-- The set that a table lists. -/
def ofTable (table : String) : CodePoints :=
  ⟨(wordsFrom [] table.toList).filterMap range?⟩

end CodePoints

end Testbed.Text
