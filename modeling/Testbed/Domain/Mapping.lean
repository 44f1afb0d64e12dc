import Testbed.Domain.MappingTable

/-!
# Characters of domain names

A name is read without regard to case and to other ways of writing the same: characters are dropped
or others take their place, and a character that no name holds makes the name unusable.
-/

namespace Testbed.Domain

/-- What takes the place of every `step`th code point from `first` to `last`. -/
structure Replacement where
  first : Nat
  last : Nat
  step : Nat
  target : List Nat
  deriving Repr

namespace Replacement

/-- Reads one word of the table. -/
def ofWord? (word : List Char) : Option Replacement := do
  let (source, target) ← Text.splitOnceChars? '>' word
  let target ← (Text.splitChars '.' target).mapM Text.readHex?
  match Text.splitOnceChars? '/' source with
  | some (first, last) => return ⟨← Text.readHex? first, ← Text.readHex? last, 2, target⟩
  | none =>
    let (first, last) ← Text.CodePoints.range? source
    return ⟨first, last, 1, target⟩

def all : List Replacement := (Text.wordsFrom [] replacements.toList).filterMap ofWord?

def applies (r : Replacement) (n : Nat) : Bool :=
  r.first ≤ n && n ≤ r.last && (n - r.first) % r.step = 0

/-- What takes the place of `n`; a single code point moves along with it. -/
def apply (r : Replacement) (n : Nat) : List Char :=
  match r.target with
  | [m] => [Char.ofNat (m + (n - r.first))]
  | ms => ms.map Char.ofNat

end Replacement

/-- What a character of a name is read as; no name holds one that is read as nothing at all. -/
def read? (c : Char) : Option (List Char) :=
  if c.toNat < 0x80 then some [c.toLower]
  else if disallowed.contains c then none
  else if ignored.contains c then some []
  else match Replacement.all.find? fun r => r.applies c.toNat with
    | some r => some (r.apply c.toNat)
    | none => some [c]

/-- Whether a character is read as itself. -/
def isKept (c : Char) : Bool := read? c = some [c]

end Testbed.Domain
