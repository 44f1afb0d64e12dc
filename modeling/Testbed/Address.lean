import Testbed.Text.Decimal
import Testbed.Text.Hexadecimal
import Testbed.Text.Split

/-!
# Internet addresses

Addresses of both versions, their written forms, and which of them are loopback. A version 6 address
that maps a version 4 address counts as that one.
-/

namespace Testbed

inductive Address where
  | v4 (a b c d : UInt8)
  | v6 (g₀ g₁ g₂ g₃ g₄ g₅ g₆ g₇ : UInt16)
  deriving DecidableEq, Repr, Inhabited

namespace Address

/-- The version 4 address with the sixteen-bit halves `high` and `low`. -/
def ofHalves (high low : UInt16) : Address :=
  v4 (high >>> 8).toUInt8 high.toUInt8 (low >>> 8).toUInt8 low.toUInt8

/-- The version 4 address that a mapped address stands for, any other address as it is. -/
def canonical : Address → Address
  | v6 0 0 0 0 0 0xffff high low => ofHalves high low
  | a => a

/-- Whether an address leads back to its own machine, mapping aside. -/
def isOwnLoopback : Address → Bool
  | v4 a _ _ _ => a = 127
  | a => a = v6 0 0 0 0 0 0 0 1

def isLoopback (a : Address) : Bool := a.canonical.isOwnLoopback

def groups : Address → List UInt16
  | v4 .. => []
  | v6 g₀ g₁ g₂ g₃ g₄ g₅ g₆ g₇ => [g₀, g₁, g₂, g₃, g₄, g₅, g₆, g₇]

/-! ### Writing -/

def dotted (a b c d : UInt8) : String :=
  ".".intercalate ([a, b, c, d].map fun n => Text.ofNat n.toNat)

/-- The number of zeros that `gs` begins with. -/
def zeros (gs : List UInt16) : Nat := (gs.takeWhile (· = 0)).length

/-- The start and length of the first longest run of zeros, `start` being the position of `gs`. -/
def longestZeros (start : Nat) : List UInt16 → Nat × Nat
  | [] => (0, 0)
  | g :: gs =>
    let here := zeros (g :: gs)
    let later := longestZeros (start + 1) gs
    if here ≠ 0 ∧ later.2 ≤ here then (start, here) else later

def colons (gs : List UInt16) : String :=
  ":".intercalate (gs.map fun g => String.ofList (Nat.toDigits 16 g.toNat))

/-- Groups in hexadecimal, the first longest run of two or more zeros left out. -/
def compressed (gs : List UInt16) : String :=
  let (start, length) := longestZeros 0 gs
  if length < 2 then colons gs
  else colons (gs.take start) ++ "::" ++ colons (gs.drop (start + length))

/-- The usual form; the part that a mapped address stands for is dotted. -/
def text : Address → String
  | v4 a b c d => dotted a b c d
  | v6 0 0 0 0 0 0xffff high low =>
    match ofHalves high low with
    | v4 a b c d => "::ffff:" ++ dotted a b c d
    | _ => ""
  | a => compressed a.groups

/-! ### Reading -/

/-- A decimal number below 256 without leading zeros. -/
def octet? (cs : List Char) : Option UInt8 :=
  if 1 < cs.length ∧ cs.head? = some '0' then none
  else ((Text.readDigits? cs).filter (· < 256)).map UInt8.ofNat

def octets? (cs : List Char) : Option (UInt8 × UInt8 × UInt8 × UInt8) := do
  let [a, b, c, d] := Text.splitChars '.' cs | none
  return (← octet? a, ← octet? b, ← octet? c, ← octet? d)

/-- One to four hexadecimal digits. -/
def group? (cs : List Char) : Option UInt16 :=
  if cs.isEmpty ∨ 4 < cs.length then none
  else (Text.readHex? cs).map UInt16.ofNat

/-- Groups between colons; where `dottedEnd` allows, the last two may be written dotted. -/
def groupsOf? (dottedEnd : Bool) : List (List Char) → Option (List UInt16)
  | [] => some []
  | [last] =>
    match group? last with
    | some g => some [g]
    | none => do
      if !dottedEnd then none
      let (a, b, c, d) ← octets? last
      return [a.toUInt16 <<< 8 ||| b.toUInt16, c.toUInt16 <<< 8 ||| d.toUInt16]
  | first :: rest => do return (← group? first) :: (← groupsOf? dottedEnd rest)

def groupsIn? (dottedEnd : Bool) (cs : List Char) : Option (List UInt16) :=
  if cs.isEmpty then some [] else groupsOf? dottedEnd (Text.splitChars ':' cs)

/-- The text before and after the first two colons in a row. -/
def splitDouble? : List Char → Option (List Char × List Char)
  | ':' :: ':' :: cs => some ([], cs)
  | c :: cs => (splitDouble? cs).map fun (before, after) => (c :: before, after)
  | [] => none

def ofGroups? : List UInt16 → Option Address
  | [g₀, g₁, g₂, g₃, g₄, g₅, g₆, g₇] => some (v6 g₀ g₁ g₂ g₃ g₄ g₅ g₆ g₇)
  | _ => none

/-- A version 6 address; two colons in a row stand for one or more zero groups. -/
def parseV6? (cs : List Char) : Option Address :=
  match splitDouble? cs with
  | none => (groupsIn? true cs).bind ofGroups?
  | some (before, after) => do
    let front ← groupsIn? false before
    let back ← groupsIn? true after
    if 8 ≤ front.length + back.length then none
    ofGroups? (front ++ List.replicate (8 - front.length - back.length) 0 ++ back)

def parse? (s : String) : Option Address :=
  match octets? s.toList with
  | some (a, b, c, d) => some (v4 a b c d)
  | none => parseV6? s.toList

end Address

end Testbed
