import Testbed.Text.Utf8

/-!
# Percent encoding

Bytes written as `%` and two hexadecimal digits. Decoding keeps a `%` that no two digits follow;
encoding writes capital digits.
-/

namespace Testbed.Text.Percent

def hexValue? (b : UInt8) : Option UInt8 :=
  if 48 ≤ b ∧ b ≤ 57 then some (b - 48)
  else if 65 ≤ b ∧ b ≤ 70 then some (b - 55)
  else if 97 ≤ b ∧ b ≤ 102 then some (b - 87)
  else none

def hexByte (n : UInt8) : UInt8 := if n < 10 then 48 + n else 55 + n

def decode : Bytes → Bytes
  | 37 :: a :: b :: bs =>
    match hexValue? a, hexValue? b with
    | some x, some y => (16 * x + y) :: decode bs
    | _, _ => 37 :: decode (a :: b :: bs)
  | b :: bs => b :: decode bs
  | [] => []

/-- Writes the bytes that `escaped` picks out, and all outside ASCII, in encoded form. -/
def encodeBytes (escaped : UInt8 → Bool) (bs : Bytes) : Bytes :=
  bs.flatMap fun b =>
    if 0x80 ≤ b || escaped b then [37, hexByte (b / 16), hexByte (b % 16)] else [b]

/-- The encoded form of a text, all of it ASCII. -/
def encode (escaped : UInt8 → Bool) (s : String) : String :=
  String.ofList ((encodeBytes escaped (utf8 s)).map fun b => Char.ofNat b.toNat)

/-- The text that an encoded form stands for, if its bytes are text. -/
def decodeText? (s : String) : Option String := ofUtf8? (decode (utf8 s))

/-! ### What is escaped -/

def isControl (b : UInt8) : Bool := b < 0x20 || b = 0x7f

def inFragment (b : UInt8) : Bool := isControl b || b ∈ [32, 34, 60, 62, 96]

def inPath (b : UInt8) : Bool := inFragment b || b ∈ [35, 63, 123, 125]

def inQuery (b : UInt8) : Bool := isControl b || b ∈ [32, 34, 35, 39, 60, 62]

def inUserInfo (b : UInt8) : Bool := inPath b || b ∈ [47, 58, 59, 61, 64, 91, 92, 93, 94, 124]

/-- One segment of a path: slashes, backslashes and percent signs do not stand for themselves. -/
def inSegment (b : UInt8) : Bool := inPath b || b ∈ [37, 47, 92]

end Testbed.Text.Percent
