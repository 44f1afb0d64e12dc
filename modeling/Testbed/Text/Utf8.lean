/-!
# UTF-8

The bytes of a text, and reading bytes that may not be text: each longest beginning of a character
that breaks off is read as one replacement character.
-/

namespace Testbed

abbrev Bytes := List UInt8

namespace Text

def utf8 (s : String) : Bytes := s.toByteArray.data.toList

def ofUtf8? (bs : Bytes) : Option String := String.fromUTF8? bs.toByteArray

/-- What follows a first byte above the ASCII range: how many bytes, and the range of the next one. -/
def following (b : UInt8) : Option (Nat × UInt8 × UInt8) :=
  if 0xc2 ≤ b ∧ b ≤ 0xdf then some (1, 0x80, 0xbf)
  else if b = 0xe0 then some (2, 0xa0, 0xbf)
  else if b = 0xed then some (2, 0x80, 0x9f)
  else if 0xe1 ≤ b ∧ b ≤ 0xef then some (2, 0x80, 0xbf)
  else if b = 0xf0 then some (3, 0x90, 0xbf)
  else if 0xf1 ≤ b ∧ b ≤ 0xf3 then some (3, 0x80, 0xbf)
  else if b = 0xf4 then some (3, 0x80, 0x8f)
  else none

/-- How many of the first `n` bytes continue a character, the next one from `low` to `high`. -/
def continued : Nat → UInt8 → UInt8 → Bytes → Nat
  | n + 1, low, high, b :: bs =>
    if low ≤ b ∧ b ≤ high then continued n 0x80 0xbf bs + 1 else 0
  | _, _, _, _ => 0

/-- The character of a first byte and `n` bytes that continue it. -/
def assemble (first : UInt8) (n : Nat) (rest : Bytes) : Char :=
  Char.ofNat <| rest.foldl (fun code b => 64 * code + (b &&& 0x3f).toNat)
    (first &&& (0x3f >>> UInt8.ofNat n)).toNat

def decodeLossy : Bytes → List Char
  | [] => []
  | b :: bs =>
    if b < 0x80 then Char.ofNat b.toNat :: decodeLossy bs
    else match following b with
      | none => '\uFFFD' :: decodeLossy bs
      | some (n, low, high) =>
        let k := continued n low high bs
        (if k = n then assemble b n (bs.take n) else '\uFFFD') :: decodeLossy (bs.drop k)
termination_by bs => bs.length
decreasing_by all_goals (simp only [List.length_cons, List.length_drop]; omega)

def ofUtf8Lossy (bs : Bytes) : String := String.ofList (decodeLossy bs)

end Text

end Testbed
