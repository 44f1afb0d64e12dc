import Testbed.Value
import Testbed.Text.Utf8

/-!
# The binary form of a value

One tag byte, then a payload: null (0) has none; a result marker (1) is followed by the value it
marks; a boolean (2) is one byte, 0 or 1; an integer (3) is four bytes, high byte first, in two's
complement; a string (4) is its byte count and its UTF-8 bytes; a list (5) is its item count and its
items; a map (6) is its pair count and its keys and values in turn. Counts are four bytes, high byte
first, and what they cannot count cannot be written.

Reading looks through result markers, takes the pairs of a map in any order with the last pair of an
equal key winning, and stops below 64 levels of nesting, where a marker counts as a level.
-/

namespace Testbed

namespace Codec

inductive Error where
  | unknownTag (tag : UInt8)
  /-- The current read lacks `needed` bytes. -/
  | unexpectedEnd (needed : Nat)
  | invalidBoolean (byte : UInt8)
  | invalidUtf8
  | trailingBytes (count : Nat)
  | tooDeep
  /-- A length that four bytes cannot hold. -/
  | tooLong (length : Nat)
  deriving DecidableEq, Repr

/-- The deepest level a value may stand on; a whole body stands on level zero. -/
def maxDepth : Nat := 64

def Error.message : Error → String
  | .unknownTag t => "unknown type tag " ++ Text.ofNat t.toNat
  | .unexpectedEnd n => "unexpected end of input: needed " ++ Text.ofNat n ++ " more bytes"
  | .invalidBoolean b => "invalid boolean byte " ++ Text.ofNat b.toNat
  | .invalidUtf8 => "string is not valid UTF-8"
  | .trailingBytes n => Text.ofNat n ++ " trailing bytes after value"
  | .tooDeep => "value nested deeper than " ++ Text.ofNat maxDepth ++ " levels"
  | .tooLong n => Text.ofNat n ++ " does not fit a u32 length prefix"

/-! ### Writing -/

/-- Four bytes, high byte first. -/
def word (w : UInt32) : Bytes :=
  [(w >>> 24).toUInt8, (w >>> 16).toUInt8, (w >>> 8).toUInt8, w.toUInt8]

/-- A count before what it counts. -/
def count (n : Nat) : Except Error Bytes :=
  if n < UInt32.size then .ok (word (UInt32.ofNat n)) else .error (.tooLong n)

mutual

def encode : Value → Except Error Bytes
  | .null => .ok [0]
  | .bool b => .ok [2, if b then 1 else 0]
  | .int i => .ok (3 :: word i.toUInt32)
  | .string s => do
    let length ← count (Text.utf8 s).length
    .ok (4 :: (length ++ Text.utf8 s))
  | .list items => do
    let length ← count items.length
    let body ← encodeItems items
    .ok (5 :: (length ++ body))
  | .map pairs => do
    let length ← count pairs.length
    let body ← encodePairs pairs
    .ok (6 :: (length ++ body))

def encodeItems : List Value → Except Error Bytes
  | [] => .ok []
  | x :: xs => do
    let item ← encode x
    let items ← encodeItems xs
    .ok (item ++ items)

def encodePairs : List (Value × Value) → Except Error Bytes
  | [] => .ok []
  | (k, v) :: ps => do
    let key ← encode k
    let value ← encode v
    let pairs ← encodePairs ps
    .ok (key ++ (value ++ pairs))

end

/-- A value behind a result marker, the form of every response. -/
def encodeResult (v : Value) : Except Error Bytes := (encode v).map (1 :: ·)

/-! ### Reading -/

/-- A step of reading: what is read, and the bytes after it. -/
abbrev Step (α : Type) := Bytes → Except Error (α × Bytes)

/-- Exactly `n` bytes. -/
def take (n : Nat) : Step Bytes := fun bs =>
  let front := bs.take n
  if front.length = n then .ok (front, bs.drop n) else .error (.unexpectedEnd (n - front.length))

def byte : Step UInt8
  | [] => .error (.unexpectedEnd 1)
  | b :: bs => .ok (b, bs)

/-- A four-byte word, high byte first. -/
def readWord : Step UInt32 := fun bs => do
  match ← take 4 bs with
  | ([a, b, c, d], rest) =>
    .ok ((a.toUInt32 <<< 24) ||| (b.toUInt32 <<< 16) ||| (c.toUInt32 <<< 8) ||| d.toUInt32, rest)
  | (_, rest) => .ok (0, rest)

def readBool : Step Value := fun bs => do
  let (b, rest) ← byte bs
  if b = 0 then .ok (.bool false, rest)
  else if b = 1 then .ok (.bool true, rest)
  else .error (.invalidBoolean b)

def readInt : Step Value := fun bs => do
  let (w, rest) ← readWord bs
  .ok (.int w.toInt32, rest)

def readString : Step Value := fun bs => do
  let (n, rest) ← readWord bs
  let (raw, rest) ← take n.toNat rest
  match Text.ofUtf8? raw with
  | some s => .ok (.string s, rest)
  | none => .error .invalidUtf8

/-- `n` readings in a row. -/
def readTimes {α : Type} (item : Step α) : Nat → Step (List α)
  | 0, bs => .ok ([], bs)
  | n + 1, bs => do
    let (x, bs) ← item bs
    let (xs, bs) ← readTimes item n bs
    .ok (x :: xs, bs)

def readPair (item : Step Value) : Step (Value × Value) := fun bs => do
  let (k, bs) ← item bs
  let (v, bs) ← item bs
  .ok ((k, v), bs)

/-- One value, `levels` being the number of levels from its own down to the deepest allowed. -/
def readValue : (levels : Nat) → Step Value
  | 0, _ => .error .tooDeep
  | levels + 1, bs => do
    let (tag, rest) ← byte bs
    match tag with
    | 0 => .ok (.null, rest)
    | 1 => readValue levels rest
    | 2 => readBool rest
    | 3 => readInt rest
    | 4 => readString rest
    | 5 => do
      let (n, rest) ← readWord rest
      let (items, rest) ← readTimes (readValue levels) n.toNat rest
      .ok (.list items, rest)
    | 6 => do
      let (n, rest) ← readWord rest
      let (pairs, rest) ← readTimes (readPair (readValue levels)) n.toNat rest
      .ok (Value.ofPairs pairs, rest)
    | tag => .error (.unknownTag tag)

/-- One value from the start of a stream. -/
def decodeNext : Step Value := readValue (maxDepth + 1)

/-- One value and nothing after it. -/
def decode (bs : Bytes) : Except Error Value := do
  let (v, rest) ← decodeNext bs
  if rest.isEmpty then .ok v else .error (.trailingBytes rest.length)

end Codec

end Testbed
