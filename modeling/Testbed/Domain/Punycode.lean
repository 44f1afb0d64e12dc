/-!
# Labels beyond ASCII in ASCII

The ASCII characters of a label come first, with a hyphen behind them if there are any. Then each
other character follows, by ascending code points and for each from left to right, as a number: how
many steps to take from one insertion to the next, each step going one place to the right and from
the end of the label to its start with the next code point. The numbers are written with the least
digit first, in digits of base 36; a digit below the threshold of its place is the last one, and the
thresholds adapt to the numbers before. `decode?` reads what `encode` writes.
-/

namespace Testbed.Domain.Punycode

/-! ### Numbers -/

/-- Digits from `a` to `z`, then from `0` to `9`. -/
def digitChar (d : Nat) : Char := Char.ofNat (if d < 26 then 97 + d else 22 + d)

def digit? (c : Char) : Option Nat :=
  if c.isLower then some (c.toNat - 97) else if c.isDigit then some (c.toNat - 22) else none

/-- The threshold of a place, places being counted in steps of 36. -/
def threshold (bias place : Nat) : Nat := max 1 (min 26 (place - bias))

theorem threshold_pos (bias place : Nat) : 0 < threshold bias place := by unfold threshold; omega

/-- The digits of `n` from `place` on. -/
def number (bias place n : Nat) : List Char :=
  let t := threshold bias place
  if n < t then [digitChar n]
  else digitChar (t + (n - t) % (36 - t)) :: number bias (place + 36) ((n - t) / (36 - t))
termination_by n
decreasing_by
  have := threshold_pos bias place
  exact Nat.lt_of_le_of_lt (Nat.div_le_self ..) (by omega)

def spread (delta place : Nat) : Nat :=
  if 455 < delta then spread (delta / 35) (place + 36) else place + 36 * delta / (delta + 38)
termination_by delta
decreasing_by exact Nat.div_lt_self (by omega) (by omega)

/-- The bias behind a number, `length` being that of the label by then. -/
def adapt (delta length : Nat) (isFirst : Bool) : Nat :=
  let delta := if isFirst then delta / 700 else delta / 2
  spread (delta + delta / length) 0

/-! ### Writing -/

structure Writing where
  text : List Char := []
  /-- The steps taken since the last number. -/
  steps : Nat := 0
  bias : Nat := 72
  isFirst : Bool := true
  /-- How many characters of the label are written. -/
  length : Nat

/-- Passes a character of the label while those with code point `n` are written. -/
def Writing.pass (n : Nat) (w : Writing) (c : Char) : Writing :=
  if c.toNat < n then { w with steps := w.steps + 1 }
  else if c.toNat = n then
    { text := w.text ++ number w.bias 36 w.steps
      steps := 0
      bias := adapt w.steps (w.length + 1) w.isFirst
      isFirst := false
      length := w.length + 1 }
  else w

/-- Writes the characters with these code points, `n` being the first code point not yet passed. -/
def Writing.run (label : List Char) (n : Nat) (w : Writing) : List Nat → Writing
  | [] => w
  | m :: codes =>
    let w := { w with steps := w.steps + (m - n) * (w.length + 1) }
    let w := label.foldl (Writing.pass m) w
    run label (m + 1) { w with steps := w.steps + 1 } codes

def encode (label : List Char) : List Char :=
  let basic := label.filter fun c => c.toNat < 0x80
  let codes := ((label.map Char.toNat).filter fun n => 0x80 ≤ n).mergeSort.eraseDups
  let w := Writing.run label 0x80 { length := basic.length } codes
  basic ++ (if basic.isEmpty then [] else ['-']) ++ w.text

/-! ### Reading -/

structure Reading where
  label : List Char
  /-- Where the last insertion was made, and the code point inserted there. -/
  place : Nat := 0
  code : Nat := 0x80
  bias : Nat := 72
  isFirst : Bool := true
  /-- What the digits of the number so far amount to, the weight of the next one, its place. -/
  steps : Nat := 0
  weight : Nat := 1
  digitPlace : Nat := 36

/-- Takes one more digit; the last one of a number inserts a character. -/
def Reading.digit? (r : Reading) (c : Char) : Option Reading := do
  let d ← Punycode.digit? c
  let steps := r.steps + d * r.weight
  let t := threshold r.bias r.digitPlace
  if t ≤ d then
    some { r with steps, weight := r.weight * (36 - t), digitPlace := r.digitPlace + 36 }
  else
    let length := r.label.length + 1
    let place := r.place + steps
    let code := r.code + place / length
    if !code.isValidChar then none
    else some {
      label := r.label.insertIdx (place % length) (Char.ofNat code)
      place := place % length + 1
      code
      bias := adapt steps length r.isFirst
      isFirst := false }

/-- The label, if the digits end with a whole number. -/
def decode? (text : List Char) : Option (List Char) := do
  let behind := (text.reverse.takeWhile (· ≠ '-')).reverse
  let basic := text.take (text.length - behind.length - 1)
  let r ← (if basic.isEmpty then text else behind).foldlM Reading.digit? { label := basic }
  if r.weight = 1 then some r.label else none

end Testbed.Domain.Punycode
