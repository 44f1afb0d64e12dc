import Testbed.Address
import Testbed.Domain
import Testbed.Text.Percent
import Testbed.Url.Error

/-!
# Hosts of locations

A host is a domain name, an address of version 4 in any of the ways to write one, an address of
version 6 in brackets, or, where the scheme gives it no meaning, a text of its own.
-/

namespace Testbed.Url

/-- A number as parts of a version 4 address have it: octal behind `0`, hexadecimal behind `0x`. -/
def number? (cs : List Char) : Option Nat :=
  match cs with
  | [] => none
  | '0' :: 'x' :: ds | '0' :: 'X' :: ds => Text.readHex? ds
  | '0' :: ds =>
    if ds.all fun c => '0' ≤ c ∧ c ≤ '7' then some (Nat.ofDigitChars 8 ds 0) else none
  | ds => Text.readDigits? ds

/-- The parts between dots, without the empty one behind a dot at the end. -/
def labels (cs : List Char) : List (List Char) :=
  let parts := Text.splitChars '.' cs
  if 1 < parts.length ∧ parts.getLast? = some [] then parts.dropLast else parts

def endsInNumber (cs : List Char) : Bool :=
  match (labels cs).getLast? with
  | some last => (!last.isEmpty && last.all Char.isDigit) ||
      ((last.take 2 = ['0', 'x'] || last.take 2 = ['0', 'X']) && (number? last).isSome)
  | none => false

/-- A version 4 address of one to four parts, the last one filling all bytes that are left. -/
def addressOf? (cs : List Char) : Option Address := do
  let parts ← (labels cs).mapM number?
  let last ← parts.getLast?
  let front := parts.dropLast
  let room ← [4294967296, 16777216, 65536, 256][front.length]?
  if front.any (255 < ·) ∨ room ≤ last then none
  let n := front.foldl (fun n part => 256 * n + part) 0 * room + last
  return .ofHalves (UInt16.ofNat (n / 65536)) (UInt16.ofNat (n % 65536))

def bracketed? (cs : List Char) : Except Error String :=
  if cs.getLast? = some ']' then
    match Address.parseV6? (cs.drop 1).dropLast with
    | some a => .ok ("[" ++ Address.compressed a.groups ++ "]")
    | none => .error .badV6
  else .error .badV6

def forbiddenInHost : List Char :=
  [' ', '#', '/', ':', '<', '>', '?', '@', '[', '\\', ']', '^', '|']

def isDomainChar (c : Char) : Bool :=
  0x20 < c.toNat && c.toNat < 0x7f && c ∉ '%' :: forbiddenInHost

/-- A name in ASCII or an address. -/
def host? (cs : List Char) : Except Error String :=
  if cs.isEmpty then .error .emptyHost
  else if cs.head? = some '[' then bracketed? cs
  else
    let text := Text.ofUtf8Lossy (Text.Percent.decode (Text.utf8 (String.ofList cs)))
    match (Domain.ascii? text.toList).filter (·.all isDomainChar) with
    | none => .error .badDomain
    | some [] => .error .emptyHost
    | some name =>
      if endsInNumber name then
        match addressOf? name with
        | some a => .ok a.text
        | none => .error .badV4
      else .ok (String.ofList name)

/-- The host of a scheme that gives it no meaning. -/
def plainHost? (cs : List Char) : Except Error String :=
  if cs.head? = some '[' then bracketed? cs
  else if cs.any fun c => c ∈ forbiddenInHost ∨ c = '\x00' then .error .badDomainCharacter
  else .ok (Text.Percent.encode Text.Percent.isControl (String.ofList cs))

end Testbed.Url
