import Testbed.Assoc
import Testbed.Dict
import Testbed.Text.Decimal

/-!
# Wire values

The closed system of values that requests, answers, properties and configurations are made of, the
total order that arranges the keys of a map, and the text of a value.

`Value.map` takes its pairs in any order; `Value.ofPairs` arranges them, and `Value.Ordered` says
that every map in a value is arranged. All values the library makes are.
-/

namespace Testbed

inductive Value where
  | null
  | bool (b : Bool)
  | int (i : Int32)
  | string (s : String)
  | list (items : List Value)
  | map (pairs : List (Value × Value))
  deriving Inhabited, Repr

namespace Value

/-- The position of a kind in the order of values. -/
def rank : Value → Nat
  | null => 0
  | bool _ => 1
  | int _ => 2
  | string _ => 3
  | list _ => 4
  | map _ => 5

/-- The name of a kind in messages. -/
def kind : Value → String
  | null => "null"
  | bool _ => "boolean"
  | int _ => "integer"
  | string _ => "string"
  | list _ => "list"
  | map _ => "map"

def isNull : Value → Bool
  | null => true
  | _ => false

def string? : Value → Option String
  | string s => some s
  | _ => none

def bool? : Value → Option Bool
  | bool b => some b
  | _ => none

def int? : Value → Option Int32
  | int i => some i
  | _ => none

def list? : Value → Option (List Value)
  | list items => some items
  | _ => none

def map? : Value → Option (List (Value × Value))
  | map pairs => some pairs
  | _ => none

/-- The value, unless it is null. -/
def nonNull? (v : Value) : Option Value := if v.isNull then none else some v

/-! ### Order -/

mutual

/-- Kinds by `rank`, false before true, integers by size, strings by code point, lists and maps
lexicographically, a pair of a map by key and then value. -/
def order : Value → Value → Ordering
  | null, null => .eq
  | bool a, bool b => compare a b
  | int a, int b => compare a b
  | string a, string b => compare a b
  | list xs, list ys => orderItems xs ys
  | map ps, map qs => orderPairs ps qs
  | v, w => compare v.rank w.rank

def orderItems : List Value → List Value → Ordering
  | [], [] => .eq
  | [], _ :: _ => .lt
  | _ :: _, [] => .gt
  | x :: xs, y :: ys => (order x y).then (orderItems xs ys)

def orderPairs : List (Value × Value) → List (Value × Value) → Ordering
  | [], [] => .eq
  | [], _ :: _ => .lt
  | _ :: _, [] => .gt
  | (k, v) :: ps, (l, w) :: qs => (order k l).then ((order v w).then (orderPairs ps qs))

end

instance : Ord Value := ⟨order⟩

/-- The map of `ps`, in which the last pair of an equal key wins. -/
def ofPairs (ps : List (Value × Value)) : Value := map (Assoc.ofList ps)

mutual

/-- Every map in the value has its keys in strictly ascending order. -/
def Ordered : Value → Prop
  | list items => OrderedItems items
  | map pairs => Assoc.Ascending pairs ∧ OrderedPairs pairs
  | _ => True

def OrderedItems : List Value → Prop
  | [] => True
  | x :: xs => Ordered x ∧ OrderedItems xs

def OrderedPairs : List (Value × Value) → Prop
  | [] => True
  | (k, v) :: ps => Ordered k ∧ Ordered v ∧ OrderedPairs ps

end

/-! ### Text -/

mutual

/-- Strings stand bare, lists in brackets, maps in braces with `=` between key and value. -/
def text : Value → String
  | null => "null"
  | bool true => "true"
  | bool false => "false"
  | int i => Text.ofInt i.toInt
  | string s => s
  | list items => "[" ++ ", ".intercalate (itemTexts items) ++ "]"
  | map pairs => "\x7b" ++ ", ".intercalate (pairTexts pairs) ++ "\x7d"

def itemTexts : List Value → List String
  | [] => []
  | x :: xs => text x :: itemTexts xs

def pairTexts : List (Value × Value) → List String
  | [] => []
  | (k, v) :: ps => (text k ++ "=" ++ text v) :: pairTexts ps

end

/-! ### Height -/

mutual

/-- Zero for scalars and empty collections, otherwise one more than the highest part. -/
def height : Value → Nat
  | list items => heightItems items
  | map pairs => heightPairs pairs
  | _ => 0

/-- One more than the highest item, zero without items. -/
def heightItems : List Value → Nat
  | [] => 0
  | x :: xs => max (height x + 1) (heightItems xs)

def heightPairs : List (Value × Value) → Nat
  | [] => 0
  | (k, v) :: ps => max (max (height k) (height v) + 1) (heightPairs ps)

end

/-! ### Maps keyed by text -/

/-- The value under a text key. -/
def field? (pairs : List (Value × Value)) (name : String) : Option Value :=
  Assoc.get? (string name) pairs

def ofDict (d : Dict Value) : Value := map (d.entries.map fun p => (string p.1, p.2))

def ofStrings (xs : List String) : Value := list (xs.map string)

def ofOption : Option String → Value
  | none => null
  | some s => string s

end Value

/-- Property values or configuration by name. -/
abbrev Properties := Dict Value

/-- The members of each entry group. -/
abbrev EntryGroups := Dict (List String)

end Testbed
