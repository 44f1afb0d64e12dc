import Testbed.Value
import Testbed.Text.Split
import Testbed.Text.Quoted

/-!
# Scopes

A scope is a path of segments from the root. A resource lives in a scope and is torn down when that
scope or one of its ancestors is closed. The text of a scope joins its segments with dots; empty
segments in a text are skipped, so several texts name one scope but each scope has one text.
-/

namespace Testbed

structure Scope where
  segments : List String
  deriving DecidableEq, Repr, Inhabited

namespace Scope

/-- Why a child cannot be derived. -/
inductive Error where
  | emptySegment
  | dottedSegment (segment : String)
  deriving DecidableEq, Repr

def Error.message : Error → String
  | .emptySegment => "scope segment must not be empty"
  | .dottedSegment s => s!"scope segment {Text.quote s} must not contain '.'"

/-- Segments are non-empty and hold no dot. -/
def WellFormed (s : Scope) : Prop := ∀ x ∈ s.segments, x ≠ "" ∧ '.' ∉ x.toList

def root : Scope := ⟨[]⟩

def isRoot (s : Scope) : Bool := s.segments.isEmpty

def parse (path : String) : Scope := ⟨(Text.splitOn '.' path).filter (· ≠ "")⟩

def text (s : Scope) : String := ".".intercalate s.segments

def child (s : Scope) (segment : String) : Except Error Scope :=
  if segment = "" then .error .emptySegment
  else if '.' ∈ segment.toList then .error (.dottedSegment segment)
  else .ok ⟨s.segments ++ [segment]⟩

def parent? (s : Scope) : Option Scope :=
  if s.segments.isEmpty then none else some ⟨s.segments.dropLast⟩

/-- The last segment. -/
def name? (s : Scope) : Option String := s.segments.getLast?

/-- Whether `s` is `t` or one of its ancestors. -/
def includes (s t : Scope) : Bool := s.segments.isPrefixOf t.segments

/-- The scopes above `s`, nearest first, the root last. -/
def ancestors (s : Scope) : List Scope :=
  (List.range s.segments.length).reverse.map fun n => ⟨s.segments.take n⟩

instance : Ord Scope := ⟨fun s t => compare s.segments t.segments⟩

/-- The property that carries the scope of a request. -/
def propertyName : String := "test-resources.scope"

/-- The scope a request names, the root if it names none. -/
def ofProperties (properties : Properties) : Scope :=
  match properties.get? propertyName with
  | none | some .null => root
  | some v => parse v.text

/-- The form of a scope in diagnostics. -/
def debugText (s : Scope) : String := s!"Scope({Text.quote s.text})"

end Scope

end Testbed
