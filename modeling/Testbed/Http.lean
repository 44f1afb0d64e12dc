import Testbed.Text.Percent

/-!
# Requests and responses

What one HTTP exchange carries. Header names are compared without regard to case and the first header
of a name counts; a header value is text only where every byte is visible ASCII, a space or a tab.
-/

namespace Testbed.Http

inductive Method where
  | get
  | head
  | post
  | other (name : String)
  deriving DecidableEq, Repr

def Method.text : Method → String
  | get => "GET"
  | head => "HEAD"
  | post => "POST"
  | other name => name

def Method.ofText : String → Method
  | "GET" => get
  | "HEAD" => head
  | "POST" => post
  | name => other name

/-- A header name and the bytes of its value. -/
abbrev Header := String × Bytes

structure Request where
  method : Method
  /-- The path in its encoded form, and a query behind a question mark if there is one; scheme and
  authority may precede them. -/
  target : String
  headers : List Header := []
  body : Bytes := []
  deriving DecidableEq, Repr

structure Response where
  status : Nat
  contentType : Option String := none
  body : Bytes := []
  deriving DecidableEq, Repr

def sameName (a b : String) : Bool := a.toList.map Char.toLower == b.toList.map Char.toLower

/-- The bytes of the first header of a name. -/
def header? (name : String) (headers : List Header) : Option Bytes :=
  (headers.find? fun h => sameName h.1 name).map Prod.snd

def isPlain (b : UInt8) : Bool := (0x20 ≤ b && b < 0x7f) || b = 9

/-- The text of a header value, if it has one. -/
def headerText? (value : Bytes) : Option String :=
  if value.all isPlain then Text.ofUtf8? value else none

/-- Whether a header value can be sent at all: controls other than the tab cannot. -/
def isSendable (value : Bytes) : Bool := value.all fun b => b = 9 || !Text.Percent.isControl b

def isSpacing (b : UInt8) : Bool := b = 32 || b = 9

/-- A header value as it arrives: spacing around it is lost. -/
def trimValue (value : Bytes) : Bytes :=
  ((value.dropWhile isSpacing).reverse.dropWhile isSpacing).reverse

namespace Request

/-- Characters that may stand in front of the mark of an authority; none has to. -/
def isSchemeChar (c : Char) : Bool := c.isAlphanum || c ∈ ['+', '-', '.', '~']

/-- The path of a target; behind an authority it is the root where there is none. -/
def path (r : Request) : String :=
  let upToTail (cs : List Char) := cs.takeWhile fun c => c ≠ '?' ∧ c ≠ '#'
  match r.target.toList.dropWhile isSchemeChar with
  | ':' :: '/' :: '/' :: rest =>
    match (upToTail rest).dropWhile (· ≠ '/') with
    | [] => "/"
    | path => String.ofList path
  | _ => String.ofList (upToTail r.target.toList)

/-- The request as the other side of a connection sees it. -/
def received (r : Request) : Request :=
  { r with headers := r.headers.map fun h => (h.1, trimValue h.2) }

end Request

namespace Response

def textType : String := "text/plain; charset=utf-8"

def ofText (status : Nat) (text : String) : Response :=
  ⟨status, some textType, Text.utf8 text⟩

/-- The answer to a request that asks for the head of a response only. -/
def headOnly (r : Response) : Response := { r with body := [] }

end Response

end Testbed.Http
