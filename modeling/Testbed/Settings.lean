import Testbed.Text.Blank
import Testbed.Text.Decimal
import Testbed.Text.Quoted
import Testbed.Text.Split

/-!
# Server settings

What a client records about a server it started, so that later clients find it: entries of a key and
a value, one a line. Reading takes `=` or `:` between them, undoes backslash escapes, and skips blank
lines, comments and keys it does not know; the last entry of a key wins.
-/

namespace Testbed

structure Settings where
  port : UInt16
  accessToken : Option String := none
  /-- Milliseconds a client waits for an answer; the file keeps whole seconds. -/
  readTimeout : Option Nat := none
  idleTimeoutMinutes : Option Nat := none
  deriving DecidableEq, Repr, Inhabited

namespace Settings

/-- Why a text is no settings file, or no port number. -/
inductive Problem where
  | missingUri
  | noPort (uri : String)
  | notANumber (key value : String)
  | notAPort (text : String)
  deriving DecidableEq, Repr

def uriKey : String := "server.uri"
def tokenKey : String := "server.access.token"
def readTimeoutKey : String := "server.client.read.timeout"
def idleTimeoutKey : String := "server.idle.timeout.minutes"

def Problem.message : Problem → String
  | missingUri => "missing " ++ uriKey
  | noPort uri => uriKey ++ ": no port in " ++ Text.quote uri
  | notANumber key value => key ++ ": not a number: " ++ Text.quote value
  | notAPort text => "not a port number: " ++ Text.quote text

def portText (port : UInt16) : String := Text.ofNat port.toNat

def readPort? (s : String) : Option UInt16 := (Text.readUnsigned? UInt16.size s).map UInt16.ofNat

def uri (s : Settings) : String := "http://localhost:" ++ portText s.port

/-! ### Writing -/

def entryLine (key value : String) : String := key ++ "=" ++ value ++ "\n"

def render (s : Settings) : String :=
  entryLine uriKey s.uri ++
    (s.accessToken.map (entryLine tokenKey)).getD "" ++
    (s.readTimeout.map fun ms => entryLine readTimeoutKey (Text.ofNat (ms / 1000))).getD "" ++
    (s.idleTimeoutMinutes.map fun m => entryLine idleTimeoutKey (Text.ofNat m)).getD ""

/-! ### Reading -/

/-- The key before the first separator that no backslash precedes, and all that follows it. -/
def splitKey? : List Char → Option (List Char × List Char)
  | [] => none
  | '\\' :: c :: cs => (splitKey? cs).map fun (key, rest) => (c :: key, rest)
  | ['\\'] => none
  | c :: cs =>
    if c = '=' ∨ c = ':' then some ([], cs)
    else (splitKey? cs).map fun (key, rest) => (c :: key, rest)

/-- Drops each backslash that escapes, and one at the end that escapes nothing. -/
def unescape : List Char → List Char
  | [] => []
  | '\\' :: c :: cs => c :: unescape cs
  | ['\\'] => []
  | c :: cs => c :: unescape cs

/-- Key and value of a line. -/
def splitEntry? (line : List Char) : Option (String × String) :=
  (splitKey? line).map fun (key, rest) =>
    (String.ofList (Text.trimChars key),
      String.ofList (Text.dropBlankEnd (unescape (Text.dropBlank rest))))

def isComment (line : List Char) : Bool := line.head? = some '#' || line.head? = some '!'

/-- The entries of a text in order. -/
def entries (text : String) : List (String × String) :=
  (Text.splitChars '\n' text.toList).filterMap fun line =>
    let line := Text.trimChars line
    if isComment line then none else splitEntry? line

/-- What stands between the scheme and the path. -/
def authority (uri : String) : String :=
  let rec afterScheme : List Char → Option (List Char)
    | ':' :: '/' :: '/' :: rest => some rest
    | _ :: cs => afterScheme cs
    | [] => none
  String.ofList (((afterScheme uri.toList).getD uri.toList).takeWhile (· ≠ '/'))

/-- The port behind the last colon of the authority. -/
def portOf? (uri : String) : Option UInt16 :=
  let reversed := (authority uri).toList.reverse
  if ':' ∈ reversed then readPort? (String.ofList (reversed.takeWhile (· ≠ ':')).reverse)
  else none

/-- Settings as far as they have been read. -/
structure Draft where
  port : Option UInt16 := none
  accessToken : Option String := none
  readTimeout : Option Nat := none
  idleTimeoutMinutes : Option Nat := none

def readNumber (bound : Nat) (key value : String) : Except Problem Nat :=
  match Text.readUnsigned? bound value with
  | some n => .ok n
  | none => .error (.notANumber key value)

/-- Takes one entry into account. -/
def Draft.take (d : Draft) (key value : String) : Except Problem Draft :=
  if key = uriKey then
    match portOf? value with
    | some port => .ok { d with port := some port }
    | none => .error (.noPort value)
  else if key = tokenKey then
    .ok { d with accessToken := if value = "" then none else some value }
  else if key = readTimeoutKey then do
    let seconds ← readNumber UInt64.size key value
    .ok { d with readTimeout := some (1000 * seconds) }
  else if key = idleTimeoutKey then do
    let minutes ← readNumber UInt32.size key value
    .ok { d with idleTimeoutMinutes := some minutes }
  else .ok d

def parse (text : String) : Except Problem Settings := do
  let d ← (entries text).foldlM (fun (d : Draft) (key, value) => d.take key value) {}
  match d.port with
  | some port => .ok ⟨port, d.accessToken, d.readTimeout, d.idleTimeoutMinutes⟩
  | none => .error .missingUri

end Settings

end Testbed
