import Testbed.Url.Host
import Testbed.Url.Path

/-!
# Locations

A location names a host, a port and a path of encoded segments. `Url.parse` reads a text leniently:
it drops controls around it and line breaks and tabs within, takes scheme and host without regard to
case, leaves out a port that is the scheme's own, and carries out the dot segments of the path.
`Url.extend` leads on from a location by segments that stand for themselves.
-/

namespace Testbed

structure Url where
  scheme : String
  /-- User name and password in encoded form with an at sign behind them, or nothing. -/
  credentials : String := ""
  host : Option String
  /-- Absent where it is the scheme's own. -/
  port : Option UInt16 := none
  /-- The segments in encoded form; a trailing slash is an empty last segment. -/
  path : List String
  query : Option String := none
  fragment : Option String := none
  deriving DecidableEq, Repr

namespace Url

/-! ### Reading -/

/-- A text without the controls and spaces around it. -/
def trimEdges (cs : List Char) : List Char :=
  let isEdge (c : Char) : Bool := c.toNat ≤ 0x20
  ((cs.dropWhile isEdge).reverse.dropWhile isEdge).reverse

/-- The parts of what follows an authority: path, query and fragment. -/
def splitTail (cs : List Char) : List Char × Option (List Char) × Option (List Char) :=
  let beforeFragment := cs.takeWhile (· ≠ '#')
  let fragment := match cs.dropWhile (· ≠ '#') with
    | [] => none
    | _ :: rest => some (bare rest)
  let query := match beforeFragment.dropWhile (· ≠ '?') with
    | [] => none
    | _ :: rest => some (bare rest)
  (beforeFragment.takeWhile (· ≠ '?'), query, fragment)

/-- Adds to a location what its text says behind the authority. A file on a drive has no host. -/
def withTail (u : Url) (cs : List Char) : Url :=
  let special := isSpecial u.scheme
  let ofFiles := u.scheme = fileScheme
  let (text, query, fragment) := splitTail cs
  let walk := pathOf u.scheme text
  let inQuery (b : UInt8) : Bool := Text.Percent.inQuery b && (special || b ≠ 39)
  { u with
    host := if walk.onDrive then some "" else u.host
    path := if ofFiles then dropEmpty walk.segments else walk.segments
    query := query.map fun q => Text.Percent.encode inQuery (String.ofList q)
    fragment := fragment.map fun f => Text.Percent.encode Text.Percent.inFragment (String.ofList f) }

/-- The text before the last at sign, if there is one, and after it. -/
def splitUser (cs : List Char) : Option (List Char) × List Char :=
  let behind := (cs.reverse.takeWhile (· ≠ '@')).reverse
  if '@' ∈ cs then (some (cs.take (cs.length - behind.length - 1)), behind) else (none, cs)

def credentialsOf (cs : List Char) : String :=
  let encode (part : List Char) :=
    Text.Percent.encode Text.Percent.inUserInfo (String.ofList part)
  let user := encode (cs.takeWhile (· ≠ ':'))
  let password := encode ((cs.dropWhile (· ≠ ':')).drop 1)
  if user = "" ∧ password = "" then ""
  else user ++ (if password = "" then "" else ":" ++ password) ++ "@"

/-- The text before and from the first colon outside brackets. -/
def splitPort (inside : Bool) : List Char → List Char × List Char
  | [] => ([], [])
  | c :: cs =>
    if c = ':' ∧ !inside then ([], c :: cs)
    else
      let (host, port) := splitPort (c = '[' || (inside && c ≠ ']')) cs
      (c :: host, port)

/-- The port that a text behind a colon gives, unless it is the scheme's own. -/
def port? (scheme : String) (digits : List Char) : Except Error (Option UInt16) :=
  if digits.isEmpty then .ok none
  else match (Text.readDigits? digits).filter (· < 65536) with
    | none => .error .badPort
    | some n =>
      let port := UInt16.ofNat n
      .ok (if ownPort? scheme = some port then none else some port)

def isEnd (special : Bool) (c : Char) : Bool :=
  c = '/' || c = '?' || c = '#' || (special && c = '\\')

/-- Reads an authority and what follows it. A host that nothing is said of may be empty where the
scheme gives hosts no meaning. A backslash ends a port in any case. -/
def parseAuthority (scheme : String) (cs : List Char) : Except Error Url := do
  let (user, place) := splitUser (cs.takeWhile fun c => !isEnd (isSpecial scheme) c)
  let tail := cs.dropWhile fun c => !isEnd (isSpecial scheme) c
  if user = some [] ∧ place.isEmpty ∧ !tail.isEmpty then .error .emptyHost
  let credentials := (user.map credentialsOf).getD ""
  let (name, port) := splitPort false place
  let host ← if isHosted scheme then host? name else plainHost? name
  if name.isEmpty ∧ !port.isEmpty then .error .emptyHost
  let port? ← port? scheme ((port.drop 1).takeWhile (· ≠ '\\'))
  if name.isEmpty ∧ credentials ≠ "" then .error .emptyHost
  .ok (withTail ⟨scheme, credentials, some host, port?, [], none, none⟩
    (port.dropWhile (· ≠ '\\') ++ tail))

/-- What follows a slash in front. -/
def afterSlash? (cs : List Char) : Option (List Char) :=
  match cs.dropWhile isBreak with
  | [] => none
  | c :: rest => if isSlash c then some rest else none

/-- Reads what follows the scheme of files, breaks included: two slashes may lead to a host, but a
drive is none. Without a host the slash behind its place is one more than those of the path. -/
def parseFile (cs : List Char) : Except Error Url := do
  let here : Url := { scheme := fileScheme, host := some "", path := [] }
  match (afterSlash? cs).bind afterSlash? with
  | none => .ok (withTail here cs)
  | some rest =>
    let name := bare (rest.takeWhile fun c => !isEnd true c)
    if isDriveChars name then .ok (withTail here rest)
    else
      let host ← if name.isEmpty then .ok "" else host? name
      let tail := rest.dropWhile fun c => !isEnd true c
      if host = "" ∨ host = "localhost" then .ok (withTail here ('/' :: tail))
      else .ok (withTail { here with host := some host } tail)

def parse (text : String) : Except Error Url :=
  let cs := trimEdges text.toList
  match splitScheme? (bare cs) with
  | none => .error .relative
  | some (scheme, rest) =>
    if scheme = fileScheme then parseFile ((cs.dropWhile (· ≠ ':')).drop 1)
    else if isHosted scheme then parseAuthority scheme (rest.dropWhile isSlash)
    else match rest with
      | '/' :: '/' :: rest => parseAuthority scheme rest
      | '/' :: _ => .ok (withTail { scheme, host := none, path := [] } rest)
      | _ => .error .pathless

/-! ### Writing -/

def pathText (path : List String) : String := String.join (path.map ("/" ++ ·))

/-- Path and query, as a request names them. -/
def target (u : Url) : String :=
  pathText u.path ++ (u.query.map ("?" ++ ·)).getD ""

/-- A path without an authority before it has a dot in front if it would read as one. -/
def text (u : Url) : String :=
  let place := match u.host with
    | some host =>
      "//" ++ u.credentials ++ host ++ (u.port.map fun p => ":" ++ Text.ofNat p.toNat).getD ""
    | none => match u.path with
      | "" :: _ :: _ => "/."
      | _ => ""
  u.scheme ++ ":" ++ place ++ u.target ++ (u.fragment.map ("#" ++ ·)).getD ""

/-! ### Leading on -/

/-- One more segment; on the empty path it takes the place of the empty segment. A text that names
no segment of its own is dropped, and one that does so once its line breaks and tabs are taken out
still has its effect. -/
def push (path : List String) (segment : String) : List String :=
  if segment = "." ∨ segment = ".." then path
  else
    let name := String.ofList (bare segment.toList)
    let before := if path = [""] then [] else path
    if name = "." then before ++ [""]
    else if name = ".." then goUp before ++ [""]
    else before ++ [Text.Percent.encode Text.Percent.inSegment name]

/-- The location reached through `segments`; a trailing slash does not count as a segment. -/
def extend (u : Url) (segments : List String) : Url :=
  let start := if 1 < u.path.length ∧ u.path.getLast? = some "" then u.path.dropLast else u.path
  { u with path := segments.foldl push start }

end Url

end Testbed
