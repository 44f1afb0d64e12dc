import Testbed.Text.Percent
import Testbed.Text.Split
import Testbed.Url.Scheme

/-!
# Paths of locations

A path is a list of segments in encoded form. Dot segments are carried out when it is read: a single
dot stays, a double dot goes up, but not beyond a drive, which is a letter with a colon.
-/

namespace Testbed.Url

def isDot (segment : String) : Bool := segment ∈ [".", "%2e", "%2E"]

def isDoubleDot (segment : String) : Bool :=
  segment ∈ ["..", "%2e%2e", "%2e%2E", "%2E%2e", "%2E%2E", "%2e.", "%2E.", ".%2e", ".%2E"]

/-- Line breaks and tabs, which count for nothing nearly everywhere. -/
def isBreak (c : Char) : Bool := c = '\t' || c = '\n' || c = '\r'

def bare (cs : List Char) : List Char := cs.filter fun c => !isBreak c

/-- Whether characters are a drive: a letter with a colon, or a bar that stands for one. -/
def isDriveChars : List Char → Bool
  | [letter, mark] => letter.isAlpha && (mark = ':' || mark = '|')
  | _ => false

def isDrive (segment : String) : Bool := isDriveChars segment.toList

/-- A drive with its colon, any other segment as it is. -/
def withColon (segment : String) : String :=
  if isDrive segment then String.ofList (segment.toList.take 1 ++ [':']) else segment

/-- Whether a segment is a drive up to its first backslash. -/
def beginsWithDrive (segment : String) : Bool :=
  isDriveChars (segment.toList.takeWhile (· ≠ '\\'))

/-- One segment less, a drive excepted. -/
def goUp (done : List String) : List String :=
  if (done.getLast?.map beginsWithDrive).getD false then done else done.dropLast

/-- A drive that a break parts from more text of its segment, and that text. -/
def partedDrive? (text : List Char) : Option (List Char × List Char) :=
  match text.dropWhile isBreak with
  | [] => none
  | letter :: rest =>
    match rest.dropWhile isBreak with
    | ':' :: rest =>
      let more := rest.dropWhile isBreak
      if letter.isAlpha ∧ more ≠ [] ∧ more ≠ rest then some ([letter, ':'], bare more) else none
    | _ => none

def encodeSegment (cs : List Char) : String :=
  Text.Percent.encode Text.Percent.inPath (String.ofList cs)

/-- A path as far as it has been read. -/
structure Walk where
  segments : List String := []
  /-- Whether it began with a drive that is a segment of its own, which leaves a host no meaning. -/
  onDrive : Bool := false
  deriving DecidableEq, Repr

namespace Walk

/-- Takes one more segment, `text` being how it is written, and carries it out if it is a dot
segment. Among files a drive in front gets its colon; one that a break parts from the rest is the
segment before that rest, whatever it is. -/
def step (ofFiles isLast : Bool) (w : Walk) (text : List Char) : Walk :=
  let segment := encodeSegment (bare text)
  let ending := if isLast then [""] else []
  let inFront := ofFiles && w.segments.isEmpty
  match (partedDrive? text).filter fun _ => inFront with
  | some (drive, rest) => { w with segments := [String.ofList drive, encodeSegment rest] }
  | none =>
    if isDoubleDot segment then { w with segments := goUp w.segments ++ ending }
    else if isDot segment then { w with segments := w.segments ++ ending }
    else if inFront ∧ isDrive segment then ⟨[withColon segment], true⟩
    else { w with segments := w.segments ++ [segment] }

def follow (ofFiles : Bool) (w : Walk) : List (List Char) → Walk
  | [] => w
  | text :: rest => follow ofFiles (w.step ofFiles rest.isEmpty text) rest

end Walk

/-- The segments between slashes, and between backslashes where those are as good. -/
def segmentsOf (special : Bool) (cs : List Char) : List (List Char) :=
  Text.splitChars '/' (if special then cs.map fun c => if c = '\\' then '/' else c else cs)

/-- The path that its text leads to; all paths of schemes where a backslash is a slash begin with a
slash. -/
def pathOf (scheme : String) (cs : List Char) : Walk :=
  let special := isSpecial scheme
  match cs.dropWhile isBreak with
  | [] => { segments := if special then [""] else [] }
  | c :: rest =>
    Walk.follow (scheme = fileScheme) {}
      (segmentsOf special (if c = '/' || special && isSlash c then rest else c :: rest))

/-- A path without the empty segments in front; one that has no other is the root. -/
def dropEmpty (path : List String) : List String :=
  match path.dropWhile (· = "") with
  | [] => [""]
  | path => path

end Testbed.Url
