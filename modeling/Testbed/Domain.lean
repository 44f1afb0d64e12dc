import Testbed.Domain.Direction
import Testbed.Domain.Joining
import Testbed.Domain.Mapping
import Testbed.Domain.Mark
import Testbed.Domain.Punycode
import Testbed.Text.Canonical

/-!
# Domain names

A domain name is a row of labels with dots between them. `Domain.ascii?` gives the one form in which
a name travels: characters are read as those they stand for, each label is in canonical form, and a
label beyond ASCII is written in ASCII behind a marker. A label that bears the marker already has to
be one that would be written so.
-/

namespace Testbed.Domain

/-- What a label beyond ASCII begins with when it is written in ASCII. -/
def marker : List Char := ['x', 'n', '-', '-']

/-- How many characters a label beyond ASCII may have, and how many its form behind the marker. -/
def labelLimit : Nat := 1000

def markedLimit : Nat := 2000

/-- Whether what a marker was found on could have been written by `writeLabel`. -/
def isWritable (label : List Char) : Bool :=
  !label.all Text.isAscii && label.all isKept && Text.canonical label = label

/-- The label that a text between dots stands for. -/
def readLabel? (text : List Char) : Option (List Char) :=
  match Text.dropPrefixChars? marker text with
  | none => some text
  | some rest =>
    if text.all Text.isAscii ∧ rest.length ≤ markedLimit then
      (Punycode.decode? rest).filter isWritable
    else none

def writeLabel (label : List Char) : List Char :=
  if label.all Text.isAscii then label else marker ++ Punycode.encode label

/-- Whether a label is not too long and marks and joiners stand where they may: no label begins with
a mark. -/
def isWellBuilt (label : List Char) : Bool :=
  label.all Text.isAscii ||
    (label.length ≤ labelLimit && !((label.head?.map combining.contains).getD false) &&
      joinersFit [] label)

/-- Whether the labels of a name can be read in the directions of their characters. -/
def areDirected (labels : List (List Char)) : Bool :=
  !labels.any (·.any Direction.isBinding) || labels.all Direction.fits

/-- The form in ASCII, if the name has one. -/
def ascii? (name : List Char) : Option (List Char) := do
  let text := Text.canonical (← name.mapM read?).flatten
  let labels ← (Text.splitChars '.' text).mapM readLabel?
  if labels.all isWellBuilt && areDirected labels then
    some (['.'].intercalate (labels.map writeLabel))
  else none

end Testbed.Domain
