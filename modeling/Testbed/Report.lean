import Testbed.Message
import Testbed.Settings

/-!
# Reports

What the commands print: names one a line, sentences on what was done, and the live resources as a
table or as JSON.
-/

namespace Testbed.Report

def line (s : String) : String := s ++ "\n"

def lines (xs : List String) : String := String.join (xs.map line)

/-- Names one a line, or `none` in their place. -/
def names (none : String) (xs : List String) : String :=
  if xs.isEmpty then line none else lines xs

def resolved (name : String) : Option String → String
  | some value => line (name ++ "=" ++ value)
  | none => line (name ++ " is not resolvable")

def closed (scope : Option String) (any : Bool) : String :=
  let target := match scope with
    | some scope => "scope " ++ scope
    | none => "all scopes"
  line ((if any then "Closed resources in " else "No resources in ") ++ target)

def started (s : Settings) : String := line ("Server running at " ++ s.uri)

def stopped (any : Bool) : String := line (if any then "Server stopped" else "No server running")

/-! ### Resources -/

/-- Fills a text up with spaces to a width. -/
def column (width : Nat) (s : String) : String :=
  String.ofList (s.toList ++ List.replicate (width - s.length) ' ')

/-- The characters within the first `n` bytes, if a character ends there. -/
def upToByte? : Nat → List Char → Option (List Char)
  | 0, _ => some []
  | _, [] => none
  | n, c :: cs => if n < c.utf8Size then none else (upToByte? (n - c.utf8Size) cs).map (c :: ·)

/-- The first twelve bytes of an id, all of it where they end within a character or it is shorter. -/
def shortId (id : String) : String := ((upToByte? 12 id.toList).map String.ofList).getD id

def row (name image id scope : String) : String :=
  line (" ".intercalate [column 24 name, column 40 image, column 16 id, scope])

def table (resources : List Message.Descriptor) : String :=
  if resources.isEmpty then line "No live resources"
  else
    row "NAME" "IMAGE" "ID" "SCOPE" ++ line (String.ofList (List.replicate 90 '-')) ++
      String.join (resources.map fun r =>
        row r.name r.imageName (shortId r.id) (if r.scope = "" then "-" else r.scope))

def json (resources : List Message.Descriptor) : String :=
  line (Text.Json.pretty 0 (.array (resources.map Message.Descriptor.json)))

def resources (asJson : Bool) (rs : List Message.Descriptor) : String :=
  if asJson then json rs else table rs

end Testbed.Report
