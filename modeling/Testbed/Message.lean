import Testbed.Value
import Testbed.Text.Quoted
import Testbed.Text.Json

/-!
# Requests and descriptors as wire values

Each message is a map with fixed keys. Reading one skips keys it does not know, takes an absent or
null part as empty, and reports the first part of another shape. Answers are plain values, read by
`stringList`, `optionalString`, `boolean` and `properties`.
-/

namespace Testbed.Message

inductive Error where
  | missingField (field : String)
  | unexpectedKind (field expected actual : String)
  deriving DecidableEq, Repr

def Error.message : Error → String
  | .missingField f => "missing field " ++ Text.quote f
  | .unexpectedKind f e a => "field " ++ Text.quote f ++ ": expected " ++ e ++ ", got " ++ a

abbrev Read (α : Type) := Except Error α

def unexpected {α : Type} (field expected : String) (actual : Value) : Read α :=
  .error (.unexpectedKind field expected actual.kind)

def expectString (field : String) : Value → Read String
  | .string s => .ok s
  | v => unexpected field "string" v

def expectMap (field : String) : Value → Read (List (Value × Value))
  | .map pairs => .ok pairs
  | v => unexpected field "map" v

/-! ### Answers -/

/-- Null stands for no strings. -/
def stringList (field : String) : Value → Read (List String)
  | .null => .ok []
  | .list items => items.mapM (expectString field)
  | v => unexpected field "list" v

def optionalString (field : String) : Value → Read (Option String)
  | .null => .ok none
  | .string s => .ok (some s)
  | v => unexpected field "string" v

def boolean (field : String) : Value → Read Bool
  | .bool b => .ok b
  | v => unexpected field "boolean" v

/-- A map with text keys only; null stands for the empty one. -/
def properties (field : String) : Value → Read Properties
  | .null => .ok ∅
  | .map pairs => do
    let ps ← pairs.mapM fun (k, v) => do
      let name ← expectString field k
      .ok (name, v)
    .ok (Dict.ofList ps)
  | v => unexpected field "map" v

def propertiesField (field : String) (pairs : List (Value × Value)) : Read Properties :=
  match Value.field? pairs field with
  | some v => properties field v
  | none => .ok ∅

/-! ### Requests -/

/-- Asks for the value of one property. -/
structure ResolveRequest where
  name : String
  properties : Properties := ∅
  config : Properties := ∅

/-- Asks which properties can be resolved. -/
structure ListRequest where
  entries : EntryGroups := ∅
  config : Properties := ∅

namespace ResolveRequest

def toValue (r : ResolveRequest) : Value :=
  .ofPairs [
    (.string "name", .string r.name),
    (.string "properties", .ofDict r.properties),
    (.string "config", .ofDict r.config)]

def ofValue (v : Value) : Read ResolveRequest := do
  let pairs ← expectMap "body" v
  let name ← match Value.field? pairs "name" with
    | some name => expectString "name" name
    | none => .error (.missingField "name")
  let properties ← propertiesField "properties" pairs
  let config ← propertiesField "config" pairs
  .ok ⟨name, properties, config⟩

end ResolveRequest

/-- The entry groups under `propertyEntries`. -/
def entryGroups (pairs : List (Value × Value)) : Read EntryGroups :=
  match Value.field? pairs "propertyEntries" with
  | none | some .null => .ok ∅
  | some (.map groups) => do
    let gs ← groups.mapM fun (group, members) => do
      let name ← expectString "propertyEntries" group
      let names ← stringList "propertyEntries" members
      .ok (name, names)
    .ok (Dict.ofList gs)
  | some v => unexpected "propertyEntries" "map" v

namespace ListRequest

def toValue (r : ListRequest) : Value :=
  .ofPairs [
    (.string "propertyEntries", .ofDict (r.entries.map .ofStrings)),
    (.string "config", .ofDict r.config)]

def ofValue (v : Value) : Read ListRequest := do
  let pairs ← expectMap "body" v
  let entries ← entryGroups pairs
  let config ← propertiesField "config" pairs
  .ok ⟨entries, config⟩

end ListRequest

/-! ### Descriptors -/

/-- A live resource as listings show it. -/
structure Descriptor where
  name : String
  imageName : String
  id : String
  scope : String
  deriving DecidableEq, Repr, Inhabited

namespace Descriptor

def toValue (d : Descriptor) : Value :=
  .ofPairs [
    (.string "name", .string d.name),
    (.string "imageName", .string d.imageName),
    (.string "id", .string d.id),
    (.string "scope", .string d.scope)]

/-- An absent or null part reads as the empty text. -/
def textField (pairs : List (Value × Value)) (field : String) : Read String :=
  match Value.field? pairs field with
  | none | some .null => .ok ""
  | some v => expectString field v

def ofValue (v : Value) : Read Descriptor := do
  let pairs ← expectMap "resource" v
  let name ← textField pairs "name"
  let imageName ← textField pairs "imageName"
  let id ← textField pairs "id"
  let scope ← textField pairs "scope"
  .ok ⟨name, imageName, id, scope⟩

def json (d : Descriptor) : Text.Json :=
  .object [
    ("name", .string d.name),
    ("imageName", .string d.imageName),
    ("id", .string d.id),
    ("scope", .string d.scope)]

end Descriptor

end Testbed.Message
