import Crosswalk.Json.Flag
import Crosswalk.Text.Basic

/-!
Data types and the three categories of values that they have; values of metadata fields, and their
form in a payload.
-/

namespace Crosswalk

/-- What identifies a value: a text, an address or another resource. -/
inductive Category where
  | literal
  | uri
  | resource
deriving DecidableEq, Inhabited

namespace Category

def name : Category → String
  | .literal => "literal"
  | .uri => "uri"
  | .resource => "resource"

/-- The data types that every host knows by a beginning of their name. -/
def families : List (String × Category) :=
  [("resource:", .resource), ("numeric:", .literal), ("valuesuggest:", .uri),
    ("valuesuggestall:", .uri)]

/-- The category of a data type that every host knows. -/
def ofBuiltin? (dataType : String) : Option Category :=
  if dataType ∈ ["literal", "html", "xml", "boolean"] then some .literal
  else if dataType = "uri" then some .uri
  else if dataType = "resource" then some .resource
  else
    (families.find? fun (lead, _) => Text.beginsWith lead.toList dataType.toList).map Prod.snd

end Category

/-- The kind of the resources that values of a data type link to. -/
def linkedKind (dataType : String) : String :=
  match dataType with
  | "resource:item" => "items"
  | "resource:itemset" => "item_sets"
  | "resource:media" => "media"
  | "resource:annotation" => "annotations"
  | _ => "resources"

/-! ### Values -/

/-- What a value says. An unresolved content is the text of a link that could not be verified. -/
inductive Content where
  | literal (s : String)
  | uri (s : String)
  | resource (id : Nat)
  | unresolved (s : String)
deriving DecidableEq, Inhabited

/-- A value of a metadata field. -/
structure Value where
  dataType : String
  content : Content
  language : Option String
  isPublic : Bool
  propertyId : Option Nat
  propertyLabel : Option String
deriving DecidableEq, Inhabited

/-- Values by the term of their field, in the order in which the terms came first. -/
abbrev ValueTable := Table (List Value)

namespace Value

/-- Whether the link of a value is not verified. -/
def isUnresolved (v : Value) : Bool :=
  match v.content with
  | .unresolved _ => true
  | _ => false

/-- The text that identifies a value. -/
def text (v : Value) : String :=
  match v.content with
  | .literal s => s
  | .uri s => s
  | .resource id => String.ofList (Text.ofNat id)
  | .unresolved s => s

/-- Makes a literal of a link that is not verified, keeping its text. -/
def asLiteral (v : Value) : Value :=
  match v.content with
  | .unresolved s => { v with dataType := Category.literal.name, content := .literal s }
  | _ => v

/-- The member of a payload value that identifies it. -/
def contentMember : Content → String × Json
  | .literal s => ("@value", .text s)
  | .uri s => ("@id", .text s)
  | .resource id => ("value_resource_id", .ofNat id)
  | .unresolved s => ("@value", .text s)

def toJson (v : Value) : Json :=
  let (key, identity) := contentMember v.content
  Json.objectOf
    [("type", some (.text v.dataType)), (key, some identity), ("@language", v.language.map .text),
      ("is_public", some (.bool v.isPublic)), ("property_id", v.propertyId.map .ofNat),
      ("property_label", v.propertyLabel.map .text)]

end Value

def ValueTable.toJson (values : ValueTable) : Json :=
  .object (values.entries.map fun (term, list) => (term, .array (list.map Value.toJson)))

end Crosswalk
