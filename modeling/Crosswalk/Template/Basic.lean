import Crosswalk.Json.Flag
import Crosswalk.Mapping.Reader
import Crosswalk.Value.Basic

/-!
Templates of resources: what each property of a resource may hold, and the values that are made for
it.

A template gives two mappings: rules for values that are made on every save, and rules for values
that are made while a property has none.
-/

namespace Crosswalk

open Crosswalk.Mapping

/-- What a template says of a property. -/
structure Template.Property where
  term : String
  dataTypes : List String
  isRequired : Bool
  automaticValue : Option String
  defaultValue : Option String
  minValues : Option Nat
  maxValues : Option Nat
  minLength : Option Nat
  maxLength : Option Nat
  inputControl : Option String
deriving DecidableEq, Inhabited

/-- A template. -/
structure Template where
  id : Nat
  label : String
  automaticValues : String
  properties : List Template.Property
deriving DecidableEq, Inhabited

namespace Template

/-- A text without the blanks around it, unless nothing is left. -/
def nonBlank? (s : Option String) : Option String :=
  (s.map Text.trimmed).filter (· ≠ "")

namespace Property

/-- The data type of values that are made: the first that is allowed. -/
def dataType (p : Property) : String := p.dataTypes.head?.getD Category.literal.name

def constantRule (p : Property) (pattern : String) : Rule :=
  { source := constantSource
    target :=
      .ofSpec
        { Field.Spec.ofField p.term with
          dataType := some p.dataType, pattern := some pattern } }

/-- The rule for the value that is made on every save. -/
def automaticRule? (p : Property) : Option Rule :=
  (nonBlank? p.automaticValue).map p.constantRule

/-- The rule for the value that is made while there is none. -/
def defaultRule? (p : Property) : Option Rule :=
  (nonBlank? p.defaultValue).map p.constantRule

/-- The fields of a property, in the order in which an array gives them. -/
def fields : List String :=
  ["term", "data_types", "required", "automatic_value", "default_value", "min_values",
    "max_values", "min_length", "max_length", "input_control"]

/-- Reads a text that may be null or left out. -/
def optionalText (value : Option Json) : Option (Option String) :=
  Json.withDefault none (Json.nullable Json.asText?) value

/-- Reads a number that may be null or left out. -/
def optionalNat (value : Option Json) : Option (Option Nat) :=
  Json.withDefault none (Json.nullable Json.asNat?) value

/-- Decodes a property. Fields that are left out are empty; whether a value is required may be said
in any way that says yes or no. -/
def ofJson? (j : Json) : Option Property := do
  let r ← Json.record? fields j
  let term ← Json.withDefault "" Json.asText? (r "term")
  let dataTypes ← Json.withDefault [] (Json.listOf? Json.asText?) (r "data_types")
  let isRequired := ((r "required").bind Json.flag?).getD false
  let automaticValue ← optionalText (r "automatic_value")
  let defaultValue ← optionalText (r "default_value")
  let minValues ← optionalNat (r "min_values")
  let maxValues ← optionalNat (r "max_values")
  let minLength ← optionalNat (r "min_length")
  let maxLength ← optionalNat (r "max_length")
  let inputControl ← optionalText (r "input_control")
  some
    { term := term, dataTypes := dataTypes, isRequired := isRequired
      automaticValue := automaticValue, defaultValue := defaultValue
      minValues := minValues, maxValues := maxValues
      minLength := minLength, maxLength := maxLength
      inputControl := inputControl }

def natJson : Option Nat → Json
  | some n => .ofNat n
  | none => .null

def toJson (p : Property) : Json :=
  .object
    [("term", .text p.term), ("data_types", .array (p.dataTypes.map .text)),
      ("required", .bool p.isRequired), ("automatic_value", Json.ofText? p.automaticValue),
      ("default_value", Json.ofText? p.defaultValue), ("min_values", natJson p.minValues),
      ("max_values", natJson p.maxValues), ("min_length", natJson p.minLength),
      ("max_length", natJson p.maxLength), ("input_control", Json.ofText? p.inputControl)]

end Property

/-- The fields of a template, in the order in which an array gives them. -/
def fields : List String := ["id", "label", "automatic_values", "properties"]

/-- Decodes a template. Fields that are left out are empty. -/
def ofJson? (j : Json) : Option Template := do
  let r ← Json.record? fields j
  let id ← Json.withDefault 0 Json.asNat? (r "id")
  let label ← Json.withDefault "" Json.asText? (r "label")
  let automaticValues ← Json.withDefault "" Json.asText? (r "automatic_values")
  let properties ← Json.withDefault [] (Json.listOf? Property.ofJson?) (r "properties")
  some ⟨id, label, automaticValues, properties⟩

def toJson (t : Template) : Json :=
  .object
    [("id", .ofNat t.id), ("label", .text t.label), ("automatic_values", .text t.automaticValues),
      ("properties", .array (t.properties.map Property.toJson))]

/-- The rules for values that are made on every save: those of the template, then those of its
properties. -/
def automaticRules (t : Template) : List Rule :=
  parseRules t.automaticValues ++ t.properties.filterMap Property.automaticRule?

/-- The rules for values that are made while a property has none. -/
def defaultRules (t : Template) : List Rule :=
  t.properties.filterMap Property.defaultRule?

end Template

end Crosswalk
