import Crosswalk.Host
import Crosswalk.Pattern.Reader
import Crosswalk.Pattern.Search
import Crosswalk.Template.Patch

/-!
Checking a payload against a template.

The number of values of a property is checked, then for every value its type, and for every text
its length and its form. A property without values is only asked whether it is required.
-/

namespace Crosswalk.Template

variable [Pattern.Compiler]

/-- What is wrong with a property. -/
inductive Violation where
  | required (term : String)
  | tooFewValues (term : String) (least count : Nat)
  | tooManyValues (term : String) (most count : Nat)
  | tooShort (term text : String) (least : Nat)
  | tooLong (term text : String) (most : Nat)
  | inputControl (term text pattern : String)
  | invalidInputControl (term pattern : String)
  | unknownDataType (term dataType : String)
deriving DecidableEq, Inhabited

def digits (n : Nat) : String := String.ofList (Text.ofNat n)

def Violation.message : Violation → String
  | .required term => term ++ ": a value is required"
  | .tooFewValues term least count =>
    term ++ ": at least " ++ digits least ++ " values expected, " ++ digits count ++ " found"
  | .tooManyValues term most count =>
    term ++ ": at most " ++ digits most ++ " values allowed, " ++ digits count ++ " found"
  | .tooShort term text least =>
    term ++ ": \"" ++ text ++ "\" is shorter than " ++ digits least ++ " characters"
  | .tooLong term text most =>
    term ++ ": \"" ++ text ++ "\" is longer than " ++ digits most ++ " characters"
  | .inputControl term text pattern => term ++ ": \"" ++ text ++ "\" does not match " ++ pattern
  | .invalidInputControl term pattern => term ++ ": invalid input control " ++ pattern
  | .unknownDataType term dataType => term ++ ": unknown data type " ++ dataType

/-- The form that the texts of a property have to have. -/
inductive Control where
  | none
  | invalid (pattern : String)
  | form (pattern : String) (p : Pattern)

def Property.control (p : Property) : Control :=
  match nonBlank? p.inputControl with
  | .none => .none
  | some pattern =>
    match Pattern.readAnchored? pattern with
    | some form => .form pattern form
    | .none => .invalid pattern

def countViolations (p : Property) (count : Nat) : List Violation :=
  ((p.minValues.filter (count < ·)).map (.tooFewValues p.term · count)).toList ++
    ((p.maxValues.filter (· < count)).map (.tooManyValues p.term · count)).toList

def controlViolations (p : Property) : Control → List Violation
  | .invalid pattern => [.invalidInputControl p.term pattern]
  | _ => []

def typeViolations (registry : Host.Registry) (p : Property) (value : Json) : List Violation :=
  let dataType := Value.storedType value
  if registry.has dataType then [] else [.unknownDataType p.term dataType]

def textViolations (p : Property) (control : Control) (text : String) : List Violation :=
  let length := text.length
  ((p.minLength.filter (length < ·)).map (.tooShort p.term text ·)).toList ++
    ((p.maxLength.filter (· < length)).map (.tooLong p.term text ·)).toList ++
    match control with
    | .form pattern form => if form.isFoundIn text then [] else [.inputControl p.term text pattern]
    | _ => []

def valueViolations (registry : Host.Registry) (p : Property) (control : Control) (value : Json) :
    List Violation :=
  typeViolations registry p value ++
    match (value.member? "@value").bind Json.asText? with
    | some text => textViolations p control text
    | .none => []

def propertyViolations (registry : Host.Registry) (p : Property) (values : List Json) :
    List Violation :=
  match values with
  | [] => if p.isRequired then [.required p.term] else []
  | values =>
    let control := p.control
    countViolations p values.length ++ controlViolations p control ++
      values.flatMap (valueViolations registry p control)

/-- The violations by a payload, property by property. -/
def validate (registry : Host.Registry) (t : Template) (payload : Json) : List Violation :=
  t.properties.flatMap fun p => propertyViolations registry p (storedValues payload p.term)

end Crosswalk.Template
