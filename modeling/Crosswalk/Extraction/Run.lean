import Crosswalk.Extraction.Render
import Crosswalk.Host
import Crosswalk.Value.Basic

/-!
Extracting values from a source by the rules of a mapping.

Every rule gives outcomes, one for each text that it finds: a label, a value under a term, or
nothing. The label of the result is the first one, and values are put together by their terms.
-/

namespace Crosswalk.Extraction

open Crosswalk.Mapping

/-- What an extraction may ask of the host. In an internal source, terms find payload values. -/
structure Extractor where
  registry : Host.Registry
  catalog : Option Host.Catalog
  library : Option Host.Library
  isInternal : Bool

/-- A look-up of a resource, and what came of it. -/
structure Read where
  kind : String
  id : Nat
  outcome : Except Host.NotFound Host.Resource

/-- What the text of a rule comes to. -/
inductive Outcome where
  | label (s : String)
  | value (term : String) (v : Value) (read : Option Read)
  | nothing

/-- The label and the values of a record. -/
structure Result where
  label : Option String
  values : ValueTable
deriving DecidableEq, Inhabited

/-- The text that a rule gives for a place of the source, before it is made a value. -/
structure Triple where
  source : String
  target : String
  text : String
deriving DecidableEq, Inhabited

namespace Extractor

/-- The number that a text names, and the look-up of the resource with it. -/
def lookUp (e : Extractor) (dataType text : String) : Option Read :=
  match Text.unsigned? (Text.trim text.toList), e.library with
  | some id, some library =>
    let kind := linkedKind dataType
    some ⟨kind, id, library.find kind id⟩
  | _, _ => none

/-- The content of a link: the resource, if the look-up found it. -/
def linkContent (read : Option Read) (text : String) : Content :=
  match read with
  | some ⟨_, _, .ok resource⟩ => .resource resource.id
  | _ => .unresolved text

/-- Makes a text a value of the field of a target. A link has no language. -/
def shape (e : Extractor) (target : Target) (text : String) : Value × Option Read :=
  let dataType := target.spec.dataType.getD Category.literal.name
  let category := e.registry.categoryOf dataType
  let read := if category = .resource then e.lookUp dataType text else none
  let content :=
    match category with
    | .resource => linkContent read text
    | .uri => .uri text
    | .literal => .literal text
  ({ dataType := dataType
     content := content
     language := if category = .resource then none else target.spec.language
     isPublic := target.spec.isPublic.getD true
     propertyId := e.catalog.bind fun c => c.id? target.field
     propertyLabel := e.catalog.bind fun c => c.label? target.field },
   read)

end Extractor

/-- The texts that a rule finds; a constant rule finds one empty text. -/
def found (source : Source) (rule : Rule) : List String :=
  if rule.isConstant then [""] else source.values rule.source

/-- The texts that a rule gives: what it finds, put into its pattern. A rule that selects records
gives none. -/
def texts (source : Source) (rule : Rule) : List String :=
  if rule.target.role = .list then []
  else (found source rule).map fun raw => render rule.target raw source

/-- What a text of a rule comes to; an empty text comes to nothing. -/
def outcome (e : Extractor) (rule : Rule) (text : String) : Outcome :=
  if text = "" then .nothing
  else if rule.target.role = .label then .label text
  else
    let (v, read) := e.shape rule.target text
    .value rule.target.field v read

/-- What the texts of all rules come to, in order. -/
def outcomes (e : Extractor) (source : Source) (rules : List Rule) : List Outcome :=
  rules.flatMap fun rule => (texts source rule).map (outcome e rule)

namespace Result

def empty : Result := ⟨none, Table.empty⟩

def isEmpty (r : Result) : Bool := r.values.isEmpty

def get (r : Result) (term : String) : List Value := (r.values.get? term).getD []

def allValues (r : Result) : List Value := r.values.values.flatten

/-- The first address among the values. -/
def firstUri? (r : Result) : Option String :=
  r.allValues.findSome? fun v =>
    match v.content with
    | .uri s => some s
    | _ => none

def firstText? (r : Result) : Option String := r.allValues.head?.map Value.text

/-- Adds an outcome: only the first label counts, and a value goes behind those of its term. -/
def add (r : Result) : Outcome → Result
  | .label s => { r with label := r.label <|> some s }
  | .value term v _ => { r with values := r.values.append term v }
  | .nothing => r

/-- The result that outcomes make. -/
def ofOutcomes (outcomes : List Outcome) : Result := outcomes.foldl add empty

/-- Whether a record gives anything. -/
def isUseful (r : Result) : Bool := !r.isEmpty || r.label.isSome

def toJson (r : Result) : Json :=
  Json.objectOf [("label", r.label.map .text), ("values", some (ValueTable.toJson r.values))]

end Result

/-- The look-ups among outcomes, in order. -/
def readsOf (outcomes : List Outcome) : List Read :=
  outcomes.filterMap fun
    | .value _ _ read => read
    | _ => none

/-- The result of the rules on a source. -/
def run (e : Extractor) (source : Source) (rules : List Rule) : Result :=
  Result.ofOutcomes (outcomes e source rules)

/-- The target of a rule as triples name it: the field, or the marker of the label. -/
def targetName (rule : Rule) : String :=
  if rule.target.role = .label then labelMarker else rule.target.field

/-- The texts of all rules with where they come from and go to, empty ones included. -/
def runSimple (source : Source) (rules : List Rule) : List Triple :=
  rules.flatMap fun rule =>
    (texts source rule).map fun text => ⟨rule.source, targetName rule, text⟩

def runRule? (source : Source) (rule : Rule) : Option String :=
  (found source rule).head?.map fun raw => render rule.target raw source

end Crosswalk.Extraction
