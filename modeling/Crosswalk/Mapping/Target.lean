import Crosswalk.Field.Spec
import Crosswalk.Filter.Call
import Crosswalk.Mapping.Placeholder
import Crosswalk.Table

/-!
Targets of mapping rules, the rules, and named groups of them.

A target is the description of a field with its pattern taken apart: the placeholders with their
defaults, and the expressions with the filters they run. Two markers are targets without a field:
one selects the records of a source, the other gives the label of a record. A rule fills a target
from a place of a source. A group belongs to a service, perhaps to a part of it and a variant, and
these three make its key.
-/

namespace Crosswalk.Mapping

/-- The marker that selects the records of a source. -/
def listMarker : String := "\x7blist\x7d"

/-- The marker that gives the label of a record, and the placeholder for the value at hand. -/
def labelMarker : String := "\x7b__label__\x7d"

/-- The placeholder for the value at hand. -/
def valueMarker : String := "\x7b__value__\x7d"

/-- What a target is used for. -/
inductive Role where
  /-- It fills a metadata field. -/
  | field
  /-- It gives the label. -/
  | label
  /-- It selects the records. -/
  | list
deriving DecidableEq

/-- A target: the description of a field, the defaults of the placeholders in its pattern, and the
expressions in it. -/
structure Target where
  spec : Field.Spec
  replace : Table String
  filters : Table Filter.Pipeline
deriving DecidableEq, Inhabited

namespace Target

/-- The expressions of a pattern that can be read. -/
def filtersOf (pattern : List Char) : Table Filter.Pipeline :=
  (expressionBodies pattern).foldl
    (fun acc body =>
      match Filter.Pipeline.read? body with
      | some pipeline => acc.set (expressionText body) pipeline
      | none => acc)
    Table.empty

/-- The placeholders of a pattern outside its expressions, with empty defaults. -/
def replaceOf (pattern : List Char) : Table String :=
  (placeholderNames (withoutExpressions pattern)).foldl
    (fun acc name => acc.setIfAbsent (placeholderText name) "") Table.empty

/-- The target that a description makes. -/
def ofSpec (spec : Field.Spec) : Target :=
  match spec.pattern with
  | some pattern =>
    { spec := spec, replace := replaceOf pattern.toList, filters := filtersOf pattern.toList }
  | none => { spec := spec, replace := Table.empty, filters := Table.empty }

def ofMarker (marker : String) : Target :=
  { spec := { Field.Spec.ofField "" with pattern := some marker }
    replace := Table.empty, filters := Table.empty }

/-- Reads a target: a marker, or the description of a field. -/
def read? (s : List Char) : Option Target :=
  let s := Text.trim s
  if s = listMarker.toList ∨ s = labelMarker.toList then some (ofMarker (String.ofList s))
  else (Field.Spec.read? s).map ofSpec

def parse? (s : String) : Option Target := read? s.toList

/-- The metadata field, empty for a marker. -/
def field (t : Target) : String := t.spec.field

/-- The pattern, if there is one and it is not empty. -/
def pattern? (t : Target) : Option String := t.spec.pattern.filter (· ≠ "")

def role (t : Target) : Role :=
  match t.pattern? with
  | some pattern =>
    if pattern = listMarker then .list
    else if pattern = labelMarker ∧ t.field = "" then .label
    else .field
  | none => .field

/-- Whether the pattern is one of the markers, with a field or without. -/
def isPromoted (t : Target) : Bool :=
  t.pattern? == some listMarker || t.pattern? == some labelMarker

end Target

/-! ### Rules and groups -/

/-- The source of a rule whose value is constant. -/
def constantSource : String := "~"

/-- A rule: where values come from, and the target that they fill. -/
structure Rule where
  source : String
  target : Target
deriving DecidableEq, Inhabited

/-- Whether a rule takes nothing from the source. -/
def Rule.isConstant (rule : Rule) : Bool := rule.source == constantSource

/-- A named group of rules, with the address and the query of the service that they are for. -/
structure Group where
  service : String
  sub : Option String
  variant : Option String
  label : Option String
  url : Option String
  query : Option String
  rules : List Rule
deriving DecidableEq, Inhabited

namespace Group

/-- The group of a service that holds nothing. -/
def ofService (service : String) : Group := ⟨service, none, none, none, none, none, []⟩

/-- The key of a group: the service, the part after a colon, the variant after a number sign. -/
def key (g : Group) : String :=
  String.ofList
    (g.service.toList ++ Field.Spec.markedText [':'] g.sub ++
      Field.Spec.markedText " #".toList g.variant)

end Group

end Crosswalk.Mapping
