import Crosswalk.Extraction.Documents
import Crosswalk.Template.Basic
import Crosswalk.Value.Stored

/-!
Values that a template adds to a payload, and the cache for its mappings.

A mapping is read when it is first asked for and kept under the number of its template. A payload
holds a list of values under the term of each property. A patch holds values that are no duplicates
of these or of each other; applying it puts them behind the lists.
-/

namespace Crosswalk.Template

open Crosswalk.Mapping Crosswalk.Extraction

/-- The mappings that are kept, by the numbers of their templates. -/
structure Cache where
  automatic : List (Nat × List Rule)
  default : List (Nat × List Rule)
deriving Inhabited

namespace Cache

def empty : Cache := ⟨[], []⟩

def contains (c : Cache) (id : Nat) : Bool :=
  (c.automatic.lookup id).isSome || (c.default.lookup id).isSome

/-- What is kept under a number, and otherwise a value that is kept from now on. -/
def lookupOrAdd (entries : List (Nat × List Rule)) (id : Nat) (rules : List Rule) :
    List Rule × List (Nat × List Rule) :=
  match entries.lookup id with
  | some kept => (kept, entries)
  | none => (rules, entries ++ [(id, rules)])

/-- The rules for values that are made on every save. -/
def automaticRules (c : Cache) (t : Template) : List Rule × Cache :=
  let (rules, entries) := lookupOrAdd c.automatic t.id t.automaticRules
  (rules, { c with automatic := entries })

/-- The rules for values that are made while a property has none. -/
def defaultRules (c : Cache) (t : Template) : List Rule × Cache :=
  let (rules, entries) := lookupOrAdd c.default t.id t.defaultRules
  (rules, { c with default := entries })

end Cache

/-! ### Patches -/

def storedValues (payload : Json) (term : String) : List Json :=
  ((payload.member? term).bind Json.asArray?).getD []

/-- Values to be added to a payload, and the look-ups made for them. -/
structure Computed where
  patch : ValueTable
  reads : List Read

/-- Those of some candidates that a payload does not hold yet. A link that is not verified becomes a
literal. -/
def newValues (payload : Json) (candidates : ValueTable) : ValueTable :=
  candidates.filterMapValues fun term values =>
    match Value.newAmong (storedValues payload term) (values.map Value.asLiteral) with
    | [] => none
    | fresh => some fresh

def compute (e : Extractor) (rules : List Rule) (payload : Json) : Computed :=
  let found := documentOutcomes e (.json payload) rules
  ⟨newValues payload (Result.ofOutcomes found).values, readsOf found⟩

/-- The values that a template adds on every save. -/
def addAutomatic (e : Extractor) (t : Template) (payload : Json) (c : Cache) :
    Computed × Cache :=
  let (rules, c) := c.automaticRules t
  (compute e rules payload, c)

/-- The values that a template adds to properties that have none. -/
def addDefaults (e : Extractor) (t : Template) (payload : Json) (c : Cache) :
    Computed × Cache :=
  let (rules, c) := c.defaultRules t
  let isEmpty (rule : Rule) : Bool := (storedValues payload rule.target.field).isEmpty
  (compute e (rules.filter isEmpty) payload, c)

/-- Puts values behind the list under a term. What is no list stays as it is, and a list that is not
there is made. -/
def appendValues (members : List (String × Json)) (term : String) (values : List Value) :
    List (String × Json) :=
  match members.lookup term with
  | none => members ++ [(term, .array (values.map Value.toJson))]
  | some (.array items) => setEntry term (.array (items ++ values.map Value.toJson)) members
  | some _ => members

/-- Adds the values of a patch to a payload. One that is no object stays as it is. -/
def applyPatch (payload : Json) (patch : ValueTable) : Json :=
  match payload with
  | .object members =>
    .object (patch.entries.foldl (fun acc (term, values) => appendValues acc term values) members)
  | other => other

end Crosswalk.Template
