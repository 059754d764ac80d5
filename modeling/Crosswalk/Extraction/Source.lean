import Crosswalk.Json.Flat
import Crosswalk.Query.Select
import Crosswalk.Text.Basic

/-!
Sources: where the values of a mapping come from.

All that a mapping needs of a source is the list of texts that a locator finds in it. A JSON
document is looked up by flat keys, an XML document by node queries.
-/

namespace Crosswalk.Extraction

/-- A source by what locators find in it. -/
structure Source where
  values : String → List String

namespace Source

def first? (source : Source) (locator : String) : Option String :=
  (source.values locator).head?

/-- The members that identify a value of a payload, in the order in which they are tried. -/
def identityKeys : List String := ["@value", "@id", "value_resource_id"]

/-- The text of a scalar under a flat key, if it is there and not null. -/
def scalarAt? (flat : Table Json) (key : String) : Option String :=
  ((flat.get? key).filter fun j => !j.isNull).map Json.plainText

/-- The text of the first value under a term of a payload. -/
def payloadText? (flat : Table Json) (term : String) : Option String :=
  identityKeys.findSome? fun key => scalarAt? flat (term ++ ".0." ++ key)

/-- The text under a key; in a payload of the host also a term finds its first value. -/
def flatText? (isInternal : Bool) (flat : Table Json) (key : String) : Option String :=
  match scalarAt? flat key with
  | some s => some s
  | none => if isInternal then payloadText? flat key else none

def ofJson (isInternal : Bool) (document : Json) : Source :=
  let flat := document.flatten
  ⟨fun locator => (flatText? isInternal flat locator).toList⟩

/-- An XML document or a record of one: the texts that a query selects, trimmed, without blank
ones. -/
def ofContext (c : Query.Context) : Source :=
  ⟨fun locator => ((c.strings locator).map Text.trimmed).filter (· ≠ "")⟩

end Source

end Crosswalk.Extraction
