import Crosswalk.Json.Printer
import Crosswalk.Text.Basic
import Crosswalk.Value.Basic

/-!
Values among those that a payload already stores.

Two values are the same when their types and what identifies them agree: texts without the blanks
around them, resources by their number. Language, visibility and property do not count.
-/

namespace Crosswalk

/-- The number of a resource, stored as a number or as a text. -/
def Json.resourceId? : Json → Option Nat
  | .text s => Text.unsigned? (Text.trim s.toList)
  | other => other.asNat?

namespace Value

/-- Whether two texts agree but for the blanks around them. -/
def sameText (a b : String) : Bool :=
  Text.trim a.toList == Text.trim b.toList

/-- Whether a stored value carries a content. -/
def sameContent (content : Content) (stored : Json) : Bool :=
  match content with
  | .literal s => (stored.member? "@value").any fun j => sameText j.plainText s
  | .unresolved s => (stored.member? "@value").any fun j => sameText j.plainText s
  | .uri s => ((stored.member? "@id").bind Json.asText?).any fun id => sameText id s
  | .resource id => ((stored.member? "value_resource_id").bind Json.resourceId?) == some id

/-- The type of a stored value, empty when it has none. -/
def storedType (stored : Json) : String :=
  ((stored.member? "type").bind Json.asText?).getD ""

def isStoredAs (v : Value) (stored : Json) : Bool :=
  storedType stored == v.dataType && sameContent v.content stored

def isDuplicate (v : Value) (existing : List Json) : Bool :=
  existing.any v.isStoredAs

/-- What a list gains when a value is offered to it: the value, unless it is a duplicate. -/
def appended? (existing : List Json) (v : Value) : Option Value :=
  if v.isDuplicate existing then none else some v

/-- The list with a value behind it, unless the value is a duplicate. -/
def appendUnique (existing : List Json) (v : Value) : List Json :=
  if v.isDuplicate existing then existing else existing ++ [v.toJson]

/-- The values of a list that are no duplicates when they are appended one after the other. -/
def newAmong (existing : List Json) : List Value → List Value
  | [] => []
  | v :: rest =>
    if v.isDuplicate existing then newAmong existing rest
    else v :: newAmong (existing ++ [v.toJson]) rest

end Value

end Crosswalk
