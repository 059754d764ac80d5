import Crosswalk.Json.Basic
import Crosswalk.Text.Basic

/-!
Taking documents apart: the fields of records, and flags in their many spellings.

A record is an object with a member per field, or an array with the fields in their order. Members
that are no field are passed over; a field that is given twice makes the record unreadable.
-/

namespace Crosswalk.Json

/-- The values that a document gives for the named fields of a record. -/
def record? (fields : List String) : Json → Option (String → Option Json)
  | .object members =>
    let given := members.filter fun (key, _) => fields.contains key
    if (entryKeys given).Nodup then some fun field => given.lookup field else none
  | .array items =>
    if items.length ≤ fields.length then some fun field => (fields.zip items).lookup field
    else none
  | _ => none

/-- A field that has to be given. -/
def required {α : Type} (decode : Json → Option α) (value : Option Json) : Option α :=
  value.bind decode

/-- A field that has a value of its own when it is not given. -/
def withDefault {α : Type} (default : α) (decode : Json → Option α) (value : Option Json) :
    Option α :=
  match value with
  | some j => decode j
  | none => some default

def nullable {α : Type} (decode : Json → Option α) : Json → Option (Option α)
  | .null => some none
  | j => (decode j).map some

def asBool? : Json → Option Bool
  | .bool b => some b
  | _ => none

/-- An array whose items all have an image. -/
def listOf? {α : Type} (decode : Json → Option α) : Json → Option (List α)
  | .array items => items.mapM decode
  | _ => none

/-- An object whose values all have an image. -/
def tableOf? {α : Type} (decode : Json → Option α) : Json → Option (Table α)
  | .object members =>
    (members.mapM fun member => (decode member.2).map (member.1, ·)).map Table.ofList
  | _ => none

/-- The members of an object that have a value. -/
def objectOf (members : List (String × Option Json)) : Json :=
  .object (members.filterMap fun (key, value) => value.map (key, ·))

/-! ### Yes and no -/

def affirmations : List String := ["1", "true", "yes", "on"]

/-- The words that say no; no word at all does. -/
def denials : List String := ["0", "false", "no", "off", ""]

/-- What a document says: a truth value, one or zero, a word in any case, or null for no. -/
def flag? : Json → Option Bool
  | .bool b => some b
  | .number n => if n.isOne then some true else if n.isZero then some false else none
  | .text s =>
    let word := String.ofList ((Text.trim s.toList).map Char.toLower)
    if word ∈ affirmations then some true
    else if word ∈ denials then some false
    else none
  | .null => some false
  | _ => none

end Crosswalk.Json
