import Crosswalk.Table
import Crosswalk.Text.Numeral
import Crosswalk.Value.Basic

/-!
What the host of the library knows: data types, properties, resources and counts of values.
-/

namespace Crosswalk.Host

/-- The data types of a host, and the categories of those that have one. -/
structure Registry where
  has : String → Bool
  category? : String → Option Category

namespace Registry

/-- A host that knows the declared types and those that every host knows. -/
def ofDeclared (declared : Table Category) : Registry where
  has dataType := declared.contains dataType || (Category.ofBuiltin? dataType).isSome
  category? dataType := declared.get? dataType <|> Category.ofBuiltin? dataType

/-- A host that knows the declared types and no others. -/
def bare (declared : Table Category) : Registry where
  has dataType := declared.contains dataType
  category? dataType := declared.get? dataType

/-- The category of any data type: the host's, else that of every host, else literals. -/
def categoryOf (r : Registry) (dataType : String) : Category :=
  (r.category? dataType <|> Category.ofBuiltin? dataType).getD .literal

end Registry

/-- The properties of a host, each with a number and perhaps a label. -/
structure Catalog where
  id? : String → Option Nat
  label? : String → Option String

namespace Catalog

def ofTable (properties : Table (Nat × Option String)) : Catalog where
  id? term := (properties.get? term).map Prod.fst
  label? term := (properties.get? term).bind Prod.snd

def withoutLabels (c : Catalog) : Catalog := { c with label? := fun _ => none }

end Catalog

/-- A resource of a host. -/
structure Resource where
  kind : String
  id : Nat
deriving DecidableEq, Inhabited

/-- The failure to find a resource. -/
structure NotFound where
  kind : String
  id : Nat
deriving DecidableEq, Inhabited

def NotFound.message (e : NotFound) : String :=
  e.kind ++ " #" ++ String.ofList (Text.ofNat e.id) ++ " not found"

/-- The resources of a host, found by kind and number. -/
structure Library where
  find : String → Nat → Except NotFound Resource

/-- The library in which every kind has the listed numbers. -/
def Library.ofIds (ids : List Nat) : Library where
  find kind id := if id ∈ ids then .ok ⟨kind, id⟩ else .error ⟨kind, id⟩

/-- How often values are used, given all values of interest and their data type. -/
structure Counter where
  count : List String → Option String → String → Option Nat

def Counter.ofTable (counts : Table Nat) : Counter where
  count _ _ value := counts.get? value

end Crosswalk.Host
