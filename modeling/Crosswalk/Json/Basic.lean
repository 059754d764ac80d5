import Crosswalk.Decimal.Shortest
import Crosswalk.Table

/-!
JSON documents with the order of their members kept.

Whole numbers of sixty-four bits stay whole; every other number is a binary64 number. An object is
the list of its members as they stand, so a name may stand twice until `merged` joins the two.
-/

namespace Crosswalk

/-- A number: whole when it is written so and fits sixty-four bits, else a fraction. -/
inductive Json.Number where
  | whole (i : Int)
  | fraction (x : Decimal.Binary64)
deriving DecidableEq, Inhabited

/-- A JSON document. -/
inductive Json where
  | null
  | bool (b : Bool)
  | number (n : Json.Number)
  | text (s : String)
  | array (items : List Json)
  | object (members : List (String × Json))
deriving Inhabited

namespace Json

def ofInt (i : Int) : Json := .number (.whole i)

def ofNat (n : Nat) : Json := .number (.whole n)

def ofText? : Option String → Json
  | some s => .text s
  | none => .null

/-- Whether a document is neither an array nor an object. -/
def isScalar : Json → Bool
  | .array _ => false
  | .object _ => false
  | _ => true

def isNull : Json → Bool
  | .null => true
  | _ => false

def asText? : Json → Option String
  | .text s => some s
  | _ => none

def asArray? : Json → Option (List Json)
  | .array items => some items
  | _ => none

def member? (key : String) : Json → Option Json
  | .object members => members.lookup key
  | _ => none

/-- The value of a whole number that is not negative. -/
def asNat? : Json → Option Nat
  | .number (.whole i) => if 0 ≤ i then some i.toNat else none
  | _ => none

/-- Sets the members of a list one after the other, so that of two with one name the first keeps
its place and the last its value. -/
def mergeMembers (members : List (String × Json)) : List (String × Json) :=
  members.foldl (fun acc (key, value) => setEntry key value acc) []

mutual

/-- The document in which no object has two members of one name. -/
def merged : Json → Json
  | .array items => .array (mergedItems items)
  | .object members => .object (mergeMembers (mergedMembers members))
  | scalar => scalar

def mergedItems : List Json → List Json
  | [] => []
  | item :: rest => item.merged :: mergedItems rest

def mergedMembers : List (String × Json) → List (String × Json)
  | [] => []
  | (key, value) :: rest => (key, value.merged) :: mergedMembers rest

end

def Number.isOne : Number → Bool
  | .whole i => i == 1
  | .fraction x => x.isOne

def Number.isZero : Number → Bool
  | .whole i => i == 0
  | .fraction x => x.isZero

def Number.write : Number → List Char
  | .whole i => Text.ofInt i
  | .fraction x => x.literal

end Json

end Crosswalk
