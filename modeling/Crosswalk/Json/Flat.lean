import Crosswalk.Json.Printer
import Crosswalk.Text.Basic

/-!
Flat keys: the way to a scalar in a document, written as one text.

The names and indexes on the way are joined by dots. A dot or a backslash inside a name is written
with a backslash before it, so `splitKey` finds the names again.
-/

namespace Crosswalk.Json

/-- Writes a backslash before every dot and every backslash. -/
def escapeSegment (segment : List Char) : List Char :=
  segment.flatMap fun c => if c == '.' || c == '\\' then ['\\', c] else [c]

/-- Splits a key at its unescaped dots. A backslash stands for the character after it, and for
itself at the end. -/
def splitSegments : List Char → List (List Char)
  | [] => [[]]
  | ['\\'] => [['\\']]
  | '\\' :: c :: rest => Text.consFirst c (splitSegments rest)
  | c :: rest =>
    if c == '.' then [] :: splitSegments rest else Text.consFirst c (splitSegments rest)

def escapeKey (key : String) : String :=
  String.ofList (escapeSegment key.toList)

def splitKey (key : String) : List String :=
  (splitSegments key.toList).map String.ofList

mutual

/-- The scalars below a document, each with the way from the top: a dot and a segment per step. -/
def leavesFrom (way : List Char) : Json → List (List Char × Json)
  | .array items => itemLeaves way 0 items
  | .object members => memberLeaves way members
  | leaf => [(way, leaf)]

/-- The scalars below the items of an array, the first of which has the given index. -/
def itemLeaves (way : List Char) (index : Nat) : List Json → List (List Char × Json)
  | [] => []
  | item :: rest =>
    leavesFrom (way ++ '.' :: Text.ofNat index) item ++ itemLeaves way (index + 1) rest

def memberLeaves (way : List Char) : List (String × Json) → List (List Char × Json)
  | [] => []
  | (key, value) :: rest =>
    leavesFrom (way ++ '.' :: escapeSegment key.toList) value ++ memberLeaves way rest

end

/-- The key of a leaf: its way without the dots in front. -/
def leafKey (way : List Char) : String :=
  String.ofList (way.dropWhile (· == '.'))

/-- The scalars of a document under their flat keys, in document order. An object of scalars gives
its members as they are; a scalar gives nothing. -/
def flatten (j : Json) : Table Json :=
  match j with
  | .object members =>
    if members.all fun (_, value) => value.isScalar then Table.ofList members
    else Table.ofList ((leavesFrom [] j).map fun (way, leaf) => (leafKey way, leaf))
  | .array _ => Table.ofList ((leavesFrom [] j).map fun (way, leaf) => (leafKey way, leaf))
  | _ => Table.empty

/-- The document one step further down: an item by its index, or a member by its name. -/
def child? (segment : List Char) : Json → Option Json
  | .array items => (Text.unsigned? segment).bind fun index => items[index]?
  | other => other.member? (String.ofList segment)

/-- The document at the end of a way. -/
def follow : List (List Char) → Json → Option Json
  | [], j => some j
  | segment :: rest, j => (j.child? segment).bind (follow rest)

/-- The document that a flat key leads to; the empty key leads to the whole. -/
def atKey? (key : String) (j : Json) : Option Json :=
  if key.isEmpty then some j else follow (splitSegments key.toList) j

end Crosswalk.Json
