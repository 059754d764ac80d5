import Crosswalk.Pattern.Basic

/-!
Searching a text for a regular expression.

An expression takes the places of a text at which it may start to those at which it may end. Both
are lists of places in which none stands twice.
-/

namespace Crosswalk.Pattern

def isWordChar (unicode : Bool) (c : Char) : Bool :=
  if unicode then Unicode.isWord c else c.toNat < 128 && (c.isAlphanum || c == '_')

namespace Assertion

/-- Whether a character of words stands right before or right after a place. -/
def wordAt (unicode : Bool) (c : Option Char) : Bool := c.any (isWordChar unicode)

/-- Whether a condition holds between two characters; at an end of the text there is none. -/
def holds (before after : Option Char) : Assertion → Bool
  | .textStart => before.isNone
  | .textEnd => after.isNone
  | .lineStart crlf =>
    before.isNone || before == some '\n' ||
      (crlf && before == some '\r' && after != some '\n')
  | .lineEnd crlf =>
    after.isNone || (after == some '\n' && !(crlf && before == some '\r')) ||
      (crlf && after == some '\r')
  | .wordEdge u => wordAt u before != wordAt u after
  | .notWordEdge u => wordAt u before == wordAt u after
  | .wordStart u => !wordAt u before && wordAt u after
  | .wordEnd u => wordAt u before && !wordAt u after
  | .wordStartHalf u => !wordAt u before
  | .wordEndHalf u => !wordAt u after

end Assertion

def charBefore? (text : Array Char) (place : Nat) : Option Char :=
  if place = 0 then none else text[place - 1]?

/-- Puts those of some places behind others that are not there yet. -/
def addPlaces (places more : List Nat) : List Nat :=
  more.foldl (fun acc place => if acc.contains place then acc else acc ++ [place]) places

/-- Takes places on `n` times, as long as that changes them. -/
def iterate (next : List Nat → List Nat) : Nat → List Nat → List Nat
  | 0, places => places
  | n + 1, places =>
    let reached := next places
    if reached == places then places else iterate next n reached

/-- All places that are reached in at most `n` turns. `fresh` are those reached last. -/
def reach (next : List Nat → List Nat) : Nat → List Nat → List Nat → List Nat
  | 0, places, _ => places
  | n + 1, places, fresh =>
    match (next fresh).filter fun place => !places.contains place with
    | [] => places
    | more => reach next n (places ++ more) more

/-- The places at which an expression may end that starts at one of some places. -/
def ends (text : Array Char) : Pattern → List Nat → List Nat
  | .empty, places => places
  | .one set, places =>
    places.filterMap fun place =>
      match text[place]? with
      | some c => if set.contains c then some (place + 1) else none
      | none => none
  | .assertion a, places =>
    places.filter fun place => a.holds (charBefore? text place) text[place]?
  | .seq p q, places => ends text q (ends text p places)
  | .either p q, places => addPlaces (ends text p places) (ends text q places)
  | .repeated least most p, places =>
    let start := iterate (ends text p) least places
    let turns :=
      match most with
      | some most => most - least
      | none => text.size + 1
    reach (ends text p) turns start start

/-- Whether an expression matches some part of a text. -/
def isFoundIn (p : Pattern) (text : String) : Bool :=
  let chars := text.toList.toArray
  !(ends chars p (List.range (chars.size + 1))).isEmpty

end Crosswalk.Pattern
