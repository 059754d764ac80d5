import Crosswalk.Extraction.Source
import Crosswalk.Filter.Run
import Crosswalk.Mapping.Target

/-!
Making the text of a target from a value at hand.

Every placeholder and expression of the pattern has a text to be put in. They are put in in one
scan from the left, and what is put in is not scanned again.
-/

namespace Crosswalk.Extraction

open Crosswalk.Mapping

/-- The longer of two marks that were found, the first of equally long ones. -/
def longer (best : Option (List Char × String)) (mark : List Char × String) :
    Option (List Char × String) :=
  match best with
  | some found => if found.1.length < mark.1.length then some mark else best
  | none => some mark

/-- The longest of some marks that a text begins with, and what is put in for it. Empty marks do
not count. -/
def longestMark? (marks : List (List Char × String)) (s : List Char) :
    Option (List Char × String) :=
  (marks.filter fun mark => !mark.1.isEmpty && Text.beginsWith mark.1 s).foldl longer none

/-- Puts texts in for marks; `skip` characters of a mark that is replaced are still to be passed
over. -/
def substituteFrom (marks : List (List Char × String)) : Nat → List Char → List Char
  | _, [] => []
  | skip + 1, _ :: rest => substituteFrom marks skip rest
  | 0, c :: rest =>
    match longestMark? marks (c :: rest) with
    | some (mark, fresh) => fresh.toList ++ substituteFrom marks (mark.length - 1) rest
    | none => c :: substituteFrom marks 0 rest

/-- Puts texts in for the marks of a table: in one scan from the left, at every place the longest
mark that stands there. -/
def substitute (marks : Table String) (pattern : String) : String :=
  String.ofList
    (substituteFrom (marks.entries.map fun (mark, fresh) => (mark.toList, fresh)) 0 pattern.toList)

/-- The variables that stand for the value at hand. -/
def ownVariables : List String :=
  ["value", "__value__", valueMarker, "label", "__label__", labelMarker]

def expressionValue (source : Source) (raw : String) (p : Filter.Pipeline) : String :=
  p.apply (if p.subject ∈ ownVariables then raw else (source.first? p.subject).getD "")

/-- The locator that a placeholder names: itself without the braces around it. -/
def placeholderLocator (placeholder : String) : String :=
  String.ofList
    (((placeholder.toList.dropWhile (· == openBrace)).reverse.dropWhile (· == closeBrace)).reverse)

def placeholderValue (source : Source) (raw placeholder default : String) : String :=
  if placeholder = valueMarker ∨ placeholder = labelMarker then raw
  else (source.first? (placeholderLocator placeholder)).getD default

/-- The texts to be put into the pattern of a target. -/
def substitutions (target : Target) (raw : String) (source : Source) : Table String :=
  let expressions :=
    target.filters.entries.map fun (mark, p) => (mark, expressionValue source raw p)
  let placeholders :=
    target.replace.entries.map fun (mark, default) =>
      (mark, placeholderValue source raw mark default)
  (((Table.ofList expressions).setAll placeholders).setIfAbsent valueMarker raw).setIfAbsent
    labelMarker raw

/-- The text of a target for a value at hand; without a pattern it is the value. -/
def render (target : Target) (raw : String) (source : Source) : String :=
  match target.pattern? with
  | some pattern => substitute (substitutions target raw source) pattern
  | none => raw

end Crosswalk.Extraction
