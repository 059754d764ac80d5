import Crosswalk.Text.Basic
import Crosswalk.Unicode.Case

/-!
Language tags in the form of BCP 47, without the grandfathered tags.

A tag is a list of subtags joined by hyphens. It names a language with up to three extensions of
it, then a script, a region, variants, extensions that a single character opens, and a private
part; only the language has to be there. A tag may also be private as a whole.
-/

namespace Crosswalk.Field.Language

abbrev Subtag := List Char

/-- Letters only, in a number between two bounds. -/
def isAlpha (low high : Nat) (t : Subtag) : Bool :=
  low ≤ t.length && t.length ≤ high && t.all Char.isAlpha

/-- Letters and digits only, in a number between two bounds. -/
def isAlphanumeric (low high : Nat) (t : Subtag) : Bool :=
  low ≤ t.length && t.length ≤ high && t.all Unicode.isAsciiAlphanumeric

/-- Three letters that extend a language. -/
def isExtendedLanguage (t : Subtag) : Bool := isAlpha 3 3 t

/-- Four letters. -/
def isScript (t : Subtag) : Bool := isAlpha 4 4 t

/-- Two letters or three digits. -/
def isRegion (t : Subtag) : Bool :=
  isAlpha 2 2 t || (t.length == 3 && t.all Char.isDigit)

/-- Five to eight letters or digits, or four of which the first is a digit. -/
def isVariant (t : Subtag) : Bool :=
  isAlphanumeric 5 8 t ||
    (t.length == 4 && t.all Unicode.isAsciiAlphanumeric && (t.head?.any Char.isDigit))

/-- The letter x alone, in either case: it opens the private part. -/
def isPrivateMark (t : Subtag) : Bool := t == ['x'] || t == ['X']

/-- A single letter or digit that opens an extension. -/
def isSingleton (t : Subtag) : Bool := isAlphanumeric 1 1 t && !isPrivateMark t

def isExtensionPart (t : Subtag) : Bool := isAlphanumeric 2 8 t

def isPrivatePart (t : Subtag) : Bool := isAlphanumeric 1 8 t

/-- Whether subtags are a private part: its mark and at least one part. -/
def isPrivateUse : List Subtag → Bool
  | mark :: part :: rest => isPrivateMark mark && isPrivatePart part && rest.all isPrivatePart
  | _ => false

/-- Extensions, then nothing or a private part. `inside` tells whether an extension has begun and
may take more parts. -/
def isExtensionsFrom (inside : Bool) : List Subtag → Bool
  | [] => true
  | t :: rest =>
    if inside && isExtensionPart t then isExtensionsFrom true rest
    else if isSingleton t then
      match rest with
      | part :: more => isExtensionPart part && isExtensionsFrom true more
      | [] => false
    else isPrivateUse (t :: rest)

/-- What may follow the region: variants, extensions and a private part. -/
def isAfterRegion (tags : List Subtag) : Bool :=
  isExtensionsFrom false (tags.dropWhile isVariant)

/-- Drops the first subtag when it passes a test. -/
def dropIf (test : Subtag → Bool) : List Subtag → List Subtag
  | [] => []
  | t :: rest => if test t then rest else t :: rest

/-- What may follow the language: script, region and the rest. -/
def isAfterLanguage (tags : List Subtag) : Bool :=
  isAfterRegion (dropIf isRegion (dropIf isScript tags))

def dropExtended : Nat → List Subtag → List Subtag
  | n + 1, t :: rest => if isExtendedLanguage t then dropExtended n rest else t :: rest
  | _, tags => tags

/-- Whether subtags make a tag that names a language. -/
def isLanguageTag : List Subtag → Bool
  | [] => false
  | language :: rest =>
    if isAlpha 2 3 language then isAfterLanguage (dropExtended 3 rest)
    else isAlpha 4 8 language && isAfterLanguage rest

def isTag (s : List Char) : Bool :=
  let tags := Text.pieces (· == '-') s
  isPrivateUse tags || isLanguageTag tags

end Crosswalk.Field.Language
