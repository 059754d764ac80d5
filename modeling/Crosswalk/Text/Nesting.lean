import Crosswalk.Text.Basic

/-!
Separators that count only outside quotes and brackets.

A quote is closed by the same quote only, a bracket that closes nothing changes nothing, and what
is left open extends to the end of the text.
-/

namespace Crosswalk.Text

/-- The brackets that keep separators inside them from counting. -/
structure Brackets where
  opening : List Char
  closing : List Char

namespace Brackets

/-- Quotes alone matter. -/
def none : Brackets := ⟨[], []⟩

def round : Brackets := ⟨['('], [')']⟩

def square : Brackets := ⟨['['], [']']⟩

/-- Parentheses and square brackets, which close each other. -/
def roundAndSquare : Brackets := ⟨['(', '['], [')', ']']⟩

end Brackets

/-- What is open at a place of a text: a quote, or a number of brackets. -/
structure Nesting where
  quote : Option Char
  depth : Nat
deriving DecidableEq

namespace Nesting

def outside : Nesting := ⟨none, 0⟩

/-- Whether a separator counts here. -/
def isOutside (n : Nesting) : Bool := n.quote.isNone && n.depth == 0

def step (b : Brackets) (n : Nesting) (c : Char) : Nesting :=
  match n.quote with
  | some q => if c = q then { n with quote := none } else n
  | none =>
    if c = '"' ∨ c = '\'' then { n with quote := some c }
    else if c ∈ b.opening then { n with depth := n.depth + 1 }
    else if c ∈ b.closing then { n with depth := n.depth - 1 }
    else n

end Nesting

/-- Splits at the separators that count, from a place where something may be open. -/
def splitFrom (b : Brackets) (sep : Char) (n : Nesting) : List Char → List (List Char)
  | [] => [[]]
  | c :: rest =>
    if n.isOutside && c == sep then [] :: splitFrom b sep n rest
    else consFirst c (splitFrom b sep (n.step b c) rest)

/-- Splits at the separators outside quotes and brackets. -/
def splitOutside (b : Brackets) (sep : Char) (s : List Char) : List (List Char) :=
  splitFrom b sep Nesting.outside s

/-- Cuts at the first mark that counts, from a place where something may be open. -/
def cutFrom (b : Brackets) (mark : Char) (n : Nesting) :
    List Char → Option (List Char × List Char)
  | [] => none
  | c :: rest =>
    if n.isOutside && c == mark then some ([], rest)
    else (cutFrom b mark (n.step b c) rest).map fun (before, after) => (c :: before, after)

/-- Cuts at the first mark outside quotes and brackets. -/
def cutOutside (b : Brackets) (mark : Char) (s : List Char) : Option (List Char × List Char) :=
  cutFrom b mark Nesting.outside s

/-- What stands before and after the bracket that closes the ones open at the start. -/
def closeFrom (b : Brackets) (n : Nesting) : List Char → Option (List Char × List Char)
  | [] => none
  | c :: rest =>
    let next := n.step b c
    if !n.isOutside && next.isOutside then some ([], rest)
    else (closeFrom b next rest).map fun (before, after) => (c :: before, after)

/-- What stands inside and after a bracket that was just opened. -/
def closeBracket (b : Brackets) (s : List Char) : Option (List Char × List Char) :=
  closeFrom b ⟨none, 1⟩ s

end Crosswalk.Text
