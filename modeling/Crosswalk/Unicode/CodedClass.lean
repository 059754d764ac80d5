import Crosswalk.Text.Basic

/-!
Classes of characters in a short notation.

A class is written as its runs, in ascending order. A run is the number of characters between it and
the one before, then, after a dot, how many characters it has beyond its first. Numbers are written
with the digits `0` to `9` and `a` to `z`.
-/

namespace Crosswalk.Unicode

/-- A class of characters by its names, and the lines that hold its runs. -/
structure CodedClass where
  names : String
  lines : List String

def codeDigit? (c : Char) : Option Nat :=
  if c.isDigit then some (c.toNat - '0'.toNat)
  else if c.isLower then some (c.toNat - 'a'.toNat + 10)
  else none

/-- The number that digits write; what is no digit counts as zero. -/
def codeNumber (s : List Char) : Nat :=
  s.foldl (fun n c => n * 36 + (codeDigit? c).getD 0) 0

/-- The gap and the length of a run. -/
def codeRun (s : List Char) : Nat × Nat :=
  match Text.cutAt '.' s with
  | some (gap, more) => (codeNumber gap, codeNumber more)
  | none => (codeNumber s, 0)

/-- The runs that gaps and lengths stand for, from a code point on. -/
def runsFrom (next : Nat) : List (Nat × Nat) → List (Nat × Nat)
  | [] => []
  | (gap, more) :: rest =>
    (next + gap, next + gap + more) :: runsFrom (next + gap + more + 1) rest

namespace CodedClass

/-- The runs of a class, by their first and last code points. -/
def runs (c : CodedClass) : List (Nat × Nat) :=
  runsFrom 0
    ((c.lines.flatMap fun line => Text.pieces (· == ' ') line.toList).map codeRun)

def hasName (name : List Char) (c : CodedClass) : Bool :=
  (Text.pieces (· == ' ') c.names.toList).contains name

def find? (classes : List CodedClass) (name : List Char) : Option (List (Nat × Nat)) :=
  (classes.find? (hasName name)).map runs

end CodedClass

end Crosswalk.Unicode
