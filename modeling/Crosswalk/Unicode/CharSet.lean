import Crosswalk.Unicode.Case

/-!
Sets of characters, built from runs by the operations on sets and by disregarding case.
-/

namespace Crosswalk.Unicode

/-- A set of characters. -/
inductive CharSet where
  | runs (list : List (Nat × Nat))
  | union (a b : CharSet)
  | inter (a b : CharSet)
  | diff (a b : CharSet)
  | complement (a : CharSet)
  /-- The characters that differ from one of the set in case only. -/
  | folded (a : CharSet)
  /-- The same for the letters of ASCII alone. -/
  | asciiFolded (a : CharSet)
deriving Inhabited

/-- The character of a run that maps to a code point, if there is one. -/
def CaseRun.preimage? (run : CaseRun) (n : Nat) : Option Char :=
  let source := ((n : Int) - run.distance).toNat
  if run.image? source = some (Char.ofNat n) then some (Char.ofNat source) else none

/-- The characters that differ from a character in case only, and the character itself. -/
def caseOrbit (c : Char) : List Char :=
  let folded := foldChar c
  folded :: folded.toUpper :: foldRuns.filterMap (·.preimage? folded.toNat)

namespace CharSet

def empty : CharSet := .runs []

def all : CharSet := .runs [(0, 0x10FFFF)]

def single (c : Char) : CharSet := .runs [(c.toNat, c.toNat)]

def unions : List CharSet → CharSet
  | [] => empty
  | a :: rest => .union a (unions rest)

/-- The characters that are in one of two sets but not in both. -/
def symmetricDiff (a b : CharSet) : CharSet := .union (.diff a b) (.diff b a)

def contains : CharSet → Char → Bool
  | .runs list, c => list.any fun (first, last) => first ≤ c.toNat && c.toNat ≤ last
  | .union a b, c => a.contains c || b.contains c
  | .inter a b, c => a.contains c && b.contains c
  | .diff a b, c => a.contains c && !b.contains c
  | .complement a, c => !a.contains c
  | .folded a, c => (caseOrbit c).any a.contains
  | .asciiFolded a, c => a.contains c || a.contains c.toLower || a.contains c.toUpper

end CharSet

end Crosswalk.Unicode
