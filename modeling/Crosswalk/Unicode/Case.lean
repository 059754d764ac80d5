import Crosswalk.Unicode.AlphanumericRanges
import Crosswalk.Unicode.CaseTable
import Crosswalk.Unicode.CasedRanges
import Crosswalk.Unicode.WordRanges

/-!
Classes of characters, and the upper and lower case of characters and texts.

Each class is a rule for ASCII and a table for the rest. A character may map to several. In a text
the capital sigma has the small form `ς` at the end of a word and `σ` elsewhere.
-/

namespace Crosswalk.Unicode

/-- Whether a code point lies in one of the ascending runs. -/
def inRuns (n : Nat) : List (Nat × Nat) → Bool
  | [] => false
  | (first, last) :: rest => if n < first then false else n ≤ last || inRuns n rest

def isAsciiAlphanumeric (c : Char) : Bool :=
  c.isAlpha || c.isDigit

/-- Whether a character belongs to words: a letter, mark, decimal digit, connector or joiner. -/
def isWord (c : Char) : Bool :=
  if c.toNat < 128 then isAsciiAlphanumeric c || c == '_' else inRuns c.toNat wordRanges

def isAlphanumeric (c : Char) : Bool :=
  if c.toNat < 128 then isAsciiAlphanumeric c else inRuns c.toNat alphanumericRanges

def isCased (c : Char) : Bool :=
  if c.toNat < 128 then c.isAlpha else inRuns c.toNat casedRanges

/-- Whether a character is passed over when its surroundings are asked for their case. -/
def isCaseIgnorable (c : Char) : Bool :=
  if c.toNat < 128 then c == '\'' || c == '.' || c == ':' || c == '^' || c.toNat == 0x60
  else inRuns c.toNat caseIgnorableRanges

/-! ### Upper and lower case -/

/-- The character that a run maps a code point to, if the run holds it. -/
def CaseRun.image? (run : CaseRun) (n : Nat) : Option Char :=
  if run.first ≤ n ∧ n ≤ run.last ∧ (n - run.first) % run.step = 0 then
    some (Char.ofNat (n + run.distance).toNat)
  else none

/-- The characters that a character maps to: itself when no table holds it. -/
def mapCase (runs : List CaseRun) (sequences : List (Nat × List Nat)) (c : Char) : List Char :=
  match sequences.lookup c.toNat with
  | some codes => codes.map Char.ofNat
  | none => [(runs.findSome? (·.image? c.toNat)).getD c]

def upperChar (c : Char) : List Char :=
  if c.toNat < 128 then [c.toUpper] else mapCase upperRuns upperSequences c

def lowerChar (c : Char) : List Char :=
  if c.toNat < 128 then [c.toLower] else mapCase lowerRuns lowerSequences c

/-- The character that a character is folded to where cases are not told apart. -/
def foldChar (c : Char) : Char :=
  if c.toNat < 128 then c.toLower else (foldRuns.findSome? (·.image? c.toNat)).getD c

/-- Whether the first character that is not passed over has a case. -/
def casedAhead (s : List Char) : Bool :=
  match s.dropWhile isCaseIgnorable with
  | [] => false
  | c :: _ => isCased c

def upper (s : List Char) : List Char :=
  s.flatMap upperChar

/-- The lower case of a text after the characters `before`, nearest first. -/
def lowerAfter (before : List Char) : List Char → List Char
  | [] => []
  | c :: rest =>
    let mapped :=
      if c == 'Σ' then [if casedAhead before && !casedAhead rest then 'ς' else 'σ']
      else lowerChar c
    mapped ++ lowerAfter (c :: before) rest

def lower (s : List Char) : List Char :=
  lowerAfter [] s

end Crosswalk.Unicode
