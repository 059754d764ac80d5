import Crosswalk.Pattern.Class

/-!
Reading a regular expression.

The reader keeps the groups that are open. A flag that is set lasts to the end of its group. How
deep the text is nested is counted on the way, and limited at the end.
-/

namespace Crosswalk.Pattern

open Crosswalk.Unicode

variable [Compiler]

/-- A group that is open: the flags to go back to, and what stands around it, last first. Where a
flag was set there is no expression. -/
structure Level where
  flags : Flags
  items : List (Nested (Option Pattern))
  branches : List (Nested Pattern)

/-- What is read so far. -/
structure Reading where
  flags : Flags
  items : List (Nested (Option Pattern))
  branches : List (Nested Pattern)
  levels : List Level
  names : List (List Char)

namespace Reading

def start : Reading := ⟨.initial, [], [], [], []⟩

def pushNested (r : Reading) (p : Nested Pattern) : Reading :=
  { r with items := ⟨some p.value, p.depth⟩ :: r.items }

def push (r : Reading) (p : Pattern) : Reading := r.pushNested (.flat p)

def branch (r : Reading) : Nested Pattern :=
  .join (fun items => seqAll (items.filterMap id)) r.items.reverse

def group (r : Reading) : Nested Pattern := .join eitherAll (r.branches.reverse ++ [r.branch])

def nextBranch (r : Reading) : Reading :=
  { r with items := [], branches := r.branch :: r.branches }

def openWith (r : Reading) (flags : Flags) : Reading :=
  { r with
    flags := flags, items := [], branches := []
    levels := ⟨r.flags, r.items, r.branches⟩ :: r.levels }

def close? (r : Reading) : Option Reading :=
  match r.levels with
  | level :: levels =>
    some
      { flags := level.flags, items := r.group.around some :: level.items
        branches := level.branches, levels := levels, names := r.names }
  | [] => none

/-- Repeats the last expression, which has to be there. -/
def repeatLast? (r : Reading) (least : Nat) (most : Option Nat) : Option Reading :=
  match r.items with
  | ⟨some p, depth⟩ :: rest =>
    some { r with items := ⟨some (.repeated least most p), depth + 1⟩ :: rest }
  | _ => none

end Reading

/-- Whether a character may stand in the name of a group, or begin it. -/
def isGroupChar (isFirst : Bool) (c : Char) : Bool :=
  c == '_' || (if isFirst then (property? "alphabetic".toList).any (·.contains c)
    else Unicode.isAlphanumeric c || c == '.' || c == '[' || c == ']')

/-- Reads the name of a group up to its closing angle bracket. -/
def readGroupName? (s : List Char) : Option (List Char × List Char) :=
  (Text.cutAt '>' s).filter fun (name, _) =>
    match name with
    | first :: rest => isGroupChar true first && rest.all (isGroupChar false)
    | [] => false

/-- Whether a group looks ahead or behind, which no expression does. -/
def looksAround (s : List Char) : Bool :=
  ["?=", "?!", "?<=", "?<!"].any fun lead => Text.beginsWith lead.toList s

/-- Opens a group that has a name, which no other has. -/
def openNamed? (r : Reading) (s : List Char) : Option (Reading × List Char) :=
  (readGroupName? s).bind fun (name, rest) =>
    if r.names.contains name then none
    else some ({ r with names := name :: r.names }.openWith r.flags, rest)

/-- Opens a group with flags, or sets flags for the rest of the group around. -/
def openFlagged? (r : Reading) (s : List Char) : Option (Reading × List Char) :=
  (FlagText.read? ⟨[], r.flags, true⟩ s).bind fun (t, rest) =>
    match rest with
    | ':' :: rest => some (r.openWith t.flags, rest)
    | ')' :: rest =>
      if t.letters.isEmpty then none
      else some ({ r with flags := t.flags, items := .flat none :: r.items }, rest)
    | _ => none

/-- Opens a group after its question mark. -/
def openMarked? (r : Reading) (s : List Char) : Option (Reading × List Char) :=
  match s with
  | 'P' :: '<' :: rest => openNamed? r rest
  | '<' :: rest => openNamed? r rest
  | s => openFlagged? r s

def openGroup? (r : Reading) (s : List Char) : Option (Reading × List Char) :=
  let s := r.flags.skip s
  if looksAround s then none
  else
    match s with
    | '?' :: rest => openMarked? r rest
    | s => some (r.openWith r.flags, s)

/-- Drops the question mark that prefers few turns. -/
def dropLazy : List Char → List Char
  | '?' :: rest => rest
  | s => s

/-- Reads a number of turns, with blanks around it, below `2 ^ 32`. `found` tells whether there is a
digit. -/
def readCount (f : Flags) (fuel : Nat) (found : Option Nat) (s : List Char) :
    Option Nat × List Char :=
  match fuel, s with
  | 0, _ => (found, s)
  | _ + 1, [] => (found, [])
  | fuel + 1, c :: rest =>
    if c.isDigit then
      readCount f fuel (some (found.getD 0 * 10 + (c.toNat - '0'.toNat))) (f.skip rest)
    else (found, s.dropWhile Text.isBlank)

/-- Reads a number of turns that has to be there. -/
def readCount? (f : Flags) (s : List Char) : Option (Nat × List Char) :=
  let s := s.dropWhile Text.isBlank
  match readCount f (s.length + 1) none s with
  | (some n, rest) => if n < 0x100000000 then some (n, f.skip rest) else none
  | (none, _) => none

/-- The bounds of turns, when the brace closes behind them. -/
def closeBounds? (bounds : Option (Nat × Option Nat)) (s : List Char) :
    Option ((Nat × Option Nat) × List Char) :=
  match s with
  | '\x7d' :: rest => bounds.map (·, rest)
  | _ => none

/-- Reads the upper bound of turns after a comma; without one there is no bound. -/
def readMost? (f : Flags) (least : Nat) (s : List Char) :
    Option ((Nat × Option Nat) × List Char) :=
  match s with
  | '\x7d' :: rest => some ((least, none), rest)
  | s =>
    (readCount? f s).bind fun (most, rest) =>
      closeBounds? (if least ≤ most then some (least, some most) else none) rest

/-- Reads the bounds of turns after an opening brace. -/
def readBounds? (f : Flags) (s : List Char) : Option ((Nat × Option Nat) × List Char) :=
  (readCount? f (f.skip s)).bind fun (least, rest) =>
    match rest with
    | ',' :: rest => readMost? f least (f.skip rest)
    | rest => closeBounds? (some (least, some least)) rest

def charPattern? (f : Flags) (c : Char) (isByte : Bool) : Option Pattern :=
  if isByte && !f.unicode && 128 ≤ c.toNat then none else some (.one (f.fold (.single c)))

/-- The expression of what a backslash stands for. Where Unicode is not known a set holds ASCII
only. -/
def primitivePattern? (f : Flags) : Primitive → Option Pattern
  | .char c isByte => charPattern? f c isByte
  | .set set => if f.unicode || !set.contains '\u0080' then some (.one set) else none
  | .assertion a => some (.assertion a)

def dotSet (f : Flags) : CharSet :=
  if f.dotAll then .all
  else if f.crlf then .complement (.union (.single '\n') (.single '\r'))
  else .complement (.single '\n')

/-- The condition of a circumflex. -/
def startAssertion (f : Flags) : Assertion :=
  if f.multiLine then .lineStart f.crlf else .textStart

/-- The condition of a dollar sign. -/
def endAssertion (f : Flags) : Assertion :=
  if f.multiLine then .lineEnd f.crlf else .textEnd

def Reading.step? (r : Reading) (s : List Char) : Option (Reading × List Char) :=
  match s with
  | [] => none
  | '(' :: rest => openGroup? r rest
  | ')' :: rest => r.close?.map (·, rest)
  | '|' :: rest => some (r.nextBranch, rest)
  | '[' :: rest =>
    (readSet? r.flags rest).map fun (set, rest) =>
      (r.pushNested ⟨.one set.value, set.depth⟩, rest)
  | '?' :: rest => (r.repeatLast? 0 (some 1)).map (·, dropLazy rest)
  | '*' :: rest => (r.repeatLast? 0 none).map (·, dropLazy rest)
  | '+' :: rest => (r.repeatLast? 1 none).map (·, dropLazy rest)
  | '\x7b' :: rest =>
    (readBounds? r.flags rest).bind fun ((least, most), rest) =>
      (r.repeatLast? least most).map (·, dropLazy (r.flags.skip rest))
  | '\\' :: rest =>
    (readEscape? r.flags rest).bind fun (primitive, rest) =>
      (primitivePattern? r.flags primitive).map fun p => (r.push p, rest)
  | '.' :: rest => if r.flags.unicode then some (r.push (.one (dotSet r.flags)), rest) else none
  | '^' :: rest => some (r.push (.assertion (startAssertion r.flags)), rest)
  | '$' :: rest => some (r.push (.assertion (endAssertion r.flags)), rest)
  | c :: rest => (charPattern? r.flags c false).map fun p => (r.push p, rest)

/-- Reads items to the end of the text, where no group may be open. -/
def Reading.run? : Nat → Reading → List Char → Option (Nested Pattern)
  | 0, _, _ => none
  | fuel + 1, r, s =>
    match r.flags.skip s with
    | [] => if r.levels.isEmpty then some r.group else none
    | s => (r.step? s).bind fun (r, rest) => r.run? fuel rest

/-- Reads an expression by the rules of the syntax. -/
def parse? (s : List Char) : Option (Nested Pattern) :=
  Reading.start.run? (s.length + 1) s

/-- How deep the text of an expression may be nested. -/
def nestingLimit : Nat := 250

/-- Reads an expression that the compiler takes: it is not nested too deep, and there is memory for
it. -/
def read? (s : List Char) : Option Pattern :=
  ((parse? s).filter fun p => p.depth ≤ nestingLimit && Compiler.hasMemoryFor s).map (·.value)

/-- Puts an expression between the start and the end of a text. -/
def inFrame (s : List Char) : List Char := "^(?:".toList ++ s ++ ")$".toList

/-- Reads an expression put between the start and the end of a text. -/
def readAnchored? (s : String) : Option Pattern := read? (inFrame s.toList)

end Crosswalk.Pattern
