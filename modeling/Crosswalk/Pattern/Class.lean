import Crosswalk.Pattern.Escape

/-!
Sets of characters in square brackets.

Brackets may stand in brackets, and `&&`, `--` and `~~` join what stands on their sides, from left
to right.
-/

namespace Crosswalk.Pattern

open Crosswalk.Unicode

variable [Compiler]

/-- The operations on sets. -/
inductive SetOperation where
  | inter
  | diff
  | symmetricDiff
deriving DecidableEq

/-- What is open in a set: a bracket with the items around it, or an operation with its left
side. -/
inductive Frame where
  | bracket (around : List (Nested CharSet)) (isNegated : Bool)
  | operation (op : SetOperation) (left : Nested CharSet)

def asciiSets : List (String × List (Nat × Nat)) :=
  [("alnum", [(0x30, 0x39), (0x41, 0x5A), (0x61, 0x7A)]), ("alpha", [(0x41, 0x5A), (0x61, 0x7A)]),
    ("ascii", [(0, 0x7F)]), ("blank", [(9, 9), (0x20, 0x20)]), ("cntrl", [(0, 0x1F), (0x7F, 0x7F)]),
    ("digit", [(0x30, 0x39)]), ("graph", [(0x21, 0x7E)]), ("lower", [(0x61, 0x7A)]),
    ("print", [(0x20, 0x7E)]),
    ("punct", [(0x21, 0x2F), (0x3A, 0x40), (0x5B, 0x60), (0x7B, 0x7E)]),
    ("space", [(9, 13), (0x20, 0x20)]), ("upper", [(0x41, 0x5A)]),
    ("word", [(0x30, 0x39), (0x41, 0x5A), (0x5F, 0x5F), (0x61, 0x7A)]),
    ("xdigit", [(0x30, 0x39), (0x41, 0x46), (0x61, 0x66)])]

def SetOperation.apply (f : Flags) (op : SetOperation) (left right : CharSet) : CharSet :=
  let left := f.fold left
  let right := f.fold right
  match op with
  | .inter => .inter left right
  | .diff => .diff left right
  | .symmetricDiff => .symmetricDiff left right

/-- What an operation makes of its sides, which stand one level deeper than it. -/
def SetOperation.join (f : Flags) (op : SetOperation) (left right : Nested CharSet) :
    Nested CharSet :=
  ⟨op.apply f left.value right.value, max left.depth right.depth + 1⟩

/-- The set of all items that stand side by side. -/
def union (items : List (Nested CharSet)) : Nested CharSet := .join .unions items

/-- Ends the operation that is open, if there is one, with its right side. -/
def closeOperation (f : Flags) (frames : List Frame) (right : Nested CharSet) :
    Nested CharSet × List Frame :=
  match frames with
  | .operation op left :: rest => (op.join f left right, rest)
  | _ => (right, frames)

/-- The set in a bracket: without regard to case if the flags say so, and negated if it is. -/
def closeSet (f : Flags) (isNegated : Bool) (set : CharSet) : CharSet :=
  if isNegated then .complement (f.fold set) else f.fold set

/-- The circumflex that negates a named set. -/
def readCaret (s : List Char) : Bool × List Char :=
  match s with
  | '^' :: rest => (true, rest)
  | _ => (false, s)

/-- The set of a name, when the bracket closes behind it. -/
def closeName? (f : Flags) (isNegated : Bool) (name after : List Char) :
    Option (CharSet × List Char) :=
  match after with
  | ']' :: after =>
    (asciiSets.lookup (String.ofList name)).map fun runs =>
      (closeSet f isNegated (.runs runs), after)
  | _ => none

/-- Reads a named set such as `[:alpha:]` after its opening bracket; a circumflex negates it. -/
def readAsciiSet? (f : Flags) (s : List Char) : Option (CharSet × List Char) :=
  match s with
  | ':' :: rest =>
    let (isNegated, rest) := readCaret rest
    (Text.cutAt ':' rest).bind fun (name, after) => closeName? f isNegated name after
  | _ => none

/-- Counts the hyphens at the front of a bracket, which stand for themselves. -/
def leadingHyphens (f : Flags) : Nat → List Char → Nat × List Char
  | 0, s => (0, s)
  | fuel + 1, s =>
    match s with
    | '-' :: rest =>
      let (more, rest) := leadingHyphens f fuel (f.skip rest)
      (more + 1, rest)
    | _ => (0, s)

/-- The circumflex that negates a bracket. -/
def readNegation (f : Flags) (s : List Char) : Bool × List Char :=
  match s with
  | '^' :: rest => (true, f.skip rest)
  | _ => (false, s)

/-- The items at the front of a bracket: hyphens, and without one a closing bracket that stands for
itself. -/
def readLiteral (f : Flags) (hyphens : Nat) (s : List Char) :
    List (Nested CharSet) × List Char :=
  if 0 < hyphens then (List.replicate hyphens (.flat (.single '-')), s)
  else
    match s with
    | ']' :: rest => ([.flat (.single ']')], f.skip rest)
    | _ => ([], s)

/-- Reads what opens a bracket after its first character: a circumflex, hyphens, and without these
a closing bracket that stands for itself. -/
def readOpening (f : Flags) (s : List Char) : Bool × List (Nested CharSet) × List Char :=
  let (isNegated, s) := readNegation f (f.skip s)
  let (hyphens, s) := leadingHyphens f (s.length + 1) s
  let (items, s) := readLiteral f hyphens s
  (isNegated, items, s)

def readMember? (f : Flags) : List Char → Option (Primitive × List Char)
  | [] => none
  | '\\' :: rest => readEscape? f rest
  | c :: rest => some (.char c false, rest)

/-- A character inside a bracket. Where Unicode is not known it is one of ASCII. -/
def memberChar? (f : Flags) : Primitive → Option Char
  | .char c _ => if f.unicode || c.toNat < 128 then some c else none
  | _ => none

/-- The set of a character or a set inside a bracket. -/
def memberSet? (f : Flags) : Primitive → Option CharSet
  | .set set => some set
  | p => (memberChar? f p).map .single

/-- Whether a hyphen stands for a range: it is not followed by another or by the end of the
bracket. -/
def beginsRange (f : Flags) (afterHyphen : List Char) : Bool :=
  match f.skip afterHyphen with
  | ']' :: _ => false
  | '-' :: _ => false
  | _ => true

def readRange? (f : Flags) (s : List Char) : Option (CharSet × List Char) := do
  let (first, rest) ← readMember? f s
  match f.skip rest with
  | '-' :: after =>
    if beginsRange f after then
      let (last, rest) ← readMember? f (f.skip after)
      let a ← memberChar? f first
      let b ← memberChar? f last
      if a.toNat ≤ b.toNat then some (.runs [(a.toNat, b.toNat)], rest) else none
    else
      let set ← memberSet? f first
      some (set, '-' :: after)
  | rest =>
    let set ← memberSet? f first
    some (set, rest)

/-- The operation that a text begins with, and what follows it. -/
def readOperation? : List Char → Option (SetOperation × List Char)
  | '&' :: '&' :: rest => some (.inter, rest)
  | '-' :: '-' :: rest => some (.diff, rest)
  | '~' :: '~' :: rest => some (.symmetricDiff, rest)
  | _ => none

/-- Reads a bracket to its end, with the items read so far. -/
def readItems? (f : Flags) : Nat → List Frame → List (Nested CharSet) → List Char →
    Option (Nested CharSet × List Char)
  | 0, _, _, _ => none
  | fuel + 1, frames, items, s =>
    match f.skip s with
    | [] => none
    | '[' :: rest =>
      match readAsciiSet? f rest with
      | some (set, rest) => readItems? f fuel frames (.flat set :: items) rest
      | none =>
        let (isNegated, inner, rest) := readOpening f rest
        readItems? f fuel (.bracket items isNegated :: frames) inner rest
    | ']' :: rest =>
      match closeOperation f frames (union items) with
      | (set, .bracket around isNegated :: frames) =>
        let set := set.around (closeSet f isNegated)
        if frames.isEmpty then some (set, rest)
        else readItems? f fuel frames (set :: around) rest
      | _ => none
    | s =>
      match readOperation? s with
      | some (op, rest) =>
        let (left, frames) := closeOperation f frames (union items)
        readItems? f fuel (.operation op left :: frames) [] rest
      | none =>
        (readRange? f s).bind fun (set, rest) => readItems? f fuel frames (.flat set :: items) rest

/-- Reads a set after its opening bracket. Where Unicode is not known it holds ASCII only. -/
def readSet? (f : Flags) (s : List Char) : Option (Nested CharSet × List Char) :=
  let (isNegated, items, rest) := readOpening f s
  (readItems? f (s.length + 1) [.bracket [] isNegated] items rest).filter fun (set, _) =>
    f.unicode || !set.value.contains '\u0080'

end Crosswalk.Pattern
