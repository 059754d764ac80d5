import Crosswalk.Decimal.Numeral
import Crosswalk.Query.Basic
import Crosswalk.Text.Basic
import Crosswalk.Text.Nesting
import Crosswalk.Text.Numeral
import Crosswalk.Unicode.Case

/-!
Reading a query.

Bars separate paths and slashes steps where no quote and no bracket is open. A step is a node test,
with the axis in front of it, and predicates in square brackets.
-/

namespace Crosswalk.Query

/-- Whether a text is one part of a name: `*`, or letters, numbers, `_`, `-` and `.`. -/
def isNamePart (s : List Char) : Bool :=
  !s.isEmpty &&
    (s == ['*'] ||
      s.all fun c => Unicode.isAlphanumeric c || c == '_' || c == '-' || c == '.')

/-- Reads a name, with a qualifier and a colon in front or without. The qualifier is never `*`. -/
def NamePattern.read? (s : List Char) : Option NamePattern :=
  let s := Text.trim s
  match Text.cutAt ':' s with
  | some (qualifier, localName) =>
    if isNamePart localName && isNamePart qualifier && qualifier != ['*'] then
      some ⟨some (String.ofList qualifier), String.ofList localName⟩
    else none
  | none => if isNamePart s then some ⟨none, String.ofList s⟩ else none

/-- Reads a part: an attribute after an at sign, or else a child. -/
def Part.read? (s : List Char) : Option Part :=
  match s with
  | '@' :: name => (NamePattern.read? name).map .attribute
  | _ => (NamePattern.read? s).map .child

/-- Reads the right side of a comparison: a text in quotes, or the digits of a number. -/
def literal? (s : List Char) : Option (List Char) :=
  let s := Text.trim s
  let quoted :=
    match s with
    | first :: rest =>
      if (first = '\'' ∨ first = '"') ∧ rest.getLast? = some first then some rest.dropLast
      else none
    | [] => none
  match quoted with
  | some inner => some inner
  | none => if (Decimal.Quantity.read? s).isSome then some s else none

/-- Takes a comparison apart: its sides, and whether an exclamation mark negates it. -/
def splitComparison? (s : List Char) : Option (List Char × List Char × Bool) :=
  (Text.cutOutside Text.Brackets.none '=' s).map fun (left, right) =>
    if left.getLast? = some '!' then (left.dropLast, right, true) else (left, right, false)

/-- Reads a comparison of a part, or with `.` or `text()` of the node itself. -/
def readComparison? (left right : List Char) (negated : Bool) : Option Predicate := do
  let value ← literal? right
  let left := Text.trim left
  if left = ['.'] ∨ left = "text()".toList then
    some (.comparesSelf (String.ofList value) negated)
  else
    let part ← Part.read? left
    some (.compares part (String.ofList value) negated)

/-- Reads what stands between the brackets of a predicate. -/
def Predicate.read? (s : List Char) : Option Predicate :=
  let s := Text.trim s
  match Text.unsigned? s with
  | some n => some (.position n)
  | none =>
    if s = "last()".toList then some .last
    else
      match splitComparison? s with
      | some (left, right, negated) => readComparison? left right negated
      | none => (Part.read? s).map .has

/-- Reads predicates, each in its brackets, with at most `fuel` of them. -/
def readPredicatesFrom? : Nat → List Char → Option (List Predicate)
  | _, [] => some []
  | 0, _ => none
  | fuel + 1, '[' :: rest => do
    let (inner, after) ← Text.closeBracket Text.Brackets.square rest
    let predicate ← Predicate.read? inner
    let more ← readPredicatesFrom? fuel (Text.trimStart after)
    some (predicate :: more)
  | _, _ => none

def readPredicates? (s : List Char) : Option (List Predicate) :=
  readPredicatesFrom? s.length (Text.trim s)

def Axis.ofName? (s : List Char) : Option Axis :=
  match String.ofList s with
  | "child" => some .child
  | "descendant" => some .descendant
  | "descendant-or-self" => some .descendantOrSelf
  | "self" => some .self
  | "parent" => some .parent
  | "attribute" => some .attributes
  | _ => none

/-- The axis that a step names, and what is left of it. Without a name the axis is the children. -/
def splitAxis? (s : List Char) : Option (Axis × List Char) :=
  match s with
  | '@' :: rest => some (.attributes, rest)
  | _ =>
    match Text.cutAtText "::".toList s with
    | some (axis, rest) => (Axis.ofName? (Text.trim axis)).map (·, rest)
    | none => some (.child, s)

def NodeTest.read? (s : List Char) : Option NodeTest :=
  let s := Text.trim s
  if s = "text()".toList then some .text
  else if s = "node()".toList then some .any
  else (NamePattern.read? s).map .name

def readHead? (s : List Char) : Option (Axis × NodeTest) :=
  if s = ['.'] then some (.self, .any)
  else if s = ['.', '.'] then some (.parent, .any)
  else do
    let (axis, rest) ← splitAxis? s
    let test ← NodeTest.read? rest
    some (axis, test)

def Step.read? (s : List Char) : Option Step :=
  let (head, predicates) :=
    match Text.cutOutside Text.Brackets.none '[' s with
    | some (head, rest) => (head, '[' :: rest)
    | none => (s, [])
  (readHead? (Text.trim head)).bind fun (axis, test) =>
    (readPredicates? predicates).map fun predicates => ⟨axis, test, predicates⟩

/-- Reads the steps between slashes. A blank one stands for all levels below; the last is not
blank. -/
def readSteps? : List (List Char) → Option (List Step)
  | [] => some []
  | part :: rest => do
    let part := Text.trim part
    let step ←
      if part.isEmpty then (if rest.isEmpty then none else some Step.everywhere)
      else Step.read? part
    let more ← readSteps? rest
    some (step :: more)

def Path.read? (s : List Char) : Option Path :=
  match Text.trim s with
  | [] => none
  | '/' :: rest =>
    if rest.isEmpty then some ⟨true, []⟩
    else
      (readSteps? (Text.splitOutside Text.Brackets.roundAndSquare '/' rest)).map fun steps =>
        ⟨true, steps⟩
  | s =>
    (readSteps? (Text.splitOutside Text.Brackets.roundAndSquare '/' s)).map fun steps =>
      ⟨false, steps⟩

def read? (s : List Char) : Option Query :=
  ((Text.splitOutside Text.Brackets.roundAndSquare '|' s).mapM Path.read?).map fun paths => ⟨paths⟩

def parse? (s : String) : Option Query := read? s.toList

end Crosswalk.Query
