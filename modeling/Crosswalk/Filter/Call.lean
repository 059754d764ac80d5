import Crosswalk.Text.Basic
import Crosswalk.Text.Nesting

/-!
Filter expressions such as `value|trim|slice(0, 3)`: a variable and the filters to run on it.

Bars separate filters and commas separate arguments, but neither does inside quotes or
parentheses. A quote is closed by the same quote only, and what is left open extends to the end.
-/

namespace Crosswalk.Filter

/-- A filter by its name, and its arguments. -/
structure Call where
  name : String
  args : List String
deriving DecidableEq, Inhabited

/-- A variable and the filters that its value goes through. -/
structure Pipeline where
  subject : String
  calls : List Call
deriving DecidableEq, Inhabited

def unquote (s : List Char) : List Char :=
  match s with
  | first :: rest =>
    if (first = '"' ∨ first = '\'') ∧ rest.getLast? = some first then rest.dropLast else s
  | [] => []

def arguments (inner : List Char) : List String :=
  if Text.isAllBlank inner then []
  else
    (Text.splitOutside Text.Brackets.round ',' inner).map fun arg =>
      String.ofList (unquote (Text.trim arg))

/-- Reads a call. Its arguments stand between the first parenthesis and the last character, if that
closes one; otherwise all of it is a name. A blank text is no call. -/
def Call.read? (s : List Char) : Option Call :=
  let s := Text.trim s
  if s.isEmpty then none
  else
    match Text.cutAt '(' s with
    | some (name, inner) =>
      if inner.getLast? = some ')' then
        some ⟨String.ofList (Text.trim name), arguments inner.dropLast⟩
      else some ⟨String.ofList s, []⟩
    | none => some ⟨String.ofList s, []⟩

/-- Reads an expression: the variable, then the filters; blank filters are dropped, and there must
be a variable. -/
def Pipeline.read? (s : List Char) : Option Pipeline :=
  match Text.splitOutside Text.Brackets.round '|' s with
  | [] => none
  | subject :: calls =>
    let subject := Text.trim subject
    if subject.isEmpty then none
    else some ⟨String.ofList subject, calls.filterMap Call.read?⟩

end Crosswalk.Filter
