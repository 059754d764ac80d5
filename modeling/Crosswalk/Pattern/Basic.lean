import Crosswalk.Unicode.CharSet

/-!
Regular expressions over characters.

The syntax of expressions is fixed. What their compiler brings along is not: which names of
properties there are depends on its version of Unicode, and which expressions it has the memory for
depends on how it lays out its programs.
-/

namespace Crosswalk

/-- A condition on a place of a text. Line feeds end lines, and with `crlf` carriage returns too,
but no line ends between the two. -/
inductive Pattern.Assertion where
  | textStart
  | textEnd
  | lineStart (crlf : Bool)
  | lineEnd (crlf : Bool)
  /-- Characters of words stand on one side only. -/
  | wordEdge (unicode : Bool)
  | notWordEdge (unicode : Bool)
  | wordStart (unicode : Bool)
  | wordEnd (unicode : Bool)
  /-- No character of words stands before. -/
  | wordStartHalf (unicode : Bool)
  /-- No character of words stands after. -/
  | wordEndHalf (unicode : Bool)
deriving DecidableEq, Inhabited

/-- A regular expression. -/
inductive Pattern where
  | empty
  | one (set : Unicode.CharSet)
  | assertion (a : Pattern.Assertion)
  | seq (p q : Pattern)
  | either (p q : Pattern)
  | repeated (least : Nat) (most : Option Nat) (p : Pattern)
deriving Inhabited

namespace Pattern

/-- What a compiler of expressions brings along: the sets of characters that the names of properties
stand for, by themselves or with a value, and whether it has the memory for the program of a text.
-/
class Compiler where
  named? : List Char → Option Unicode.CharSet
  valued? : (property value : List Char) → Option Unicode.CharSet
  hasMemoryFor : List Char → Bool

/-- Something that is read, and how deep its text is nested. -/
structure Nested (α : Type) where
  value : α
  depth : Nat

namespace Nested

/-- Something whose text is not nested. -/
def flat {α : Type} (value : α) : Nested α := ⟨value, 0⟩

/-- Something in a text that goes around it. -/
def around {α β : Type} (make : α → β) (n : Nested α) : Nested β := ⟨make n.value, n.depth + 1⟩

/-- How deep the text is nested whose parts are nested so deep: if there are several, they stand in
it one level deeper. -/
def depthOf : List Nat → Nat
  | [] => 0
  | [depth] => depth
  | depths => depths.foldl max 0 + 1

/-- Puts parts together that stand side by side. -/
def join {α β : Type} (make : List α → β) (parts : List (Nested α)) : Nested β :=
  ⟨make (parts.map value), depthOf (parts.map depth)⟩

end Nested

def seqAll : List Pattern → Pattern
  | [] => .empty
  | [p] => p
  | p :: rest => .seq p (seqAll rest)

/-- Any of the expressions of a list; there is one at least. -/
def eitherAll : List Pattern → Pattern
  | [] => .empty
  | [p] => p
  | p :: rest => .either p (eitherAll rest)

end Pattern

end Crosswalk
