import Crosswalk.Text.Basic

/-!
The flags that change how an expression is read, and the blanks that one of them allows in it.
-/

namespace Crosswalk.Pattern

/-- The flags of an expression. -/
structure Flags where
  ignoreCase : Bool
  multiLine : Bool
  dotAll : Bool
  crlf : Bool
  unicode : Bool
  ignoreSpace : Bool
deriving DecidableEq

namespace Flags

/-- The flags at the beginning: all of Unicode is known, and nothing else is on. -/
def initial : Flags := ⟨false, false, false, false, true, false⟩

/-- Sets a flag by its letter. The flag for the order of matches changes nothing here. -/
def set? (f : Flags) (letter : Char) (isOn : Bool) : Option Flags :=
  match letter with
  | 'i' => some { f with ignoreCase := isOn }
  | 'm' => some { f with multiLine := isOn }
  | 's' => some { f with dotAll := isOn }
  | 'R' => some { f with crlf := isOn }
  | 'u' => some { f with unicode := isOn }
  | 'x' => some { f with ignoreSpace := isOn }
  | 'U' => some f
  | _ => none

end Flags

/-- Flags as they are written: their letters, and a hyphen before those that are turned off. -/
structure FlagText where
  letters : List Char
  flags : Flags
  isOn : Bool

/-- Takes a letter or a hyphen. None of them stands twice. -/
def FlagText.take? (t : FlagText) (c : Char) : Option FlagText :=
  if t.letters.contains c then none
  else if c == '-' then some { t with letters := t.letters ++ [c], isOn := false }
  else
    (t.flags.set? c t.isOn).map fun flags =>
      { t with letters := t.letters ++ [c], flags := flags }

/-- Reads flags up to a colon or a closing parenthesis, which is left. The last of them is no
hyphen. -/
def FlagText.read? (t : FlagText) : List Char → Option (FlagText × List Char)
  | [] => none
  | c :: rest =>
    if c == ':' || c == ')' then
      if t.letters.getLast? == some '-' then none else some (t, c :: rest)
    else (t.take? c).bind fun next => next.read? rest

/-- Drops blanks, and comments from a number sign to the end of the line. -/
def dropComments (inComment : Bool) : List Char → List Char
  | [] => []
  | c :: rest =>
    if inComment then dropComments (c != '\n') rest
    else if Text.isBlank c then dropComments false rest
    else if c == '#' then dropComments true rest
    else c :: rest

/-- What is left after the blanks and comments at the front, where these do not count. -/
def Flags.skip (f : Flags) (s : List Char) : List Char :=
  if f.ignoreSpace then dropComments false s else s

end Crosswalk.Pattern
