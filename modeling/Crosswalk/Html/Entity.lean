import Crosswalk.Html.EntityTable
import Crosswalk.Text.Basic
import Crosswalk.Text.Numeral

/-!
Character references: names and numbers after an ampersand.

Of the names that a text begins with the longest counts. A number that is no character, or stands
for a control character that old encodings used for another one, gives a replacement.
-/

namespace Crosswalk.Html

/-- The name and the characters of one word of the table. -/
def entityOfWord (word : String) : List (List Char × List Char) :=
  match Text.cutAt '=' word.toList with
  | some (name, codes) =>
    let chars := (Text.pieces (· == '+') codes).filterMap fun code =>
      (Text.hexadecimal? code).map Char.ofNat
    if name.getLast? = some ';' then [(name, chars)]
    else [(name, chars), (name ++ [';'], chars)]
  | none => []

/-- The names, with their semicolons, and the characters that they stand for. -/
def entities : List (List Char × List Char) :=
  entityWords.flatMap fun line =>
    (Text.pieces (· == ' ') line.toList).flatMap fun word => entityOfWord (String.ofList word)

/-- The longest name at the front of a text, and what it stands for. -/
def namedReference? (s : List Char) : Option (List Char × List Char) :=
  entities.foldl
    (fun best entity =>
      if Text.beginsWith entity.1 s then
        match best with
        | some (name, _) => if name.length < entity.1.length then some entity else best
        | none => some entity
      else best)
    none

/-- What the control characters from U+0080 on stand for, where they stand for another one. -/
def controlReplacements : List (Nat × Nat) :=
  [(0x80, 0x20AC), (0x82, 0x201A), (0x83, 0x0192), (0x84, 0x201E), (0x85, 0x2026),
    (0x86, 0x2020), (0x87, 0x2021), (0x88, 0x02C6), (0x89, 0x2030), (0x8A, 0x0160),
    (0x8B, 0x2039), (0x8C, 0x0152), (0x8E, 0x017D), (0x91, 0x2018), (0x92, 0x2019),
    (0x93, 0x201C), (0x94, 0x201D), (0x95, 0x2022), (0x96, 0x2013), (0x97, 0x2014),
    (0x98, 0x02DC), (0x99, 0x2122), (0x9A, 0x0161), (0x9B, 0x203A), (0x9C, 0x0153),
    (0x9E, 0x017E), (0x9F, 0x0178)]

def numberedChar (n : Nat) : Char :=
  if n = 0 ∨ 0x10FFFF < n ∨ (0xD800 ≤ n ∧ n ≤ 0xDFFF) then '\uFFFD'
  else Char.ofNat ((controlReplacements.lookup n).getD n)

/-- A reference by number after `&#`: what it stands for, and how many characters it takes. Its
semicolon may be missing. -/
def numericReference? (s : List Char) : Option (List Char × Nat) :=
  let hexadecimal := s.head?.any fun c => c == 'x' || c == 'X'
  let digit := if hexadecimal then Text.hexDigit? else Text.digit?
  let digits := (if hexadecimal then s.drop 1 else s).takeWhile fun c => (digit c).isSome
  let taken := (if hexadecimal then 1 else 0) + digits.length
  let semicolon := if (s.drop taken).head? = some ';' then 1 else 0
  if digits.isEmpty then none
  else
    (Text.digitsFrom (if hexadecimal then 16 else 10) digit 0 digits).map fun n =>
      ([numberedChar n], taken + semicolon)

/-- A reference after an ampersand: what it stands for, and how many characters it takes. In the
value of an attribute a name without its semicolon is no reference before a letter, a digit or an
equals sign. -/
def reference? (inAttribute : Bool) (s : List Char) : Option (List Char × Nat) :=
  match s with
  | '#' :: rest => (numericReference? rest).map fun (chars, taken) => (chars, taken + 1)
  | _ =>
    (namedReference? s).bind fun (name, chars) =>
      let next := (s.drop name.length).head?
      if inAttribute && name.getLast? != some ';' &&
          next.any fun c => c == '=' || c.isAlpha || c.isDigit then none
      else some (chars, name.length)

/-- Puts what references stand for in their place; `skip` characters of a reference that is already
replaced are still to be passed over. -/
def resolveFrom (inAttribute : Bool) : Nat → List Char → List Char
  | _, [] => []
  | skip + 1, _ :: rest => resolveFrom inAttribute skip rest
  | 0, c :: rest =>
    if c == '&' then
      match reference? inAttribute rest with
      | some (chars, taken) => chars ++ resolveFrom inAttribute taken rest
      | none => c :: resolveFrom inAttribute 0 rest
    else c :: resolveFrom inAttribute 0 rest

/-- Puts what references stand for in their place. -/
def resolveReferences (inAttribute : Bool) (s : List Char) : List Char :=
  resolveFrom inAttribute 0 s

end Crosswalk.Html
