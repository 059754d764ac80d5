import Crosswalk.Text.Numeral

/-!
The characters of XML text: which may stand in it, which make names, and what references stand for.
-/

namespace Crosswalk.Xml

def isXmlChar (c : Char) : Bool :=
  let n := c.toNat
  if n < 0x20 then n == 0x9 || n == 0xA || n == 0xD else n != 0xFFFE && n != 0xFFFF

def isSpace (c : Char) : Bool :=
  c == ' ' || c == '\t' || c == '\n' || c == '\r'

/-- The runs of characters beyond ASCII that can begin a name. -/
def nameStartRuns : List (Nat × Nat) :=
  [(0xC0, 0xD6), (0xD8, 0xF6), (0xF8, 0x2FF), (0x370, 0x37D), (0x37F, 0x1FFF), (0x200C, 0x200D),
    (0x2070, 0x218F), (0x2C00, 0x2FEF), (0x3001, 0xD7FF), (0xF900, 0xFDCF), (0xFDF0, 0xFFFD),
    (0x10000, 0xEFFFF)]

def inAnyRun (n : Nat) (runs : List (Nat × Nat)) : Bool :=
  runs.any fun (first, last) => first ≤ n && n ≤ last

def isNameStart (c : Char) : Bool :=
  if c.toNat ≤ 128 then c.isAlpha || c == ':' || c == '_' else inAnyRun c.toNat nameStartRuns

def isNamePart (c : Char) : Bool :=
  if c.toNat ≤ 128 then c.isAlpha || c.isDigit || c == ':' || c == '_' || c == '-' || c == '.'
  else
    c.toNat == 0xB7 || inAnyRun c.toNat nameStartRuns ||
      inAnyRun c.toNat [(0x300, 0x36F), (0x203F, 0x2040)]

def readName? (s : List Char) : Option (List Char × List Char) :=
  match s with
  | c :: rest =>
    if isNameStart c then
      let more := rest.takeWhile isNamePart
      some (c :: more, rest.drop more.length)
    else none
  | [] => none

def namedChars : List (List Char × Char) :=
  [("quot".toList, '"'), ("amp".toList, '&'), ("apos".toList, '\''), ("lt".toList, '<'),
    ("gt".toList, '>')]

/-- The character with a number. A number that is no character gives the replacement character, and
one of a character that may not stand in XML text is refused. -/
def numberedChar? (n : Nat) : Option Char :=
  let c := if n.isValidChar then Char.ofNat n else '\uFFFD'
  if 0x100000000 ≤ n then none else if isXmlChar c then some c else none

/-- A reference after an ampersand, and what is left. -/
def readReference? (s : List Char) : Option (Char × List Char) := do
  let (c, rest) ←
    match s with
    | '#' :: 'x' :: rest =>
      let digits := rest.takeWhile fun c => (Text.hexDigit? c).isSome
      let n ← Text.hexadecimal? digits
      let c ← numberedChar? n
      some (c, rest.drop digits.length)
    | '#' :: rest =>
      let digits := rest.takeWhile Char.isDigit
      let n ← Text.natural? digits
      let c ← numberedChar? n
      some (c, rest.drop digits.length)
    | _ =>
      let (name, rest) ← readName? s
      let c ← namedChars.lookup name
      some (c, rest)
  match rest with
  | ';' :: rest => some (c, rest)
  | _ => none

/-- A character of a text, and whether it was written as a reference. -/
structure Written where
  char : Char
  isReference : Bool

/-- Puts characters for references; a reference that stands for nothing is refused. -/
def resolve? : Nat → List Char → Option (List Written)
  | _, [] => some []
  | 0, _ => none
  | fuel + 1, '&' :: rest => do
    let (c, rest) ← readReference? rest
    let more ← resolve? fuel rest
    some (⟨c, true⟩ :: more)
  | fuel + 1, c :: rest => (resolve? fuel rest).map (⟨c, false⟩ :: ·)

/-- Puts a line feed for every carriage return, with or without a line feed after it. A carriage
return that is written as a reference is kept only in front of another reference and at the end.
`held` tells that a carriage return was read whose fate is open. -/
def normalizeNewlines (held : Bool) : List Written → List Char
  | [] => if held then ['\r'] else []
  | ⟨c, true⟩ :: rest =>
    let front := if held then ['\r'] else []
    front ++ if c == '\r' then normalizeNewlines true rest else c :: normalizeNewlines false rest
  | ⟨c, false⟩ :: rest =>
    let front := if held then ['\n'] else []
    front ++
      if c == '\r' then
        if rest.isEmpty then ['\n'] else normalizeNewlines true rest
      else if held && c == '\n' then normalizeNewlines false rest
      else c :: normalizeNewlines false rest

/-- Puts a space for every blank of an attribute value that is not written as a reference, and one
for a carriage return with its line feed. -/
def normalizeValue : List Written → List Char
  | [] => []
  | ⟨c, true⟩ :: rest => c :: normalizeValue rest
  | ⟨c, false⟩ :: rest =>
    let beforeLineFeed :=
      match rest with
      | next :: _ => next.char == '\n' && !next.isReference
      | [] => false
    if c == '\r' && beforeLineFeed then normalizeValue rest
    else (if isSpace c then ' ' else c) :: normalizeValue rest

end Crosswalk.Xml
