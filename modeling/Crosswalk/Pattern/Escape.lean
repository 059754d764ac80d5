import Crosswalk.Pattern.Basic
import Crosswalk.Pattern.Flags
import Crosswalk.Text.Basic
import Crosswalk.Text.Numeral
import Crosswalk.Unicode.Property

/-!
What a backslash and the characters after it stand for.
-/

namespace Crosswalk.Pattern

open Crosswalk.Unicode

/-- The compiler with the tables of characters at hand, and memory for every program. -/
instance Compiler.standard : Compiler := ⟨Unicode.named?, Unicode.valued?, fun _ => true⟩

variable [Compiler]

/-- A character, a set or a condition. A character above U+007F that is written by two digits is a
byte where Unicode is not known. -/
inductive Primitive where
  | char (c : Char) (isByte : Bool)
  | set (s : CharSet)
  | assertion (a : Assertion)

def metaChars : List Char := "\\.+*?()|[]\x7b\x7d^$#&-~".toList

/-- Whether a backslash makes a character stand for itself. -/
def isEscapable (c : Char) : Bool :=
  metaChars.contains c || (c.toNat < 128 && !c.isAlphanum && c != '<' && c != '>')

def letterEscapes : List (Char × Char) :=
  [('a', '\x07'), ('f', '\x0c'), ('t', '\t'), ('n', '\n'), ('r', '\r'), ('v', '\x0b')]

def digitSet (unicode : Bool) : CharSet :=
  if unicode then categorySet "nd" else .runs [(0x30, 0x39)]

def blankSet (unicode : Bool) : CharSet :=
  if unicode then
    .runs [(9, 13), (0x20, 0x20), (0x85, 0x85), (0xA0, 0xA0), (0x1680, 0x1680), (0x2000, 0x200A),
      (0x2028, 0x2029), (0x202F, 0x202F), (0x205F, 0x205F), (0x3000, 0x3000)]
  else .runs [(9, 13), (0x20, 0x20)]

def wordSet (unicode : Bool) : CharSet :=
  let ascii : List (Nat × Nat) := [(0x30, 0x39), (0x41, 0x5A), (0x5F, 0x5F), (0x61, 0x7A)]
  if unicode then .runs (ascii ++ wordRanges) else .runs ascii

/-- The set that a letter stands for; a capital letter means all other characters. -/
def letterSet? (unicode : Bool) (c : Char) : Option CharSet :=
  match c with
  | 'd' => some (digitSet unicode)
  | 'D' => some (.complement (digitSet unicode))
  | 's' => some (blankSet unicode)
  | 'S' => some (.complement (blankSet unicode))
  | 'w' => some (wordSet unicode)
  | 'W' => some (.complement (wordSet unicode))
  | _ => none

def charOf? (n : Nat) : Option Char :=
  if n.isValidChar then some (Char.ofNat n) else none

def readDigits? (f : Flags) : Nat → Nat → List Char → Option (Nat × List Char)
  | 0, value, s => some (value, s)
  | n + 1, value, c :: rest =>
    (Text.hexDigit? c).bind fun d => readDigits? f n (value * 16 + d) (f.skip rest)
  | _ + 1, _, [] => none

/-- Reads hexadecimal digits up to a closing brace; there is one at least. -/
def readBraced? (f : Flags) (fuel : Nat) (isFirst : Bool) (value : Nat) (s : List Char) :
    Option (Nat × List Char) :=
  match fuel, s with
  | 0, _ => none
  | _ + 1, [] => none
  | fuel + 1, c :: rest =>
    if c == '\x7d' then if isFirst then none else some (value, f.skip rest)
    else
      (Text.hexDigit? c).bind fun d => readBraced? f fuel false (value * 16 + d) (f.skip rest)

/-- Reads the number of a character: in braces, or in a fixed number of digits. -/
def readHexadecimal? (f : Flags) (width : Nat) (s : List Char) :
    Option (Primitive × List Char) :=
  match f.skip s with
  | '\x7b' :: rest =>
    (readBraced? f (rest.length + 1) true 0 (f.skip rest)).bind fun (n, rest) =>
      (charOf? n).map fun c => (.char c false, rest)
  | s =>
    (readDigits? f width 0 s).bind fun (n, rest) =>
      (charOf? n).map fun c => (.char c (width == 2), rest)

/-- The set that the text of a property stands for. A property and its value stand around a colon,
an equals sign, or an exclamation mark and one, which means all other characters. -/
def propertySet? (name : List Char) : Option CharSet :=
  match Text.cutAtText ['!', '='] name with
  | some (property, value) => (Compiler.valued? property value).map .complement
  | none =>
    match Text.cutAt ':' name with
    | some (property, value) => Compiler.valued? property value
    | none =>
      match Text.cutAt '=' name with
      | some (property, value) => Compiler.valued? property value
      | none => Compiler.named? name

/-- Reads the name of a property up to a closing brace. -/
def readPropertyName? (f : Flags) : Nat → List Char → Option (List Char × List Char)
  | 0, _ => none
  | _ + 1, [] => none
  | fuel + 1, c :: rest =>
    if c == '\x7d' then some ([], rest)
    else (readPropertyName? f fuel (f.skip rest)).map fun (name, rest) => (c :: name, rest)

/-- A set without regard to case, if the flags say so. -/
def Flags.fold (f : Flags) (set : CharSet) : CharSet :=
  if f.ignoreCase then if f.unicode then .folded set else .asciiFolded set else set

/-- Reads a property: one letter, or a name in braces. -/
def readProperty? (f : Flags) (isNegated : Bool) (s : List Char) :
    Option (Primitive × List Char) :=
  let read : Option (List Char × List Char) :=
    match f.skip s with
    | '\x7b' :: rest => readPropertyName? f (rest.length + 1) (f.skip rest)
    | '\\' :: _ => none
    | c :: rest => some ([c], f.skip rest)
    | [] => none
  if !f.unicode then none
  else
    read.bind fun (name, rest) =>
      (propertySet? name).map fun set =>
        let set := f.fold set
        (.set (if isNegated then .complement set else set), rest)

/-- The conditions that names in braces after `\b` stand for. -/
def namedEdge? (unicode : Bool) (name : List Char) : Option Assertion :=
  match String.ofList name with
  | "start" => some (.wordStart unicode)
  | "end" => some (.wordEnd unicode)
  | "start-half" => some (.wordStartHalf unicode)
  | "end-half" => some (.wordEndHalf unicode)
  | _ => none

/-- Whether a character may stand in the name of a condition. -/
def isEdgeChar (c : Char) : Bool := c.isAlpha || c == '-'

/-- Reads the name of a condition up to a closing brace. -/
def readEdgeName? (f : Flags) : Nat → List Char → Option (List Char × List Char)
  | 0, _ => none
  | _ + 1, [] => none
  | fuel + 1, c :: rest =>
    if isEdgeChar c then
      (readEdgeName? f fuel (f.skip rest)).map fun (name, rest) => (c :: name, rest)
    else if c == '\x7d' then some ([], rest)
    else none

/-- Reads what follows `\b`: a name in braces, or nothing that belongs to it. -/
def readEdge? (f : Flags) (s : List Char) : Option (Primitive × List Char) :=
  match s with
  | '\x7b' :: rest =>
    match f.skip rest with
    | [] => none
    | c :: more =>
      if isEdgeChar c then
        (readEdgeName? f (more.length + 2) (c :: more)).bind fun (name, rest) =>
          (namedEdge? f.unicode name).map fun a => (.assertion a, rest)
      else some (.assertion (.wordEdge f.unicode), s)
  | _ => some (.assertion (.wordEdge f.unicode), s)

def readEscape? (f : Flags) : List Char → Option (Primitive × List Char)
  | [] => none
  | c :: rest =>
    match letterSet? f.unicode c with
    | some set => some (.set set, rest)
    | none =>
      if isEscapable c then some (.char c false, rest)
      else
        match letterEscapes.lookup c with
        | some plain => some (.char plain false, rest)
        | none =>
          match c with
          | 'x' => readHexadecimal? f 2 rest
          | 'u' => readHexadecimal? f 4 rest
          | 'U' => readHexadecimal? f 8 rest
          | 'p' => readProperty? f false rest
          | 'P' => readProperty? f true rest
          | 'A' => some (.assertion .textStart, rest)
          | 'z' => some (.assertion .textEnd, rest)
          | 'b' => readEdge? f rest
          | 'B' => some (.assertion (.notWordEdge f.unicode), rest)
          | '<' => some (.assertion (.wordStart f.unicode), rest)
          | '>' => some (.assertion (.wordEnd f.unicode), rest)
          | _ => none

end Crosswalk.Pattern
