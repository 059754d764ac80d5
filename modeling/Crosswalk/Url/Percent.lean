import Crosswalk.Text.Numeral

/-!
Percent encoding of the UTF-8 bytes of a text.

A byte is written as itself when it is harmless, and otherwise as a percent sign with two
hexadecimal digits in upper case. In the raw form a space is such a triplet and a tilde stands as
it is; in the form of HTML forms a space is a plus sign and a tilde a triplet.
-/

namespace Crosswalk.Url.Percent

def bytes (s : List Char) : List UInt8 :=
  s.flatMap String.utf8EncodeChar

def triplet (b : UInt8) : List Char :=
  ['%', Text.hexUpper (b.toNat / 16), Text.hexUpper (b.toNat % 16)]

/-- Whether a byte is a letter, a digit or one of `*`, `-`, `.` and `_`. -/
def isHarmless (b : UInt8) : Bool :=
  let c := Char.ofNat b.toNat
  b < 128 && (c.isAlpha || c.isDigit || c == '*' || c == '-' || c == '.' || c == '_')

def rawByte (b : UInt8) : List Char :=
  let c := Char.ofNat b.toNat
  if isHarmless b || c == '~' then [c] else triplet b

def formByte (b : UInt8) : List Char :=
  let c := Char.ofNat b.toNat
  if isHarmless b then [c] else if c == ' ' then ['+'] else triplet b

def raw (s : List Char) : List Char :=
  (bytes s).flatMap rawByte

def form (s : List Char) : List Char :=
  (bytes s).flatMap formByte

/-- Writes as triplets the characters that `isEscaped` accepts and all beyond ASCII. -/
def escape (isEscaped : Char → Bool) (s : List Char) : List Char :=
  (bytes s).flatMap fun b =>
    let c := Char.ofNat b.toNat
    if b < 128 && !isEscaped c then [c] else triplet b

/-- The byte that a triplet stands for, given its digits. -/
def byteOf? (high low : Char) : Option UInt8 :=
  match Text.hexDigit? high, Text.hexDigit? low with
  | some h, some l => some (UInt8.ofNat (h * 16 + l))
  | _, _ => none

/-- The bytes that a text stands for; a percent sign that begins no triplet stands for itself. -/
def decode : List Char → List UInt8
  | [] => []
  | '%' :: high :: low :: rest =>
    match byteOf? high low with
    | some b => b :: decode rest
    | none => String.utf8EncodeChar '%' ++ decode (high :: low :: rest)
  | c :: rest => String.utf8EncodeChar c ++ decode rest

end Crosswalk.Url.Percent
