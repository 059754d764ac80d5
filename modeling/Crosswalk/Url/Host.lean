import Crosswalk.Text.Basic
import Crosswalk.Text.Numeral
import Crosswalk.Unicode.Case
import Crosswalk.Url.Percent
import Crosswalk.Url.Punycode

/-!
Hosts of addresses.

The name of a host is written in ASCII: letters in lower case, and every label with other
characters in its Punycode form. A name that ends in a number has to be an address of four bytes,
and one in brackets an address of eight pieces.
-/

namespace Crosswalk.Url

/-- What is wrong with an address. -/
inductive Error where
  | noScheme
  | emptyHost
  | invalidDomain
  | invalidEndpoint
  | invalidIpv4
  | invalidIpv6
deriving DecidableEq, Inhabited

def Error.message : Error → String
  | .noScheme => "relative URL without a base"
  | .emptyHost => "empty host"
  | .invalidDomain => "invalid international domain name"
  | .invalidEndpoint => "invalid port number"
  | .invalidIpv4 => "invalid IPv4 address"
  | .invalidIpv6 => "invalid IPv6 address"

/-! ### Addresses of four bytes

An address is written as one to four numbers with dots between them, of which the last fills all
bytes that are left. A number is hexadecimal after `0x`, octal after `0` and else decimal. -/

namespace Ipv4

def octalDigit? (c : Char) : Option Nat :=
  if '0' ≤ c ∧ c ≤ '7' then some (c.toNat - '0'.toNat) else none

/-- The number that a part writes. Nothing after `0x` is zero. -/
def readPart? : List Char → Option Nat
  | [] => none
  | ['0'] => some 0
  | '0' :: 'x' :: digits => Text.digitsFrom 16 Text.hexDigit? 0 digits
  | '0' :: 'X' :: digits => Text.digitsFrom 16 Text.hexDigit? 0 digits
  | '0' :: digits => Text.digitsFrom 8 octalDigit? 0 digits
  | digits => Text.digitsFrom 10 Text.digit? 0 digits

/-- The parts of a host, without the empty one behind a dot at the end. -/
def partsOf (host : List Char) : List (List Char) :=
  let parts := Text.pieces (· == '.') host
  if parts.length > 1 ∧ parts.getLast? = some [] then parts.dropLast else parts

/-- Whether the last part of a host is a number, so that the host can only be an address. -/
def endsInNumber (host : List Char) : Bool :=
  match (partsOf host).getLast? with
  | some last => (!last.isEmpty && last.all Char.isDigit) || (readPart? last).isSome
  | none => false

/-- The address whose leading bytes are given, with the last number filling the rest. -/
def combine? : List Nat → Nat → Nat → Option Nat
  | [], free, last => if last < Nat.pow 256 free then some last else none
  | byte :: more, free, last =>
    if byte < 256 then
      (combine? more (free - 1) last).map fun rest => byte * Nat.pow 256 (free - 1) + rest
    else none

def read? (host : List Char) : Option Nat := do
  let parts := partsOf host
  if parts.length > 4 then none
  else
    let numbers ← parts.mapM readPart?
    let last ← numbers.getLast?
    combine? numbers.dropLast 4 last

/-- Writes the four bytes of an address with dots between them. -/
def write (address : Nat) : List Char :=
  Text.join ['.']
    ([0x1000000, 0x10000, 0x100, 1].map fun unit => Text.ofNat (address / unit % 256))

end Ipv4

/-! ### Addresses of eight pieces of sixteen bits

Pieces are hexadecimal and stand between colons. Two colons in a row stand for one or more pieces
that are zero, and the last two pieces may be written as four decimal bytes. -/

namespace Ipv6

/-- The pieces read so far. `gap` tells behind how many of them the pieces that two colons leave out
are put in. -/
structure Reading where
  pieces : List Nat
  gap : Option Nat

/-- A decimal byte without leading zeros. -/
def readByte? (s : List Char) : Option Nat :=
  match s with
  | '0' :: _ :: _ => none
  | _ => (Text.natural? s).filter (· < 256)

def readBytes? (s : List Char) : Option (List Nat) :=
  match (Text.pieces (· == '.') s).mapM readByte? with
  | some [a, b, c, d] => some [a * 256 + b, c * 256 + d]
  | _ => none

/-- The eight pieces of an address that is read to its end. -/
def Reading.finish? (r : Reading) : Option (List Nat) :=
  match r.gap with
  | some gap =>
    if r.pieces.length ≤ 8 then
      some (r.pieces.take gap ++ List.replicate (8 - r.pieces.length) 0 ++ r.pieces.drop gap)
    else none
  | none => if r.pieces.length = 8 then some r.pieces else none

/-- Reads on where a piece or a second colon may stand. -/
def Reading.run? : Nat → Reading → List Char → Option (List Nat)
  | _, r, [] => r.finish?
  | 0, _, _ => none
  | fuel + 1, r, c :: rest =>
    if r.pieces.length = 8 then none
    else if c == ':' then
      if r.gap.isSome then none
      else run? fuel ⟨r.pieces ++ [0], some (r.pieces.length + 1)⟩ rest
    else
      let digits := ((c :: rest).take 4).takeWhile fun c => (Text.hexDigit? c).isSome
      let piece := (Text.digitsFrom 16 Text.hexDigit? 0 digits).getD 0
      match (c :: rest).drop digits.length with
      | [] => run? fuel { r with pieces := r.pieces ++ [piece] } []
      | ':' :: after =>
        if after.isEmpty then none
        else run? fuel { r with pieces := r.pieces ++ [piece] } after
      | '.' :: _ =>
        if digits.isEmpty ∨ r.pieces.length > 6 then none
        else
          (readBytes? (c :: rest)).bind fun pair =>
            { r with pieces := r.pieces ++ pair : Reading }.finish?
      | _ => none

def read? (s : List Char) : Option (List Nat) :=
  match s with
  | ':' :: ':' :: rest => Reading.run? (rest.length + 1) ⟨[0], some 1⟩ rest
  | ':' :: _ => none
  | [_] => none
  | s => Reading.run? (s.length + 1) ⟨[], none⟩ s

/-- A run of zeros by its start and its length. -/
structure ZeroRun where
  start : Nat
  length : Nat

/-- The longest run of zeros from an index on, the first of equally long ones. `here` is the run
that ends before the index. -/
def longestZeros (best here : ZeroRun) (index : Nat) : List Nat → ZeroRun
  | [] => if best.length < here.length then here else best
  | piece :: rest =>
    let best := if best.length < here.length then here else best
    if piece = 0 then
      let start := if here.length = 0 then index else here.start
      longestZeros best ⟨start, here.length + 1⟩ (index + 1) rest
    else longestZeros best ⟨0, 0⟩ (index + 1) rest

/-- The hexadecimal digits of a piece, without leading zeros. -/
def writePiece (n : Nat) : List Char :=
  Nat.toDigits 16 n

def writePieces (pieces : List Nat) : List Char :=
  Text.join [':'] (pieces.map writePiece)

/-- Writes an address, with two colons for its longest run of two or more zeros. -/
def write (pieces : List Nat) : List Char :=
  let run := longestZeros ⟨0, 0⟩ ⟨0, 0⟩ 0 pieces
  if run.length < 2 then writePieces pieces
  else
    writePieces (pieces.take run.start) ++ [':', ':'] ++
      writePieces (pieces.drop (run.start + run.length))

end Ipv6

/-! ### Names -/

/-- A host by its name or its address. -/
inductive Host where
  | domain (name : List Char)
  | ipv4 (address : Nat)
  | ipv6 (pieces : List Nat)
deriving DecidableEq, Inhabited

namespace Host

/-- The mark in front of a label in its Punycode form. -/
def punycodeMark : List Char := ['x', 'n', '-', '-']

/-- The full stops that separate labels. -/
def isFullStop (c : Char) : Bool :=
  c == '.' || c == '\u3002' || c == '\uFF0E' || c == '\uFF61'

/-- The characters that count for nothing in a name. -/
def isIgnored (c : Char) : Bool :=
  let n := c.toNat
  n == 0xAD || n == 0x34F || n == 0x200B || n == 0xFEFF || (0x2060 ≤ n && n ≤ 0x2064) ||
    (0x180B ≤ n && n ≤ 0x180F) || (0xFE00 ≤ n && n ≤ 0xFE0F)

/-- The form of a character in names: small letters, and ASCII for its wide forms. -/
def mapChar (c : Char) : List Char :=
  if isFullStop c then ['.']
  else if isIgnored c then []
  else if 0xFF01 ≤ c.toNat ∧ c.toNat ≤ 0xFF5E then [(Char.ofNat (c.toNat - 0xFEE0)).toLower]
  else Unicode.lowerChar c

/-- The ASCII characters that no name holds. -/
def isReserved (c : Char) : Bool :=
  c.toNat ≤ 0x20 || c.toNat == 0x7F || "%#/:<>?@[\\]^|".toList.contains c

/-- Whether a character may stand in a name. Blanks, controls, private characters and those that
stand for no character may not. -/
def isAllowed (c : Char) : Bool :=
  let n := c.toNat
  if n < 128 then !isReserved c
  else
    !(Text.isBlank c || n < 0xA0 || (0xE000 ≤ n && n ≤ 0xF8FF) || (0xFDD0 ≤ n && n ≤ 0xFDEF) ||
      n == 0xFFFD || n % 0x10000 ≥ 0xFFFE || 0xE0000 ≤ n)

/-- Whether a label in Punycode form stands for one that has to be written so. -/
def isPunycode (digits : List Char) : Bool :=
  match Punycode.decode? digits with
  | some label =>
    label.any (128 ≤ ·.toNat) && label.all isAllowed && label.flatMap mapChar == label
  | none => false

def asciiLabel? (label : List Char) : Option (List Char) :=
  if label.all (·.toNat < 128) then
    match Text.stripLead? punycodeMark label with
    | some digits => if isPunycode digits then some label else none
    | none => some label
  else if Text.beginsWith punycodeMark label then none
  else some (punycodeMark ++ Punycode.encode label)

def asciiName? (name : List Char) : Option (List Char) :=
  let mapped := name.flatMap mapChar
  if mapped.all isAllowed then
    ((Text.pieces (· == '.') mapped).mapM asciiLabel?).map (Text.join ['.'])
  else none

/-- The text that triplets and other characters of a host stand for. -/
def decodeName? (s : List Char) : Option (List Char) :=
  (String.fromUTF8? ⟨(Percent.decode s).toArray⟩).map String.toList

/-- Reads a host that is a name or an address of four bytes. -/
def readName (s : List Char) : Except Error Host :=
  match (decodeName? s).bind asciiName? with
  | none => .error .invalidDomain
  | some [] => .error .emptyHost
  | some name =>
    if Ipv4.endsInNumber name then
      match Ipv4.read? name with
      | some address => .ok (.ipv4 address)
      | none => .error .invalidIpv4
    else .ok (.domain name)

/-- Reads a host. One in square brackets is an address of eight pieces. -/
def read (s : List Char) : Except Error Host :=
  match s with
  | [] => .error .emptyHost
  | '[' :: rest =>
    if rest.getLast? = some ']' then
      match Ipv6.read? rest.dropLast with
      | some pieces => .ok (.ipv6 pieces)
      | none => .error .invalidIpv6
    else .error .invalidIpv6
  | s => readName s

def write : Host → List Char
  | .domain name => name
  | .ipv4 address => Ipv4.write address
  | .ipv6 pieces => '[' :: Ipv6.write pieces ++ [']']

end Host

end Crosswalk.Url
