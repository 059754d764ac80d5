/-!
Whole numbers as written in the decimal digits `0` to `9`, and their limits in sixty-four bits.
-/

namespace Crosswalk.Text

def digit? (c : Char) : Option Nat :=
  if c.isDigit then some (c.toNat - '0'.toNat) else none

/-- The value of a hexadecimal digit, in either case. -/
def hexDigit? (c : Char) : Option Nat :=
  if c.isDigit then some (c.toNat - '0'.toNat)
  else if 'a' ≤ c ∧ c ≤ 'f' then some (c.toNat - 'a'.toNat + 10)
  else if 'A' ≤ c ∧ c ≤ 'F' then some (c.toNat - 'A'.toNat + 10)
  else none

/-- The number that digits continue in a base, or nothing when a character is not a digit. -/
def digitsFrom (base : Nat) (digit : Char → Option Nat) : Nat → List Char → Option Nat
  | value, [] => some value
  | value, c :: rest =>
    match digit c with
    | some d => digitsFrom base digit (value * base + d) rest
    | none => none

/-- The number that one or more decimal digits write. -/
def natural? (s : List Char) : Option Nat :=
  if s.isEmpty then none else digitsFrom 10 digit? 0 s

/-- The number that one or more hexadecimal digits write. -/
def hexadecimal? (s : List Char) : Option Nat :=
  if s.isEmpty then none else digitsFrom 16 hexDigit? 0 s

/-- The least number that needs more than sixty-four bits. -/
def wordLimit : Nat := 0x10000000000000000

def signedMax : Int := 0x7fffffffffffffff

def signedMin : Int := -0x8000000000000000

/-- Reads an unsigned number of sixty-four bits: digits after at most one plus sign. -/
def unsigned? (s : List Char) : Option Nat :=
  let digits :=
    match s with
    | '+' :: rest => rest
    | _ => s
  (natural? digits).filter (· < wordLimit)

/-- Reads a signed number of sixty-four bits: digits after at most one sign. -/
def signed? (s : List Char) : Option Int :=
  let value : Option Int :=
    match s with
    | '+' :: rest => (natural? rest).map Int.ofNat
    | '-' :: rest => (natural? rest).map fun n => -Int.ofNat n
    | _ => (natural? s).map Int.ofNat
  value.filter fun i => decide (signedMin ≤ i ∧ i ≤ signedMax)

/-- The decimal digits of a number, without leading zeros. -/
def ofNat (n : Nat) : List Char :=
  Nat.toDigits 10 n

/-- The decimal digits of a number after its sign, which only a negative number has. -/
def ofInt (i : Int) : List Char :=
  if i < 0 then '-' :: ofNat i.natAbs else ofNat i.natAbs

/-- The decimal digits of a number, filled up with zeros from the left. -/
def ofNatPadded (width n : Nat) : List Char :=
  let digits := ofNat n
  List.replicate (width - digits.length) '0' ++ digits

/-- The digit of a number below sixteen, in lower case. -/
def hexLower (n : Nat) : Char :=
  if n < 10 then Char.ofNat ('0'.toNat + n) else Char.ofNat ('a'.toNat + n - 10)

/-- The digit of a number below sixteen, in upper case. -/
def hexUpper (n : Nat) : Char :=
  if n < 10 then Char.ofNat ('0'.toNat + n) else Char.ofNat ('A'.toNat + n - 10)

end Crosswalk.Text
