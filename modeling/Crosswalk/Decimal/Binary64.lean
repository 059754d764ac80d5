/-!
Finite numbers of the binary64 format, held exactly.

A number is a sign and a magnitude `mantissa * 2 ^ exponent`. Rounding goes to the nearest number
of the format and, from the middle, to the even mantissa; everything is computed in whole numbers.
-/

namespace Crosswalk.Decimal

/-- A finite binary64 number. The exponent is at least -1074, and the mantissa has fifty-three
bits unless the exponent is -1074. -/
structure Binary64 where
  negative : Bool
  mantissa : Nat
  exponent : Int
deriving DecidableEq, Inhabited

/-- The least mantissa of fifty-three bits. -/
def leadingBit : Nat := 0x10000000000000

def minExponent : Int := -1074

def maxExponent : Int := 971

/-- A quotient rounded to the nearest whole number, a half to the even one. -/
def roundHalfEven (num den : Nat) : Nat :=
  let floor := num / den
  let rest := num % den
  if 2 * rest < den then floor
  else if den < 2 * rest then floor + 1
  else floor + floor % 2

def shiftedFraction (num den : Nat) (shift : Int) : Nat × Nat :=
  if 0 ≤ shift then (num, den * Nat.pow 2 shift.toNat) else (num * Nat.pow 2 (-shift).toNat, den)

/-- The greatest power of two that is at most a positive fraction, as its exponent. -/
def binaryOrder (num den : Nat) : Int :=
  let guess := (Nat.log2 num : Int) - Nat.log2 den
  let (n, d) := shiftedFraction num den guess
  if d ≤ n then guess else guess - 1

/-- The mantissa and exponent nearest to a fraction, or nothing when the format has none so
great. -/
def roundFraction (num den : Nat) : Option (Nat × Int) :=
  if num = 0 then some (0, minExponent)
  else
    let exponent := max (binaryOrder num den - 52) minExponent
    let (n, d) := shiftedFraction num den exponent
    let mantissa := roundHalfEven n d
    let (mantissa, exponent) :=
      if mantissa = 2 * leadingBit then (leadingBit, exponent + 1) else (mantissa, exponent)
    if exponent ≤ maxExponent then some (mantissa, exponent) else none

namespace Binary64

def zero (negative : Bool) : Binary64 := ⟨negative, 0, minExponent⟩

/-- The number nearest to `digits * 10 ^ exponent`, or nothing when the format has none so great. -/
def ofDecimal? (negative : Bool) (digits : Nat) (exponent : Int) : Option Binary64 :=
  let order : Int := exponent + (Nat.toDigits 10 digits).length
  if digits = 0 ∨ order < -340 then some (zero negative)
  else if 320 < order then none
  else
    let rounded :=
      if 0 ≤ exponent then roundFraction (digits * Nat.pow 10 exponent.toNat) 1
      else roundFraction digits (Nat.pow 10 (-exponent).toNat)
    rounded.map fun (mantissa, exponent) => ⟨negative, mantissa, exponent⟩

def magnitude (x : Binary64) : Binary64 := { x with negative := false }

def isZero (x : Binary64) : Bool := x.mantissa == 0

/-- The magnitude of a number, as a fraction. -/
def toFraction (x : Binary64) : Nat × Nat :=
  shiftedFraction x.mantissa 1 (-x.exponent)

def isOne (x : Binary64) : Bool :=
  let (num, den) := x.toFraction
  !x.negative && num == den

/-- The number nearest to a product, or nothing when the format has none so great. -/
def mul? (x y : Binary64) : Option Binary64 :=
  let (a, b) := x.toFraction
  let (c, d) := y.toFraction
  (roundFraction (a * c) (b * d)).map fun (mantissa, exponent) =>
    ⟨x.negative != y.negative, mantissa, exponent⟩

/-- The number nearest to a quotient by a number other than zero, or nothing when the format has
none so great. -/
def div? (x y : Binary64) : Option Binary64 :=
  let (a, b) := x.toFraction
  let (c, d) := y.toFraction
  (roundFraction (a * d) (b * c)).map fun (mantissa, exponent) =>
    ⟨x.negative != y.negative, mantissa, exponent⟩

end Binary64

end Crosswalk.Decimal
