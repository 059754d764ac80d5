import Crosswalk.Decimal.Binary64
import Crosswalk.Text.Numeral

/-!
The shortest decimal that reads back as a given binary64 number.

The reals that round to the number form an interval, whose ends belong to it when the mantissa is
even. On the grid of all decimals with one, two, … seventeen digits the two neighbours of the
number are tried; the first grid with a hit wins, of two hits the nearer, from the middle the even.
-/

namespace Crosswalk.Decimal

/-- A decimal `0.d₁d₂d₃… * 10 ^ point`, given by its digits. -/
structure DecimalDigits where
  digits : List Char
  point : Int
deriving DecidableEq

/-- The interval of the reals that round to a positive number, in quarters of its last place:
`low / unit`, `value / unit` and `high / unit`, with the ends included or not. -/
structure RoundingInterval where
  low : Nat
  value : Nat
  high : Nat
  unit : Nat
  closed : Bool

/-- The interval around `mantissa * 2 ^ exponent`; it is narrower below a power of two. -/
def RoundingInterval.around (mantissa : Nat) (exponent : Int) : RoundingInterval :=
  let below := if mantissa = leadingBit ∧ minExponent < exponent then 1 else 2
  let (scale, unit) := shiftedFraction 1 1 (2 - exponent)
  { low := (4 * mantissa - below) * scale
    value := 4 * mantissa * scale
    high := (4 * mantissa + 2) * scale
    unit := unit
    closed := mantissa % 2 == 0 }

/-- The number of digits before the point of a positive fraction; zero or less for one below a
tenth. -/
def decimalOrder (num den : Nat) : Int :=
  if den ≤ num then (Nat.toDigits 10 (num / den)).length
  else 1 - ((Nat.toDigits 10 ((den + num - 1) / num - 1)).length : Int)

/-- Whether `digit * 10 ^ grid` lies in the interval. -/
def RoundingInterval.holds (i : RoundingInterval) (digit : Nat) (grid : Int) : Bool :=
  let left := if 0 ≤ grid then digit * Nat.pow 10 grid.toNat * i.unit else digit * i.unit
  let factor := if 0 ≤ grid then 1 else Nat.pow 10 (-grid).toNat
  if i.closed then i.low * factor ≤ left && left ≤ i.high * factor
  else i.low * factor < left && left < i.high * factor

/-- The decimal with a given number of digits that lies in the interval and nearest to the value. -/
def RoundingInterval.onGrid? (i : RoundingInterval) (grid : Int) : Option Nat :=
  let num := if 0 ≤ grid then i.value else i.value * Nat.pow 10 (-grid).toNat
  let den := if 0 ≤ grid then i.unit * Nat.pow 10 grid.toNat else i.unit
  let floor := num / den
  let nearest := roundHalfEven num den
  let other := if nearest = floor then floor + 1 else floor
  if i.holds nearest grid then some nearest
  else if i.holds other grid then some other
  else none

/-- Tries the grids with `tried + 1`, `tried + 2`, … digits. -/
def RoundingInterval.search (i : RoundingInterval) (order : Int) : Nat → Nat → Nat × Int
  | 0, tried => (i.value * Nat.pow 10 (tried - order).toNat / i.unit, order - tried)
  | left + 1, tried =>
    let grid := order - (tried + 1)
    match i.onGrid? grid with
    | some digit => (digit, grid)
    | none => i.search order left (tried + 1)

def dropTrailingZeros (digits : List Char) : List Char :=
  (digits.reverse.dropWhile (· == '0')).reverse

/-- The shortest decimal that rounds to a number's magnitude; no digits for zero. -/
def Binary64.shortest (x : Binary64) : DecimalDigits :=
  if x.mantissa = 0 then ⟨[], 0⟩
  else
    let interval := RoundingInterval.around x.mantissa x.exponent
    let order := decimalOrder interval.value interval.unit
    let (digit, grid) := interval.search order 17 0
    let digits := Text.ofNat digit
    ⟨dropTrailingZeros digits, grid + digits.length⟩

/-- The digits before and after the point when a decimal is written without an exponent; there is
always one before it. -/
def DecimalDigits.positional (d : DecimalDigits) : List Char × List Char :=
  if d.point ≤ 0 then (['0'], List.replicate (-d.point).toNat '0' ++ d.digits)
  else
    let n := d.point.toNat
    (d.digits.take n ++ List.replicate (n - d.digits.length) '0', d.digits.drop n)

/-- Writes a number without an exponent and without a needless point. -/
def Binary64.plain (x : Binary64) : List Char :=
  let sign := if x.negative then ['-'] else []
  let (whole, fraction) := x.shortest.positional
  sign ++ if fraction.isEmpty then whole else whole ++ '.' :: fraction

/-- Writes a number so that it shows as a fraction: with a point in the range from 10⁻⁵ up to
10¹⁶, and with an exponent and its sign outside that range. -/
def Binary64.literal (x : Binary64) : List Char :=
  let sign := if x.negative then ['-'] else []
  let d := x.shortest
  let exponent := d.point - 1
  if d.digits.isEmpty then sign ++ ['0', '.', '0']
  else if -5 ≤ exponent ∧ exponent < 16 then
    let (whole, fraction) := d.positional
    sign ++ whole ++ '.' :: (if fraction.isEmpty then ['0'] else fraction)
  else
    let mantissa :=
      match d.digits with
      | [] => ['0']
      | [digit] => [digit]
      | digit :: more => digit :: '.' :: more
    let mark := if exponent < 0 then '-' else '+'
    sign ++ mantissa ++ 'e' :: mark :: Text.ofNat exponent.natAbs

end Crosswalk.Decimal
