import Crosswalk.Decimal.Binary64
import Crosswalk.Text.Numeral

/-!
Decimal numerals with a fraction and an exponent, and the words for what is no finite number.
-/

namespace Crosswalk.Decimal

/-- The parts of an unsigned decimal numeral: all its digits, how many of them stand after the
point, and the exponent. -/
structure Numeral where
  digits : List Char
  fraction : Nat
  exponent : Int
deriving DecidableEq

/-- Reads an exponent: digits after at most one sign. -/
def exponent? (s : List Char) : Option Int :=
  match s with
  | '+' :: rest => (Text.natural? rest).map Int.ofNat
  | '-' :: rest => (Text.natural? rest).map fun n => -Int.ofNat n
  | _ => (Text.natural? s).map Int.ofNat

/-- Splits an optional exponent, marked by `e` or `E`, from what stands before it. -/
def splitExponent (s : List Char) : Option (List Char × Int) :=
  let mantissa := s.takeWhile fun c => c != 'e' && c != 'E'
  match s.dropWhile fun c => c != 'e' && c != 'E' with
  | [] => some (mantissa, 0)
  | _ :: rest => (exponent? rest).map (mantissa, ·)

/-- Reads a numeral with digits on at least one side of the point. -/
def Numeral.read? (s : List Char) : Option Numeral := do
  let (mantissa, exponent) ← splitExponent s
  let whole := mantissa.takeWhile Char.isDigit
  let fraction ←
    match mantissa.dropWhile Char.isDigit with
    | [] => some []
    | '.' :: rest => if rest.all Char.isDigit then some rest else none
    | _ => none
  if (whole ++ fraction).isEmpty then none
  else some ⟨whole ++ fraction, fraction.length, exponent⟩

/-- The number nearest to a signed numeral, or nothing when it is too great for the format. -/
def Numeral.toBinary64? (negative : Bool) (n : Numeral) : Option Binary64 :=
  let value := (Text.digitsFrom 10 Text.digit? 0 n.digits).getD 0
  Binary64.ofDecimal? negative value (n.exponent - n.fraction)

/-- What a text can write that stands for a number. -/
inductive Quantity where
  | finite (x : Binary64)
  | infinite (negative : Bool)
  | notANumber
deriving DecidableEq

/-- Reads a numeral with an optional sign, or one of the words `inf`, `infinity` and `nan` in any
mixture of cases. A numeral too great for the format is infinite. -/
def Quantity.read? (s : List Char) : Option Quantity :=
  let (negative, rest) :=
    match s with
    | '+' :: rest => (false, rest)
    | '-' :: rest => (true, rest)
    | _ => (false, s)
  let word := rest.map Char.toLower
  if word = "inf".toList ∨ word = "infinity".toList then some (.infinite negative)
  else if word = "nan".toList then some .notANumber
  else
    (Numeral.read? rest).map fun n =>
      match n.toBinary64? negative with
      | some x => .finite x
      | none => .infinite negative

end Crosswalk.Decimal
