import Crosswalk.Json.Basic
import Crosswalk.Decimal.Numeral

/-!
Numbers of JSON text.

A number without a fraction or an exponent that fits sixty-four bits is held exactly. Any other is
of the binary64 format, and need not be the one nearest to what is written: of its digits those
that fit sixty-four bits are kept, and their value, rounded to the format, is multiplied with a
power of ten or divided by one, which rounds again.
-/

namespace Crosswalk.Json

open Decimal (Binary64)

def isNumberPart (c : Char) : Bool :=
  c.isDigit || c == '-' || c == '+' || c == '.' || c == 'e' || c == 'E'

/-- Reads the digits and the exponent of a number without its sign: no leading zero, and digits on
both sides of a point. -/
def unsignedNumber? (s : List Char) : Option Decimal.Numeral :=
  match s with
  | '0' :: c :: _ => if c.isDigit then none else bothSides s
  | '.' :: _ => none
  | _ => bothSides s
where
  /-- Refuses a point with no digit after it. -/
  bothSides (s : List Char) : Option Decimal.Numeral :=
    (Decimal.Numeral.read? s).filter fun n => n.fraction != 0 || !s.contains '.'

/-- Takes the minus sign off a number; tells whether there was one. -/
def splitSign : List Char → Bool × List Char
  | '-' :: rest => (true, rest)
  | s => (false, s)

/-- The digits of a number that are kept, as their value and the power of ten it is taken with. -/
structure Significand where
  value : Nat
  exponent : Int
deriving DecidableEq

namespace Significand

/-- A number with one more digit at its end. -/
def appendDigit (value : Nat) (c : Char) : Nat := value * 10 + (c.toNat - '0'.toNat)

/-- Takes the digits before the point. From the first that does not fit on, each stands for a
zero. -/
def takeWhole (value : Nat) : List Char → Significand
  | [] => ⟨value, 0⟩
  | c :: rest =>
    if appendDigit value c < Text.wordLimit then takeWhole (appendDigit value c) rest
    else ⟨value, rest.length + 1⟩

/-- Takes the digits after the point, up to the first that does not fit. -/
def takeFraction (s : Significand) : List Char → Significand
  | [] => s
  | c :: rest =>
    if appendDigit s.value c < Text.wordLimit then
      takeFraction ⟨appendDigit s.value c, s.exponent - 1⟩ rest
    else s

/-- The digits of a numeral that are kept, with the power of ten that its exponent makes. -/
def ofNumeral (n : Decimal.Numeral) : Significand :=
  let whole := n.digits.length - n.fraction
  let s := takeFraction (takeWhole 0 (n.digits.take whole)) (n.digits.drop whole)
  { s with exponent := s.exponent + n.exponent }

theorem takeWhole_value_lt {value : Nat} (h : value < Text.wordLimit) (digits : List Char) :
    (takeWhole value digits).value < Text.wordLimit := by
  fun_induction takeWhole value digits with
  | case1 => exact h
  | case2 value c rest hfits ih => exact ih hfits
  | case3 => exact h

theorem takeFraction_value_lt {s : Significand} (h : s.value < Text.wordLimit)
    (digits : List Char) : (takeFraction s digits).value < Text.wordLimit := by
  fun_induction takeFraction s digits with
  | case1 => exact h
  | case2 s c rest hfits ih => exact ih hfits
  | case3 => exact h

/-- What is kept of a number fits sixty-four bits, however many digits it has. -/
theorem ofNumeral_value_lt (n : Decimal.Numeral) : (ofNumeral n).value < Text.wordLimit :=
  takeFraction_value_lt (takeWhole_value_lt (by decide) _) _

end Significand

/-- `x * 10 ^ exponent`. A power of ten beyond the format is divided by in steps, and not
multiplied with. -/
def timesPowerOfTen? (x : Binary64) (exponent : Int) : Option Binary64 :=
  match Binary64.ofDecimal? false 1 exponent.natAbs with
  | some power => if 0 ≤ exponent then x.mul? power else x.div? power
  | none =>
    if x.isZero then some x
    else if 0 ≤ exponent then none
    else do
      let greatest ← Binary64.ofDecimal? false 1 308
      let quotient ← x.div? greatest
      timesPowerOfTen? quotient (exponent + 308)
termination_by (-exponent).toNat

/-- The number of the format that a numeral is read as, or nothing when that is too great. -/
def toBinary64? (negative : Bool) (n : Decimal.Numeral) : Option Binary64 := do
  let s := Significand.ofNumeral n
  let value ← Binary64.ofDecimal? false s.value 0
  let x ← timesPowerOfTen? value s.exponent
  some { x with negative }

/-- Reads a number after at most one minus sign. -/
def number? (s : List Char) : Option Number :=
  let (negative, digits) := splitSign s
  (unsignedNumber? digits).bind fun numeral =>
    let whole : Option Int :=
      if digits.all Char.isDigit then
        let value := (Text.natural? digits).getD 0
        if negative then
          if 0 < value ∧ value ≤ 0x8000000000000000 then some (-(value : Int)) else none
        else if value < Text.wordLimit then some value else none
      else none
    match whole with
    | some i => some (.whole i)
    | none => (toBinary64? negative numeral).map .fraction

end Crosswalk.Json
