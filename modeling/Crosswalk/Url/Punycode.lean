import Crosswalk.Text.Basic
import Crosswalk.Text.Numeral

/-!
Labels of host names beyond ASCII, written in ASCII.

The ASCII characters of a label stand first. Then every other character is inserted in the order of
the code points, each by one number that tells how many insertions of smaller code points or at
earlier places are passed over since the last one.
-/

namespace Crosswalk.Url.Punycode

def base : Nat := 36

def leastThreshold : Nat := 1

def greatestThreshold : Nat := 26

/-- The threshold of a digit at a place of a number, for a bias. -/
def threshold (place bias : Nat) : Nat :=
  min greatestThreshold (max leastThreshold (place - bias))

/-- Divides a number down until it is small; gives what is left and the steps times the base. -/
def scaleDown : Nat → Nat → Nat → Nat × Nat
  | 0, delta, k => (delta, k)
  | fuel + 1, delta, k =>
    if delta > (base - leastThreshold) * greatestThreshold / 2 then
      scaleDown fuel (delta / (base - leastThreshold)) (k + base)
    else (delta, k)

/-- The bias after an insertion, of `count` characters by then. -/
def adapt (delta count : Nat) (isFirst : Bool) : Nat :=
  let delta := if isFirst then delta / 700 else delta / 2
  let (delta, k) := scaleDown 64 (delta + delta / count) 0
  k + (base - leastThreshold + 1) * delta / (delta + 38)

/-- The digit with a value: `a` to `z`, then `0` to `9`. -/
def digitChar (n : Nat) : Char :=
  if n < 26 then Char.ofNat ('a'.toNat + n) else Char.ofNat ('0'.toNat + n - 26)

def digitValue? (c : Char) : Option Nat :=
  if 'a' ≤ c ∧ c ≤ 'z' then some (c.toNat - 'a'.toNat)
  else if 'A' ≤ c ∧ c ≤ 'Z' then some (c.toNat - 'A'.toNat)
  else if '0' ≤ c ∧ c ≤ '9' then some (c.toNat - '0'.toNat + 26)
  else none

/-- Writes a number in digits of varying weight, the least first. -/
def writeNumber : Nat → Nat → Nat → Nat → List Char
  | 0, _, _, q => [digitChar q]
  | fuel + 1, bias, place, q =>
    let t := threshold place bias
    if q < t then [digitChar q]
    else
      digitChar (t + (q - t) % (base - t)) ::
        writeNumber fuel bias (place + base) ((q - t) / (base - t))

/-- What inserting characters has come to: the digits, last first, the number passed over, the
bias, and how many characters are in place. -/
structure Writing where
  digits : List Char
  delta : Nat
  bias : Nat
  count : Nat
  isFirst : Bool

/-- Passes over a character of the label, or inserts it when it is the one at hand. -/
def Writing.visit (n : Nat) (w : Writing) (c : Char) : Writing :=
  if c.toNat < n then { w with delta := w.delta + 1 }
  else if c.toNat = n then
    { digits := (writeNumber 64 w.bias base w.delta).reverse ++ w.digits
      delta := 0
      bias := adapt w.delta (w.count + 1) w.isFirst
      count := w.count + 1
      isFirst := false }
  else w

/-- Inserts all characters with one code point, `last` being the code point before. -/
def Writing.insertAll (label : List Char) (last n : Nat) (w : Writing) : Writing :=
  let w := { w with delta := w.delta + (n - last) * (w.count + 1) }
  label.foldl (Writing.visit n) w

/-- Inserts the characters of ascending code points, the first of which comes after `n`. -/
def Writing.run (label : List Char) : Nat → List Nat → Writing → Writing
  | _, [], w => w
  | n, m :: rest, w =>
    let done := w.insertAll label n m
    Writing.run label (m + 1) rest { done with delta := done.delta + 1 }

def encode (label : List Char) : List Char :=
  let plain := label.filter (·.toNat < 128)
  let others := (label.filter (128 ≤ ·.toNat)).map Char.toNat
  let codes := (others.mergeSort (· ≤ ·)).eraseDups
  let start : Writing := ⟨[], 0, 72, plain.length, true⟩
  (if plain.isEmpty then [] else plain ++ ['-']) ++
    (Writing.run label 128 codes start).digits.reverse

/-- Reads a number in digits of varying weight, and gives what is left. -/
def readNumber? (bias : Nat) : Nat → Nat → Nat → List Char → Option (Nat × List Char)
  | _, _, _, [] => none
  | place, value, weight, c :: rest =>
    match digitValue? c with
    | none => none
    | some digit =>
      let t := threshold place bias
      let value := value + digit * weight
      if digit < t then some (value, rest)
      else readNumber? bias (place + base) value (weight * (base - t)) rest

def decodeFrom? : Nat → List Char → Nat → Nat → Nat → Bool → List Char → Option (List Char)
  | _, label, _, _, _, _, [] => some label
  | 0, _, _, _, _, _, _ => none
  | fuel + 1, label, n, index, bias, isFirst, s => do
    let (delta, rest) ← readNumber? bias base 0 1 s
    let count := label.length + 1
    let position := index + delta
    let n := n + position / count
    let index := position % count
    if n.isValidChar then
      let label := label.take index ++ Char.ofNat n :: label.drop index
      decodeFrom? fuel label n (index + 1) (adapt delta count isFirst) false rest
    else none

def decode? (s : List Char) : Option (List Char) :=
  let (plain, digits) := (Text.cutAtLast '-' s).getD ([], s)
  if plain.all (·.toNat < 128) then
    decodeFrom? (digits.length + 1) plain 128 0 72 true digits
  else none

end Crosswalk.Url.Punycode
