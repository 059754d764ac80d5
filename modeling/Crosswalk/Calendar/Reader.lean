import Crosswalk.Calendar.Date
import Crosswalk.Text.Basic
import Crosswalk.Text.Numeral

/-!
Reading a moment from a text.

The forms are tried in order: a date and time with an offset, a date and time without one, a date
alone, four digits as a year, and a number of seconds since 1970.
-/

namespace Crosswalk.Calendar

/-- What is read at the front of a text, and what is left. -/
abbrev Scan (α : Type) := List Char → Option (α × List Char)

namespace Scan

/-- A number of at least `low` and at most `high` digits. -/
def digits (low high : Nat) : Scan Nat := fun s =>
  let front := (s.take high).takeWhile Char.isDigit
  if front.length < low ∨ front.isEmpty then none
  else (Text.natural? front).map (·, s.drop front.length)

def char (mark : Char) : Scan Unit := fun s =>
  match s with
  | c :: rest => if c == mark then some ((), rest) else none
  | [] => none

def oneOf (marks : List Char) : Scan Char := fun s =>
  match s with
  | c :: rest => if marks.contains c then some (c, rest) else none
  | [] => none

/-- A number of any size after a sign, or one of up to four digits without; blanks may stand before
it. -/
def year : Scan Int := fun s =>
  match Text.trimStart s with
  | '-' :: rest => (digits 1 rest.length rest).map fun (n, rest) => (-(n : Int), rest)
  | '+' :: rest => (digits 1 rest.length rest).map fun (n, rest) => ((n : Int), rest)
  | s => (digits 1 4 s).map fun (n, rest) => ((n : Int), rest)

/-- A number of one or two digits; blanks may stand before it. -/
def pair : Scan Nat := fun s => digits 1 2 (Text.trimStart s)

/-- The seconds between a local time and universal time: `Z`, or a sign, hours and minutes. -/
def offset : Scan Int := fun s => do
  match s with
  | 'Z' :: rest => some (0, rest)
  | 'z' :: rest => some (0, rest)
  | sign :: rest =>
    let negative ←
      if sign == '+' then some false else if sign == '-' ∨ sign == '−' then some true else none
    let (hours, rest) ← digits 2 2 rest
    let ((), rest) ← char ':' rest
    let (minutes, rest) ← digits 2 2 rest
    if 59 < minutes ∨ 23 < hours then none
    else
      let seconds : Int := hours * 3600 + minutes * 60
      some (if negative then -seconds else seconds, rest)
  | [] => none

/-- Digits after a point, which add nothing to whole seconds. -/
def fraction : Scan Unit := fun s =>
  match s with
  | '.' :: rest =>
    match rest with
    | c :: _ => if c.isDigit then some ((), rest.dropWhile Char.isDigit) else none
    | [] => none
  | _ => some ((), s)

end Scan

/-- What was read, if nothing is left. -/
def whole {α : Type} (read : Option (α × List Char)) : Option α :=
  match read with
  | some (value, []) => some value
  | _ => none

/-- A date and time with an offset, every number with its full count of digits. -/
def offsetMoment? (s : List Char) : Option Moment := do
  let (year, s) ← Scan.digits 4 4 s
  let ((), s) ← Scan.char '-' s
  let (month, s) ← Scan.digits 2 2 s
  let ((), s) ← Scan.char '-' s
  let (day, s) ← Scan.digits 2 2 s
  let (_, s) ← Scan.oneOf ['t', 'T', ' '] s
  let (hour, s) ← Scan.digits 2 2 s
  let ((), s) ← Scan.char ':' s
  let (minute, s) ← Scan.digits 2 2 s
  let ((), s) ← Scan.char ':' s
  let (second, s) ← Scan.digits 2 2 s
  let ((), s) ← Scan.fraction s
  let offset ← whole (Scan.offset s)
  let date ← Date.of? year month day
  let told ← Moment.of? date hour minute second
  some (told.behind offset)

def yearFirst (mark : Option Char) : Scan Date := fun s => do
  let (year, s) ← Scan.year s
  let ((), s) ← between s
  let (month, s) ← Scan.pair s
  let ((), s) ← between s
  let (day, s) ← Scan.pair s
  let date ← Date.of? year month day
  some (date, s)
where
  /-- The mark, where there is one. -/
  between : Scan Unit := fun s =>
    match mark with
    | some c => Scan.char c s
    | none => some ((), s)

def dayFirst : Scan Date := fun s => do
  let (day, s) ← Scan.pair s
  let ((), s) ← Scan.char '/' s
  let (month, s) ← Scan.pair s
  let ((), s) ← Scan.char '/' s
  let (year, s) ← Scan.year s
  let date ← Date.of? year month day
  some (date, s)

/-- Hours and minutes, and seconds if they are asked for. -/
def timeOn (withSeconds : Bool) (date : Date) : Scan Moment := fun s => do
  let (hour, s) ← Scan.pair s
  let ((), s) ← Scan.char ':' s
  let (minute, s) ← Scan.pair s
  let (second, s) ←
    if withSeconds then do
      let ((), s) ← Scan.char ':' s
      Scan.pair s
    else some (0, s)
  let moment ← Moment.of? date hour minute second
  some (moment, s)

def localMoment? (separator : Scan Unit) (withSeconds : Bool) (s : List Char) : Option Moment := do
  let (date, s) ← yearFirst (some '-') s
  let ((), s) ← separator s
  whole (timeOn withSeconds date s)

/-- Blanks, of which there may be none. -/
def blanks : Scan Unit := fun s => some ((), Text.trimStart s)

/-- A date alone stands for its beginning. -/
def dateMoment? (scan : Scan Date) (s : List Char) : Option Moment :=
  (whole (scan s)).map Moment.ofDate

/-- Four digits stand for the beginning of a year. -/
def yearMoment? (s : List Char) : Option Moment := do
  let year ← Text.natural? s
  let date ← Date.of? year 1 1
  some (.ofDate date)

/-- A number of seconds since 1970, after any number of at signs. -/
def secondsMoment? (s : List Char) : Option Moment :=
  (Text.signed? (s.dropWhile (· == '@'))).bind Moment.ofTimestamp?

def readMoment? (s : List Char) : Option Moment :=
  let spelled :=
    [offsetMoment?, localMoment? blanks true, localMoment? (Scan.char 'T') true,
      localMoment? blanks false, dateMoment? (yearFirst (some '-')), dateMoment? dayFirst,
      dateMoment? (yearFirst none)].findSome? fun form => form s
  match spelled with
  | some moment => some moment
  | none =>
    if s.isEmpty then none
    else if s.length = 4 ∧ s.all Char.isDigit then yearMoment? s
    else if s.head? = some '@' ∨ s.all Char.isDigit then secondsMoment? s
    else none

end Crosswalk.Calendar
