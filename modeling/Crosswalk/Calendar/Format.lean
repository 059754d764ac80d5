import Crosswalk.Calendar.Date
import Crosswalk.Text.Numeral

/-!
Writing a moment by a format text.

A format is a text in which certain letters stand for parts of the moment and a backslash takes
the character after it as it is. It is first turned into a directive text, in which every part is
a percent sign with a letter, and then the directives are carried out.
-/

namespace Crosswalk.Calendar

/-- The directive that a letter of a format stands for. -/
def directiveOf? : Char → Option (List Char)
  | 'd' => some "%d".toList
  | 'D' => some "%a".toList
  | 'j' => some "%-d".toList
  | 'l' => some "%A".toList
  | 'N' => some "%u".toList
  | 'w' => some "%w".toList
  | 'z' => some "%j".toList
  | 'W' => some "%V".toList
  | 'F' => some "%B".toList
  | 'm' => some "%m".toList
  | 'M' => some "%b".toList
  | 'n' => some "%-m".toList
  | 'Y' => some "%Y".toList
  | 'y' => some "%y".toList
  | 'a' => some "%P".toList
  | 'A' => some "%p".toList
  | 'g' => some "%-I".toList
  | 'G' => some "%-H".toList
  | 'h' => some "%I".toList
  | 'H' => some "%H".toList
  | 'i' => some "%M".toList
  | 's' => some "%S".toList
  | 'U' => some "%s".toList
  | 'c' => some "%Y-%m-%dT%H:%M:%S%:z".toList
  | 'r' => some "%a, %d %b %Y %H:%M:%S %z".toList
  | _ => none

/-- A character that stands for itself, as a directive text. -/
def literalDirective (c : Char) : List Char :=
  if c == '%' then ['%', '%'] else [c]

/-- The directive text of a format. A backslash at the end stands for nothing. -/
def directives : List Char → List Char
  | [] => []
  | ['\\'] => []
  | '\\' :: c :: rest => literalDirective c ++ directives rest
  | c :: rest => (directiveOf? c).getD (literalDirective c) ++ directives rest

/-- The parts of a moment that a directive can ask for. -/
inductive Directive where
  | percent
  | day
  | dayBare
  | weekdayShort
  | weekdayLong
  | isoWeekday
  | weekday
  | dayOfYear
  | isoWeek
  | monthLong
  | month
  | monthShort
  | monthBare
  | year
  | yearShort
  | halfLower
  | halfUpper
  | hourOfHalfBare
  | hourBare
  | hourOfHalf
  | hour
  | minute
  | second
  | timestamp
  | offset
  | offsetColon
deriving DecidableEq

/-- The directive after a percent sign, and what is left. -/
def Directive.read? : List Char → Option (Directive × List Char)
  | '-' :: 'd' :: rest => some (.dayBare, rest)
  | '-' :: 'm' :: rest => some (.monthBare, rest)
  | '-' :: 'I' :: rest => some (.hourOfHalfBare, rest)
  | '-' :: 'H' :: rest => some (.hourBare, rest)
  | ':' :: 'z' :: rest => some (.offsetColon, rest)
  | '%' :: rest => some (.percent, rest)
  | 'd' :: rest => some (.day, rest)
  | 'a' :: rest => some (.weekdayShort, rest)
  | 'A' :: rest => some (.weekdayLong, rest)
  | 'u' :: rest => some (.isoWeekday, rest)
  | 'w' :: rest => some (.weekday, rest)
  | 'j' :: rest => some (.dayOfYear, rest)
  | 'V' :: rest => some (.isoWeek, rest)
  | 'B' :: rest => some (.monthLong, rest)
  | 'm' :: rest => some (.month, rest)
  | 'b' :: rest => some (.monthShort, rest)
  | 'Y' :: rest => some (.year, rest)
  | 'y' :: rest => some (.yearShort, rest)
  | 'P' :: rest => some (.halfLower, rest)
  | 'p' :: rest => some (.halfUpper, rest)
  | 'I' :: rest => some (.hourOfHalf, rest)
  | 'H' :: rest => some (.hour, rest)
  | 'M' :: rest => some (.minute, rest)
  | 'S' :: rest => some (.second, rest)
  | 's' :: rest => some (.timestamp, rest)
  | 'z' :: rest => some (.offset, rest)
  | _ => none

theorem Directive.read?_length {s rest : List Char} {d : Directive}
    (h : Directive.read? s = some (d, rest)) : rest.length < s.length := by
  unfold Directive.read? at h
  split at h <;> simp only [Option.some.injEq, Prod.mk.injEq, reduceCtorEq] at h <;>
    obtain ⟨_, rfl⟩ := h <;> simp only [List.length_cons] <;> omega

/-- The names of the days of the week, from Sunday on. -/
def weekdayNames : List String :=
  ["Sunday", "Monday", "Tuesday", "Wednesday", "Thursday", "Friday", "Saturday"]

def monthNames : List String :=
  ["January", "February", "March", "April", "May", "June", "July", "August", "September",
    "October", "November", "December"]

def nameAt (names : List String) (place : Nat) : List Char :=
  ((names[place]?).getD "").toList

/-- A year: at least four digits, with a sign when it is negative or has more than four. -/
def yearText (year : Int) : List Char :=
  if 0 ≤ year ∧ year ≤ 9999 then Text.ofNatPadded 4 year.toNat
  else (if year < 0 then '-' else '+') :: Text.ofNatPadded 4 year.natAbs

def dialHour (hour : Nat) : Nat :=
  if hour % 12 = 0 then 12 else hour % 12

/-- Writes the part of a moment that a directive asks for. -/
def Directive.write (m : Moment) : Directive → List Char
  | .percent => ['%']
  | .day => Text.ofNatPadded 2 m.date.day
  | .dayBare => Text.ofNat m.date.day
  | .weekdayShort => (nameAt weekdayNames m.date.weekday).take 3
  | .weekdayLong => nameAt weekdayNames m.date.weekday
  | .isoWeekday => Text.ofNat m.date.isoWeekday
  | .weekday => Text.ofNat m.date.weekday
  | .dayOfYear => Text.ofNatPadded 3 m.date.dayOfYear
  | .isoWeek => Text.ofNatPadded 2 m.date.isoWeek
  | .monthLong => nameAt monthNames (m.date.month - 1)
  | .month => Text.ofNatPadded 2 m.date.month
  | .monthShort => (nameAt monthNames (m.date.month - 1)).take 3
  | .monthBare => Text.ofNat m.date.month
  | .year => yearText m.date.year
  | .yearShort => Text.ofNatPadded 2 (m.date.year % 100).toNat
  | .halfLower => (if m.hour < 12 then "am" else "pm").toList
  | .halfUpper => (if m.hour < 12 then "AM" else "PM").toList
  | .hourOfHalfBare => Text.ofNat (dialHour m.hour)
  | .hourBare => Text.ofNat m.hour
  | .hourOfHalf => Text.ofNatPadded 2 (dialHour m.hour)
  | .hour => Text.ofNatPadded 2 m.hour
  | .minute => Text.ofNatPadded 2 m.minute
  | .second => Text.ofNatPadded 2 (if m.leap then m.second + 1 else m.second)
  | .timestamp => Text.ofInt m.timestamp
  | .offset => "+0000".toList
  | .offsetColon => "+00:00".toList

/-- Carries out a directive text; nothing when a percent sign begins no directive. -/
def writeDirectives? (m : Moment) (s : List Char) : Option (List Char) :=
  match s with
  | [] => some []
  | c :: rest =>
    if c == '%' then
      match h : Directive.read? rest with
      | some (directive, after) =>
        have := Directive.read?_length h
        (writeDirectives? m after).map (directive.write m ++ ·)
      | none => none
    else (writeDirectives? m rest).map (c :: ·)
termination_by s.length

def Moment.format? (m : Moment) (format : List Char) : Option (List Char) :=
  writeDirectives? m (directives format)

end Crosswalk.Calendar
