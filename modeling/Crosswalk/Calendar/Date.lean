/-!
Dates of the Gregorian calendar, extended to all years, and their numbering by days; moments of
them.

Day 1 is the first day of year 1. Years before it are zero and negative. A moment is a day and a
second of it, in universal time; the last second of a minute may be a leap second, which is written
as the sixtieth.
-/

namespace Crosswalk.Calendar

def isLeapYear (year : Int) : Bool :=
  year % 4 == 0 && (year % 100 != 0 || year % 400 == 0)

def monthLengths (year : Int) : List Nat :=
  [31, if isLeapYear year then 29 else 28, 31, 30, 31, 30, 31, 31, 30, 31, 30, 31]

/-- The number of days in a month, zero when there is no such month. -/
def monthLength (year : Int) (month : Nat) : Nat :=
  if month = 0 then 0 else ((monthLengths year)[month - 1]?).getD 0

/-- A day of the calendar. -/
structure Date where
  year : Int
  month : Nat
  day : Nat
deriving DecidableEq, Inhabited

def minYear : Int := -262143

def maxYear : Int := 262142

/-- The date with a year, month and day, if there is such a day in the years that are counted. -/
def Date.of? (year : Int) (month day : Nat) : Option Date :=
  if minYear ≤ year ∧ year ≤ maxYear ∧ 1 ≤ day ∧ day ≤ monthLength year month then
    some ⟨year, month, day⟩
  else none

/-- The number of days before the first of January of a year. -/
def daysBeforeYear (year : Int) : Int :=
  let y := year - 1
  365 * y + y / 4 - y / 100 + y / 400

def daysBeforeMonth (year : Int) (month : Nat) : Nat :=
  ((monthLengths year).take (month - 1)).foldr (· + ·) 0

/-- The day of the year, counted from one. -/
def Date.dayOfYear (d : Date) : Nat :=
  daysBeforeMonth d.year d.month + d.day

def Date.dayNumber (d : Date) : Int :=
  daysBeforeYear d.year + d.dayOfYear

/-- The month and day of a day of the year, given the lengths of the months from `month` on. -/
def monthAndDay (month : Nat) (day : Nat) : List Nat → Nat × Nat
  | [] => (month, day)
  | length :: rest =>
    if day ≤ length then (month, day) else monthAndDay (month + 1) (day - length) rest

def Date.ofDayNumber (n : Int) : Date :=
  let n := n - 1
  let era := n / 146097
  let n := n % 146097
  let century := min (n / 36524) 3
  let n := n - century * 36524
  let olympiad := n / 1461
  let n := n % 1461
  let inOlympiad := min (n / 365) 3
  let year := era * 400 + century * 100 + olympiad * 4 + inOlympiad + 1
  let (month, day) := monthAndDay 1 ((n - inOlympiad * 365).toNat + 1) (monthLengths year)
  ⟨year, month, day⟩

/-- The day of the week, counted from zero on Sunday. -/
def Date.weekday (d : Date) : Nat :=
  (d.dayNumber % 7).toNat

/-- The day of the week, counted from one on Monday. -/
def Date.isoWeekday (d : Date) : Nat :=
  if d.weekday = 0 then 7 else d.weekday

/-- The number of the week that a day lies in: weeks run from Monday to Sunday and belong to the
year that holds their Thursday. -/
def Date.isoWeek (d : Date) : Nat :=
  let thursday := Date.ofDayNumber (d.dayNumber + 4 - d.isoWeekday)
  (thursday.dayOfYear - 1) / 7 + 1

/-! ### Moments -/

/-- A day and a time of day. `leap` marks the second after the fifty-ninth of a minute. -/
structure Moment where
  date : Date
  hour : Nat
  minute : Nat
  second : Nat
  leap : Bool
deriving DecidableEq, Inhabited

def daySeconds : Int := 86400

/-- The number of the day on which seconds are counted from zero: the first of January 1970. -/
def epochDay : Int := 719163

def Moment.ofDate (d : Date) : Moment := ⟨d, 0, 0, 0, false⟩

/-- The moment on a day at a time, where the sixtieth second is a leap second. -/
def Moment.of? (date : Date) (hour minute second : Nat) : Option Moment :=
  if hour < 24 ∧ minute < 60 ∧ second ≤ 60 then
    some ⟨date, hour, minute, min second 59, second == 60⟩
  else none

/-- The seconds since the beginning of 1970; a leap second has the number of the one before it. -/
def Moment.timestamp (m : Moment) : Int :=
  (m.date.dayNumber - epochDay) * daySeconds + m.hour * 3600 + m.minute * 60 + m.second

/-- The moment that many seconds after the beginning of 1970. -/
def Moment.ofTimestamp (seconds : Int) : Moment :=
  let date := Date.ofDayNumber (seconds / daySeconds + epochDay)
  let rest := (seconds % daySeconds).toNat
  ⟨date, rest / 3600, rest / 60 % 60, rest % 60, false⟩

/-- The moment that many seconds after the beginning of 1970, in the years that are counted. -/
def Moment.ofTimestamp? (seconds : Int) : Option Moment :=
  let m := Moment.ofTimestamp seconds
  if minYear ≤ m.date.year ∧ m.date.year ≤ maxYear then some m else none

/-- The same moment told in universal time, when it was told that many seconds ahead of it. -/
def Moment.behind (m : Moment) (seconds : Int) : Moment :=
  { Moment.ofTimestamp (m.timestamp - seconds) with leap := m.leap }

end Crosswalk.Calendar
