import Mathlib.Algebra.BigOperators.Intervals
import Mathlib.Algebra.Order.BigOperators.Group.List
import Crosswalk.Calendar.Date

/-!
Counting the days of the calendar.

The number of a day is found by a formula, and a day by its number through eras, centuries and
olympiads. Here the days are counted one after the other, year by year and month by month: the
formula gives the same number, and every number is that of just one day.
-/

namespace Crosswalk.Calendar

/-- The number of days of a year. -/
def yearLength (year : Int) : Nat :=
  if isLeapYear year then 366 else 365

/-- A date that is a day of the calendar. -/
structure Date.IsDay (d : Date) : Prop where
  month_pos : 1 ≤ d.month
  month_le : d.month ≤ 12
  day_pos : 1 ≤ d.day
  day_le : d.day ≤ monthLength d.year d.month

/-! Years. -/

theorem isLeapYear_iff (year : Int) :
    isLeapYear year = true ↔ year % 4 = 0 ∧ (year % 100 ≠ 0 ∨ year % 400 = 0) := by
  simp [isLeapYear]

theorem yearLength_cases (year : Int) :
    (year % 4 = 0 ∧ (year % 100 ≠ 0 ∨ year % 400 = 0)) ∧ yearLength year = 366 ∨
      ¬ (year % 4 = 0 ∧ (year % 100 ≠ 0 ∨ year % 400 = 0)) ∧ yearLength year = 365 := by
  rw [← isLeapYear_iff]
  by_cases h : isLeapYear year = true
  · exact Or.inl ⟨h, if_pos h⟩
  · exact Or.inr ⟨h, if_neg h⟩

/-- A year later its days have passed as well. -/
theorem daysBeforeYear_succ (year : Int) :
    daysBeforeYear (year + 1) = daysBeforeYear year + yearLength year := by
  have hlength := yearLength_cases year
  simp only [daysBeforeYear]
  omega

theorem sum_yearLength {year : Nat} (h : 1 ≤ year) :
    ((∑ y ∈ Finset.Ico 1 year, yearLength y : Nat) : Int) = daysBeforeYear year := by
  induction year, h using Nat.le_induction with
  | base => rfl
  | succ year h ih =>
    rw [Finset.sum_Ico_succ_top h, Int.natCast_add, ih, Int.natCast_succ, daysBeforeYear_succ]

/-! Months. -/

theorem length_monthLengths (year : Int) : (monthLengths year).length = 12 := rfl

theorem sum_monthLengths (year : Int) : (monthLengths year).sum = yearLength year := by
  rw [monthLengths, yearLength]
  split <;> rfl

theorem daysBeforeMonth_eq_sum (year : Int) (month : Nat) :
    daysBeforeMonth year month = ((monthLengths year).take (month - 1)).sum := rfl

theorem monthLength_eq {year : Int} {month : Nat} (h : 1 ≤ month) :
    monthLength year month = ((monthLengths year)[month - 1]?).getD 0 := by
  rw [monthLength, if_neg (by omega)]

/-- A month later its days have passed as well. -/
theorem daysBeforeMonth_succ {year : Int} {month : Nat} (h : 1 ≤ month) :
    daysBeforeMonth year (month + 1) = daysBeforeMonth year month + monthLength year month := by
  have hnext : month + 1 - 1 = month - 1 + 1 := by omega
  rw [daysBeforeMonth_eq_sum, daysBeforeMonth_eq_sum, monthLength_eq h, hnext, List.take_add_one,
    List.sum_append]
  cases (monthLengths year)[month - 1]? <;> simp

theorem sum_monthLength (year : Int) {month : Nat} (h : 1 ≤ month) :
    ∑ k ∈ Finset.Ico 1 month, monthLength year k = daysBeforeMonth year month := by
  induction month, h using Nat.le_induction with
  | base => rfl
  | succ month h ih => rw [Finset.sum_Ico_succ_top h, ih, daysBeforeMonth_succ h]

theorem daysBeforeMonth_add_le (year : Int) {month : Nat} (h : 1 ≤ month) :
    daysBeforeMonth year month + monthLength year month ≤ yearLength year := by
  rw [← daysBeforeMonth_succ h, daysBeforeMonth_eq_sum, ← sum_monthLengths]
  exact (List.take_sublist _ _).sum_le_sum fun _ _ => Nat.zero_le _

/-- A day is one of the days of its year. -/
theorem Date.IsDay.dayOfYear {d : Date} (h : d.IsDay) :
    1 ≤ d.dayOfYear ∧ d.dayOfYear ≤ yearLength d.year := by
  have hpassed := daysBeforeMonth_add_le d.year h.month_pos
  have hpos := h.day_pos
  have hle := h.day_le
  rw [Date.dayOfYear]
  omega

/-! Days by their numbers. -/

theorem monthAndDay_eq (first : Nat) {day : Nat} {lengths : List Nat} (hpos : 1 ≤ day)
    (hle : day ≤ lengths.sum) :
    ∃ months : Nat, (monthAndDay first day lengths).1 = first + months ∧ months < lengths.length ∧
      1 ≤ (monthAndDay first day lengths).2 ∧
      (monthAndDay first day lengths).2 ≤ (lengths[months]?).getD 0 ∧
      (lengths.take months).sum + (monthAndDay first day lengths).2 = day := by
  induction lengths generalizing first day with
  | nil =>
    rw [List.sum_nil] at hle
    omega
  | cons length rest ih =>
    rw [List.sum_cons] at hle
    by_cases hday : day ≤ length
    · rw [monthAndDay, if_pos hday]
      exact ⟨0, rfl, Nat.succ_pos _, hpos, hday, by simp⟩
    · have hlater : 1 ≤ day - length := by omega
      have hrest : day - length ≤ rest.sum := by omega
      obtain ⟨months, hmonth, hlt, hfirst, hlast, hsum⟩ := ih (first + 1) hlater hrest
      rw [monthAndDay, if_neg hday]
      refine ⟨months + 1, by omega, by simpa using hlt, hfirst, by simpa using hlast, ?_⟩
      rw [List.take_succ_cons, List.sum_cons]
      omega

/-- The days before a year, which is given by its era of four hundred years, the century in that,
the olympiad in that and the place in that. -/
theorem daysBeforeYear_digits {era century olympiad place : Int} (hcentury : 0 ≤ century)
    (hcentury' : century ≤ 3) (holympiad : 0 ≤ olympiad) (holympiad' : olympiad ≤ 24)
    (hplace : 0 ≤ place) (hplace' : place ≤ 3) :
    daysBeforeYear (era * 400 + century * 100 + olympiad * 4 + place + 1) =
      era * 146097 + century * 36524 + olympiad * 1461 + place * 365 := by
  have hyear : era * 400 + century * 100 + olympiad * 4 + place + 1 - 1 =
      era * 400 + century * 100 + olympiad * 4 + place := by omega
  have hfour : (era * 400 + century * 100 + olympiad * 4 + place) / 4 =
      era * 100 + century * 25 + olympiad := by omega
  have hhundred : (era * 400 + century * 100 + olympiad * 4 + place) / 100 =
      era * 4 + century := by omega
  have hera : (era * 400 + century * 100 + olympiad * 4 + place) / 400 = era := by omega
  simp only [daysBeforeYear, hyear, hfour, hhundred, hera]
  omega

/-- The year that holds the day with a number, and its place in that year. -/
theorem exists_year (n : Int) :
    ∃ (year : Int) (day : Nat), 1 ≤ day ∧ day ≤ yearLength year ∧ daysBeforeYear year + day = n ∧
      Date.ofDayNumber n =
        ⟨year, (monthAndDay 1 day (monthLengths year)).1,
          (monthAndDay 1 day (monthLengths year)).2⟩ := by
  let era := (n - 1) / 146097
  let inEra := (n - 1) % 146097
  let century := min (inEra / 36524) 3
  let inCentury := inEra - century * 36524
  let olympiad := inCentury / 1461
  let inOlympiad := inCentury % 1461
  let place := min (inOlympiad / 365) 3
  let year := era * 400 + century * 100 + olympiad * 4 + place + 1
  have hera : n - 1 = era * 146097 + inEra ∧ 0 ≤ inEra ∧ inEra < 146097 := by omega
  have hcentury : 0 ≤ century ∧ century ≤ 3 ∧ 0 ≤ inCentury ∧
      (inCentury < 36524 ∨ century = 3 ∧ inCentury = 36524) := by omega
  have holympiad : 0 ≤ olympiad ∧ olympiad ≤ 24 ∧ inCentury = olympiad * 1461 + inOlympiad ∧
      0 ≤ inOlympiad ∧ inOlympiad < 1461 := by omega
  -- the last day of an olympiad is the last of its fourth year, which is a leap year then
  have hplace : 0 ≤ place ∧ place ≤ 3 ∧ 0 ≤ inOlympiad - place * 365 ∧
      (inOlympiad - place * 365 < 365 ∨ place = 3 ∧ inOlympiad = 1460) := by omega
  have hyear : daysBeforeYear year =
      era * 146097 + century * 36524 + olympiad * 1461 + place * 365 :=
    daysBeforeYear_digits hcentury.1 hcentury.2.1 holympiad.1 holympiad.2.1 hplace.1 hplace.2.1
  refine ⟨year, (inOlympiad - place * 365).toNat + 1, by omega, ?_, ?_, rfl⟩
  · have hlength := yearLength_cases year
    have hdef : year = era * 400 + century * 100 + olympiad * 4 + place + 1 := rfl
    have hinCentury : inCentury = inEra - century * 36524 := rfl
    clear_value era inEra century inCentury olympiad inOlympiad place year
    omega
  · have hinCentury : inCentury = inEra - century * 36524 := rfl
    clear_value era inEra century inCentury olympiad inOlympiad place year
    omega

theorem ofDayNumber_eq (n : Int) :
    (Date.ofDayNumber n).IsDay ∧ (Date.ofDayNumber n).dayNumber = n := by
  obtain ⟨year, day, hpos, hle, hnumber, hdate⟩ := exists_year n
  rw [← sum_monthLengths] at hle
  obtain ⟨months, hmonth, hlt, hfirst, hlast, hsum⟩ := monthAndDay_eq 1 hpos hle
  rw [length_monthLengths] at hlt
  have hplace : 1 + months - 1 = months := by omega
  rw [hdate]
  constructor
  · constructor
    · simp only [hmonth]
      omega
    · simp only [hmonth]
      omega
    · exact hfirst
    · simp only [hmonth]
      rw [monthLength_eq (by omega), hplace]
      exact hlast
  · simp only [Date.dayNumber, Date.dayOfYear, hmonth, daysBeforeMonth_eq_sum, hplace, hsum,
      hnumber]

/-! Days counted one after the other. -/

/-- The days of a year that have passed when a day begins. -/
def Date.daysOfYearPassed (d : Date) : Nat :=
  ∑ month ∈ Finset.Ico 1 d.month, monthLength d.year month + (d.day - 1)

/-- The days that have passed since the beginning of year 1 when a day begins. -/
def Date.daysPassed (d : Date) : Nat :=
  ∑ year ∈ Finset.Ico 1 d.year.toNat, yearLength year + d.daysOfYearPassed

/-- The days from the first of January 1970 to a day. -/
def Date.daysSince1970 (d : Date) : Int :=
  d.daysPassed - (Date.mk 1970 1 1).daysPassed

theorem Date.IsDay.dayOfYear_eq {d : Date} (h : d.IsDay) :
    d.dayOfYear = d.daysOfYearPassed + 1 := by
  have hpos := h.day_pos
  rw [Date.dayOfYear, Date.daysOfYearPassed, sum_monthLength _ h.month_pos]
  omega

theorem Date.IsDay.dayNumber_eq {d : Date} (h : d.IsDay) (hyear : 1 ≤ d.year) :
    d.dayNumber = d.daysPassed + 1 := by
  have htoNat : ((d.year.toNat : Nat) : Int) = d.year := Int.toNat_of_nonneg (by omega)
  have hyears := sum_yearLength (show 1 ≤ d.year.toNat by omega)
  rw [htoNat] at hyears
  rw [Date.dayNumber, h.dayOfYear_eq, Date.daysPassed]
  omega

theorem Date.IsDay.daysSince1970_eq {d : Date} (h : d.IsDay) (hyear : 1 ≤ d.year) :
    d.daysSince1970 = d.dayNumber - epochDay := by
  have hfirst : (Date.mk 1970 1 1).IsDay := ⟨by decide, by decide, by decide, by decide⟩
  have hepoch := hfirst.dayNumber_eq (by decide)
  have hnumber : (Date.mk 1970 1 1).dayNumber = epochDay := by decide
  rw [Date.daysSince1970, h.dayNumber_eq hyear]
  omega

/-! Weeks. -/

/-- The day of the week, counted from zero on Sunday. The first of January 1970 was a Thursday. -/
def Date.dayInWeek (d : Date) : Nat :=
  ((d.daysSince1970 + 4) % 7).toNat

/-- The day of the week, counted from one on Monday. -/
def Date.dayInWeekFromMonday (d : Date) : Nat :=
  if d.dayInWeek = 0 then 7 else d.dayInWeek

/-- The days from the first of January 1970 to the first Monday that the weeks of a year are counted
from: the one of the week in which its fourth of January lies. -/
def firstMonday (year : Int) : Int :=
  let fourth : Date := ⟨year, 1, 4⟩
  fourth.daysSince1970 - (fourth.dayInWeekFromMonday - 1)

/-- The number of the week that a day lies in, among the weeks of the year before, of its own year
or of the year after. -/
def Date.weekNumber (d : Date) : Nat :=
  let weekYear :=
    if d.daysSince1970 < firstMonday d.year then d.year - 1
    else if d.daysSince1970 < firstMonday (d.year + 1) then d.year
    else d.year + 1
  ((d.daysSince1970 - firstMonday weekYear) / 7 + 1).toNat

theorem Date.IsDay.weekday_eq {d : Date} (h : d.IsDay) (hyear : 1 ≤ d.year) :
    d.weekday = d.dayInWeek := by
  rw [Date.weekday, Date.dayInWeek, h.daysSince1970_eq hyear, epochDay]
  omega

theorem Date.IsDay.isoWeekday_eq {d : Date} (h : d.IsDay) (hyear : 1 ≤ d.year) :
    d.isoWeekday = d.dayInWeekFromMonday := by
  rw [Date.isoWeekday, Date.dayInWeekFromMonday, h.weekday_eq hyear]

theorem Date.isoWeekday_cases (d : Date) :
    1 ≤ d.isoWeekday ∧ d.isoWeekday ≤ 7 ∧ (d.dayNumber - d.isoWeekday) % 7 = 0 := by
  rw [Date.isoWeekday, Date.weekday]
  split <;> omega

theorem daysBeforeYear_le {year later : Int} (h : year ≤ later) :
    daysBeforeYear year ≤ daysBeforeYear later := by
  simp only [daysBeforeYear]
  omega

/-- The first Monday, as the number of a day. -/
theorem firstMonday_cases (year : Int) (hyear : 1 ≤ year) :
    daysBeforeYear year - 2 ≤ firstMonday year + epochDay ∧
      firstMonday year + epochDay ≤ daysBeforeYear year + 4 ∧
      (firstMonday year + epochDay - 1) % 7 = 0 := by
  have hfourth : (Date.mk year 1 4).IsDay :=
    ⟨by simp, by simp, by simp, by simp [monthLength, monthLengths]⟩
  have hnumber : (Date.mk year 1 4).dayNumber = daysBeforeYear year + 4 := rfl
  have hweekday := (Date.mk year 1 4).isoWeekday_cases
  have hmonday : firstMonday year =
      (Date.mk year 1 4).dayNumber - epochDay - ((Date.mk year 1 4).isoWeekday - 1) := by
    rw [firstMonday, hfourth.daysSince1970_eq hyear, hfourth.isoWeekday_eq hyear]
  rw [hnumber] at hweekday hmonday
  omega

theorem firstMonday_le {year : Int} (hyear : 1 ≤ year) :
    firstMonday year ≤ firstMonday (year + 1) := by
  have hfirst := firstMonday_cases year hyear
  have hnext := firstMonday_cases (year + 1) (by omega)
  have hpassed := daysBeforeYear_succ year
  have hlength := yearLength_cases year
  omega

/-- The Monday before a Thursday of a year is so many weeks behind the first Monday as there are
Thursdays before it in the year, and the Monday after it is at most the first one of the next
year. -/
theorem Date.IsDay.monday_eq {thursday : Date} (h : thursday.IsDay) (hyear : 1 ≤ thursday.year)
    (hweekday : thursday.dayNumber % 7 = 4) :
    thursday.dayNumber - 3 =
        firstMonday thursday.year + epochDay + 7 * ((thursday.dayOfYear - 1) / 7 : Nat) ∧
      thursday.dayNumber + 4 ≤ firstMonday (thursday.year + 1) + epochDay := by
  have hfirst := firstMonday_cases thursday.year hyear
  have hnext := firstMonday_cases (thursday.year + 1) (by omega)
  have hpassed := daysBeforeYear_succ thursday.year
  have hplace := h.dayOfYear
  have hnumber : thursday.dayNumber = daysBeforeYear thursday.year + thursday.dayOfYear := rfl
  constructor <;> omega

/-- Days that lie less than a week apart lie in the same year or in neighbouring ones. -/
theorem Date.IsDay.year_cases {d near : Date} (h : d.IsDay) (hnear : near.IsDay)
    (hbefore : d.dayNumber - 7 < near.dayNumber) (hbehind : near.dayNumber < d.dayNumber + 7) :
    near.year = d.year - 1 ∨ near.year = d.year ∨ near.year = d.year + 1 := by
  have hnumber : d.dayNumber = daysBeforeYear d.year + d.dayOfYear := rfl
  have hnearNumber : near.dayNumber = daysBeforeYear near.year + near.dayOfYear := rfl
  have hplace := h.dayOfYear
  have hnearPlace := hnear.dayOfYear
  rcases Int.lt_trichotomy near.year d.year with hearly | hsame | hlate
  · have hpassed := daysBeforeYear_succ near.year
    have hprevious := daysBeforeYear_succ (d.year - 1)
    have hlength := yearLength_cases (d.year - 1)
    rw [Int.sub_add_cancel] at hprevious
    by_contra hfar
    have hle : daysBeforeYear (near.year + 1) ≤ daysBeforeYear (d.year - 1) :=
      daysBeforeYear_le (by omega)
    omega
  · exact Or.inr (Or.inl hsame)
  · have hpassed := daysBeforeYear_succ d.year
    have hnext := daysBeforeYear_succ (d.year + 1)
    have hlength := yearLength_cases (d.year + 1)
    by_contra hfar
    have hle : daysBeforeYear (d.year + 1 + 1) ≤ daysBeforeYear near.year :=
      daysBeforeYear_le (by omega)
    omega

/-- The weeks that belong to the year of their Thursday are those counted from the first Monday. -/
theorem Date.IsDay.isoWeek_eq {d : Date} (h : d.IsDay) (hyear : 2 ≤ d.year) :
    d.isoWeek = d.weekNumber := by
  let thursday := Date.ofDayNumber (d.dayNumber + 4 - d.isoWeekday)
  have hweek : d.isoWeek = (thursday.dayOfYear - 1) / 7 + 1 := rfl
  obtain ⟨hisDay, hnumber⟩ : thursday.IsDay ∧ thursday.dayNumber = d.dayNumber + 4 - d.isoWeekday :=
    ofDayNumber_eq _
  have hweekday := d.isoWeekday_cases
  have hyears := h.year_cases hisDay (by omega) (by omega)
  obtain ⟨hmonday, hnext⟩ := hisDay.monday_eq (by omega) (by omega)
  have hsince := h.daysSince1970_eq (by omega)
  have hle := firstMonday_le (show 1 ≤ d.year by omega)
  clear_value thursday
  have hwithin : firstMonday thursday.year ≤ d.daysSince1970 ∧
      d.daysSince1970 < firstMonday (thursday.year + 1) := by omega
  have hweeks : (d.daysSince1970 - firstMonday thursday.year) / 7 =
      ((thursday.dayOfYear - 1) / 7 : Nat) := by omega
  -- so the weeks that the day is counted among are those of the year of the Thursday
  have hweekYear : (if d.daysSince1970 < firstMonday d.year then d.year - 1
      else if d.daysSince1970 < firstMonday (d.year + 1) then d.year
      else d.year + 1) = thursday.year := by
    rcases hyears with hyears | hyears | hyears <;> rw [hyears] at hwithin ⊢
    · rw [Int.sub_add_cancel] at hwithin
      rw [if_pos hwithin.2]
    · rw [if_neg (not_lt.mpr hwithin.1), if_pos hwithin.2]
    · rw [if_neg (not_lt.mpr (hle.trans hwithin.1)), if_neg (not_lt.mpr hwithin.1)]
  rw [hweek, Date.weekNumber, hweekYear, hweeks]
  rfl

end Crosswalk.Calendar
