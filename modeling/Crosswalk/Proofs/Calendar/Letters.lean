import Crosswalk.Filter.Run
import Crosswalk.Proofs.Calendar.Directives
import Crosswalk.Proofs.Calendar.Reading
import Crosswalk.Proofs.Text.Numeral

/-!
What the letters of a date format stand for.

Each letter has a documented meaning, which is stated here by counting days, weeks and hours, and a
format is written letter by letter. The directives that a format is translated to write the same,
for all letters but one: the day of the year is written with three digits and counted from one,
where the letter `z` stands for the number of days that have passed.
-/

namespace Crosswalk.Calendar

open Text

/-! The meaning of the letters. -/

/-- A number below one hundred in two digits. -/
def twoDigits (n : Nat) : List Char := [Nat.digitChar (n / 10), Nat.digitChar (n % 10)]

def dayName : Nat → String
  | 0 => "Sunday"
  | 1 => "Monday"
  | 2 => "Tuesday"
  | 3 => "Wednesday"
  | 4 => "Thursday"
  | 5 => "Friday"
  | _ => "Saturday"

def monthName : Nat → String
  | 1 => "January"
  | 2 => "February"
  | 3 => "March"
  | 4 => "April"
  | 5 => "May"
  | 6 => "June"
  | 7 => "July"
  | 8 => "August"
  | 9 => "September"
  | 10 => "October"
  | 11 => "November"
  | _ => "December"

/-- An hour as a clock with twelve hours shows it. -/
def clockHour (hour : Nat) : Nat :=
  if hour = 0 then 12 else if hour ≤ 12 then hour else hour - 12

/-- A format with the letters replaced; the character behind a backslash is no letter, and a
backslash at the end stands for nothing. -/
def writeWith (letter : Char → Option (List Char)) : List Char → List Char
  | [] => []
  | ['\\'] => []
  | '\\' :: c :: rest => c :: writeWith letter rest
  | c :: rest => (letter c).getD [c] ++ writeWith letter rest

/-- The letters that stand for one part of a moment. A leap second is the sixtieth of its minute and
has the number of the second before it. -/
def Moment.partLetter (m : Moment) : Char → Option (List Char)
  | 'd' => some (twoDigits m.date.day)
  | 'D' => some ((dayName m.date.dayInWeek).toList.take 3)
  | 'j' => some (ofNat m.date.day)
  | 'l' => some (dayName m.date.dayInWeek).toList
  | 'N' => some (ofNat m.date.dayInWeekFromMonday)
  | 'w' => some (ofNat m.date.dayInWeek)
  | 'z' => some (ofNat m.date.daysOfYearPassed)
  | 'W' => some (twoDigits m.date.weekNumber)
  | 'F' => some (monthName m.date.month).toList
  | 'm' => some (twoDigits m.date.month)
  | 'M' => some ((monthName m.date.month).toList.take 3)
  | 'n' => some (ofNat m.date.month)
  | 'Y' => some (ofInt m.date.year)
  | 'y' => some (twoDigits (m.date.year % 100).toNat)
  | 'a' => some (if m.hour < 12 then "am" else "pm").toList
  | 'A' => some (if m.hour < 12 then "AM" else "PM").toList
  | 'g' => some (ofNat (clockHour m.hour))
  | 'G' => some (ofNat m.hour)
  | 'h' => some (twoDigits (clockHour m.hour))
  | 'H' => some (twoDigits m.hour)
  | 'i' => some (twoDigits m.minute)
  | 's' => some (twoDigits (if m.leap then 60 else m.second))
  | 'U' => some (ofInt (m.date.daysSince1970 * 86400 + m.hour * 3600 + m.minute * 60 + m.second))
  | _ => none

/-- All letters: also those of the two standard forms of a date and time. -/
def Moment.letter (m : Moment) : Char → Option (List Char)
  | 'c' => some (writeWith m.partLetter "Y-m-d\\TH:i:s".toList ++ "+00:00".toList)
  | 'r' => some (writeWith m.partLetter "D, d M Y H:i:s".toList ++ " +0000".toList)
  | c => m.partLetter c

/-- The letters as directives write them. -/
def Moment.writtenLetter (m : Moment) (c : Char) : Option (List Char) :=
  if c = 'z' then some (ofNatPadded 3 (m.date.daysOfYearPassed + 1)) else m.letter c

/-! Numbers and names. -/

theorem ofNatPadded_two {n : Nat} (h : n < 100) : ofNatPadded 2 n = twoDigits n := by
  rw [ofNatPadded, ofNat, twoDigits]
  by_cases hn : n < 10
  · have hten : n / 10 = 0 := by omega
    have hone : n % 10 = n := by omega
    rw [Nat.toDigits_of_lt_base hn, hten, hone]
    rfl
  · rw [Nat.toDigits_eq_if (by decide), if_neg hn, Nat.toDigits_of_lt_base (by omega)]
    rfl

theorem yearText_eq {year : Int} (hfirst : 1000 ≤ year) (hlast : year ≤ 9999) :
    yearText year = ofInt year := by
  have hdigits : 3 < (ofNat year.toNat).length := by
    have hle :=
      Nat.length_toDigits_le_iff (b := 10) (n := year.toNat) (k := 3) (by decide) (by decide)
    rw [ofNat]
    omega
  have hnat : year.natAbs = year.toNat := by omega
  rw [yearText, if_pos ⟨by omega, hlast⟩, ofInt, if_neg (by omega), hnat, ofNatPadded]
  rw [show 4 - (ofNat year.toNat).length = 0 by omega]
  rfl

theorem dialHour_eq {hour : Nat} (h : hour < 24) : dialHour hour = clockHour hour := by
  rw [dialHour, clockHour]
  split_ifs <;> omega

theorem nameAt_weekdayNames : ∀ place < 7, nameAt weekdayNames place = (dayName place).toList := by
  decide

theorem nameAt_monthNames :
    ∀ month < 13, 1 ≤ month → nameAt monthNames (month - 1) = (monthName month).toList := by
  decide

theorem monthLength_le (year : Int) (month : Nat) : monthLength year month ≤ 31 := by
  rw [monthLength]
  split
  · exact Nat.zero_le _
  · cases hlength : (monthLengths year)[month - 1]? with
    | none => exact Nat.zero_le _
    | some length =>
      have hmem := List.mem_of_getElem? hlength
      have hleap : (if isLeapYear year then 29 else 28) ≤ 31 := by split <;> decide
      simp only [monthLengths, List.mem_cons, List.not_mem_nil, or_false] at hmem
      rw [Option.getD_some]
      omega

theorem isoWeek_le (d : Date) : d.isoWeek ≤ 53 := by
  obtain ⟨hday, -⟩ := ofDayNumber_eq (d.dayNumber + 4 - d.isoWeekday)
  have hle := hday.dayOfYear.2
  have hlength := yearLength_cases (Date.ofDayNumber (d.dayNumber + 4 - d.isoWeekday)).year
  have hweek : d.isoWeek =
      ((Date.ofDayNumber (d.dayNumber + 4 - d.isoWeekday)).dayOfYear - 1) / 7 + 1 := rfl
  omega

theorem clockHour_le {hour : Nat} (h : hour < 24) : clockHour hour ≤ 12 := by
  rw [clockHour]
  split_ifs <;> omega

theorem write_plainPart (m : Moment) (c : Char) : (plainPart c).write m = [c] := by
  by_cases hc : c = '%'
  · subst hc
    rfl
  · simp [plainPart, Part.write, hc]

section Written

variable {m : Moment} (hm : m.IsTime)
include hm

theorem Moment.IsTime.shownSecond :
    (if m.leap then m.second + 1 else m.second) = if m.leap then 60 else m.second := by
  cases hleap : m.leap with
  | true => simp [hm.second_of_leap hleap]
  | false => rfl

/-- The numbers that are written in two digits have no more. -/
theorem Moment.IsTime.twoDigits_eq (hweek : m.date.isoWeek = m.date.weekNumber) :
    ofNatPadded 2 m.date.day = twoDigits m.date.day ∧
      ofNatPadded 2 m.date.month = twoDigits m.date.month ∧
      ofNatPadded 2 m.date.weekNumber = twoDigits m.date.weekNumber ∧
      ofNatPadded 2 (m.date.year % 100).toNat = twoDigits (m.date.year % 100).toNat ∧
      ofNatPadded 2 m.hour = twoDigits m.hour ∧
      ofNatPadded 2 (clockHour m.hour) = twoDigits (clockHour m.hour) ∧
      ofNatPadded 2 m.minute = twoDigits m.minute ∧
      ofNatPadded 2 (if m.leap then 60 else m.second) =
        twoDigits (if m.leap then 60 else m.second) := by
  have hday := hm.isDay.day_le.trans (monthLength_le m.date.year m.date.month)
  have hmonth := hm.isDay.month_le
  have hweekNumber := hweek ▸ isoWeek_le m.date
  have hhour := hm.hour_lt
  have hclockHour := clockHour_le hm.hour_lt
  have hminute := hm.minute_lt
  have hsecond : (if m.leap then 60 else m.second) ≤ 60 := by
    have hlt := hm.second_lt
    split <;> omega
  refine ⟨?_, ?_, ?_, ?_, ?_, ?_, ?_, ?_⟩ <;> exact ofNatPadded_two (by omega)

theorem Moment.IsTime.timestamp_eq (hyear : 1 ≤ m.date.year) : m.timestamp =
    m.date.daysSince1970 * 86400 + m.hour * 3600 + m.minute * 60 + m.second := by
  rw [hm.isDay.daysSince1970_eq hyear]
  rfl

/-- What the directives of a letter write: the weekday, the week, the month and the hour that are
counted, and numbers in two digits where they are below one hundred. -/
theorem write_letterParts (hfirst : 1000 ≤ m.date.year) (hlast : m.date.year ≤ 9999) (c : Char) :
    (letterParts c).map (fun parts => parts.flatMap (Part.write m)) = m.writtenLetter c := by
  have hyear : 2 ≤ m.date.year := by omega
  have hweekday := hm.isDay.weekday_eq (by omega)
  have hisoWeekday := hm.isDay.isoWeekday_eq (by omega)
  have hweek := hm.isDay.isoWeek_eq hyear
  have hplace := hm.isDay.dayOfYear_eq
  have htimestamp := hm.timestamp_eq (by omega)
  have hyearText := yearText_eq hfirst hlast
  have hclock := dialHour_eq hm.hour_lt
  have hsecond := hm.shownSecond
  have hdayName := nameAt_weekdayNames m.date.dayInWeek (by rw [Date.dayInWeek]; omega)
  have hmonthName := nameAt_monthNames m.date.month (Nat.lt_succ_of_le hm.isDay.month_le)
    hm.isDay.month_pos
  obtain ⟨hday, hmonth, hweekNumber, hyearShort, hhour, hclockHour, hminute, hshownSecond⟩ :=
    hm.twoDigits_eq hweek
  unfold letterParts
  split
  case h_26 =>
    rw [Moment.writtenLetter, if_neg (by assumption), Moment.letter, Moment.partLetter]
    · rfl
    all_goals assumption
  all_goals
    simp only [Option.map_some, List.flatMap_cons, List.flatMap_nil, List.append_nil, Part.write,
      Directive.write.eq_def, hweekday, hisoWeekday, hweek, hplace, htimestamp, hyearText, hclock,
      hsecond, hdayName, hmonthName, hday, hmonth, hweekNumber, hyearShort, hhour, hclockHour,
      hminute, hshownSecond]
  case h_24 => simp [Moment.writtenLetter, Moment.letter, writeWith, Moment.partLetter]
  case h_25 => simp [Moment.writtenLetter, Moment.letter, writeWith, Moment.partLetter]
  all_goals rfl

/-- A format is written letter by letter. -/
theorem format?_eq_writeWith (hfirst : 1000 ≤ m.date.year) (hlast : m.date.year ≤ 9999)
    (format : List Char) : m.format? format = some (writeWith m.writtenLetter format) := by
  rw [format?_eq]
  congr 1
  fun_induction formatParts format with
  | case1 => rfl
  | case2 => rfl
  | case3 c rest ih =>
    rw [List.flatMap_cons, write_plainPart m, ih, List.singleton_append, writeWith]
  | case4 c rest hlone hescape ih =>
    have hletter := write_letterParts hm hfirst hlast c
    have hchar : ((letterParts c).getD [plainPart c]).flatMap (Part.write m) =
        (m.writtenLetter c).getD [c] := by
      rw [← hletter]
      cases letterParts c with
      | none => simp [write_plainPart m]
      | some parts => rfl
    rw [List.flatMap_append, hchar, ih, writeWith]
    · exact hlone
    · exact hescape

end Written

/-! The one letter that is written otherwise. -/

/-- The characters of a format that no backslash escapes. -/
def unescaped : List Char → List Char
  | [] => []
  | ['\\'] => []
  | '\\' :: _ :: rest => unescaped rest
  | c :: rest => c :: unescaped rest

section Differ

variable {letter other : Char → Option (List Char)} {mark : Char} {text otherText : List Char}
  (hsame : ∀ c ≠ mark, letter c = other c) (hletter : letter mark = some text)
  (hother : other mark = some otherText) (hlength : otherText.length ≤ text.length)
include hsame hletter hother hlength

theorem length_writeWith_le (format : List Char) :
    (writeWith other format).length ≤ (writeWith letter format).length := by
  fun_induction unescaped format with
  | case1 => exact le_refl _
  | case2 => exact le_refl _
  | case3 c rest ih =>
    rw [writeWith, writeWith]
    exact Nat.succ_le_succ ih
  | case4 c rest hlone hescape ih =>
    rw [writeWith, writeWith, List.length_append, List.length_append]
    · by_cases hc : c = mark
      · rw [hc, hletter, hother, Option.getD_some, Option.getD_some]
        omega
      · rw [hsame c hc]
        omega
    all_goals assumption

/-- Two ways to write the letters, of which one is longer or as long but different for one letter,
give the same text just for the formats without that letter. -/
theorem writeWith_eq_iff (hne : text ≠ otherText) (format : List Char) :
    writeWith letter format = writeWith other format ↔ mark ∉ unescaped format := by
  fun_induction unescaped format with
  | case1 => exact iff_of_true rfl List.not_mem_nil
  | case2 => exact iff_of_true rfl List.not_mem_nil
  | case3 c rest ih =>
    rw [writeWith, writeWith, List.cons_inj_right]
    exact ih
  | case4 c rest hlone hescape ih =>
    rw [writeWith, writeWith, List.mem_cons, not_or]
    · by_cases hc : c = mark
      · refine iff_of_false ?_ fun h => h.1 hc.symm
        rw [hc, hletter, hother, Option.getD_some, Option.getD_some]
        intro htexts
        have hrest := length_writeWith_le hsame hletter hother hlength rest
        have htotal := congrArg List.length htexts
        rw [List.length_append, List.length_append] at htotal
        exact hne (List.append_inj_left htexts (by omega))
      · rw [hsame c hc, List.append_cancel_left_eq, ih]
        exact ⟨fun h => ⟨fun heq => hc heq.symm, h⟩, fun h => h.2⟩
    all_goals assumption

end Differ

theorem ofDigitChars_ofNatPadded (width n : Nat) :
    Nat.ofDigitChars 10 (ofNatPadded width n) 0 = n := by
  have hzeros : ∀ zeros : Nat, Nat.ofDigitChars 10 (List.replicate zeros '0' ++ ofNat n) 0 = n := by
    intro zeros
    induction zeros with
    | zero => exact Nat.ofDigitChars_ten_toDigits
    | succ zeros ih => exact ih
  exact hzeros _

theorem length_ofNatPadded (width n : Nat) : width ≤ (ofNatPadded width n).length := by
  rw [ofNatPadded, List.length_append, List.length_replicate]
  omega

theorem date_eq_writeWith (args : List String) {value : List Char} {m : Moment}
    (hm : readMoment? (trim value) = some m) (hfirst : 1000 ≤ m.date.year)
    (hlast : m.date.year ≤ 9999) :
    Filter.run "date" args value =
      writeWith m.writtenLetter (args.head?.getD Filter.defaultDateFormat).toList := by
  change Filter.date args value = _
  rw [Filter.date, hm]
  simp only [format?_eq_writeWith (isTime_of_readMoment? hm) hfirst hlast, Option.getD_some]

/-- For every text that is read as a moment in the years 1000 to 9999, and for every format, the
filter `date` writes the format letter by letter as documented, but for the letter `z`: the number
of days of the year that have passed is written as the number of the day, counted from one and in
three digits. So what is written is what the letters stand for just when no `z` is among them. -/
theorem date_by_letters (args : List String) {value : List Char} {m : Moment}
    (hm : readMoment? (trim value) = some m) (hfirst : 1000 ≤ m.date.year)
    (hlast : m.date.year ≤ 9999) :
    let format := (args.head?.getD Filter.defaultDateFormat).toList
    Filter.run "date" args value = writeWith m.writtenLetter format ∧
      (Filter.run "date" args value = writeWith m.letter format ↔ 'z' ∉ unescaped format) := by
  intro format
  have hwritten := date_eq_writeWith args hm hfirst hlast
  refine ⟨hwritten, ?_⟩
  have hday := isTime_of_readMoment? hm |>.isDay
  have hplace := hday.dayOfYear_eq ▸ hday.dayOfYear.2
  have hyear := yearLength_cases m.date.year
  have hsame : ∀ c ≠ 'z', m.writtenLetter c = m.letter c := fun c hc => if_neg hc
  have hlength : (ofNat m.date.daysOfYearPassed).length ≤
      (ofNatPadded 3 (m.date.daysOfYearPassed + 1)).length := by
    have hshort := Nat.toDigits_length 10 m.date.daysOfYearPassed 3 (by decide) (by omega)
    exact hshort.trans (length_ofNatPadded 3 _)
  have hne : ofNatPadded 3 (m.date.daysOfYearPassed + 1) ≠ ofNat m.date.daysOfYearPassed := by
    intro heq
    have hvalue := congrArg (fun digits => Nat.ofDigitChars 10 digits 0) heq
    simp only [ofDigitChars_ofNatPadded, ofNat, Nat.ofDigitChars_ten_toDigits] at hvalue
    omega
  rw [hwritten]
  exact writeWith_eq_iff hsame rfl rfl hlength hne format

/-- The last Sunday of the weeks of a year lies in the next year, and an escaped letter is none. -/
theorem date_by_letters_last_week :
    let m : Moment := ⟨⟨2021, 1, 3⟩, 22, 30, 0, false⟩
    readMoment? (trim " 2021-01-04T03:30:00+05:00".toList) = some m ∧
      1000 ≤ m.date.year ∧ m.date.year ≤ 9999 ∧
      Filter.run "date" ["D W, g a \\z%"] " 2021-01-04T03:30:00+05:00".toList =
        "Sun 53, 10 pm z%".toList := by
  intro m
  have hm : readMoment? (trim " 2021-01-04T03:30:00+05:00".toList) = some m := by decide +kernel
  obtain ⟨-, hiff⟩ := date_by_letters ["D W, g a \\z%"] hm (by decide) (by decide)
  have hletters : writeWith m.letter "D W, g a \\z%".toList = "Sun 53, 10 pm z%".toList := by
    decide +kernel
  exact ⟨hm, by decide, by decide, (hiff.mpr (by decide)).trans hletters⟩

/-- Sixty-two days have passed when the fourth of March begins, in a year that is no leap year. -/
theorem date_counts_day_from_one :
    let m : Moment := ⟨⟨2021, 3, 4⟩, 0, 0, 0, false⟩
    readMoment? (trim "2021-03-04".toList) = some m ∧ 1000 ≤ m.date.year ∧ m.date.year ≤ 9999 ∧
      writeWith m.letter "z".toList = "62".toList ∧
      Filter.run "date" ["z"] "2021-03-04".toList = "063".toList ∧
      Filter.run "date" ["z"] "2021-03-04".toList ≠ writeWith m.letter "z".toList := by
  intro m
  have hm : readMoment? (trim "2021-03-04".toList) = some m := by decide +kernel
  have hpassed : writeWith m.letter "z".toList = "62".toList := by decide +kernel
  have hwritten : Filter.run "date" ["z"] "2021-03-04".toList = "063".toList :=
    (date_eq_writeWith ["z"] hm (by decide) (by decide)).trans (by decide +kernel)
  refine ⟨hm, by decide, by decide, hpassed, hwritten, ?_⟩
  rw [hpassed, hwritten]
  decide

end Crosswalk.Calendar
