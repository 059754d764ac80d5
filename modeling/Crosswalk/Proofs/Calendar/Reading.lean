import Crosswalk.Calendar.Reader
import Crosswalk.Proofs.Calendar.Reckoning

/-!
What is read as a moment.

Every form of a moment checks its day and its time, and a time that is told with an offset keeps its
second when it is told in universal time: so a moment that was read is a time of a day of the
calendar, and a leap second is the last one of a minute.
-/

namespace Crosswalk.Calendar

/-- A time of a day of the calendar. -/
structure Moment.IsTime (m : Moment) : Prop where
  isDay : m.date.IsDay
  hour_lt : m.hour < 24
  minute_lt : m.minute < 60
  second_lt : m.second < 60
  second_of_leap : m.leap = true → m.second = 59

theorem isDay_of_of? {year : Int} {month day : Nat} {d : Date}
    (h : Date.of? year month day = some d) : d.IsDay := by
  rw [Date.of?] at h
  split_ifs at h with hd
  obtain ⟨-, -, hpos, hle⟩ := hd
  obtain rfl := Option.some.inj h
  -- there is no thirteenth month, and no month before the first
  have hmonth : monthLength year month ≠ 0 := by omega
  have hfirst : 1 ≤ month := by
    by_contra hzero
    exact hmonth (if_pos (by omega))
  have hlast : month ≤ 12 := by
    by_contra hbeyond
    refine hmonth ?_
    rw [monthLength_eq hfirst, List.getElem?_eq_none (by rw [length_monthLengths]; omega)]
    rfl
  exact ⟨hfirst, hlast, hpos, hle⟩

theorem isTime_ofDate {d : Date} (h : d.IsDay) : (Moment.ofDate d).IsTime :=
  ⟨h, Nat.succ_pos 23, Nat.succ_pos 59, Nat.succ_pos 59, fun hleap => by cases hleap⟩

theorem isTime_of_of? {d : Date} {hour minute second : Nat} {m : Moment} (hd : d.IsDay)
    (h : Moment.of? d hour minute second = some m) : m.IsTime := by
  rw [Moment.of?] at h
  split_ifs at h with ht
  obtain ⟨hhour, hminute, hsecond⟩ := ht
  obtain rfl := Option.some.inj h
  refine ⟨hd, hhour, hminute, by simp only; omega, fun hleap => ?_⟩
  have hsixty : second = 60 := by simpa using hleap
  simp [hsixty]

theorem isTime_ofTimestamp (seconds : Int) : (Moment.ofTimestamp seconds).IsTime := by
  have hday := (ofDayNumber_eq (seconds / daySeconds + epochDay)).1
  refine ⟨hday, ?_, ?_, ?_, fun hleap => by cases hleap⟩ <;>
  · simp only [Moment.ofTimestamp, daySeconds]
    omega

theorem second_ofTimestamp (seconds : Int) :
    ((Moment.ofTimestamp seconds).second : Int) = seconds % 60 := by
  simp only [Moment.ofTimestamp, daySeconds]
  omega

theorem isTime_behind {m : Moment} (h : m.IsTime) {offset : Int} (hoffset : offset % 60 = 0) :
    (m.behind offset).IsTime := by
  have htime := isTime_ofTimestamp (m.timestamp - offset)
  refine ⟨htime.isDay, htime.hour_lt, htime.minute_lt, htime.second_lt, fun hleap => ?_⟩
  have hsecond := h.second_of_leap hleap
  have hkept := second_ofTimestamp (m.timestamp - offset)
  simp only [Moment.timestamp, daySeconds, hsecond] at hkept
  have hgoal : (m.behind offset).second =
      (Moment.ofTimestamp (m.timestamp - offset)).second := rfl
  rw [hgoal]
  simp only [Moment.timestamp, daySeconds, hsecond]
  omega

/-! The forms of a moment. -/

/-- Offsets are whole minutes. -/
theorem offset_of_scan {s rest : List Char} {offset : Int}
    (h : Scan.offset s = some (offset, rest)) : offset % 60 = 0 := by
  unfold Scan.offset at h
  split at h
  · obtain ⟨rfl, -⟩ := Prod.mk.inj (Option.some.inj h)
    rfl
  · obtain ⟨rfl, -⟩ := Prod.mk.inj (Option.some.inj h)
    rfl
  · -- whichever sign was read, hours and minutes come behind it
    dsimp only at h
    split_ifs at h
    all_goals
      obtain ⟨negative, -, h⟩ := Option.bind_eq_some_iff.mp h
      obtain ⟨⟨hours, _⟩, -, h⟩ := Option.bind_eq_some_iff.mp h
      obtain ⟨⟨_, _⟩, -, h⟩ := Option.bind_eq_some_iff.mp h
      obtain ⟨⟨minutes, _⟩, -, h⟩ := Option.bind_eq_some_iff.mp h
      dsimp only at h
      split_ifs at h
      all_goals
        obtain ⟨rfl, -⟩ := Prod.mk.inj (Option.some.inj h)
        omega
  · cases h

theorem exists_of_whole {α : Type} {read : Option (α × List Char)} {value : α}
    (h : whole read = some value) : read = some (value, []) := by
  unfold whole at h
  split at h
  · rw [Option.some.inj h]
  · cases h

theorem isTime_of_offsetMoment? {s : List Char} {m : Moment} (h : offsetMoment? s = some m) :
    m.IsTime := by
  unfold offsetMoment? at h
  -- the digits of the date and the time, and the marks between them
  iterate 12 obtain ⟨⟨_, _⟩, -, h⟩ := Option.bind_eq_some_iff.mp h
  obtain ⟨offset, hoffset, h⟩ := Option.bind_eq_some_iff.mp h
  obtain ⟨date, hdate, h⟩ := Option.bind_eq_some_iff.mp h
  obtain ⟨told, htold, h⟩ := Option.bind_eq_some_iff.mp h
  obtain rfl := Option.some.inj h
  exact isTime_behind (isTime_of_of? (isDay_of_of? hdate) htold)
    (offset_of_scan (exists_of_whole hoffset))

theorem isDay_of_yearFirst {mark : Option Char} {s rest : List Char} {d : Date}
    (h : yearFirst mark s = some (d, rest)) : d.IsDay := by
  unfold yearFirst at h
  iterate 5 obtain ⟨⟨_, _⟩, -, h⟩ := Option.bind_eq_some_iff.mp h
  obtain ⟨date, hdate, h⟩ := Option.bind_eq_some_iff.mp h
  obtain ⟨rfl, -⟩ := Prod.mk.inj (Option.some.inj h)
  exact isDay_of_of? hdate

theorem isDay_of_dayFirst {s rest : List Char} {d : Date} (h : dayFirst s = some (d, rest)) :
    d.IsDay := by
  unfold dayFirst at h
  iterate 5 obtain ⟨⟨_, _⟩, -, h⟩ := Option.bind_eq_some_iff.mp h
  obtain ⟨date, hdate, h⟩ := Option.bind_eq_some_iff.mp h
  obtain ⟨rfl, -⟩ := Prod.mk.inj (Option.some.inj h)
  exact isDay_of_of? hdate

theorem isTime_of_timeOn {withSeconds : Bool} {d : Date} {s rest : List Char} {m : Moment}
    (hd : d.IsDay) (h : timeOn withSeconds d s = some (m, rest)) : m.IsTime := by
  unfold timeOn at h
  iterate 3 obtain ⟨⟨_, _⟩, -, h⟩ := Option.bind_eq_some_iff.mp h
  dsimp only at h
  split_ifs at h
  · iterate 2 obtain ⟨⟨_, _⟩, -, h⟩ := Option.bind_eq_some_iff.mp h
    obtain ⟨told, htold, h⟩ := Option.bind_eq_some_iff.mp h
    obtain ⟨rfl, -⟩ := Prod.mk.inj (Option.some.inj h)
    exact isTime_of_of? hd htold
  · obtain ⟨⟨_, _⟩, -, h⟩ := Option.bind_eq_some_iff.mp h
    obtain ⟨told, htold, h⟩ := Option.bind_eq_some_iff.mp h
    obtain ⟨rfl, -⟩ := Prod.mk.inj (Option.some.inj h)
    exact isTime_of_of? hd htold

theorem isTime_of_localMoment? {separator : Scan Unit} {withSeconds : Bool} {s : List Char}
    {m : Moment} (h : localMoment? separator withSeconds s = some m) : m.IsTime := by
  unfold localMoment? at h
  obtain ⟨⟨date, _⟩, hdate, h⟩ := Option.bind_eq_some_iff.mp h
  obtain ⟨⟨_, _⟩, -, h⟩ := Option.bind_eq_some_iff.mp h
  exact isTime_of_timeOn (isDay_of_yearFirst hdate) (exists_of_whole h)

theorem isTime_of_dateMoment? {scan : Scan Date} (hscan : ∀ {s rest : List Char} {d : Date},
    scan s = some (d, rest) → d.IsDay) {s : List Char} {m : Moment}
    (h : dateMoment? scan s = some m) : m.IsTime := by
  obtain ⟨date, hdate, rfl⟩ := Option.map_eq_some_iff.mp h
  exact isTime_ofDate (hscan (exists_of_whole hdate))

theorem isTime_of_yearMoment? {s : List Char} {m : Moment} (h : yearMoment? s = some m) :
    m.IsTime := by
  unfold yearMoment? at h
  obtain ⟨year, -, h⟩ := Option.bind_eq_some_iff.mp h
  obtain ⟨date, hdate, h⟩ := Option.bind_eq_some_iff.mp h
  obtain rfl := Option.some.inj h
  exact isTime_ofDate (isDay_of_of? hdate)

theorem isTime_of_secondsMoment? {s : List Char} {m : Moment} (h : secondsMoment? s = some m) :
    m.IsTime := by
  obtain ⟨seconds, -, h⟩ := Option.bind_eq_some_iff.mp h
  rw [Moment.ofTimestamp?] at h
  split_ifs at h
  obtain rfl := Option.some.inj h
  exact isTime_ofTimestamp seconds

/-- A moment that was read is a time of a day of the calendar. -/
theorem isTime_of_readMoment? {s : List Char} {m : Moment} (h : readMoment? s = some m) :
    m.IsTime := by
  unfold readMoment? at h
  simp only at h
  split at h
  · rename_i spelled hspelled
    obtain rfl := Option.some.inj h
    obtain ⟨form, hform, hread⟩ := List.exists_of_findSome?_eq_some hspelled
    simp only [List.mem_cons, List.not_mem_nil, or_false] at hform
    rcases hform with rfl | rfl | rfl | rfl | rfl | rfl | rfl
    · exact isTime_of_offsetMoment? hread
    · exact isTime_of_localMoment? hread
    · exact isTime_of_localMoment? hread
    · exact isTime_of_localMoment? hread
    · exact isTime_of_dateMoment? isDay_of_yearFirst hread
    · exact isTime_of_dateMoment? isDay_of_dayFirst hread
    · exact isTime_of_dateMoment? isDay_of_yearFirst hread
  · split_ifs at h
    · exact isTime_of_yearMoment? h
    · exact isTime_of_secondsMoment? h

end Crosswalk.Calendar
