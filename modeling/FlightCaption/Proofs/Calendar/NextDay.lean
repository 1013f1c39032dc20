import FlightCaption.Proofs.Calendar.MixedRadix
import FlightCaption.Proofs.Calendar.NumericDate

/-!
# From one day to the next

Two times that are one day apart have the same time of day. This module says what becomes of the
date, in three layers:

1. A day is one unit of the fourth digit of a time, whatever the lengths of the units are. Adding it
   counts the days up, or starts a new year behind the last day of the old one.
2. From a day to the next the month stays, or the next one starts there. So the month table skips no
   day and repeats none.
3. Weekdays follow each other in a cycle. Every year starts with the first of them, which interrupts
   the cycle unless a year has whole weeks.

Main statement: `Calendar.split_nextDay`.
-/

namespace FlightCaption

open Numeric (Binary64)

/-! ## Days and years -/

namespace TimeParts

/-- The same time of day on the next day. -/
def nextDay (units : Units) (parts : TimeParts) : TimeParts :=
  if parts.days + 1 < units.length .daysPerYear then { parts with days := parts.days + 1 }
  else { parts with days := 0, years := parts.years + 1 }

theorem total_nextDay {units : Units} {parts : TimeParts}
    (hdays : parts.days < units.length .daysPerYear) :
    (parts.nextDay units).total units = parts.total units + units.secondsPerDay := by
  rw [nextDay]
  split
  · simp only [total, Units.secondsPerDay, Units.secondsPerHour]
    ring
  · -- The last day of the year: the days that are given up make the year that is added
    have hlast : parts.days = units.length .daysPerYear - 1 := by omega
    simp only [total, Units.secondsPerDay, Units.secondsPerHour, hlast]
    ring

theorem AreDigits.nextDay {units : Units} {parts : TimeParts} (hdigits : parts.AreDigits units)
    (hvalid : units.Valid) : (parts.nextDay units).AreDigits units := by
  obtain ⟨hseconds, hminutes, hhours, hnonneg, -⟩ := hdigits
  have hyear : 0 < units.length .daysPerYear := hvalid .daysPerYear
  rw [TimeParts.nextDay]
  split
  · next hmore =>
    have hnext : 0 ≤ parts.days + 1 := by omega
    refine ⟨hseconds, hminutes, hhours, hnext, ?_⟩
    rwa [abs_of_pos hyear]
  · exact ⟨hseconds, hminutes, hhours, le_refl 0, abs_pos.mpr hyear.ne'⟩

/-- **A day later**, splitting finds the same time of day on the next day. -/
theorem ofSeconds_add_secondsPerDay {units : Units} (hvalid : units.Valid) (seconds : ℤ) :
    ofSeconds units (seconds + units.secondsPerDay) = (ofSeconds units seconds).nextDay units := by
  have hdigits := areDigits_ofSeconds hvalid.nonZero seconds
  have hdays : (ofSeconds units seconds).days < units.length .daysPerYear :=
    Int.emod_lt_of_pos _ (hvalid .daysPerYear)
  have htotal := total_nextDay hdays
  rw [total_ofSeconds] at htotal
  -- The parts of the next day are digits and make the later time, so splitting finds them
  rw [← htotal]
  exact ofSeconds_total hvalid.nonZero (hdigits.nextDay hvalid)

end TimeParts

/-! ## Months -/

/-- The month of the next day is the same one, or it is the one after and starts on that day. -/
theorem Month.ofDay_add_one {day : ℤ} (hday : 1 ≤ day ∧ day + 1 ≤ 426) :
    ∃ month month' : Month, ofDay day = .ok month ∧ ofDay (day + 1) = .ok month' ∧
      (month' = month ∨ month'.number = month.number + 1 ∧ month'.firstDay = day + 1) := by
  have hfirst : 1 ≤ day ∧ day ≤ 426 := by omega
  have hsecond : 1 ≤ day + 1 ∧ day + 1 ≤ 426 := by omega
  obtain ⟨month, hmonth, hrule⟩ := ofDay_eq_ok hfirst
  obtain ⟨month', hmonth', hrule'⟩ := ofDay_eq_ok hsecond
  refine ⟨month, month', hmonth, hmonth', ?_⟩
  -- A day is shorter than a month, so at most one month is passed
  have hstep : (month'.val : ℤ) = month.val ∨ (month'.val : ℤ) = month.val + 1 := by omega
  rcases hstep with hsame | hnext
  · exact .inl (Fin.ext (by omega))
  · refine .inr ⟨by rw [number, number, hnext], ?_⟩
    rw [firstDay_eq]
    omega

theorem dayOfMonth_eq_ok {day : ℤ} {month : Month} (hmonth : Month.ofDay day = .ok month) :
    dayOfMonth day = .ok (day - month.firstDay + 1) := by
  rw [dayOfMonth, hmonth]
  rfl

/-- The date of a day, given by its parts, its month and its day of the month, and that of the day
    after it. -/
inductive FollowsDate (units : Units) (p : TimeParts) (month : Month) (day : ℤ)
    (q : TimeParts) (month' : Month) (day' : ℤ) : Prop where
  /-- Within a month the day is counted up. -/
  | sameMonth : q.years = p.years → month'.number = month.number → day' = day + 1 →
      FollowsDate units p month day q month' day'
  /-- The next month starts with its first day. -/
  | nextMonth : q.years = p.years → month'.number = month.number + 1 → day' = 1 →
      FollowsDate units p month day q month' day'
  /-- The next year starts with the first day of its first month. -/
  | nextYear : p.dayOfYear = units.length .daysPerYear → q.years = p.years + 1 →
      q.dayOfYear = 1 → month'.number = 1 → day' = 1 →
      FollowsDate units p month day q month' day'

/-- The dates of a day in a year that the month table covers and of the day after it. -/
theorem followsDate_nextDay {units : Units} {parts : TimeParts}
    (hyear : units.length .daysPerYear ≤ 426)
    (hdays : 0 ≤ parts.days ∧ parts.days < units.length .daysPerYear) :
    ∃ month day month' day',
      Month.ofDay parts.dayOfYear = .ok month ∧ dayOfMonth parts.dayOfYear = .ok day ∧
      Month.ofDay (parts.nextDay units).dayOfYear = .ok month' ∧
      dayOfMonth (parts.nextDay units).dayOfYear = .ok day' ∧
      FollowsDate units parts month day (parts.nextDay units) month' day' := by
  rw [TimeParts.nextDay]
  split
  · next hmore =>
    -- Within the year the table decides whether a month starts
    have hrange : 1 ≤ parts.dayOfYear ∧ parts.dayOfYear + 1 ≤ 426 := by
      rw [TimeParts.dayOfYear]
      omega
    obtain ⟨month, month', hmonth, hmonth', hnext⟩ := Month.ofDay_add_one hrange
    refine ⟨month, _, month', _, hmonth, dayOfMonth_eq_ok hmonth, hmonth',
      dayOfMonth_eq_ok hmonth', ?_⟩
    rcases hnext with rfl | ⟨hnumber, hfirst⟩
    · refine .sameMonth rfl rfl ?_
      simp only [TimeParts.dayOfYear]
      ring
    · refine .nextMonth rfl hnumber ?_
      rw [hfirst]
      simp only [TimeParts.dayOfYear]
      ring
  · next hlast =>
    -- Days are counted from one again, and that is where the first month starts
    have hrange : 1 ≤ parts.dayOfYear ∧ parts.dayOfYear ≤ 426 := by
      rw [TimeParts.dayOfYear]
      omega
    obtain ⟨month, hmonth, -⟩ := Month.ofDay_eq_ok hrange
    have hfirst : Month.ofDay 1 = .ok 0 := rfl
    refine ⟨month, _, 0, 1, hmonth, dayOfMonth_eq_ok hmonth, hfirst, dayOfMonth_eq_ok hfirst, ?_⟩
    refine .nextYear ?_ rfl rfl rfl rfl
    rw [TimeParts.dayOfYear]
    omega

/-! ## Weekdays -/

theorem Weekday.number_ofDay (day : ℤ) : (ofDay day).number = (day - 1) % 6 + 1 := by
  have hrest : (((day - 1) % 6).toNat : ℤ) = (day - 1) % 6 :=
    Int.toNat_of_nonneg (Int.emod_nonneg _ (by decide))
  rw [number, ofDay, hrest]

/-- Weekdays follow each other in a cycle of six. -/
theorem Weekday.number_ofDay_add_one (day : ℤ) :
    (ofDay (day + 1)).number = if (ofDay day).number = 6 then 1 else (ofDay day).number + 1 := by
  rw [number_ofDay, number_ofDay]
  split <;> omega

/-- Whole weeks do not change the weekday. -/
theorem Weekday.ofDay_add_of_dvd {days : ℤ} (hweeks : 6 ∣ days) (day : ℤ) :
    ofDay (days + day) = ofDay day := by
  have hrest : (days + day - 1) % 6 = (day - 1) % 6 := by omega
  simp only [ofDay, hrest]

/-- The next day has the next weekday, unless it starts a year after one without whole weeks. -/
theorem number_ofDay_nextDay {units : Units} {parts : TimeParts}
    (hdays : parts.days < units.length .daysPerYear)
    (hcycle : (parts.nextDay units).years = parts.years ∨ 6 ∣ units.length .daysPerYear) :
    (Weekday.ofDay (parts.nextDay units).dayOfYear).number =
      if (Weekday.ofDay parts.dayOfYear).number = 6 then 1
      else (Weekday.ofDay parts.dayOfYear).number + 1 := by
  rw [← Weekday.number_ofDay_add_one]
  rw [TimeParts.nextDay] at hcycle ⊢
  split at hcycle
  · next hmore =>
    rw [if_pos hmore]
    rfl
  · next hlast =>
    rw [if_neg hlast]
    -- The year changes, so that years have whole weeks, and a week starts with every year
    have hweeks : 6 ∣ units.length .daysPerYear := by
      rcases hcycle with hsame | hweeks
      · simp at hsame
      · exact hweeks
    have hday : parts.dayOfYear + 1 = units.length .daysPerYear + 1 := by
      rw [TimeParts.dayOfYear]
      omega
    rw [hday, Weekday.ofDay_add_of_dvd hweeks]
    rfl

/-! ## The next day of a calendar -/

/-- **The date advances correctly from each day to the next.** Where the years of a calendar are no
    longer than the month table, and two finite times in range are one day apart in whole seconds,
    the time of day is the same, both days have a month and a day of the month, and the second date
    follows the first one. The weekday is the next one in the cycle, within a year and where years
    have whole weeks. -/
theorem Calendar.split_nextDay {calendar : Calendar} {u v : Binary64} {seconds : ℤ}
    (hyear : calendar.units.length .daysPerYear ≤ 426) (hu : u.HasFloor seconds)
    (hv : v.HasFloor (seconds + calendar.units.secondsPerDay)) :
    let p := calendar.split u
    let q := calendar.split v
    (q.seconds = p.seconds ∧ q.minutes = p.minutes ∧ q.hours = p.hours) ∧
    (∃ month day month' day',
      Month.ofDay p.dayOfYear = .ok month ∧ dayOfMonth p.dayOfYear = .ok day ∧
      Month.ofDay q.dayOfYear = .ok month' ∧ dayOfMonth q.dayOfYear = .ok day' ∧
      FollowsDate calendar.units p month day q month' day') ∧
    (q.years = p.years ∨ 6 ∣ calendar.units.length .daysPerYear →
      (Weekday.ofDay q.dayOfYear).number =
        if (Weekday.ofDay p.dayOfYear).number = 6 then 1
        else (Weekday.ofDay p.dayOfYear).number + 1) := by
  intro p q
  have hvalid : calendar.units.Valid := calendar.units_valid
  -- Nothing is cut, so both splits are those of whole seconds, and these are a day apart
  have hp : p = TimeParts.ofSeconds calendar.units seconds := by
    rw [← hu.wholeSeconds_eq, ← u.floor64_eq_wholeSeconds]
    rfl
  have hq : q = p.nextDay calendar.units := by
    rw [hp, ← TimeParts.ofSeconds_add_secondsPerDay hvalid, ← hv.wholeSeconds_eq,
      ← v.floor64_eq_wholeSeconds]
    rfl
  have hdays : 0 ≤ p.days ∧ p.days < calendar.units.length .daysPerYear := by
    have hdigits := (TimeParts.areDigits_ofSeconds hvalid.nonZero seconds).days
    rwa [← hp, abs_of_pos (hvalid .daysPerYear)] at hdigits
  rw [hq]
  refine ⟨?_, followsDate_nextDay hyear hdays, number_ofDay_nextDay hdays.2⟩
  rw [TimeParts.nextDay]
  split <;> exact ⟨rfl, rfl, rfl⟩

/-- The last day before the epoch and the first one after it: year, month and week start
    together. -/
theorem Calendar.split_nextDay_acrossEpoch :
    (default : Calendar).units.length .daysPerYear ≤ 426 ∧ (-1 : Binary64).HasFloor (-1) ∧
    (21599 : Binary64).HasFloor (-1 + (default : Calendar).units.secondsPerDay) ∧
    ((default : Calendar).split 21599).hours = 5 ∧
    FollowsDate (default : Calendar).units ((default : Calendar).split (-1)) 11 36
      ((default : Calendar).split 21599) 0 1 ∧
    (Weekday.ofDay ((default : Calendar).split 21599).dayOfYear).number = 1 := by
  have hyear : (default : Calendar).units.length .daysPerYear ≤ 426 := by decide
  have hu : (-1 : Binary64).HasFloor (-1) :=
    Binary64.hasFloor_of_floor64 (by decide +kernel) (by decide +kernel) (by decide)
  have hv : (21599 : Binary64).HasFloor (-1 + (default : Calendar).units.secondsPerDay) :=
    Binary64.hasFloor_of_floor64 (by decide +kernel) (by decide +kernel) (by decide)
  have hbefore : (default : Calendar).split (-1) = ⟨59, 59, 5, 425, -1⟩ := by decide +kernel
  have hafter : ((default : Calendar).split 21599).dayOfYear = 1 := by decide +kernel
  obtain ⟨⟨-, -, hhours⟩, ⟨month, day, month', day', hmonth, hday, hmonth', hday', hfollows⟩,
    hweekday⟩ := Calendar.split_nextDay hyear hu hv
  refine ⟨hyear, hu, hv, ?_, ?_, ?_⟩
  · rw [hhours, hbefore]
  · -- Month and day of the month are those of the days 426 and 1
    rw [hbefore] at hmonth hday
    rw [hafter] at hmonth' hday'
    obtain rfl : 11 = month := Except.ok.inj hmonth
    obtain rfl : 36 = day := Except.ok.inj hday
    obtain rfl : 0 = month' := Except.ok.inj hmonth'
    obtain rfl : 1 = day' := Except.ok.inj hday'
    exact hfollows
  · rw [hweekday (.inr (by decide)), hbefore]
    rfl

end FlightCaption
