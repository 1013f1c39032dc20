import FlightCaption.Calendar.Clock
import FlightCaption.Proofs.Calendar.MixedRadix
import FlightCaption.Proofs.Calendar.Pattern
import FlightCaption.Proofs.Text.Numerals

/-!
# Clock texts read back

A time of day, an elapsed time and a universal time are texts of numbers with fixed characters
between them. This module says what these texts look like, and that the numbers can be read back, so
that no two times have the same text.

1. The shape of each text is a predicate on the parts that it shows (`TimeParts.IsClock`,
   `TimeParts.IsDuration`, `IsUniversalTime`).
2. The numbers of a text of one of these shapes are the parts, in the order in which they stand
   there. An elapsed time leaves parts out, and these are zero.
3. An elapsed time does not show years below zero. So what is read back from it is the time itself
   where that is not negative, and else the rest of the time by whole years.

Main statements: `TimeParts.IsDuration.ofNumbers?_numbers` and `TimeParts.total_shown`.
-/

namespace FlightCaption

open Text (IsNumeral isNumeral_toString numbers)
open Numeric (Binary64)

namespace TimeParts

/-! ## Time of day -/

/-- A text is a time of day: hours, and minutes and seconds on at least two digits. -/
def IsClock (parts : TimeParts) (text : String) : Prop :=
  ∃ minutes seconds, text = toString parts.hours ++ ":" ++ minutes ++ ":" ++ seconds ∧
    IsNumeral 2 parts.minutes minutes ∧ IsNumeral 2 parts.seconds seconds

theorem isClock_clock (parts : TimeParts) : parts.IsClock parts.clock := by
  refine ⟨_, _, ?_, Text.isNumeral_paddedInteger _ _, Text.isNumeral_paddedInteger _ _⟩
  rw [clock, Text.paddedInteger_one, Text.integer_eq_toString]

theorem IsClock.numbers_toList {parts : TimeParts} {text : String} (h : parts.IsClock text) :
    numbers text.toList = [parts.hours, parts.minutes, parts.seconds] := by
  obtain ⟨minutes, seconds, rfl, hminutes, hseconds⟩ := h
  have hhours := isNumeral_toString parts.hours
  simp only [String.append_assoc]
  rw [hhours.numbers_append (by decide), hminutes.numbers_append (by decide),
    hseconds.numbers_toList]

end TimeParts

/-! ## Elapsed time -/

theorem Units.Valid.secondsPerYear_pos {units : Units} (hvalid : units.Valid) :
    0 < units.secondsPerYear := by
  have hhour : 0 < units.secondsPerHour :=
    mul_pos (hvalid .secondsPerMinute) (hvalid .minutesPerHour)
  have hday : 0 < units.secondsPerDay := mul_pos hhour (hvalid .hoursPerDay)
  exact mul_pos hday (hvalid .daysPerYear)

namespace TimeParts

/-- A text is an elapsed time: the years unless they are zero, the days unless both are zero, and
    the time of day. -/
def IsDuration (parts : TimeParts) (text : String) : Prop :=
  ∃ clock, parts.IsClock clock ∧ text =
    (if parts.years ≠ 0 then toString parts.years ++ "y, " else "") ++
      (if parts.years ≠ 0 ∨ parts.days ≠ 0 then toString parts.days ++ "d, " else "") ++ clock

/-- The parts that an elapsed time shows by its numbers. Parts that it leaves out are zero. -/
def ofNumbers? : List ℤ → Option TimeParts
  | [years, days, hours, minutes, seconds] => some { seconds, minutes, hours, days, years }
  | [days, hours, minutes, seconds] => some { seconds, minutes, hours, days }
  | [hours, minutes, seconds] => some { seconds, minutes, hours }
  | _ => none

/-- **The parts of an elapsed time are read back from its text.** -/
theorem IsDuration.ofNumbers?_numbers {parts : TimeParts} {text : String}
    (h : parts.IsDuration text) : ofNumbers? (numbers text.toList) = some parts := by
  obtain ⟨clock, hclock, rfl⟩ := h
  obtain ⟨seconds, minutes, hours, days, years⟩ := parts
  have hnumbers : numbers clock.toList = [hours, minutes, seconds] := hclock.numbers_toList
  have hyears := isNumeral_toString years
  have hdays := isNumeral_toString days
  by_cases hyear : years = 0
  · subst hyear
    by_cases hday : days = 0
    · -- Nothing stands before the time of day
      subst hday
      simp only [ne_eq, not_true, or_self, if_false, String.empty_append, hnumbers, ofNumbers?]
    · simp only [hday, ne_eq, not_true, not_false_eq_true, or_true, if_true, if_false,
        String.empty_append, String.append_assoc]
      rw [hdays.numbers_append (by decide), hnumbers, ofNumbers?]
  · -- Years bring the days along, also if these are zero
    simp only [hyear, ne_eq, not_false_eq_true, true_or, if_true, String.append_assoc]
    rw [hyears.numbers_append (by decide), hdays.numbers_append (by decide), hnumbers, ofNumbers?]

/-- A text is the elapsed time of some parts only. -/
theorem IsDuration.unique {parts parts' : TimeParts} {text : String} (h : parts.IsDuration text)
    (h' : parts'.IsDuration text) : parts = parts' :=
  Option.some.inj (h.ofNumbers?_numbers.symm.trans h'.ofNumbers?_numbers)

/-- The parts that an elapsed time shows: years below zero are left out. -/
def shown (parts : TimeParts) : TimeParts :=
  { parts with years := max 0 parts.years }

theorem isDuration_duration {parts : TimeParts} (hdays : 0 ≤ parts.days) :
    parts.shown.IsDuration parts.duration := by
  refine ⟨parts.clock, isClock_clock parts, ?_⟩
  have hday : 0 < parts.days ↔ parts.days ≠ 0 := by omega
  rcases lt_or_ge 0 parts.years with hyears | hyears
  · have hmax : max 0 parts.years = parts.years := max_eq_right hyears.le
    simp [duration, shown, hmax, hyears, hyears.ne', Text.integer_eq_toString]
  · have hmax : max 0 parts.years = 0 := max_eq_left hyears
    simp [duration, shown, hmax, hyears.not_gt, hday, Text.integer_eq_toString]

/-- The years of a time are its whole years in seconds. -/
theorem years_ofSeconds {units : Units} (hvalid : units.Valid) (seconds : ℤ) :
    (ofSeconds units seconds).years = seconds / units.secondsPerYear := by
  have hminute := (hvalid .secondsPerMinute).le
  have hhour : 0 ≤ units.secondsPerHour := mul_nonneg hminute (hvalid .minutesPerHour).le
  have hday : 0 ≤ units.secondsPerDay := mul_nonneg hhour (hvalid .hoursPerDay).le
  -- The units are taken out one after the other, which divides by their product
  rw [Units.secondsPerYear, ← Int.ediv_ediv_of_nonneg hday, Units.secondsPerDay,
    ← Int.ediv_ediv_of_nonneg hhour, Units.secondsPerHour, ← Int.ediv_ediv_of_nonneg hminute]
  rfl

/-- An elapsed time that is not negative shows all of its parts. -/
theorem shown_ofSeconds {units : Units} (hvalid : units.Valid) {seconds : ℤ}
    (hseconds : 0 ≤ seconds) : (ofSeconds units seconds).shown = ofSeconds units seconds := by
  have hyears : 0 ≤ (ofSeconds units seconds).years := by
    rw [years_ofSeconds hvalid]
    exact Int.ediv_nonneg hseconds hvalid.secondsPerYear_pos.le
  rw [shown, max_eq_right hyears]

/-- Other years change the time by as many years. -/
theorem total_withYears (units : Units) (parts : TimeParts) (years : ℤ) :
    { parts with years }.total units =
      parts.total units + units.secondsPerYear * (years - parts.years) := by
  simp only [total, Units.secondsPerYear, Units.secondsPerDay, Units.secondsPerHour]
  ring

/-- **An elapsed time shows the time itself unless that is negative**, and then the time less its
    whole years. -/
theorem total_shown {units : Units} (hvalid : units.Valid) (seconds : ℤ) :
    (ofSeconds units seconds).shown.total units =
      if 0 ≤ seconds then seconds else seconds % units.secondsPerYear := by
  split
  · next hseconds => rw [shown_ofSeconds hvalid hseconds, total_ofSeconds]
  · next hseconds =>
    have hyears : (ofSeconds units seconds).years < 0 := by
      rw [years_ofSeconds hvalid]
      exact Int.ediv_neg_of_neg_of_pos (not_le.mp hseconds) hvalid.secondsPerYear_pos
    rw [shown, max_eq_left hyears.le, total_withYears, total_ofSeconds, years_ofSeconds hvalid,
      Int.emod_def]
    ring

end TimeParts

/-! ## Mission time -/

theorem Text.numbers_sign {sign : String} (hsign : sign = "T- " ∨ sign = "T+ ") (text : String) :
    numbers (sign ++ text).toList = numbers text.toList := by
  rcases hsign with rfl | rfl
  · rw [String.toList_append]
    -- The minus sign could begin a numeral, but the space after it ends that
    show numbers ('T' :: '-' :: ' ' :: text.toList) = numbers text.toList
    rw [numbers_cons (by decide), numbers_minus_cons (by decide)]
  · exact numbers_gap_append (by decide) text

/-- A text is a mission time: the sign of a time and the elapsed time of some parts. -/
def IsMissionTime (time : Binary64) (parts : TimeParts) (text : String) : Prop :=
  ∃ duration, parts.IsDuration duration ∧
    (time.IsBelowZero ∧ text = "T- " ++ duration ∨ ¬ time.IsBelowZero ∧ text = "T+ " ++ duration)

theorem IsMissionTime.ofNumbers?_numbers {time : Binary64} {parts : TimeParts} {text : String}
    (h : IsMissionTime time parts text) :
    TimeParts.ofNumbers? (numbers text.toList) = some parts := by
  obtain ⟨duration, hduration, ⟨-, rfl⟩ | ⟨-, rfl⟩⟩ := h
  · rw [Text.numbers_sign (.inl rfl), hduration.ofNumbers?_numbers]
  · rw [Text.numbers_sign (.inr rfl), hduration.ofNumbers?_numbers]

/-- A text is the mission time of some parts only. -/
theorem IsMissionTime.unique {time time' : Binary64} {parts parts' : TimeParts} {text : String}
    (h : IsMissionTime time parts text) (h' : IsMissionTime time' parts' text) : parts = parts' :=
  Option.some.inj (h.ofNumbers?_numbers.symm.trans h'.ofNumbers?_numbers)

/-- The sign can be told from the second character. -/
theorem IsMissionTime.isBelowZero_iff {time : Binary64} {parts : TimeParts} {text : String}
    (h : IsMissionTime time parts text) : time.IsBelowZero ↔ text.toList[1]? = some '-' := by
  obtain ⟨duration, -, ⟨hsign, rfl⟩ | ⟨hsign, rfl⟩⟩ := h
  · simp [hsign]
  · simp [hsign]

/-! ## Universal time -/

/-- A text is a universal time: the calendar year, the day of the year on at least two digits, and
    the time of day. -/
def IsUniversalTime (year : ℤ) (parts : TimeParts) (text : String) : Prop :=
  ∃ day clock, text = "Y" ++ toString year ++ ", D" ++ day ++ ", " ++ clock ∧
    IsNumeral 2 parts.dayOfYear day ∧ parts.IsClock clock

theorem IsUniversalTime.numbers_toList {year : ℤ} {parts : TimeParts} {text : String}
    (h : IsUniversalTime year parts text) :
    numbers text.toList =
      [year, parts.dayOfYear, parts.hours, parts.minutes, parts.seconds] := by
  obtain ⟨day, clock, rfl, hday, hclock⟩ := h
  have hyear := isNumeral_toString year
  simp only [String.append_assoc]
  rw [Text.numbers_gap_append (by decide), hyear.numbers_append (by decide),
    hday.numbers_append (by decide), hclock.numbers_toList]

namespace Calendar

/-- A calendar writes a universal time for every time that it has a year for. -/
theorem exists_isUniversalTime {calendar : Calendar} {parts : TimeParts}
    (hyear : calendar.HasYear parts) :
    ∃ year text, calendar.yearOf parts = .ok year ∧ calendar.universalTime parts = .ok text ∧
      IsUniversalTime year parts text := by
  obtain ⟨year, hok⟩ := exists_yearOf_eq_ok_iff.mpr hyear
  refine ⟨year, _, hok, by rw [universalTime, hok]; rfl, _, _, ?_,
    Text.isNumeral_paddedInteger _ _, parts.isClock_clock⟩
  rw [Text.integer_eq_toString]

/-- The year of a time in a calendar tells the years of the time. -/
theorem years_eq_of_yearOf {calendar : Calendar} {parts parts' : TimeParts} {year : ℤ}
    (h : calendar.yearOf parts = .ok year) (h' : calendar.yearOf parts' = .ok year) :
    parts.years = parts'.years := by
  have hyear := yearOf_eq_ok (exists_yearOf_eq_ok_iff.mp ⟨year, h⟩)
  have hyear' := yearOf_eq_ok (exists_yearOf_eq_ok_iff.mp ⟨year, h'⟩)
  have hsame : parts.years + calendar.baseYear.toInt + 1 =
      parts'.years + calendar.baseYear.toInt + 1 :=
    Except.ok.inj (hyear.symm.trans (h.trans (h'.symm.trans hyear')))
  omega

/-- **A universal time in a calendar is that of one time only.** -/
theorem eq_of_isUniversalTime {calendar : Calendar} {parts parts' : TimeParts} {year year' : ℤ}
    {text : String} (hyear : calendar.yearOf parts = .ok year)
    (hyear' : calendar.yearOf parts' = .ok year') (h : IsUniversalTime year parts text)
    (h' : IsUniversalTime year' parts' text) : parts = parts' := by
  -- The first number tells the years, and the others are the parts themselves
  have hnumbers := h.numbers_toList.symm.trans h'.numbers_toList
  simp only [TimeParts.dayOfYear, List.cons.injEq, and_true] at hnumbers
  obtain ⟨rfl, hdays, hhours, hminutes, hseconds⟩ := hnumbers
  have hyears := years_eq_of_yearOf hyear hyear'
  cases parts
  cases parts'
  simp_all

/-- The parts of a time together are its whole seconds. -/
theorem total_split (calendar : Calendar) (time : Binary64) :
    (calendar.split time).total calendar.units = time.wholeSeconds := by
  rw [split, TimeParts.total_ofSeconds, time.floor64_eq_wholeSeconds]

/-- A calendar writes an elapsed time for every time, without its years if these are below zero. -/
theorem isDuration_duration_split (calendar : Calendar) (time : Binary64) :
    (calendar.split time).shown.IsDuration (calendar.split time).duration :=
  TimeParts.isDuration_duration
    (TimeParts.areDigits_ofSeconds calendar.units_valid.nonZero _).days.1

theorem total_shown_split (calendar : Calendar) (time : Binary64) :
    (calendar.split time).shown.total calendar.units =
      if 0 ≤ time.wholeSeconds then time.wholeSeconds
      else time.wholeSeconds % calendar.units.secondsPerYear := by
  rw [split, TimeParts.total_shown calendar.units_valid, time.floor64_eq_wholeSeconds]

/-- A calendar writes a mission time for every time, from the parts of its absolute value. -/
theorem isMissionTime_missionTime (calendar : Calendar) (time : Binary64) :
    IsMissionTime time (calendar.split time.abs) (calendar.missionTime time) := by
  have hshown : (calendar.split time.abs).shown = calendar.split time.abs := by
    apply TimeParts.shown_ofSeconds calendar.units_valid
    rw [time.abs.floor64_eq_wholeSeconds]
    exact time.wholeSeconds_abs_nonneg
  have hduration := calendar.isDuration_duration_split time.abs
  rw [hshown] at hduration
  refine ⟨_, hduration, ?_⟩
  rw [missionTime, ← Binary64.lt_zero_iff]
  split
  · next hsign => exact .inl ⟨hsign, rfl⟩
  · next hsign => exact .inr ⟨hsign, rfl⟩

/-- Times that are split into the same parts have the same whole seconds. -/
theorem wholeSeconds_eq_of_split_eq {calendar : Calendar} {u v : Binary64}
    (h : calendar.split u = calendar.split v) : u.wholeSeconds = v.wholeSeconds := by
  rw [← calendar.total_split u, ← calendar.total_split v, h]

end Calendar

end FlightCaption
