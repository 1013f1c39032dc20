import FlightCaption.Overlay
import FlightCaption.Proofs.Calendar.Concatenation
import FlightCaption.Proofs.Calendar.Pattern
import FlightCaption.Proofs.Text.Numerals

/-!
# Dates in numbers

A date in numbers is the calendar year, filled up to some width, the month and the day of the month,
with hyphens between them. The default pattern of a date is of this kind.

1. A day of the year is at most the thirty-sixth of its month, counted from the first day that the
   table has for that month. So month and day of the month tell the days of a year apart.
2. The last six characters of the text are month and day. What stands before them is the year,
   whatever its sign and its width.

Main statement: `Calendar.format_numericPattern_determines`.
-/

namespace FlightCaption

open Text (IsNumeral IsTwoDigits)

/-! ## Months and their days -/

theorem Month.ofDay_eq_ok {day : ℤ} (hday : 1 ≤ day ∧ day ≤ 426) :
    ∃ month : Month, ofDay day = .ok month ∧ (month.val : ℤ) = (100 * day - 1) / 3550 := by
  have hrange : 1 ≤ day ∧ day ≤ lastDay := hday
  refine ⟨_, by rw [ofDay, dif_pos hrange], ?_⟩
  show (((100 * day - 1) / 3550).toNat : ℤ) = (100 * day - 1) / 3550
  omega

/-- The table of first days follows the average length of the months, 35.5 days. -/
theorem Month.firstDay_eq (month : Month) : month.firstDay = 71 * month.val / 2 + 1 := by
  revert month
  decide

/-- The rule for the month of a day agrees with the table: no day comes before the first one of its
    month, and none more than 35 days after it. -/
theorem Month.firstDay_le {day : ℤ} {month : Month}
    (h : (month.val : ℤ) = (100 * day - 1) / 3550) :
    month.firstDay ≤ day ∧ day ≤ month.firstDay + 35 := by
  rw [firstDay_eq]
  omega

theorem Month.number_injective {month month' : Month} (h : month.number = month'.number) :
    month = month' := by
  rw [Month.number, Month.number] at h
  exact Fin.ext (by omega)

/-! ## The text -/

namespace Calendar

/-- The pattern of a date in numbers, with the year filled up to a width. -/
def numericPattern (width : ℕ) : String :=
  String.ofList (List.replicate width 'y') ++ "-MM-dd"

theorem ofChars_numericPattern {width : ℕ} (hwidth : 1 ≤ width) :
    Run.ofChars (numericPattern width).toList =
      [⟨'y', width⟩, ⟨'-', 1⟩, ⟨'M', 2⟩, ⟨'-', 1⟩, ⟨'d', 2⟩] := by
  rw [Run.ofChars_eq_iff]
  refine ⟨?_, ?_, ?_⟩
  · simp
    omega
  · simp
  · simp [Run.chars, numericPattern]

/-- The text of a date in numbers: year, month and day of the month. -/
theorem format_numericPattern {calendar : Calendar} {parts : TimeParts} {width : ℕ} {month : Month}
    (hwidth : 1 ≤ width ∧ width ≤ 65535) (hyear : calendar.HasYear parts)
    (hmonth : Month.ofDay parts.dayOfYear = .ok month) :
    calendar.format parts (numericPattern width) =
      .ok (Text.paddedInteger width (parts.years + calendar.baseYear.toInt + 1) ++ "-" ++
        Text.paddedInteger 2 month.number ++ "-" ++
        Text.paddedInteger 2 (parts.dayOfYear - month.firstDay + 1)) := by
  have hyear : (DateField.ofRun ⟨'y', width⟩).write calendar parts =
      .ok (Text.paddedInteger width (parts.years + calendar.baseYear.toInt + 1)) := by
    show (DateField.year width).write calendar parts = _
    rw [DateField.write, yearOf_eq_ok hyear, ok_bind, DateField.padded, DateField.maxWidth,
      if_pos hwidth.2]
  have hhyphen : (DateField.ofRun ⟨'-', 1⟩).write calendar parts = .ok "-" := rfl
  have hnumber : (DateField.ofRun ⟨'M', 2⟩).write calendar parts =
      .ok (Text.paddedInteger 2 month.number) := by
    show (DateField.monthNumber 2).write calendar parts = _
    rw [DateField.write, hmonth]
    rfl
  have hday : (DateField.ofRun ⟨'d', 2⟩).write calendar parts =
      .ok (Text.paddedInteger 2 (parts.dayOfYear - month.firstDay + 1)) := by
    show (DateField.dayOfMonth 2).write calendar parts = _
    rw [DateField.write, dayOfMonth, hmonth]
    rfl
  rw [format_eq_writeRuns, ofChars_numericPattern hwidth.1]
  simp only [writeRuns_cons, writeRuns_nil, hyear, hhyphen, hnumber, hday, ok_bind,
    String.append_empty, String.append_assoc, pure, Except.pure]

end Calendar

/-! ## Reading the text -/

/-- Texts that end in equally long pieces are the same only if they are so piece by piece. -/
theorem eq_and_eq_of_append_eq {first second first' second' : String}
    (h : first ++ second = first' ++ second') (hlength : second.length = second'.length) :
    first = first' ∧ second = second' := by
  have hlists : first.toList ++ second.toList = first'.toList ++ second'.toList := by
    rw [← String.toList_append, h, String.toList_append]
  obtain ⟨hfirst, hsecond⟩ := List.append_inj' hlists (by simpa only [String.length_toList])
  exact ⟨String.toList_inj.mp hfirst, String.toList_inj.mp hsecond⟩

/-- A text is a date in numbers: a year, filled up to a width, and a month and a day of the month
    on two digits each, with hyphens between them. -/
def IsNumericDate (width : ℕ) (year month day : ℤ) (text : String) : Prop :=
  ∃ yearText monthText dayText, text = yearText ++ "-" ++ monthText ++ "-" ++ dayText ∧
    IsNumeral width year yearText ∧
    (IsNumeral 2 month monthText ∧ IsTwoDigits monthText) ∧
    IsNumeral 2 day dayText ∧ IsTwoDigits dayText

/-- A text is at most one date in numbers. -/
theorem IsNumericDate.unique {width width' : ℕ} {year year' month month' day day' : ℤ}
    {text : String} (h : IsNumericDate width year month day text)
    (h' : IsNumericDate width' year' month' day' text) :
    year = year' ∧ month = month' ∧ day = day' := by
  obtain ⟨yearText, monthText, dayText, rfl, hyear, ⟨hmonth, hmonth2⟩, hday, hday2⟩ := h
  obtain ⟨yearText', monthText', dayText', htext, hyear', ⟨hmonth', hmonth2'⟩, hday', hday2'⟩ := h'
  -- The lengths are known from the end of the text on: two digits, a hyphen, two digits, a hyphen
  obtain ⟨hhyphen, rfl⟩ := eq_and_eq_of_append_eq htext (hday2.1.trans hday2'.1.symm)
  obtain ⟨hyearMonth, -⟩ := eq_and_eq_of_append_eq hhyphen rfl
  obtain ⟨hyearHyphen, rfl⟩ := eq_and_eq_of_append_eq hyearMonth (hmonth2.1.trans hmonth2'.1.symm)
  obtain ⟨rfl, -⟩ := eq_and_eq_of_append_eq hyearHyphen rfl
  exact ⟨hyear.eq_of_reads hyear', hmonth.eq_of_reads hmonth', hday.eq_of_reads hday'⟩

namespace Calendar

/-- The parts of a time have a date in numbers: the day is one of the 426 of the year, and the
    calendar has a year for them. -/
def HasDate (calendar : Calendar) (parts : TimeParts) : Prop :=
  (0 ≤ parts.days ∧ parts.days ≤ 425) ∧ calendar.HasYear parts

/-- A date is written as a date in numbers, and its month and day of the month stand for its day of
    the year. -/
theorem exists_isNumericDate {calendar : Calendar} {parts : TimeParts} {width : ℕ}
    (hwidth : 1 ≤ width ∧ width ≤ 65535) (hdate : calendar.HasDate parts) :
    ∃ text month day, calendar.format parts (numericPattern width) = .ok text ∧
      Month.ofDay parts.dayOfYear = .ok month ∧ dayOfMonth parts.dayOfYear = .ok day ∧
      IsNumericDate width (parts.years + calendar.baseYear.toInt + 1) month.number day text := by
  obtain ⟨hdays, hyear⟩ := hdate
  have hday : 1 ≤ parts.dayOfYear ∧ parts.dayOfYear ≤ 426 := by
    rw [TimeParts.dayOfYear]
    omega
  obtain ⟨month, hmonth, hrule⟩ := Month.ofDay_eq_ok hday
  obtain ⟨hfirst, hlast⟩ := Month.firstDay_le hrule
  have hdayOfMonth : dayOfMonth parts.dayOfYear =
      .ok (parts.dayOfYear - month.firstDay + 1) := by
    rw [dayOfMonth, hmonth]
    rfl
  -- Two digits are enough for the month and for the day of the month
  have hnumber : 0 ≤ month.number ∧ month.number < 100 := by
    rw [Month.number]
    omega
  refine ⟨_, month, _, format_numericPattern hwidth hyear hmonth, hmonth, hdayOfMonth, _, _, _,
    rfl, Text.isNumeral_paddedInteger _ _, ⟨Text.isNumeral_paddedInteger _ _, ?_⟩,
    Text.isNumeral_paddedInteger _ _, ?_⟩
  · exact (Text.isNumeral_paddedInteger _ _).isTwoDigits hnumber
  · exact (Text.isNumeral_paddedInteger _ _).isTwoDigits (by omega)

/-- Month and day of the month tell the days of a year apart. -/
theorem eq_of_dayOfMonth {day other n : ℤ} {month : Month} (hmonth : Month.ofDay day = .ok month)
    (hday : dayOfMonth day = .ok n) (hmonth' : Month.ofDay other = .ok month)
    (hday' : dayOfMonth other = .ok n) : day = other := by
  rw [dayOfMonth, hmonth] at hday
  rw [dayOfMonth, hmonth'] at hday'
  have hsame : day - month.firstDay + 1 = other - month.firstDay + 1 :=
    Except.ok.inj (hday.trans hday'.symm)
  omega

/-- **A date in numbers determines the year and the day.** It is read back from the text: the last
    two numbers are the month and the day of the month, on two digits each, and the first is the
    year, negative ones included, on as many characters as the pattern asks for, or on more if it
    needs them. -/
theorem format_numericPattern_determines (calendar : Calendar) {width : ℕ}
    (hwidth : 1 ≤ width ∧ width ≤ 65535) :
    numericPattern 3 = ({} : Overlay).datePattern ∧
    (∀ parts, calendar.HasDate parts →
      ∃ text month day, calendar.format parts (numericPattern width) = .ok text ∧
        Month.ofDay parts.dayOfYear = .ok month ∧ dayOfMonth parts.dayOfYear = .ok day ∧
        IsNumericDate width (parts.years + calendar.baseYear.toInt + 1) month.number day text) ∧
    ∀ parts other, calendar.HasDate parts → calendar.HasDate other →
      calendar.format parts (numericPattern width) =
        calendar.format other (numericPattern width) →
      parts.years = other.years ∧ parts.days = other.days := by
  refine ⟨by decide, fun parts hdate => exists_isNumericDate hwidth hdate, ?_⟩
  intro parts other hdate hother hformat
  obtain ⟨text, month, day, htext, hmonth, hday, hread⟩ := exists_isNumericDate hwidth hdate
  obtain ⟨text', month', day', htext', hmonth', hday', hread'⟩ :=
    exists_isNumericDate hwidth hother
  obtain rfl : text = text' := Except.ok.inj (htext.symm.trans (hformat.trans htext'))
  obtain ⟨hyears, hnumber, rfl⟩ := hread.unique hread'
  obtain rfl : month = month' := Month.number_injective hnumber
  have hdays := eq_of_dayOfMonth hmonth hday hmonth' hday'
  rw [TimeParts.dayOfYear, TimeParts.dayOfYear] at hdays
  constructor <;> omega

/-- The last day of the second month and the first day of the third one, in the fifth year before
    the epoch and with its sign among four characters. -/
theorem format_numericPattern_monthEnd :
    let calendar := (default : Calendar).withBaseYear (-5)
    (1 ≤ 4 ∧ 4 ≤ 65535) ∧ calendar.HasDate { days := 70 } ∧ calendar.HasDate { days := 71 } ∧
      calendar.format { days := 70 } (numericPattern 4) = .ok "-004-02-36" ∧
      calendar.format { days := 71 } (numericPattern 4) ≠ .ok "-004-02-36" := by
  intro calendar
  have hlast : calendar.HasDate { days := 70 } := ⟨by decide, by decide, by decide⟩
  have hfirst : calendar.HasDate { days := 71 } := ⟨by decide, by decide, by decide⟩
  have htext : calendar.format { days := 70 } (numericPattern 4) = .ok "-004-02-36" := by
    decide +kernel
  refine ⟨by decide, hlast, hfirst, htext, fun hsame => ?_⟩
  obtain ⟨-, -, hunique⟩ := @format_numericPattern_determines calendar 4 (by decide)
  have hdays := (hunique _ _ hlast hfirst (htext.trans hsame.symm)).2
  exact absurd hdays (by decide)

end Calendar

end FlightCaption
