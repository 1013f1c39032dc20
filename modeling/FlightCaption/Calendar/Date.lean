import FlightCaption.Calendar.Fault

/-!
# Months and weekdays

The calendar year has twelve months on 426 days and weeks of six days. Months average 35.5 days:
a day belongs to the month that its end, less a hundredth of a day, falls in, which makes months of
35 and 36 days. Days of the year are counted from one.
-/

namespace FlightCaption

open Numeric (Binary64)

/-- A month of the year, counted from zero. -/
abbrev Month := Fin 12

/-- A day of the week, counted from zero. -/
abbrev Weekday := Fin 6

/-- The last day of the year that belongs to a month. -/
def lastDay : Int := 426

namespace Month

/-- The month that a day of the year belongs to: `(day - 0.01) / 35.5`, rounded down. The quotient
is taken in whole numbers here; doubles give the same months (`ofDay_eq_ofDoubles`). -/
def ofDay (day : Int) : Except CalendarFault Month :=
  if h : 1 ≤ day ∧ day ≤ lastDay then
    .ok ⟨((100 * day - 1) / 3550).toNat, by have : lastDay = 426 := rfl; omega⟩
  else .error (.dayOutOfRange day lastDay)

/-- The number of the month, counted from one. -/
def number (month : Month) : Int :=
  month.val + 1

/-- The day of the year on which each month starts. -/
def firstDays : Vector Int 12 :=
  #v[1, 36, 72, 107, 143, 178, 214, 249, 285, 320, 356, 391]

/-- The day of the year on which the month starts. -/
def firstDay (month : Month) : Int :=
  firstDays[month]

/-! ## The month in doubles -/

/-- The number of a day's month, counted from zero, by operations on doubles, which round. -/
def ofDoubles (day : Int) : Int :=
  ((Binary64.ofInt day - Binary64.ofDecimal false 1 (-2)) /
    Binary64.ofDecimal false 355 (-1)).floor64

end Month

/-! ## Days of months -/

/-- The day of the month that a day of the year is. -/
def dayOfMonth (day : Int) : Except CalendarFault Int :=
  (Month.ofDay day).map fun month => day - month.firstDay + 1

namespace Weekday

/-- The weekday of a day of the year. Every year starts with the first weekday, and days outside
the year continue the cycle. -/
def ofDay (day : Int) : Weekday :=
  ⟨((day - 1) % 6).toNat, by omega⟩

/-- The number of the weekday, counted from one. -/
def number (weekday : Weekday) : Int :=
  weekday.val + 1

end Weekday

end FlightCaption
