import FlightCaption.Calendar.Date

/-!
# Calendars

A calendar has names for its twelve months and its six weekdays, a base year and unit lengths. The
type admits no other: tables have their exact size and the lengths are positive, so a name lookup by
`Month` or `Weekday` and the splitting of a time cannot fail. Raw settings are checked once, by
`Calendar.ofRaw`.
-/

namespace FlightCaption

/-! ## The type -/

/-- Names of months and weekdays, a base year, and positive unit lengths. -/
structure Calendar where
  months : Vector String 12 :=
    #v["Gelus", "Ventis", "Floris", "Pluvis", "Solaris", "Aestas", "Fervor", "Messis", "Vinea",
      "Nebula", "Pruina", "Hiems"]
  days : Vector String 6 := #v["Akday", "Bolday", "Cenday", "Dunday", "Elday", "Funday"]
  baseYear : Int64 := 0
  units : Units := {}
  units_valid : units.Valid := by decide

namespace Calendar

instance : Inhabited Calendar := ⟨{}⟩

/-! ## Building -/

/-- A calendar with given names; the month table is checked before the weekday table. -/
def ofNames (months days : List String) : Except CalendarFault Calendar :=
  if hm : months.length = 12 then
    if hd : days.length = 6 then
      .ok { months := ⟨months.toArray, hm⟩, days := ⟨days.toArray, hd⟩ }
    else .error (.wrongNameCount .day days.length)
  else .error (.wrongNameCount .month months.length)

/-- The calendar with another base year. -/
def withBaseYear (calendar : Calendar) (baseYear : Int64) : Calendar :=
  { calendar with baseYear }

/-- The calendar with other unit lengths; the first length that is not positive is refused. -/
def withUnits (calendar : Calendar) (units : Units) : Except CalendarFault Calendar :=
  match h : units.firstInvalid? with
  | none => .ok { calendar with
      units, units_valid := (Units.valid_iff_firstInvalid?_eq_none units).2 h }
  | some unit => .error (.invalidUnit unit (units.length unit))

/-- Unchecked calendar settings. -/
structure Raw where
  months : List String := (default : Calendar).months.toList
  days : List String := (default : Calendar).days.toList
  baseYear : Int64 := 0
  units : Units := {}

/-- Checks settings: months, then weekdays, then unit lengths. -/
def ofRaw (raw : Raw) : Except CalendarFault Calendar := do
  let calendar ← ofNames raw.months raw.days
  let calendar ← calendar.withUnits raw.units
  return calendar.withBaseYear raw.baseYear

/-! ## Questions -/

/-- The name of a month. -/
def monthName (calendar : Calendar) (month : Month) : String :=
  calendar.months.get month

/-- The name of a weekday. -/
def dayName (calendar : Calendar) (weekday : Weekday) : String :=
  calendar.days.get weekday

/-- The name of a month by its number, counted from one. -/
def monthName? (calendar : Calendar) (number : Int) : Except CalendarFault String :=
  if h : 1 ≤ number ∧ number ≤ 12 then .ok (calendar.monthName ⟨(number - 1).toNat, by omega⟩)
  else .error (.monthOutOfRange number)

/-- The name of a weekday by its number, counted from one. -/
def dayName? (calendar : Calendar) (number : Int) : Except CalendarFault String :=
  if h : 1 ≤ number ∧ number ≤ 6 then .ok (calendar.dayName ⟨(number - 1).toNat, by omega⟩)
  else .error (.weekdayOutOfRange number)

/-- Breaks a time into parts by the calendar's unit lengths. -/
def split (calendar : Calendar) (time : Numeric.Binary64) : TimeParts :=
  TimeParts.ofSeconds calendar.units time.floor64

/-- A number fits a 64-bit integer. -/
def Fits (n : Int) : Prop :=
  Int64.minValue.toInt ≤ n ∧ n ≤ Int64.maxValue.toInt

instance (n : Int) : Decidable (Fits n) :=
  inferInstanceAs (Decidable (_ ∧ _))

/-- The calendar year of a time: years since the epoch, plus the base year, plus one. Both sums must
fit a 64-bit integer. -/
def yearOf (calendar : Calendar) (parts : TimeParts) : Except CalendarFault Int :=
  let year := parts.years + calendar.baseYear.toInt
  if Fits year ∧ Fits (year + 1) then .ok (year + 1)
  else .error (.yearOutOfRange parts.years calendar.baseYear.toInt)

end Calendar

end FlightCaption
