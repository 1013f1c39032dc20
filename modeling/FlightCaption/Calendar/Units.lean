import FlightCaption.Numeric.Binary64

/-!
# Unit lengths and time parts

A calendar counts time in five units: seconds, minutes, hours, days and years. Four lengths say how
many of each make one of the next. A time in seconds is broken into parts by dividing by one length
after the other; each division is Euclidean, so every part but the years is non-negative, also for
times before the epoch.

Main statement: put together again, the parts give the time (`total_ofSeconds`).
-/

namespace FlightCaption

/-! ## Unit lengths -/

/-- The four unit lengths, from the smallest unit up. -/
inductive UnitName where
  | secondsPerMinute
  | minutesPerHour
  | hoursPerDay
  | daysPerYear
deriving DecidableEq, Repr

namespace UnitName

/-- All of them, in the order in which they are checked. -/
def all : List UnitName :=
  [secondsPerMinute, minutesPerHour, hoursPerDay, daysPerYear]

/-- The name used in documents and complaints. -/
def key : UnitName → String
  | secondsPerMinute => "seconds_per_minute"
  | minutesPerHour => "minutes_per_hour"
  | hoursPerDay => "hours_per_day"
  | daysPerYear => "days_per_year"

theorem mem_all (unit : UnitName) : unit ∈ all := by
  cases unit <;> decide

end UnitName

/-- How many of a unit make one of the next. Absent lengths are those of a planet with six-hour days
and years of 426 days. -/
structure Units where
  secondsPerMinute : Int64 := 60
  minutesPerHour : Int64 := 60
  hoursPerDay : Int64 := 6
  daysPerYear : Int64 := 426
deriving DecidableEq

namespace Units

/-- Six-hour days and years of 426 days. -/
def kerbin : Units := {}

/-- Twenty-four-hour days and years of 365 days. -/
def earth : Units := { hoursPerDay := 24, daysPerYear := 365 }

/-- The length with a given name. -/
def length (units : Units) : UnitName → Int
  | .secondsPerMinute => units.secondsPerMinute.toInt
  | .minutesPerHour => units.minutesPerHour.toInt
  | .hoursPerDay => units.hoursPerDay.toInt
  | .daysPerYear => units.daysPerYear.toInt

def secondsPerHour (units : Units) : Int :=
  units.length .secondsPerMinute * units.length .minutesPerHour

def secondsPerDay (units : Units) : Int :=
  units.secondsPerHour * units.length .hoursPerDay

def secondsPerYear (units : Units) : Int :=
  units.secondsPerDay * units.length .daysPerYear

/-- Every length is positive. -/
def Valid (units : Units) : Prop :=
  ∀ unit, 0 < units.length unit

/-- The first length that is not positive. -/
def firstInvalid? (units : Units) : Option UnitName :=
  UnitName.all.find? fun unit => units.length unit ≤ 0

theorem valid_iff_firstInvalid?_eq_none (units : Units) :
    units.Valid ↔ units.firstInvalid? = none := by
  simp only [Valid, firstInvalid?, List.find?_eq_none, decide_eq_true_eq, Int.not_le]
  exact ⟨fun h unit _ => h unit, fun h unit => h unit unit.mem_all⟩

instance (units : Units) : Decidable units.Valid :=
  decidable_of_iff _ (valid_iff_firstInvalid?_eq_none units).symm

end Units

/-! ## Time parts -/

/-- A time broken into calendar units. Days and years are counted from zero. -/
structure TimeParts where
  seconds : Int := 0
  minutes : Int := 0
  hours : Int := 0
  days : Int := 0
  years : Int := 0
deriving DecidableEq, Repr

namespace TimeParts

/-- The day of the year, counted from one. If the days are the largest 64-bit integer there is no
such day in that range; parts like these are outside of what is described here. -/
def dayOfYear (parts : TimeParts) : Int :=
  parts.days + 1

/-- The seconds that the parts make together. -/
def total (units : Units) (parts : TimeParts) : Int :=
  parts.seconds + units.length .secondsPerMinute *
    (parts.minutes + units.length .minutesPerHour *
      (parts.hours + units.length .hoursPerDay *
        (parts.days + units.length .daysPerYear * parts.years)))

/-- The parts of a whole number of seconds. -/
def ofSeconds (units : Units) (seconds : Int) : TimeParts :=
  let minutes := seconds / units.length .secondsPerMinute
  let hours := minutes / units.length .minutesPerHour
  let days := hours / units.length .hoursPerDay
  { seconds := seconds % units.length .secondsPerMinute
    minutes := minutes % units.length .minutesPerHour
    hours := hours % units.length .hoursPerDay
    days := days % units.length .daysPerYear
    years := days / units.length .daysPerYear }

/-- The parts of a time put together again give the time. -/
theorem total_ofSeconds (units : Units) (seconds : Int) :
    (ofSeconds units seconds).total units = seconds := by
  simp only [total, ofSeconds, Int.emod_add_mul_ediv]

end TimeParts

/-! ## Splitting -/

/-- Why a time cannot be split. -/
inductive SplitFault where
  /-- A unit of length zero. -/
  | zeroLength
  /-- A quotient beyond the 64-bit integers. -/
  | overflow
deriving DecidableEq, Repr

/-- The complaint about a division. -/
def SplitFault.message : SplitFault → String
  | zeroLength => "attempt to calculate the remainder with a divisor of zero"
  | overflow => "attempt to calculate the remainder with overflow"

/-- Quotient and remainder of a Euclidean division of 64-bit integers. The only quotient out of
range is that of the smallest integer by -1. -/
def divide? (dividend length : Int) : Except SplitFault (Int × Int) :=
  if length = 0 then .error .zeroLength
  else if dividend = Int64.minValue.toInt ∧ length = -1 then .error .overflow
  else .ok (dividend / length, dividend % length)

/-- Breaks a time into parts, its fraction of a second dropped downwards. The lengths need not be
positive, but none may be zero, and no quotient may be out of range. -/
def Units.split? (units : Units) (time : Numeric.Binary64) : Except SplitFault TimeParts := do
  let (minutes, seconds) ← divide? time.floor64 (units.length .secondsPerMinute)
  let (hours, minutes) ← divide? minutes (units.length .minutesPerHour)
  let (days, hours) ← divide? hours (units.length .hoursPerDay)
  let (years, days) ← divide? days (units.length .daysPerYear)
  return { seconds, minutes, hours, days, years }

end FlightCaption
