import FlightCaption.Calendar.Pattern

/-!
# Clock texts

Three ways to write a time without a pattern: the time of day, an elapsed time that leaves out the
years and days that it does not have, and the full universal time. Only the last can fail, when the
calendar year is beyond the 64-bit integers.
-/

namespace FlightCaption

/-- The time of day, `h:mm:ss`. -/
def TimeParts.clock (parts : TimeParts) : String :=
  Text.paddedInteger 1 parts.hours ++ ":" ++ Text.paddedInteger 2 parts.minutes ++ ":" ++
    Text.paddedInteger 2 parts.seconds

/-- No calendar refuses the pattern of the time of day. -/
theorem Calendar.format_clock (calendar : Calendar) (parts : TimeParts) :
    calendar.format parts "h:mm:ss" = .ok parts.clock := by
  have runs : Run.ofChars "h:mm:ss".toList =
      [⟨'h', 1⟩, ⟨':', 1⟩, ⟨'m', 2⟩, ⟨':', 1⟩, ⟨'s', 2⟩] := by decide
  have colon : String.ofList [':'] = ":" := rfl
  rw [Calendar.format, runs]
  simp [DateField.ofRun, DateField.write, DateField.padded, DateField.maxWidth, Run.chars,
    TimeParts.clock, colon, List.mapM_cons, bind, Except.bind, pure, Except.pure,
    String.append_assoc]

/-- An elapsed time, `2y, 5d, 1:02:03`: the years where there are some, the days where there are
years or days, and the time of day. -/
def TimeParts.duration (parts : TimeParts) : String :=
  let years := if 0 < parts.years then Text.integer parts.years ++ "y, " else ""
  let days :=
    if 0 < parts.years ∨ 0 < parts.days then Text.integer parts.days ++ "d, " else ""
  years ++ days ++ parts.clock

/-- A time within its calendar, `Y1, D01, 0:00:00`. -/
def Calendar.universalTime (calendar : Calendar) (parts : TimeParts) :
    Except CalendarFault String := do
  let year ← calendar.yearOf parts
  return "Y" ++ Text.integer year ++ ", D" ++ Text.paddedInteger 2 parts.dayOfYear ++ ", " ++
    parts.clock

/-- A mission time, counted down before the launch and up after it. -/
def Calendar.missionTime (calendar : Calendar) (time : Numeric.Binary64) : String :=
  (if time < 0 then "T- " else "T+ ") ++ (calendar.split time.abs).duration

end FlightCaption
