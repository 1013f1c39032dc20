import FlightCaption.Calendar.Units
import FlightCaption.Text.Digits

/-!
# What can go wrong in a calendar

The causes for which a calendar is refused, a date does not exist or a pattern cannot be written,
with one function for their wording.
-/

namespace FlightCaption

/-- The two tables of names that a calendar has. -/
inductive NameTable where
  | month
  | day
deriving DecidableEq, Repr

namespace NameTable

/-- How many names the table has. -/
def size : NameTable → Nat
  | month => 12
  | day => 6

/-- What its names stand for. -/
def noun : NameTable → String
  | month => "month"
  | day => "day"

end NameTable

/-- Why a calendar operation fails. -/
inductive CalendarFault where
  /-- A day of the year that the month table does not cover; `last` is its last day. -/
  | dayOutOfRange (day last : Int)
  /-- A month number that has no name. -/
  | monthOutOfRange (month : Int)
  /-- A weekday number that has no name. -/
  | weekdayOutOfRange (day : Int)
  /-- A name table with a wrong number of names. -/
  | wrongNameCount (table : NameTable) (found : Nat)
  /-- A unit length that is not positive. -/
  | invalidUnit (unit : UnitName) (length : Int)
  /-- A calendar year beyond the 64-bit integers. -/
  | yearOutOfRange (years baseYear : Int)
  /-- A field that is to be padded to a width beyond the limit. -/
  | fieldTooWide (width : Nat)
  /-- A calendar's text that its reader refuses with a message. -/
  | unparsed (message : String)
deriving DecidableEq, Repr

/-- The wording of each cause. -/
def CalendarFault.message : CalendarFault → String
  | dayOutOfRange day last =>
    "day " ++ Text.integer day ++ " is outside the calendar year (1..=" ++ Text.integer last ++ ")"
  | monthOutOfRange month => "invalid month: " ++ Text.integer month ++ " (must be 1..=12)"
  | weekdayOutOfRange day => "invalid day of week: " ++ Text.integer day ++ " (must be 1..=6)"
  | wrongNameCount table found =>
    "expected " ++ Text.integer table.size ++ " " ++ table.noun ++ " names, got " ++
      Text.integer found
  | invalidUnit unit length =>
    "calendar unit '" ++ unit.key ++ "' must be positive, got " ++ Text.integer length
  | yearOutOfRange years baseYear =>
    "year " ++ Text.integer years ++ " + base year " ++ Text.integer baseYear ++ " is out of range"
  | fieldTooWide _ => "Formatting argument out of range"
  | unparsed message => "calendar config parse error: " ++ message

end FlightCaption
