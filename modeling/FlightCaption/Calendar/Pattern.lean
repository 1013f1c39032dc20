import FlightCaption.Calendar.Basic

/-!
# Date patterns

A pattern is read in maximal runs of one character. The character picks a part of the date, the
length of the run its style; a character that picks nothing is copied as often as it stands there.

| run | text |
|---|---|
| `h`, `H` | hour |
| `m`, `s` | minute, second, on up to two digits |
| `d`, `dd` | day of the month |
| `ddd`, longer | weekday name, its first three characters or all of it |
| `M`, `MM` | month number |
| `MMM`, longer | month name, its first three characters or all of it |
| `y` | calendar year, filled with zeros to the length of the run |

Writing stops at the first run that has no text.
-/

namespace FlightCaption

/-! ## Runs -/

/-- A character with the number of times that it stands in a row. -/
structure Run where
  char : Char
  length : Nat
deriving DecidableEq, Repr

namespace Run

/-- Puts a character before a list of maximal runs. -/
def push (c : Char) : List Run → List Run
  | [] => [⟨c, 1⟩]
  | run :: rest => if run.char = c then ⟨c, run.length + 1⟩ :: rest else ⟨c, 1⟩ :: run :: rest

/-- The maximal runs of a text, in order. -/
def ofChars (cs : List Char) : List Run :=
  cs.foldr push []

/-- The characters of a run. -/
def chars (run : Run) : List Char :=
  List.replicate run.length run.char

end Run

/-! ## Fields -/

/-- A part of a date together with its style, or copied text. -/
inductive DateField where
  | hour
  | minute (width : Nat)
  | second (width : Nat)
  | dayOfMonth (width : Nat)
  | weekday (abbreviated : Bool)
  | monthNumber (width : Nat)
  | monthName (abbreviated : Bool)
  | year (width : Nat)
  | copy (run : Run)
deriving DecidableEq, Repr

namespace DateField

/-- The field that a run asks for. -/
def ofRun (run : Run) : DateField :=
  match run.char with
  | 'h' | 'H' => hour
  | 'm' => minute (min run.length 2)
  | 's' => second (min run.length 2)
  | 'd' => if run.length ≤ 2 then dayOfMonth run.length else weekday (run.length = 3)
  | 'M' => if run.length ≤ 2 then monthNumber run.length else monthName (run.length = 3)
  | 'y' => year run.length
  | _ => copy run

/-- A name, or its first three characters. -/
def shorten (abbreviated : Bool) (name : String) : String :=
  if abbreviated then String.ofList (name.toList.take 3) else name

/-- The greatest width that a number is padded to. -/
def maxWidth : Nat := 65535

/-- A number padded to a width. -/
def padded (width : Nat) (n : Int) : Except CalendarFault String :=
  if width ≤ maxWidth then .ok (Text.paddedInteger width n) else .error (.fieldTooWide width)

/-- The text of a field. -/
def write (calendar : Calendar) (parts : TimeParts) : DateField → Except CalendarFault String
  | hour => padded 1 parts.hours
  | minute width => padded width parts.minutes
  | second width => padded width parts.seconds
  | dayOfMonth width => do padded width (← FlightCaption.dayOfMonth parts.dayOfYear)
  | weekday abbreviated => do
    return shorten abbreviated (← calendar.dayName? (Weekday.ofDay parts.dayOfYear).number)
  | monthNumber width => do padded width (← Month.ofDay parts.dayOfYear).number
  | monthName abbreviated => do
    return shorten abbreviated (← calendar.monthName? (← Month.ofDay parts.dayOfYear).number)
  | year width => do padded width (← calendar.yearOf parts)
  | copy run => .ok (String.ofList run.chars)

end DateField

/-! ## Patterns -/

/-- Writes a date by a pattern: the texts of its runs, one after the other. The first run without a
text decides. -/
def Calendar.format (calendar : Calendar) (parts : TimeParts) (pattern : String) :
    Except CalendarFault String := do
  let texts ← (Run.ofChars pattern.toList).mapM fun run =>
    (DateField.ofRun run).write calendar parts
  return String.join texts

/-- Splits a time and writes it by a pattern. -/
def Calendar.formatTime (calendar : Calendar) (time : Numeric.Binary64) (pattern : String) :
    Except CalendarFault String :=
  calendar.format (calendar.split time) pattern

end FlightCaption
