import FlightCaption.Calendar.Clock
import FlightCaption.Snapshot.Reading
import FlightCaption.Snapshot.Roster
import FlightCaption.Tag.Script

/-!
# Built-in tags

The forty tags that every caption can use, with their names and what they write. All but one write
a text that depends on the snapshot, the calendar and the overlay alone, or fail; the custom tag
has the overlay's custom text expanded.
-/

namespace FlightCaption

/-! ## The tags -/

/-- A number of the snapshot's date or time of day. -/
inductive ClockPart where
  | day
  | hour
  | minute
  | second
deriving DecidableEq, Repr

namespace ClockPart

def all : List ClockPart := [day, hour, minute, second]

/-- The number; the day is the day of the year, counted from one. -/
def value (parts : TimeParts) : ClockPart → Int
  | day => parts.dayOfYear
  | hour => parts.hours
  | minute => parts.minutes
  | second => parts.seconds

end ClockPart

/-- A built-in tag. -/
inductive Builtin where
  | newline
  | custom
  | universalTime
  | missionTime
  | date
  | year
  | clock (part : ClockPart)
  | vessel (reading : VesselReading)
  | biome
  | landingZone
  | target
  | orbit (reading : OrbitReading)
  | period
  | crew (role : Option CrewRole)
deriving DecidableEq, Repr

namespace Builtin

/-- All built-in tags. -/
def all : List Builtin :=
  [newline, custom, universalTime, missionTime, date, year] ++ ClockPart.all.map clock ++
    VesselReading.all.map vessel ++ [biome, landingZone, target] ++ OrbitReading.all.map orbit ++
    [period, crew none] ++ CrewRole.all.map (crew ∘ some)

/-- The name of a tag in a template. -/
def name : Builtin → String
  | newline => "N"
  | custom => customTagName
  | universalTime => "UT"
  | missionTime => "T+"
  | date => "Date"
  | year => "Year"
  | clock .day => "Day"
  | clock .hour => "Hour"
  | clock .minute => "Minute"
  | clock .second => "Second"
  | vessel .name => "Vessel"
  | vessel .body => "Body"
  | vessel .situation => "Situation"
  | vessel .altitude => "Altitude"
  | vessel .mach => "Mach"
  | vessel .speed => "Speed"
  | vessel .surfaceSpeed => "SrfSpeed"
  | vessel .orbitalSpeed => "OrbSpeed"
  | vessel .heading => "Heading"
  | vessel .latitude => "Lat"
  | vessel .longitude => "Lon"
  | vessel .position => "LatLon"
  | vessel .mass => "Mass"
  | vessel .throttle => "Throttle"
  | biome => "Biome"
  | landingZone => "LandingZone"
  | target => "Target"
  | orbit .apoapsis => "Ap"
  | orbit .periapsis => "Pe"
  | orbit .inclination => "Inc"
  | orbit .eccentricity => "Ecc"
  | orbit .ascendingNode => "LAN"
  | orbit .periapsisArgument => "ArgPe"
  | orbit .altitudes => "Orbit"
  | period => "Period"
  | crew none => "Crew"
  | crew (some .pilot) => "Pilots"
  | crew (some .engineer) => "Engineers"
  | crew (some .scientist) => "Scientists"
  | crew (some .tourist) => "Tourists"

/-! ## What they write -/

/-- A text that a snapshot may lack. -/
def require (data : String) : Option String → Except TagFault String
  | some text => .ok text
  | none => .error (.missing data)

/-- The pattern that a date tag uses: its arguments put together again, or the overlay's pattern
where all of them are empty. -/
def datePattern (overlay : Overlay) (args : List String) : String :=
  if args.any (· ≠ "") then ", ".intercalate args else overlay.datePattern

/-- The crew tags know the first argument `short`; the fault is reported for the tag of the whole
crew, also when a tag of one role meets it. -/
def crewText (scope : Scope) (role : Option CrewRole) (args : List String) :
    Except TagFault String :=
  match NameStyle.ofWord? args.head? with
  | some style => do return (← scope.vessel).rosterText role style
  | none => .error (.invalidArgument (crew none).name (args.headD ""))

/-- The text of a tag. The custom tag writes none of its own. -/
def text (scope : Scope) (args : List String) : Builtin → Except TagFault String
  | newline => .ok "\n"
  | custom => .ok ""
  | universalTime =>
    (scope.context.calendar.universalTime scope.timeParts).mapError TagFault.ofCalendar
  | missionTime => do
    return scope.context.calendar.missionTime (← scope.vessel).missionTime
  | date =>
    (scope.context.calendar.formatTime scope.context.snapshot.time
      (datePattern scope.context.overlay args)).mapError TagFault.ofCalendar
  | year =>
    ((scope.context.calendar.yearOf scope.timeParts).map Text.integer).mapError
      TagFault.ofCalendar
  | clock part => .ok (Text.integer (part.value scope.timeParts))
  | vessel reading => do return reading.text (← scope.vessel)
  | biome => do require "biome" (← scope.vessel).biome
  | landingZone => do
    let vessel ← scope.vessel
    require "landing zone" (vessel.landedAt <|> vessel.biome)
  | target => require "target" scope.context.snapshot.target
  | orbit reading => do return reading.text (← scope.orbit)
  | period => do return (scope.context.calendar.split (← scope.orbit).period).duration
  | crew role => crewText scope role args

/-- The handler of a tag. -/
def handler : Builtin → Handler
  | custom => fun scope _ => .inline scope.context.overlay.customText .done
  | tag => fun scope args => .ofResult (tag.text scope args)

/-- The script of a tag other than the custom tag is its text. -/
theorem handler_of_ne_custom {tag : Builtin} (h : tag ≠ custom) (scope : Scope)
    (args : List String) : tag.handler scope args = .ofResult (tag.text scope args) := by
  cases tag with
  | custom => exact absurd rfl h
  | _ => rfl

end Builtin

end FlightCaption
