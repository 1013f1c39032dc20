import FlightCaption.Numeric.Binary64
import FlightCaption.Text.Blank

/-!
# Flight snapshots

The state of the flight at the moment that a caption describes: the universal time, the target and,
outside the space centre, the active vessel with its crew and, off the ground, its orbit.
-/

namespace FlightCaption

open Numeric (Binary64)

/-! ## Crew -/

/-- What a crew member does on board. -/
inductive CrewRole where
  | pilot
  | engineer
  | scientist
  | tourist
deriving DecidableEq, Repr

namespace CrewRole

def all : List CrewRole := [pilot, engineer, scientist, tourist]

/-- The word for the role in documents. -/
def key : CrewRole → String
  | pilot => "pilot"
  | engineer => "engineer"
  | scientist => "scientist"
  | tourist => "tourist"

end CrewRole

/-- A person on board. -/
structure CrewMember where
  name : String
  role : CrewRole
deriving DecidableEq, Repr

/-- The first word of the member's name. -/
def CrewMember.shortName (member : CrewMember) : String :=
  String.ofList (Text.firstWord member.name.toList)

/-! ## Vessel -/

/-- How the vessel moves or rests. -/
inductive Situation where
  | prelaunch
  | landed
  | splashed
  | flying
  | subOrbital
  | orbiting
  | escaping
  | docked
deriving DecidableEq, Repr

namespace Situation

def all : List Situation :=
  [prelaunch, landed, splashed, flying, subOrbital, orbiting, escaping, docked]

/-- The word for the situation in documents. -/
def key : Situation → String
  | prelaunch => "prelaunch"
  | landed => "landed"
  | splashed => "splashed"
  | flying => "flying"
  | subOrbital => "sub_orbital"
  | orbiting => "orbiting"
  | escaping => "escaping"
  | docked => "docked"

/-- The words for the situation in captions. -/
def label : Situation → String
  | prelaunch => "Prelaunch"
  | landed => "Landed"
  | splashed => "Splashed down"
  | flying => "Flying"
  | subOrbital => "Sub-orbital"
  | orbiting => "Orbiting"
  | escaping => "Escaping"
  | docked => "Docked"

end Situation

/-- Orbital elements; altitudes in metres, angles in degrees, the period in seconds. -/
structure Orbit where
  apoapsis : Binary64 := 0
  periapsis : Binary64 := 0
  inclination : Binary64 := 0
  eccentricity : Binary64 := 0
  ascendingNode : Binary64 := 0
  periapsisArgument : Binary64 := 0
  period : Binary64 := 0
deriving DecidableEq

/-- The active vessel; speeds in metres per second, angles in degrees, the mass in tonnes, and a
throttle of one when fully open. -/
structure Vessel where
  name : String := ""
  body : String := ""
  situation : Situation := .prelaunch
  biome : Option String := none
  /-- The launch site or facility that the vessel rests on. -/
  landedAt : Option String := none
  missionTime : Binary64 := 0
  altitude : Binary64 := 0
  mach : Binary64 := 0
  speed : Binary64 := 0
  surfaceSpeed : Binary64 := 0
  orbitalSpeed : Binary64 := 0
  heading : Binary64 := 0
  latitude : Binary64 := 0
  longitude : Binary64 := 0
  mass : Binary64 := 0
  throttle : Binary64 := 0
  orbit : Option Orbit := none
  crew : List CrewMember := []
deriving DecidableEq

/-! ## Snapshot -/

/-- The flight at one moment. -/
structure Snapshot where
  /-- The universal time, in seconds. -/
  time : Binary64 := 0
  vessel : Option Vessel := none
  target : Option String := none
deriving DecidableEq

end FlightCaption
