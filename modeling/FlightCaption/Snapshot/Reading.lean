import FlightCaption.Numeric.FixedPoint
import FlightCaption.Snapshot.Basic

/-!
# Readings

How the numbers of a vessel and of its orbit are written: which places they have, which unit
follows, which letter stands for a direction. Every reading has a text, whatever the number is.
-/

namespace FlightCaption

open Numeric (Binary64)

/-! ## Distances and coordinates -/

/-- A unit for large distances. -/
structure LengthUnit where
  metres : Nat
  symbol : String
deriving DecidableEq, Repr

/-- The large units, the largest first. -/
def LengthUnit.large : List LengthUnit :=
  [⟨1000000000, "Gm"⟩, ⟨1000000, "Mm"⟩, ⟨1000, "km"⟩]

/-- A distance with one place, in the largest unit that is not longer than it, metres below a
kilometre. -/
def distanceText (metres : Binary64) : String :=
  match LengthUnit.large.find? fun unit => Binary64.ofInt unit.metres ≤ metres.abs with
  | some unit => (metres / Binary64.ofInt unit.metres).fixed 1 ++ " " ++ unit.symbol
  | none => metres.fixed 1 ++ " m"

/-- An angle with two places and one of two letters, the first for angles below zero. -/
def hemisphereText (below above : String) (degrees : Binary64) : String :=
  degrees.abs.fixed 2 ++ "° " ++ if degrees < 0 then below else above

def latitudeText (degrees : Binary64) : String :=
  hemisphereText "S" "N" degrees

def longitudeText (degrees : Binary64) : String :=
  hemisphereText "W" "E" degrees

/-! ## Vessel readings -/

/-- What can be read off a vessel without fail. -/
inductive VesselReading where
  | name
  | body
  | situation
  | altitude
  | mach
  | speed
  | surfaceSpeed
  | orbitalSpeed
  | heading
  | latitude
  | longitude
  | position
  | mass
  | throttle
deriving DecidableEq, Repr

namespace VesselReading

def all : List VesselReading :=
  [name, body, situation, altitude, mach, speed, surfaceSpeed, orbitalSpeed, heading, latitude,
    longitude, position, mass, throttle]

/-- The text of a reading. The throttle is shown in whole percent. -/
def text (vessel : Vessel) : VesselReading → String
  | name => vessel.name
  | body => vessel.body
  | situation => vessel.situation.label
  | altitude => distanceText vessel.altitude
  | mach => vessel.mach.fixed 1
  | speed => vessel.speed.fixed 1 ++ " m/s"
  | surfaceSpeed => vessel.surfaceSpeed.fixed 1 ++ " m/s"
  | orbitalSpeed => vessel.orbitalSpeed.fixed 1 ++ " m/s"
  | heading => vessel.heading.fixed 1 ++ "°"
  | latitude => latitudeText vessel.latitude
  | longitude => longitudeText vessel.longitude
  | position => latitudeText vessel.latitude ++ ", " ++ longitudeText vessel.longitude
  | mass => vessel.mass.fixed 1 ++ " t"
  | throttle => (vessel.throttle * 100).fixed 0 ++ "%"

end VesselReading

/-! ## Orbit readings -/

/-- What can be read off an orbit without a calendar. -/
inductive OrbitReading where
  | apoapsis
  | periapsis
  | inclination
  | eccentricity
  | ascendingNode
  | periapsisArgument
  | altitudes
deriving DecidableEq, Repr

namespace OrbitReading

def all : List OrbitReading :=
  [apoapsis, periapsis, inclination, eccentricity, ascendingNode, periapsisArgument, altitudes]

/-- The text of a reading. -/
def text (orbit : Orbit) : OrbitReading → String
  | apoapsis => distanceText orbit.apoapsis
  | periapsis => distanceText orbit.periapsis
  | inclination => orbit.inclination.fixed 3 ++ "°"
  | eccentricity => orbit.eccentricity.fixed 3
  | ascendingNode => orbit.ascendingNode.fixed 3 ++ "°"
  | periapsisArgument => orbit.periapsisArgument.fixed 3 ++ "°"
  | altitudes => distanceText orbit.apoapsis ++ " x " ++ distanceText orbit.periapsis

end OrbitReading

end FlightCaption
