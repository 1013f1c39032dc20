import FlightCaption.Snapshot.Basic

/-!
# Crew rosters

A roster lists the crew, or the members with one role, in the order of the crew, by their full
names or by their first words.
-/

namespace FlightCaption

/-- How a roster writes a name. -/
inductive NameStyle where
  | full
  | short
deriving DecidableEq, Repr

namespace NameStyle

/-- The style that a word asks for; no word and the empty word ask for full names. -/
def ofWord? : Option String → Option NameStyle
  | none => some full
  | some word =>
    if word = "" ∨ word = "full" then some full else if word = "short" then some short else none

/-- A member's name in the style. -/
def nameOf : NameStyle → CrewMember → String
  | full, member => member.name
  | short, member => member.shortName

end NameStyle

/-- The members that a roster lists: those of one role, or all. -/
def Vessel.roster (vessel : Vessel) : Option CrewRole → List CrewMember
  | none => vessel.crew
  | some role => vessel.crew.filter (·.role = role)

/-- The roster as text. -/
def Vessel.rosterText (vessel : Vessel) (role : Option CrewRole) (style : NameStyle) : String :=
  ", ".intercalate ((vessel.roster role).map style.nameOf)

end FlightCaption
