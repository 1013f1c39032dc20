/-!
# Overlay settings

What the user of the overlay writes down once: the template of the caption, the custom text that a
template can include, and the pattern for dates that come without one.
-/

namespace FlightCaption

/-- The user's settings. -/
structure Overlay where
  template : String := ""
  /-- Text that stands for the custom tag; it may hold tags itself. -/
  customText : String := ""
  datePattern : String := "yyy-MM-dd"
deriving DecidableEq, Repr

end FlightCaption
