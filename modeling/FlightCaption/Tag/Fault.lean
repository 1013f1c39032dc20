import FlightCaption.Calendar.Fault

/-!
# Why a tag has no text

A handler that cannot write its tag reports a fault. The wording of each kind is in
`TagFault.message`; it is what the log of a caption shows.
-/

namespace FlightCaption

/-- Why a handler fails. -/
inductive TagFault where
  /-- The snapshot lacks what the tag shows. -/
  | missing (data : String)
  /-- An argument that the handler does not know. -/
  | invalidArgument (tag value : String)
  /-- The calendar refuses the date. -/
  | calendar (fault : CalendarFault)
  /-- A handler's own complaint. -/
  | custom (message : String)
  /-- The handler broke off, with or without a word. -/
  | broken (reason : Option String)
deriving DecidableEq, Repr

namespace TagFault

/-- The wording of each kind. -/
def message : TagFault → String
  | missing data => "no " ++ data ++ " data available"
  | invalidArgument tag value => "invalid argument '" ++ value ++ "' for <" ++ tag ++ ">"
  | calendar fault => fault.message
  | custom message => message
  | broken none => "handler panicked"
  | broken (some reason) => "handler panicked: " ++ reason

/-- A calendar's refusal as a tag's fault: a field of excessive width makes the handler break off.
-/
def ofCalendar : CalendarFault → TagFault
  | .fieldTooWide width => broken (some (CalendarFault.fieldTooWide width).message)
  | fault => calendar fault

end TagFault

end FlightCaption
