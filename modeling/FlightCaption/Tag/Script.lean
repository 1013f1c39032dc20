import FlightCaption.Calendar.Basic
import FlightCaption.Overlay
import FlightCaption.Snapshot.Basic
import FlightCaption.Tag.Fault

/-!
# Handlers and their scripts

A handler says what a tag does with its arguments. Its answer is a *script*, a tree of steps: write
text, ask for a piece of markup to be expanded and go on with the result, fail, or finish. A script
describes the steps and performs none, so that the expansion decides what becomes of text that was
written before a failure.

This is the contract of handlers: they append to the caption, and read nothing but their scope,
their arguments and what their markup expands to. In particular a script has no step that reads or
takes back what stands in the caption already.
-/

namespace FlightCaption

/-! ## Scripts -/

/-- The steps of a handler. Each adds to the end of the caption or leaves it alone. -/
inductive Script where
  /-- Finishes. -/
  | done
  /-- Gives up. -/
  | fail (fault : TagFault)
  /-- Writes a text and goes on. -/
  | write (text : String) (next : Script)
  /-- Has markup expanded, with the custom tag switched off, and goes on with the result. -/
  | expand (markup : String) (next : String → Script)

namespace Script

/-- Writes one text. -/
def text (text : String) : Script :=
  write text done

/-- Writes a text, or fails. -/
def ofResult : Except TagFault String → Script
  | .ok written => text written
  | .error fault => fail fault

/-- Writes the expansion of markup and goes on. -/
def inline (markup : String) (next : Script) : Script :=
  expand markup fun result => write result next

end Script

/-! ## What a handler sees -/

/-- The data of one caption. -/
structure Context where
  snapshot : Snapshot := {}
  calendar : Calendar := {}
  overlay : Overlay := {}

/-- What a handler sees while it expands one tag. -/
structure Scope where
  context : Context
  /-- Whether the custom tag may expand in this pass. -/
  allowCustom : Bool
  /-- The names of all tags that have a handler, in order. -/
  tagNames : List String

namespace Scope

/-- The active vessel, if there is one. -/
def vessel (scope : Scope) : Except TagFault Vessel :=
  match scope.context.snapshot.vessel with
  | some vessel => .ok vessel
  | none => .error (.missing "vessel")

/-- The active vessel's orbit; the lack of a vessel is reported first. -/
def orbit (scope : Scope) : Except TagFault Orbit := do
  match (← scope.vessel).orbit with
  | some orbit => .ok orbit
  | none => .error (.missing "orbit")

/-- The parts of the snapshot's time. -/
def timeParts (scope : Scope) : TimeParts :=
  scope.context.calendar.split scope.context.snapshot.time

end Scope

/-- What a tag does with its arguments; there are none where the tag has no group. What it does may
depend on its scope and its arguments, not on the caption written so far. -/
abbrev Handler := Scope → List String → Script

/-- The name of the tag that stands for the overlay's custom text. -/
def customTagName : String := "Custom"

end FlightCaption
