import FlightCaption.Load.Format

/-!
# Documents of calendar settings

Settings of a calendar can be written down as a document that leaves nothing out, with one member
for each of the four settings and for each unit length. This module shows that such a document
conforms to the schema of calendars and reads as the settings that it was made from, so that every
choice of settings reaches the check of the calendar.

Main statements: `Calendar.conform_document` and `Calendar.read_document`.
-/

namespace FlightCaption

/-! ## Texts and integers -/

namespace Document

/-- A member that is known, new and of the right kind is passed over. -/
theorem Schema.conformMembers_cons {strict : Bool} {fields : List (String × Presence × Schema)}
    {seen : List String} {name : String} {value : Value} {presence : Presence} {schema : Schema}
    (hknown : fields.lookup name = some (presence, schema)) (hnew : name ∉ seen)
    (hvalue : schema.conform value = .ok ()) (members : List (String × Value)) :
    conformMembers strict fields seen ((name, value) :: members) =
      conformMembers strict fields (name :: seen) members := by
  simp [conformMembers, hknown, hnew, hvalue, bind, Except.bind]

theorem Schema.conform_texts (texts : List String) :
    Form.text.list.schema.conform (.array (texts.map .text)) = .ok () := by
  show conformAll .text (texts.map .text) = .ok ()
  induction texts with
  | nil => simp [conformAll]
  | cons text texts ih => simp [conformAll, conform, ih, bind, Except.bind]

theorem Form.read_texts (texts : List String) :
    Form.text.list.read (.array (texts.map .text)) = texts := by
  simp [Form.list, Form.text, Function.comp_def]

theorem Schema.conform_int64 (n : Int64) :
    Form.integer.schema.conform (.integer n.toInt) = .ok () := by
  rw [Form.integer, conform, if_pos ⟨n.minValue_le_toInt, n.toInt_le⟩]

theorem Form.read_int64 (n : Int64) : Form.integer.read (.integer n.toInt) = n :=
  Int64.ofInt_toInt n

end Document

namespace Calendar

open Document (Schema Form unitsForm calendarForm)

/-! ## Unit lengths -/

/-- Unit lengths as a document holds them. -/
def unitsDocument (units : Units) : Document.Value :=
  .object (UnitName.all.map fun unit => (unit.key, .integer (units.length unit)))

theorem conform_unitsDocument (units : Units) :
    unitsForm.schema.conform (unitsDocument units) = .ok () := by
  have hlength : ∀ unit, Form.integer.schema.conform (.integer (units.length unit)) = .ok () := by
    intro unit
    cases unit <;> exact Schema.conform_int64 _
  show Schema.conformMembers false Document.unitsFields [] _ = .ok ()
  -- Member by member
  simp only [UnitName.all, List.map_cons, List.map_nil]
  rw [Schema.conformMembers_cons rfl (by decide) (hlength .secondsPerMinute),
    Schema.conformMembers_cons rfl (by decide) (hlength .minutesPerHour),
    Schema.conformMembers_cons rfl (by decide) (hlength .hoursPerDay),
    Schema.conformMembers_cons rfl (by decide) (hlength .daysPerYear)]
  rfl

theorem read_unitsDocument (units : Units) : unitsForm.read (unitsDocument units) = units := by
  have hmember : ∀ (unit : UnitName) (absent : Int64),
      (unitsDocument units).readMember (Document.names Document.unitsFields) unit.key Form.integer
        absent = Int64.ofInt (units.length unit) := by
    intro unit absent
    cases unit <;> rfl
  simp only [unitsForm, hmember, Units.length, Int64.ofInt_toInt]

/-! ## All settings -/

/-- Settings of a calendar as a document holds them. -/
def Raw.document (raw : Raw) : Document.Value :=
  .object [
    ("months", .array (raw.months.map .text)),
    ("days", .array (raw.days.map .text)),
    ("base_year", .integer raw.baseYear.toInt),
    ("units", unitsDocument raw.units)]

/-- A document of settings is one that a calendar can be read from. -/
theorem conform_document (raw : Raw) : calendarForm.schema.conform raw.document = .ok () := by
  show Schema.conformMembers true Document.calendarFields [] _ = .ok ()
  rw [Schema.conformMembers_cons rfl (by decide) (Schema.conform_texts raw.months),
    Schema.conformMembers_cons rfl (by decide) (Schema.conform_texts raw.days),
    Schema.conformMembers_cons rfl (by decide) (Schema.conform_int64 raw.baseYear),
    Schema.conformMembers_cons rfl (by decide) (conform_unitsDocument raw.units)]
  rfl

/-- It reads as the settings that it was made from. -/
theorem read_document (raw : Raw) : calendarForm.read raw.document = raw := by
  have hmonths := Form.read_texts raw.months
  have hdays := Form.read_texts raw.days
  have hbaseYear := Form.read_int64 raw.baseYear
  have hunits := read_unitsDocument raw.units
  show Raw.mk (Form.text.list.read (.array (raw.months.map .text)))
    (Form.text.list.read (.array (raw.days.map .text)))
    (Form.integer.read (.integer raw.baseYear.toInt))
    (unitsForm.read (unitsDocument raw.units)) = raw
  rw [hmonths, hdays, hbaseYear, hunits]

end Calendar

end FlightCaption
