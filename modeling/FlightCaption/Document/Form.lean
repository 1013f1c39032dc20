import FlightCaption.Calendar.Basic
import FlightCaption.Document.Schema
import FlightCaption.Overlay
import FlightCaption.Snapshot.Basic

/-!
# Forms of snapshots, settings and calendars

A form pairs a schema with the reading of a value that conforms to it. Members are found by name in
an object and by position in an array; one that is left out stands for its default.
-/

namespace FlightCaption.Document

open Numeric (Binary64)

/-! ## Forms -/

/-- How documents hold an `α`. What is read from a value that does not conform has no meaning. -/
structure Form (α : Type) where
  schema : Schema
  read : Value → α

namespace Form

def real : Form Binary64 where
  schema := .real
  read
    | .real x => x
    | .integer n => Binary64.ofInt n
    | _ => 0

def integer : Form Int64 where
  schema := .integer
  read
    | .integer n => Int64.ofInt n
    | _ => 0

def text : Form String where
  schema := .text
  read
    | .text s => s
    | _ => ""

/-- A list of values. -/
def list {α : Type} (items : Form α) : Form (List α) where
  schema := .list items.schema
  read
    | .array values => values.map items.read
    | _ => []

/-- One of several values, each named by a word. -/
def choice {α : Type} (all : List α) (word : α → String) (absent : α) : Form α where
  schema := .choice (all.map word)
  read value :=
    let found := match value with
      | .text key => key
      | .object ((key, _) :: _) => key
      | _ => ""
    (all.find? (word · = found)).getD absent

/-- A value or null. -/
def nullable {α : Type} (form : Form α) : Form (Option α) where
  schema := form.schema
  read value := if value.isNull then none else some (form.read value)

end Form

/-- A member of a record, as its schema lists it. -/
def member {α : Type} (name : String) (presence : Presence) (form : Form α) :
    String × Presence × Schema :=
  (name, presence, form.schema)

/-- The value of a record's member, given the names of all members in order. -/
def Value.member? (names : List String) (name : String) : Value → Option Value
  | object members => members.lookup name
  | array values => values[names.idxOf name]?
  | _ => none

/-- Reads a member, or takes its default where it is left out. -/
def Value.readMember {α : Type} (value : Value) (names : List String) (name : String)
    (form : Form α) (absent : α) : α :=
  match value.member? names name with
  | some found => form.read found
  | none => absent

/-- The names of a record's members. -/
def names (fields : List (String × Presence × Schema)) : List String :=
  fields.map (·.1)

/-! ## Crew and orbit -/

def roleForm : Form CrewRole :=
  .choice CrewRole.all CrewRole.key .pilot

def crewFields : List (String × Presence × Schema) :=
  [member "name" .required Form.text, member "role" .required roleForm]

/-- A crew member needs both a name and a role, and may have members that mean nothing here. -/
def crewForm : Form CrewMember where
  schema := .record "CrewMember" false crewFields
  read value :=
    { name := value.readMember (names crewFields) "name" Form.text ""
      role := value.readMember (names crewFields) "role" roleForm .pilot }

def orbitFields : List (String × Presence × Schema) :=
  ["apoapsis", "periapsis", "inclination", "eccentricity", "lan", "argument_of_periapsis",
    "period"].map fun name => member name .optional Form.real

def orbitForm : Form Orbit where
  schema := .record "Orbit" true orbitFields
  read value :=
    let number (name : String) := value.readMember (names orbitFields) name Form.real 0
    { apoapsis := number "apoapsis"
      periapsis := number "periapsis"
      inclination := number "inclination"
      eccentricity := number "eccentricity"
      ascendingNode := number "lan"
      periapsisArgument := number "argument_of_periapsis"
      period := number "period" }

/-! ## Vessel and snapshot -/

def situationForm : Form Situation :=
  .choice Situation.all Situation.key .prelaunch

def vesselFields : List (String × Presence × Schema) :=
  [member "name" .optional Form.text, member "body" .optional Form.text,
    member "situation" .optional situationForm, member "biome" .nullable Form.text,
    member "landed_at" .nullable Form.text] ++
  ["mission_time", "altitude", "mach", "speed", "surface_speed", "orbital_speed", "heading",
    "latitude", "longitude", "mass", "throttle"].map (member · .optional Form.real) ++
  [member "orbit" .nullable orbitForm, member "crew" .optional crewForm.list]

def vesselForm : Form Vessel where
  schema := .record "Vessel" true vesselFields
  read value :=
    let get {α : Type} (name : String) (form : Form α) (absent : α) :=
      value.readMember (names vesselFields) name form absent
    { name := get "name" .text ""
      body := get "body" .text ""
      situation := get "situation" situationForm .prelaunch
      biome := get "biome" (.nullable .text) none
      landedAt := get "landed_at" (.nullable .text) none
      missionTime := get "mission_time" .real 0
      altitude := get "altitude" .real 0
      mach := get "mach" .real 0
      speed := get "speed" .real 0
      surfaceSpeed := get "surface_speed" .real 0
      orbitalSpeed := get "orbital_speed" .real 0
      heading := get "heading" .real 0
      latitude := get "latitude" .real 0
      longitude := get "longitude" .real 0
      mass := get "mass" .real 0
      throttle := get "throttle" .real 0
      orbit := get "orbit" (.nullable orbitForm) none
      crew := get "crew" (.list crewForm) [] }

def snapshotFields : List (String × Presence × Schema) :=
  [member "ut" .optional Form.real, member "vessel" .nullable vesselForm,
    member "target" .nullable Form.text]

def snapshotForm : Form Snapshot where
  schema := .record "Snapshot" true snapshotFields
  read value :=
    { time := value.readMember (names snapshotFields) "ut" .real 0
      vessel := value.readMember (names snapshotFields) "vessel" (.nullable vesselForm) none
      target := value.readMember (names snapshotFields) "target" (.nullable .text) none }

/-! ## Overlay settings -/

def overlayFields : List (String × Presence × Schema) :=
  ["template", "custom_text", "date_format"].map fun name => member name .optional Form.text

def overlayForm : Form Overlay where
  schema := .record "OverlayConfig" true overlayFields
  read value :=
    let get (name : String) (absent : String) :=
      value.readMember (names overlayFields) name Form.text absent
    { template := get "template" ({} : Overlay).template
      customText := get "custom_text" ({} : Overlay).customText
      datePattern := get "date_format" ({} : Overlay).datePattern }

/-! ## Calendars -/

def unitsFields : List (String × Presence × Schema) :=
  UnitName.all.map fun unit => member unit.key .optional Form.integer

/-- Unit lengths; their members may stand beside others that mean nothing here. -/
def unitsForm : Form Units where
  schema := .record "CalendarUnits" false unitsFields
  read value :=
    let get (unit : UnitName) (absent : Int64) :=
      value.readMember (names unitsFields) unit.key Form.integer absent
    { secondsPerMinute := get .secondsPerMinute ({} : Units).secondsPerMinute
      minutesPerHour := get .minutesPerHour ({} : Units).minutesPerHour
      hoursPerDay := get .hoursPerDay ({} : Units).hoursPerDay
      daysPerYear := get .daysPerYear ({} : Units).daysPerYear }

def calendarFields : List (String × Presence × Schema) :=
  [member "months" .optional Form.text.list, member "days" .optional Form.text.list,
    member "base_year" .optional Form.integer, member "units" .optional unitsForm]

def calendarForm : Form Calendar.Raw where
  schema := .record "RawCalendarConfig" true calendarFields
  read value :=
    { months := value.readMember (names calendarFields) "months" (.list .text)
        ({} : Calendar.Raw).months
      days := value.readMember (names calendarFields) "days" (.list .text)
        ({} : Calendar.Raw).days
      baseYear := value.readMember (names calendarFields) "base_year" .integer 0
      units := value.readMember (names calendarFields) "units" unitsForm {} }

/-! ## Decoding -/

/-- A kind of value that documents hold: its raw form and the check that comes after reading. -/
class Decodable (α : Type) where
  Raw : Type
  form : Form Raw
  check : Raw → Except Misfit α

/-- Decodes a document's value. -/
def decode {α : Type} [Decodable α] (value : Value) : Except Misfit α := do
  (Decodable.form (α := α)).schema.conform value
  Decodable.check ((Decodable.form (α := α)).read value)

instance : Decodable Snapshot := ⟨Snapshot, snapshotForm, .ok⟩

instance : Decodable Overlay := ⟨Overlay, overlayForm, .ok⟩

instance : Decodable Calendar :=
  ⟨Calendar.Raw, calendarForm, fun raw => (Calendar.ofRaw raw).mapError .refused⟩

end FlightCaption.Document
