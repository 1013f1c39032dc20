import FlightCaption.Document.Json.Reader
import FlightCaption.Proofs.Document.Records

/-!
# Editing documents

Snapshots, overlay settings and calendars are read from objects that may hold further records. This
module lists the seven kinds of records with their fields, defaults and strictness, says where in a
document each of them can stand, and shows what an edit of one of them does to the whole document:
the order of members means nothing, a member that says no more than its default may go, a known
member may not come again, and one that is not known is refused in strict records only.

Main statement: `DocumentKind.loads_edited`.
-/

namespace FlightCaption.Document

/-! ## Kinds of records -/

/-- The kinds of records that documents hold. -/
inductive RecordKind where
  | snapshot
  | vessel
  | orbit
  | crewMember
  | overlay
  | calendar
  | units
deriving DecidableEq, Repr

namespace RecordKind

/-- What is read from a record. -/
def Content : RecordKind → Type
  | snapshot => Snapshot
  | vessel => Vessel
  | orbit => Orbit
  | crewMember => CrewMember
  | overlay => Overlay
  | calendar => Calendar.Raw
  | units => Units

def form : (kind : RecordKind) → Form kind.Content
  | snapshot => snapshotForm
  | vessel => vesselForm
  | orbit => orbitForm
  | crewMember => crewForm
  | overlay => overlayForm
  | calendar => calendarForm
  | units => unitsForm

/-- Whether a record refuses members that it does not know. -/
def strict : RecordKind → Bool
  | snapshot => true
  | vessel => true
  | orbit => true
  | crewMember => false
  | overlay => true
  | calendar => true
  | units => false

/-- The fields of a record, each with what stands for it where it is left out. Only a crew member
    has fields that may not be left out. -/
def fields : RecordKind → List (String × Field)
  | snapshot => [
      ("ut", ⟨.optional, .real, 0⟩),
      ("vessel", ⟨.nullable, vesselForm.nullable, none⟩),
      ("target", ⟨.nullable, Form.text.nullable, none⟩)]
  | vessel => [
      ("name", ⟨.optional, .text, ""⟩),
      ("body", ⟨.optional, .text, ""⟩),
      ("situation", ⟨.optional, situationForm, .prelaunch⟩),
      ("biome", ⟨.nullable, Form.text.nullable, none⟩),
      ("landed_at", ⟨.nullable, Form.text.nullable, none⟩),
      ("mission_time", ⟨.optional, .real, 0⟩),
      ("altitude", ⟨.optional, .real, 0⟩),
      ("mach", ⟨.optional, .real, 0⟩),
      ("speed", ⟨.optional, .real, 0⟩),
      ("surface_speed", ⟨.optional, .real, 0⟩),
      ("orbital_speed", ⟨.optional, .real, 0⟩),
      ("heading", ⟨.optional, .real, 0⟩),
      ("latitude", ⟨.optional, .real, 0⟩),
      ("longitude", ⟨.optional, .real, 0⟩),
      ("mass", ⟨.optional, .real, 0⟩),
      ("throttle", ⟨.optional, .real, 0⟩),
      ("orbit", ⟨.nullable, orbitForm.nullable, none⟩),
      ("crew", ⟨.optional, crewForm.list, []⟩)]
  | orbit => [
      ("apoapsis", ⟨.optional, .real, 0⟩),
      ("periapsis", ⟨.optional, .real, 0⟩),
      ("inclination", ⟨.optional, .real, 0⟩),
      ("eccentricity", ⟨.optional, .real, 0⟩),
      ("lan", ⟨.optional, .real, 0⟩),
      ("argument_of_periapsis", ⟨.optional, .real, 0⟩),
      ("period", ⟨.optional, .real, 0⟩)]
  | crewMember => [
      ("name", ⟨.required, .text, ""⟩),
      ("role", ⟨.required, roleForm, .pilot⟩)]
  | overlay => [
      ("template", ⟨.optional, .text, ""⟩),
      ("custom_text", ⟨.optional, .text, ""⟩),
      ("date_format", ⟨.optional, .text, "yyy-MM-dd"⟩)]
  | calendar => [
      ("months", ⟨.optional, Form.text.list, (default : Calendar).months.toList⟩),
      ("days", ⟨.optional, Form.text.list, (default : Calendar).days.toList⟩),
      ("base_year", ⟨.optional, .integer, (default : Calendar).baseYear⟩),
      ("units", ⟨.optional, unitsForm, (default : Calendar).units⟩)]
  | units => [
      ("seconds_per_minute", ⟨.optional, .integer, 60⟩),
      ("minutes_per_hour", ⟨.optional, .integer, 60⟩),
      ("hours_per_day", ⟨.optional, .integer, 6⟩),
      ("days_per_year", ⟨.optional, .integer, 426⟩)]

def names (kind : RecordKind) : List String :=
  kind.fields.map (·.1)

/-- **The forms read the fields of their records**, and no other members. -/
theorem isRecord (kind : RecordKind) : kind.form.IsRecord kind.strict kind.fields where
  schema_eq := by cases kind <;> exact ⟨_, rfl⟩
  lookup_of_mem := by
    cases kind <;> simp [fields, List.lookup_cons]
  read_congr := by
    intro value value' h
    cases kind <;>
      simp only [fields, List.forall_mem_cons, List.not_mem_nil, false_imp_iff, implies_true,
        and_true] at h
    case snapshot => exact Snapshot.mk.injEq .. ▸ h
    case vessel => exact Vessel.mk.injEq .. ▸ h
    case orbit => exact Orbit.mk.injEq .. ▸ h
    case crewMember => exact CrewMember.mk.injEq .. ▸ h
    case overlay => exact Overlay.mk.injEq .. ▸ h
    case calendar => exact Calendar.Raw.mk.injEq .. ▸ h
    case units => exact Units.mk.injEq .. ▸ h

/-- The fields of crew members are required, and no others. -/
theorem presence_eq_required_iff {kind : RecordKind} {name : String} {field : Field}
    (hfield : kind.fields.lookup name = some field) :
    field.presence = .required ↔ kind = .crewMember := by
  have hall : ∀ field ∈ kind.fields, field.2.presence = .required ↔ kind = .crewMember := by
    cases kind <;> simp [fields]
  exact hall _ (mem_of_lookup_eq_some hfield)

end RecordKind

/-! ## Records inside records -/

/-- A field of a record holds another record, by itself or as an element of a list. -/
inductive Part : RecordKind → String → RecordKind → (Value → Value) → Prop where
  | vessel : Part .snapshot "vessel" .vessel id
  | orbit : Part .vessel "orbit" .orbit id
  | crewMember (before after : List Value) :
      Part .vessel "crew" .crewMember fun value => .array (before ++ value :: after)
  | units : Part .calendar "units" .units id

theorem Part.exists_carries {outer inner : RecordKind} {name : String} {fill : Value → Value}
    (h : Part outer name inner fill) :
    ∃ field, outer.fields.lookup name = some field ∧ field.form.Carries inner.form fill := by
  cases h with
  | vessel => exact ⟨_, rfl, .nullable vesselForm⟩
  | orbit => exact ⟨_, rfl, .nullable orbitForm⟩
  | crewMember before after => exact ⟨_, rfl, .item crewForm before after⟩
  | units => exact ⟨_, rfl, .refl unitsForm⟩

/-- The places of records in a record, with the way to fill them: the record itself, and the places
    in the records that its members hold. The record may be an object, or an array of the values of
    its first fields. -/
inductive Place : RecordKind → RecordKind → (Value → Value) → Prop where
  | root (kind : RecordKind) : Place kind kind id
  | member {outer middle inner : RecordKind} {name : String} {fill fill' : Value → Value}
      (before after : List (String × Value)) (part : Part outer name middle fill)
      (place : Place middle inner fill') :
      Place outer inner fun value => .object (before ++ (name, fill (fill' value)) :: after)
  | item {outer middle inner : RecordKind} {name : String} {fill fill' : Value → Value}
      (before after : List Value) (hposition : before.length = outer.names.idxOf name)
      (part : Part outer name middle fill) (place : Place middle inner fill') :
      Place outer inner fun value => .array (before ++ fill (fill' value) :: after)

/-- A record carries the records in its places. -/
theorem Place.carries {outer inner : RecordKind} {fill : Value → Value}
    (h : Place outer inner fill) : outer.form.Carries inner.form fill := by
  induction h with
  | root kind => exact .refl kind.form
  | member before after part _ ih =>
    obtain ⟨field, hfield, hpart⟩ := part.exists_carries
    exact ((RecordKind.isRecord _).carries_member hfield before after).trans (hpart.trans ih)
  | item before after hposition part _ ih =>
    obtain ⟨field, hfield, hpart⟩ := part.exists_carries
    exact ((RecordKind.isRecord _).carries_item hfield hposition after).trans (hpart.trans ih)

/-! ## Documents -/

theorem decode_eq_ok_iff {α : Type} [Decodable α] {value : Value} {content : α} :
    decode value = .ok content ↔
      ∃ raw, (Decodable.form (α := α)).Accepts value raw ∧ Decodable.check raw = .ok content := by
  rw [decode, bind_eq_ok_iff]
  constructor
  · rintro ⟨⟨⟩, hconform, hcheck⟩
    exact ⟨_, ⟨hconform, rfl⟩, hcheck⟩
  · rintro ⟨_, ⟨hconform, rfl⟩, hcheck⟩
    exact ⟨(), hconform, hcheck⟩

/-- What a document may be. -/
inductive DocumentKind where
  | snapshot
  | overlay
  | calendar
deriving DecidableEq, Repr

namespace DocumentKind

/-- What is read from a document. -/
abbrev Content : DocumentKind → Type
  | snapshot => Snapshot
  | overlay => Overlay
  | calendar => Calendar

/-- The record that a document is. -/
def record : DocumentKind → RecordKind
  | snapshot => .snapshot
  | overlay => .overlay
  | calendar => .calendar

instance decodable : (kind : DocumentKind) → Decodable kind.Content
  | snapshot => inferInstanceAs (Decodable Snapshot)
  | overlay => inferInstanceAs (Decodable Overlay)
  | calendar => inferInstanceAs (Decodable Calendar)

/-- A value is read as a document with some content, and so is every text that stands for the value
    in the eyes of some reader. -/
def Loads (kind : DocumentKind) (value : Value) (content : kind.Content) : Prop :=
  decode value = .ok content ∧
    ∀ (reader : Reader) (text : String),
      reader.value (Decodable.form (α := kind.Content)).schema text = .ok value →
        reader.read text = .ok content

/-- A value is not read as a document, nor is any text that stands for it. -/
def Refuses (kind : DocumentKind) (value : Value) : Prop :=
  Fails (decode value : Except Misfit kind.Content) ∧
    ∀ (reader : Reader) (text : String),
      reader.value (Decodable.form (α := kind.Content)).schema text = .ok value →
        Fails (reader.read text : Except String kind.Content)

variable {kind : DocumentKind} {value : Value}

theorem loads_iff {content : kind.Content} :
    kind.Loads value content ↔ decode value = .ok content := by
  refine and_iff_left_of_imp fun h reader text htext => ?_
  exact Reader.read_eq_ok_iff.mpr ⟨value, htext, h⟩

theorem refuses_iff :
    kind.Refuses value ↔ Fails (decode value : Except Misfit kind.Content) := by
  refine and_iff_left_of_imp fun h reader text htext => ?_
  rw [Reader.read_of_value htext]
  exact fails_mapError_iff.mpr h

/-- A document is read from a value that its record accepts, by a check of the content. -/
theorem exists_check (kind : DocumentKind) :
    ∃ check : kind.record.Content → Except Misfit kind.Content, ∀ value content,
      decode value = .ok content ↔
        ∃ raw, kind.record.form.Accepts value raw ∧ check raw = .ok content := by
  cases kind with
  | snapshot => exact ⟨_, fun _ _ => decode_eq_ok_iff (α := Snapshot)⟩
  | overlay => exact ⟨_, fun _ _ => decode_eq_ok_iff (α := Overlay)⟩
  | calendar => exact ⟨_, fun _ _ => decode_eq_ok_iff (α := Calendar)⟩

section

variable {record : RecordKind} {fill : Value → Value} {members members' : List (String × Value)}
  {content : kind.Content}

/-- A record in a document may be replaced by one that is accepted with the same content. -/
theorem loads_replaced (hplace : Place kind.record record fill)
    (hloads : kind.Loads (fill (.object members)) content)
    (h : ∀ inner, record.form.Accepts (.object members) inner →
      record.form.Accepts (.object members') inner) :
    kind.Loads (fill (.object members')) content := by
  obtain ⟨check, hcheck⟩ := kind.exists_check
  obtain ⟨raw, haccepts, hraw⟩ := (hcheck _ _).mp (loads_iff.mp hloads)
  have hinner := hplace.carries.accepts_inner rfl haccepts
  exact loads_iff.mpr ((hcheck _ _).mpr
    ⟨raw, hplace.carries.accepts_outer rfl rfl (h _ hinner) haccepts, hraw⟩)

/-- It may not be replaced by one that is refused. -/
theorem refuses_replaced (hplace : Place kind.record record fill)
    (hloads : kind.Loads (fill (.object members)) content)
    (h : ∀ inner, record.form.Accepts (.object members) inner →
      record.form.Refuses (.object members')) :
    kind.Refuses (fill (.object members')) := by
  obtain ⟨check, hcheck⟩ := kind.exists_check
  obtain ⟨raw, haccepts, -⟩ := (hcheck _ _).mp (loads_iff.mp hloads)
  have hinner := hplace.carries.accepts_inner rfl haccepts
  refine refuses_iff.mpr ?_
  by_contra hfails
  obtain ⟨content', hcontent'⟩ := not_fails_iff.mp hfails
  obtain ⟨raw', haccepts', -⟩ := (hcheck _ _).mp hcontent'
  exact h _ hinner _ (hplace.carries.accepts_inner rfl haccepts')

/-- **What an edit of a record does to the document that it stands in.** The members of the record
    may change places. A member that says no more than its default may go, but neither the name nor
    the role of a crew member. A known member may not come again. A member that is not known is
    refused in a strict record, and changes nothing in another one. -/
theorem loads_edited (hplace : Place kind.record record fill)
    (hloads : kind.Loads (fill (.object members)) content) :
    (∀ members', members.Perm members' → kind.Loads (fill (.object members')) content) ∧
    (∀ before name value after field, members = before ++ (name, value) :: after →
      record.fields.lookup name = some field →
      (record ≠ .crewMember → field.form.read value = field.absent →
        kind.Loads (fill (.object (before ++ after))) content) ∧
      (record = .crewMember → kind.Refuses (fill (.object (before ++ after))))) ∧
    (∀ before name value after, members = before ++ after → name ∈ record.names →
      name ∈ members.map (·.1) →
        kind.Refuses (fill (.object (before ++ (name, value) :: after)))) ∧
    ∀ before name value after, members = before ++ after → name ∉ record.names →
      (record.strict = true → kind.Refuses (fill (.object (before ++ (name, value) :: after)))) ∧
      (record.strict = false →
        kind.Loads (fill (.object (before ++ (name, value) :: after))) content) := by
  have hrecord := record.isRecord
  refine ⟨?_, ?_, ?_, ?_⟩
  · intro members' hperm
    exact loads_replaced hplace hloads fun inner => hrecord.accepts_of_perm hperm
  · rintro before name value after field rfl hfield
    have hpresence := RecordKind.presence_eq_required_iff hfield
    constructor
    · intro hkind hdefault
      exact loads_replaced hplace hloads fun inner =>
        hrecord.accepts_without hfield (hpresence.not.mpr hkind) hdefault
    · intro hkind
      exact refuses_replaced hplace hloads fun inner =>
        hrecord.refuses_without_required hfield (hpresence.mpr hkind)
  · rintro before name value after rfl hname hmem
    obtain ⟨field, hfield⟩ := hrecord.exists_lookup hname
    exact refuses_replaced hplace hloads fun inner _ => hrecord.refuses_repeated hfield hmem
  · rintro before name value after rfl hname
    constructor
    · intro hstrict
      refine refuses_replaced hplace hloads fun inner _ inner' haccepts => ?_
      have hfalse := ((hrecord.accepts_unknown_iff hname).mp haccepts).1
      exact Bool.false_ne_true (hfalse.symm.trans hstrict)
    · intro hstrict
      exact loads_replaced hplace hloads fun inner haccepts =>
        (hrecord.accepts_unknown_iff hname).mpr ⟨hstrict, haccepts⟩

end

/-- A snapshot with one person on board of a vessel that does not move. -/
def aboard (person : Value) : Value :=
  .object [("vessel", .object [("mach", .integer 0), ("crew", .array [person])]),
    ("ut", .integer 5)]

/-- A text of `aboard`, with the role before the name. -/
def aboardText : String :=
  "\x7b\"vessel\": \x7b\"mach\": 0, \"crew\": " ++
    "[\x7b\"role\": \"pilot\", \"name\": \"Ada\"\x7d]\x7d, \"ut\": 5\x7d"

theorem read?_aboardText :
    Json.read? aboardText =
      some (aboard (.object [("role", .text "pilot"), ("name", .text "Ada")])) := by
  have hlexemes : Json.lexemes? aboardText =
      some [.openObject, .text "vessel", .colon, .openObject, .text "mach", .colon, .word ['0'],
        .comma, .text "crew", .colon, .openArray, .openObject, .text "role", .colon,
        .text "pilot", .comma, .text "name", .colon, .text "Ada", .closeObject, .closeArray,
        .closeObject, .comma, .text "ut", .colon, .word ['5'], .closeObject] := by
    decide +kernel
  rw [Json.read?, hlexemes]
  rfl

/-- Edits of a crew member whose name comes first, and of the vessel around it. -/
theorem loads_edited_aboard :
    let role := ("role", Value.text "pilot")
    let name := ("name", Value.text "Ada")
    let content : Snapshot := { time := 5, vessel := some { crew := [⟨"Ada", .pilot⟩] } }
    snapshot.Loads (aboard (.object [name, role])) content ∧
      snapshot.Loads (aboard (.object [role, name])) content ∧
      Json.reader.read aboardText = .ok content ∧
      snapshot.Refuses (aboard (.object [name])) ∧
      snapshot.Refuses (aboard (.object [name, role, name])) ∧
      snapshot.Loads (aboard (.object [name, ("rank", .integer 3), role])) content ∧
      snapshot.Loads (.object [("vessel", .object [("crew", .array [.object [name, role]])]),
        ("ut", .integer 5)]) content ∧
      snapshot.Refuses (.object [("vessel", .object [("rank", .null), ("mach", .integer 0),
        ("crew", .array [.object [name, role]])]), ("ut", .integer 5)]) := by
  intro role name content
  have hloads : snapshot.Loads (aboard (.object [name, role])) content := loads_iff.mpr rfl
  have hvessel : Place snapshot.record .vessel fun vessel =>
      .object [("vessel", vessel), ("ut", .integer 5)] :=
    .member [] [("ut", .integer 5)] .vessel (.root .vessel)
  have hperson : Place snapshot.record .crewMember aboard :=
    .member [] [("ut", .integer 5)] .vessel
      (.member [("mach", .integer 0)] [] (.crewMember [] []) (.root .crewMember))
  obtain ⟨hperm, hwithout, hrepeated, hunknown⟩ := loads_edited hperson hloads
  obtain ⟨-, hwithout', -, hunknown'⟩ := loads_edited hvessel hloads
  have hswapped := hperm [role, name] (.swap role name [])
  have htext := (Json.value_reader_eq_ok_iff snapshotForm.schema).mpr read?_aboardText
  refine ⟨hloads, hswapped, hswapped.2 Json.reader _ htext, ?_, ?_, ?_, ?_, ?_⟩
  · exact (hwithout [name] _ _ [] _ rfl rfl).2 rfl
  · exact hrepeated [name, role] _ _ [] rfl (by decide) (by decide)
  · exact (hunknown [name] "rank" (.integer 3) [role] rfl (by decide)).2 rfl
  · exact (hwithout' [] "mach" (.integer 0) _ _ rfl rfl).1 (by decide) rfl
  · exact (hunknown' [] "rank" .null _ rfl (by decide)).1 rfl

end DocumentKind

end FlightCaption.Document
