import FlightCaption.Document.Json.Reader
import FlightCaption.Document.Yaml.Reader
import FlightCaption.Proofs.Calendar.Pattern
import FlightCaption.Proofs.Calendar.Split
import FlightCaption.Proofs.Document.Settings
import FlightCaption.Proofs.Load.Loading

/-!
# Calendars and their settings

A calendar is made from settings, which come from names in a program, from changes to another
calendar or from a document, and which need not make sense. This module follows the settings through
all of these ways.

1. Settings have *faults*, in the order in which they are looked for. The check of settings reports
   the first one, and without any it makes the calendar that holds the settings as they are.
2. A document is checked as the settings that it holds, and all settings can be held by one. So is a
   text, whatever its reader, if the reader finds such a document in it.
3. However a calendar is made, step after step, it holds the settings that it was last given, and
   these are without fault.

Main statement: `Calendar.settings_checked`.
-/

namespace FlightCaption

namespace Calendar

/-! ## Settings and their faults -/

/-- Settings that make a calendar. -/
structure Raw.Valid (raw : Raw) : Prop where
  months : raw.months.length = 12
  days : raw.days.length = 6
  units : ∀ unit, 0 < raw.units.length unit

/-- What is wrong with settings, in the order in which it is looked for. -/
def Raw.faults (raw : Raw) : List CalendarFault :=
  (if raw.months.length = 12 then [] else [.wrongNameCount .month raw.months.length]) ++
    (if raw.days.length = 6 then [] else [.wrongNameCount .day raw.days.length]) ++
    (UnitName.all.filter fun unit => raw.units.length unit ≤ 0).map fun unit =>
      .invalidUnit unit (raw.units.length unit)

/-- Settings without faults are valid. -/
theorem Raw.faults_eq_nil_iff {raw : Raw} : raw.faults = [] ↔ raw.Valid := by
  have hunits : (∀ unit ∈ UnitName.all, ¬ raw.units.length unit ≤ 0) ↔ raw.units.Valid := by
    constructor
    · intro h unit
      exact Int.not_le.mp (h unit unit.mem_all)
    · intro h unit _
      exact Int.not_le.mpr (h unit)
  simp only [faults, List.append_eq_nil_iff, List.map_eq_nil_iff, List.filter_eq_nil_iff,
    decide_eq_true_eq, ite_eq_left_iff, List.cons_ne_nil, imp_false, Decidable.not_not, hunits]
  constructor
  · rintro ⟨⟨hmonths, hdays⟩, hpositive⟩
    exact ⟨hmonths, hdays, hpositive⟩
  · rintro ⟨hmonths, hdays, hpositive⟩
    exact ⟨⟨hmonths, hdays⟩, hpositive⟩

/-- The settings that a calendar holds. -/
def raw (calendar : Calendar) : Raw where
  months := calendar.months.toList
  days := calendar.days.toList
  baseYear := calendar.baseYear
  units := calendar.units

/-- A calendar is nothing but its settings. -/
theorem raw_injective {calendar calendar' : Calendar} (h : calendar.raw = calendar'.raw) :
    calendar = calendar' := by
  obtain ⟨months, days, baseYear, units, hunits⟩ := calendar
  obtain ⟨months', days', baseYear', units', hunits'⟩ := calendar'
  simp only [raw, Raw.mk.injEq] at h
  obtain ⟨hmonths, hdays, rfl, rfl⟩ := h
  obtain rfl : months = months' := Vector.toList_inj.mp hmonths
  obtain rfl : days = days' := Vector.toList_inj.mp hdays
  rfl

/-! ## Steps of the check -/

/-- The tables of names are taken over where they have their sizes. -/
theorem raw_of_ofNames {months days : List String} {calendar : Calendar}
    (h : ofNames months days = .ok calendar) :
    months.length = 12 ∧ days.length = 6 ∧ calendar.raw = { months, days } := by
  rw [ofNames] at h
  split at h
  · next hmonths =>
    split at h
    · next hdays =>
      obtain rfl := Except.ok.inj h
      exact ⟨hmonths, hdays, rfl⟩
    · contradiction
  · contradiction

theorem withUnits_of_valid (calendar : Calendar) {units : Units} (h : units.Valid) :
    calendar.withUnits units = .ok { calendar with units, units_valid := h } := by
  have hnone : units.firstInvalid? = none := (Units.valid_iff_firstInvalid?_eq_none units).mp h
  rw [withUnits]
  split
  · rfl
  · next unit hsome =>
    rw [hnone] at hsome
    contradiction

theorem withUnits_of_firstInvalid (calendar : Calendar) {units : Units} {unit : UnitName}
    (h : units.firstInvalid? = some unit) :
    calendar.withUnits units = .error (.invalidUnit unit (units.length unit)) := by
  rw [withUnits]
  split
  · next hnone =>
    rw [h] at hnone
    contradiction
  · next found hsome =>
    obtain rfl : unit = found := Option.some.inj (h.symm.trans hsome)
    rfl

/-- Unit lengths are taken over where they are positive; the rest of the calendar stays. -/
theorem raw_of_withUnits {calendar calendar' : Calendar} {units : Units}
    (h : calendar.withUnits units = .ok calendar') :
    units.Valid ∧ calendar'.raw = { calendar.raw with units } := by
  rw [withUnits] at h
  split at h
  · next hnone =>
    obtain rfl := Except.ok.inj h
    exact ⟨(Units.valid_iff_firstInvalid?_eq_none units).mpr hnone, rfl⟩
  · contradiction

/-! ## The check -/

/-- Valid settings make the calendar that holds them. -/
theorem exists_ofRaw_of_valid {raw : Raw} (h : raw.Valid) :
    ∃ calendar, ofRaw raw = .ok calendar ∧ calendar.raw = raw := by
  refine ⟨⟨⟨raw.months.toArray, h.months⟩, ⟨raw.days.toArray, h.days⟩, raw.baseYear, raw.units,
    h.units⟩, ?_, rfl⟩
  rw [ofRaw, ofNames, dif_pos h.months, dif_pos h.days]
  simp only [bind, Except.bind]
  rw [withUnits_of_valid _ h.units]
  rfl

/-- The first fault of settings is what is reported. -/
theorem ofRaw_of_head?_faults {raw : Raw} {fault : CalendarFault}
    (h : raw.faults.head? = some fault) : ofRaw raw = .error fault := by
  by_cases hmonths : raw.months.length = 12
  · by_cases hdays : raw.days.length = 6
    · -- The names are right, so a unit length is not
      have hunit : raw.units.firstInvalid?.map
          (fun unit => CalendarFault.invalidUnit unit (raw.units.length unit)) = some fault := by
        simpa [Raw.faults, hmonths, hdays, Units.firstInvalid?] using h
      obtain ⟨unit, hfirst, rfl⟩ := Option.map_eq_some_iff.mp hunit
      rw [ofRaw, ofNames, dif_pos hmonths, dif_pos hdays]
      simp only [bind, Except.bind]
      rw [withUnits_of_firstInvalid _ hfirst]
    · obtain rfl : CalendarFault.wrongNameCount .day raw.days.length = fault := by
        simpa [Raw.faults, hmonths, hdays] using h
      rw [ofRaw, ofNames, dif_pos hmonths, dif_neg hdays]
      rfl
  · obtain rfl : CalendarFault.wrongNameCount .month raw.months.length = fault := by
      simpa [Raw.faults, hmonths] using h
    rw [ofRaw, ofNames, dif_neg hmonths]
    rfl

/-- Settings are valid or have a first fault. -/
theorem Raw.valid_or_exists_head?_faults (raw : Raw) :
    raw.Valid ∨ ∃ fault, raw.faults.head? = some fault := by
  cases hfaults : raw.faults with
  | nil => exact .inl (Raw.faults_eq_nil_iff.mp hfaults)
  | cons fault faults => exact .inr ⟨fault, rfl⟩

/-- Settings make a calendar exactly where they are valid, and only the one that holds them. -/
theorem ofRaw_eq_ok_iff {raw : Raw} {calendar : Calendar} :
    ofRaw raw = .ok calendar ↔ raw.Valid ∧ calendar.raw = raw := by
  constructor
  · intro h
    rcases raw.valid_or_exists_head?_faults with hvalid | ⟨fault, hfault⟩
    · obtain ⟨made, hmade, hraw⟩ := exists_ofRaw_of_valid hvalid
      obtain rfl : made = calendar := Except.ok.inj (hmade.symm.trans h)
      exact ⟨hvalid, hraw⟩
    · rw [ofRaw_of_head?_faults hfault] at h
      contradiction
  · rintro ⟨hvalid, hraw⟩
    obtain ⟨made, hmade, hraw'⟩ := exists_ofRaw_of_valid hvalid
    rw [hmade, raw_injective (hraw'.trans hraw.symm)]

/-- Settings are refused for their first fault. -/
theorem ofRaw_eq_error_iff {raw : Raw} {fault : CalendarFault} :
    ofRaw raw = .error fault ↔ raw.faults.head? = some fault := by
  constructor
  · intro h
    rcases raw.valid_or_exists_head?_faults with hvalid | ⟨first, hfirst⟩
    · obtain ⟨made, hmade, -⟩ := exists_ofRaw_of_valid hvalid
      rw [hmade] at h
      contradiction
    · obtain rfl : first = fault := Except.error.inj ((ofRaw_of_head?_faults hfirst).symm.trans h)
      exact hfirst
  · exact ofRaw_of_head?_faults

/-! ## Settings in documents -/

open Document (Misfit Reader calendarForm decode)

/-- A document's value conforms to the schema of calendars and holds settings. Members that are left
    out are at their defaults. -/
structure Raw.HeldBy (raw : Raw) (value : Document.Value) : Prop where
  conform : calendarForm.schema.conform value = .ok ()
  read : calendarForm.read value = raw

/-- All settings can be held. -/
theorem Raw.heldBy_document (raw : Raw) : raw.HeldBy raw.document :=
  ⟨conform_document raw, read_document raw⟩

section

variable {raw : Raw} {value : Document.Value} {calendar : Calendar}

theorem decode_of_heldBy (h : raw.HeldBy value) :
    (decode value : Except Misfit Calendar) = (ofRaw raw).mapError .refused := by
  show (calendarForm.schema.conform value >>= fun _ =>
    (ofRaw (calendarForm.read value)).mapError .refused) = _
  rw [h.conform, h.read]
  rfl

theorem decode_eq_ok_iff (h : raw.HeldBy value) :
    decode value = .ok calendar ↔ raw.Valid ∧ calendar.raw = raw := by
  rw [decode_of_heldBy h, mapError_eq_ok_iff, ofRaw_eq_ok_iff]

theorem decode_eq_error_iff {misfit : Misfit} (h : raw.HeldBy value) :
    (decode value : Except Misfit Calendar) = .error misfit ↔
      ∃ fault, raw.faults.head? = some fault ∧ .refused fault = misfit := by
  rw [decode_of_heldBy h, mapError_eq_error_iff]
  simp only [ofRaw_eq_error_iff]

/-- What is decoded has settings that the value holds. -/
theorem heldBy_of_decode (h : decode value = .ok calendar) : calendar.raw.HeldBy value := by
  have hbind : (calendarForm.schema.conform value >>= fun _ =>
      (ofRaw (calendarForm.read value)).mapError Misfit.refused) = .ok calendar := h
  obtain ⟨⟨⟩, hconform, hcheck⟩ := bind_eq_ok_iff.mp hbind
  rw [mapError_eq_ok_iff, ofRaw_eq_ok_iff] at hcheck
  exact ⟨hconform, hcheck.2.symm⟩

end

/-! ## Settings in texts -/

/-- A reader finds a document in a text that holds the settings. -/
def Raw.WrittenAs (raw : Raw) (reader : Reader) (text : String) : Prop :=
  ∃ value, reader.value calendarForm.schema text = .ok value ∧ raw.HeldBy value

section

variable {reader : Reader} {text : String} {raw : Raw} {calendar : Calendar}

theorem read_eq_ok_iff (h : raw.WrittenAs reader text) :
    reader.read text = .ok calendar ↔ raw.Valid ∧ calendar.raw = raw := by
  obtain ⟨value, hvalue, hheld⟩ := h
  rw [Reader.read_of_value hvalue, mapError_eq_ok_iff, decode_eq_ok_iff hheld]

/-- Settings with faults are refused for the first, in the reader's wording. -/
theorem read_of_head?_faults {fault : CalendarFault} (h : raw.WrittenAs reader text)
    (hfault : raw.faults.head? = some fault) :
    (reader.read text : Except String Calendar) =
      .error (reader.wording text (.refused fault)) := by
  obtain ⟨value, hvalue, hheld⟩ := h
  rw [Reader.read_of_value hvalue, decode_of_heldBy hheld, ofRaw_of_head?_faults hfault]
  rfl

/-- A calendar that is read has the settings that the text was found to hold. -/
theorem writtenAs_of_read (h : reader.read text = .ok calendar) :
    calendar.raw.WrittenAs reader text := by
  obtain ⟨value, hvalue, hdecode⟩ := Reader.read_eq_ok_iff.mp h
  exact ⟨value, hvalue, heldBy_of_decode hdecode⟩

theorem ofText_eq_ok_iff : ofText reader text = .ok calendar ↔ reader.read text = .ok calendar :=
  mapError_eq_ok_iff

/-- The words of the first fault are in the message about a text that holds it. -/
theorem exists_read_of_head?_faults {fault : CalendarFault} (hreader : reader.TellsRefusals)
    (h : raw.WrittenAs reader text) (hfault : raw.faults.head? = some fault) :
    ∃ before after, (reader.read text : Except String Calendar) =
      .error (before ++ fault.message ++ after) := by
  obtain ⟨before, after, hwording⟩ := hreader text fault
  exact ⟨before, after, by rw [read_of_head?_faults h hfault, hwording]⟩

end

/-! ## Ways to make a calendar -/

/-- A calendar is made, in any number of steps, and these are the settings that it was last
    given. -/
inductive MadeWith : Calendar → Raw → Prop where
  | standard : MadeWith default {}
  | names {months days : List String} {calendar : Calendar}
      (h : ofNames months days = .ok calendar) : MadeWith calendar { months, days }
  /-- From the text of a calendar. -/
  | text {reader : Reader} {text : String} {raw : Raw} {calendar : Calendar}
      (hraw : raw.WrittenAs reader text) (h : ofText reader text = .ok calendar) :
      MadeWith calendar raw
  /-- From the text of some document. -/
  | parsed {readers : Readers} {format : Format} {text : String} {raw : Raw} {calendar : Calendar}
      (hraw : raw.WrittenAs (format.reader readers) text)
      (h : parseText readers format text = .ok calendar) : MadeWith calendar raw
  | units {calendar calendar' : Calendar} {raw : Raw} {units : Units}
      (made : MadeWith calendar raw) (h : calendar.withUnits units = .ok calendar') :
      MadeWith calendar' { raw with units }
  | baseYear {calendar : Calendar} {raw : Raw} (made : MadeWith calendar raw) (baseYear : Int64) :
      MadeWith (calendar.withBaseYear baseYear) { raw with baseYear }

/-- No step lets a fault through or loses a setting. -/
theorem MadeWith.valid_and_raw {calendar : Calendar} {raw : Raw} (made : calendar.MadeWith raw) :
    raw.Valid ∧ calendar.raw = raw := by
  induction made with
  | standard => exact ⟨⟨rfl, rfl, (default : Calendar).units_valid⟩, rfl⟩
  | names h =>
    obtain ⟨hmonths, hdays, hraw⟩ := raw_of_ofNames h
    exact ⟨⟨hmonths, hdays, (default : Calendar).units_valid⟩, hraw⟩
  | text hraw h => exact (read_eq_ok_iff hraw).mp (ofText_eq_ok_iff.mp h)
  | parsed hraw h => exact (read_eq_ok_iff hraw).mp (parseText_eq_ok_iff.mp h)
  | units made h ih =>
    obtain ⟨hvalid, hraw⟩ := ih
    obtain ⟨hunits, hraw'⟩ := raw_of_withUnits h
    exact ⟨⟨hvalid.months, hvalid.days, hunits⟩, by rw [hraw', hraw]⟩
  | baseYear made baseYear ih =>
    obtain ⟨hvalid, hraw⟩ := ih
    exact ⟨⟨hvalid.months, hvalid.days, hvalid.units⟩, by rw [← hraw]; rfl⟩

/-- Names of months and weekdays are found for every pattern. -/
theorem format_ne_nameFault (calendar : Calendar) (parts : TimeParts) (pattern : String)
    (number : Int) :
    calendar.format parts pattern ≠ .error (.monthOutOfRange number) ∧
      calendar.format parts pattern ≠ .error (.weekdayOutOfRange number) := by
  constructor
  · intro h
    obtain ⟨run, hoffends⟩ := exists_offends_of_format h
    contradiction
  · intro h
    obtain ⟨run, hoffends⟩ := exists_offends_of_format h
    contradiction

/-- **The settings of a calendar are checked on every way into it.**

* A calendar holds the settings that it was last given, and they are without fault. Writing a date
  in it never lacks the name of a month or a weekday, and every time can be split.
* A document's value is accepted exactly where the settings that it holds are valid, and they are
  kept; else it is refused for their first fault. All settings can be held by a document.
* A text that stands for such a value is accepted likewise, read as a calendar or as a document of
  any kind of format; else its reader's message tells the first fault.
* What is read from a text is made with the settings that the text stands for. -/
theorem settings_checked :
    (∀ (calendar : Calendar) (raw : Raw), calendar.MadeWith raw →
      raw.Valid ∧ calendar.raw = raw ∧
      (∀ parts pattern number,
        calendar.format parts pattern ≠ .error (.monthOutOfRange number) ∧
        calendar.format parts pattern ≠ .error (.weekdayOutOfRange number)) ∧
      ∀ time, calendar.units.split? time = .ok (calendar.split time)) ∧
    (∀ (raw : Raw) (value : Document.Value), raw.HeldBy value →
      (∀ calendar : Calendar, decode value = .ok calendar ↔ raw.Valid ∧ calendar.raw = raw) ∧
      ∀ misfit, (decode value : Except Misfit Calendar) = .error misfit ↔
        ∃ fault, raw.faults.head? = some fault ∧ .refused fault = misfit) ∧
    (∀ raw : Raw, raw.HeldBy raw.document) ∧
    (∀ (reader : Reader) (text : String) (raw : Raw), raw.WrittenAs reader text →
      (∀ calendar, ofText reader text = .ok calendar ↔ raw.Valid ∧ calendar.raw = raw) ∧
      (reader.TellsRefusals → ∀ fault, raw.faults.head? = some fault →
        ∃ before after, ofText reader text =
          .error (.unparsed (before ++ fault.message ++ after)))) ∧
    (∀ (readers : Readers) (format : Format) (text : String) (raw : Raw),
      raw.WrittenAs (format.reader readers) text →
      (∀ calendar : Calendar, parseText readers format text = .ok calendar ↔
        raw.Valid ∧ calendar.raw = raw) ∧
      ((format.reader readers).TellsRefusals → ∀ fault, raw.faults.head? = some fault →
        ∃ before after, (parseText readers format text : Except LoadFault Calendar) =
          .error (.unparsed LoadFault.inlineOrigin (before ++ fault.message ++ after)))) ∧
    (∀ (reader : Reader) (text : String) (calendar : Calendar),
      ofText reader text = .ok calendar → calendar.raw.WrittenAs reader text) ∧
    ∀ (readers : Readers) (format : Format) (text : String) (calendar : Calendar),
      parseText readers format text = .ok calendar →
        calendar.raw.WrittenAs (format.reader readers) text := by
  refine ⟨?_, ?_, Raw.heldBy_document, ?_, ?_, ?_, ?_⟩
  · intro calendar raw made
    obtain ⟨hvalid, hraw⟩ := made.valid_and_raw
    exact ⟨hvalid, hraw, calendar.format_ne_nameFault, calendar.split?_units⟩
  · intro raw value h
    exact ⟨fun _ => decode_eq_ok_iff h, fun _ => decode_eq_error_iff h⟩
  · intro reader text raw h
    refine ⟨fun calendar => ofText_eq_ok_iff.trans (read_eq_ok_iff h), ?_⟩
    intro hreader fault hfault
    obtain ⟨before, after, hread⟩ := exists_read_of_head?_faults hreader h hfault
    exact ⟨before, after, by rw [ofText, hread, mapError_error]⟩
  · intro readers format text raw h
    refine ⟨fun calendar => parseText_eq_ok_iff.trans (read_eq_ok_iff h), ?_⟩
    intro hreader fault hfault
    obtain ⟨before, after, hread⟩ := exists_read_of_head?_faults hreader h hfault
    exact ⟨before, after, by rw [parseText, hread, mapError_error]⟩
  · intro reader text calendar h
    exact writtenAs_of_read (ofText_eq_ok_iff.mp h)
  · intro readers format text calendar h
    exact writtenAs_of_read (parseText_eq_ok_iff.mp h)

/-- A calendar's text in YAML with three names of months. -/
def threeMonthsText : String := "months: [a, b, c]\n"

theorem writtenAs_threeMonthsText :
    Raw.WrittenAs { months := ["a", "b", "c"] } Document.Yaml.reader threeMonthsText := by
  have htokens : Document.Yaml.tokens? threeMonthsText = some [.blockMapping, .key,
      .scalar true "months".toList, .colon, .openSequence, .scalar true ['a'], .comma,
      .scalar true ['b'], .comma, .scalar true ['c'], .closeSequence, .blockEnd] := by
    decide +kernel
  have hnode : Document.Yaml.read? threeMonthsText = some (.mapping [(.scalar true "months".toList,
      .sequence [.scalar true ['a'], .scalar true ['b'], .scalar true ['c']])]) := by
    rw [Document.Yaml.read?, htokens]
    rfl
  refine ⟨.object [("months", .array [.text "a", .text "b", .text "c"])], ?_, rfl, rfl⟩
  dsimp only [Document.Yaml.reader]
  rw [hnode]
  rfl

/-- The reader of YAML texts tells a check's words as they are. -/
theorem tellsRefusals_yamlReader : Document.Yaml.reader.TellsRefusals := by
  intro text fault
  refine ⟨"", "", ?_⟩
  show fault.message = _
  rw [String.append_empty, String.empty_append]

/-- A calendar is read from a text without settings and then given other unit lengths and another
    base year. One without hours in its days is refused, and so is a text with three months. -/
theorem settings_checked_in_steps :
    (∃ calendar : Calendar, calendar.raw = { baseYear := 1950, units := .earth }) ∧
    (decode ({ units := { hoursPerDay := 0 } } : Raw).document : Except Misfit Calendar) =
      .error (.refused (.invalidUnit .hoursPerDay 0)) ∧
    ∃ before after, ofText Document.Yaml.reader threeMonthsText =
      .error (.unparsed (before ++ "expected 12 month names, got 3" ++ after)) := by
  obtain ⟨hmade, hdecode, hheld, htext, -, -, -⟩ := settings_checked
  refine ⟨?_, ?_, ?_⟩
  · have hempty : Raw.WrittenAs {} Document.Json.reader "[]" := ⟨.array [], rfl, rfl, rfl⟩
    have hvalid : ({} : Raw).Valid := ⟨rfl, rfl, (default : Calendar).units_valid⟩
    have hfirst : ofText Document.Json.reader "[]" = .ok default :=
      ((htext _ _ _ hempty).1 default).mpr ⟨hvalid, rfl⟩
    have hunits := (MadeWith.text hempty hfirst).units
      (withUnits_of_valid default (show Units.earth.Valid by decide))
    exact ⟨_, (hmade _ _ (hunits.baseYear 1950)).2.1⟩
  · exact ((hdecode _ _ (hheld _)).2 _).mpr ⟨.invalidUnit .hoursPerDay 0, by decide, rfl⟩
  · have hmessage : (CalendarFault.wrongNameCount .month 3).message =
        "expected 12 month names, got 3" := by decide +kernel
    rw [← hmessage]
    exact (htext _ _ _ writtenAs_threeMonthsText).2 tellsRefusals_yamlReader _ (by decide)

end Calendar

end FlightCaption
