import FlightCaption.Proofs.Calendar.Pattern
import FlightCaption.Proofs.Calendar.Split
import FlightCaption.Proofs.Expansion.Builtin
import FlightCaption.Proofs.Results

/-!
# When built-in tags fail

A built-in tag fails where the snapshot lacks what it shows, where the calendar has no year for the
time, where a pattern cannot be written, or where a crew tag does not know its argument. This module
says when, tag by tag (`Builtin.FailsIn`), and shows that the expansion agrees: the marker of a tag
stands in its caption in these cases and in no others.

The tags of the clock never fail. Their numbers come from a split time, whose parts are in range,
and the pattern of the time of day suits every time.

Main statement: `expand_marked_iff_failsIn`.
-/

namespace FlightCaption

/-! ## What tags need -/

/-- The calendar year of the snapshot's time is out of range, or so is the year before it, which is
    the sum that is taken first. -/
def Context.YearOverflows (context : Context) : Prop :=
  let years := (context.calendar.split context.snapshot.time).years
  let baseYear := context.calendar.baseYear.toInt
  ¬ Calendar.Fits (years + baseYear) ∨ ¬ Calendar.Fits (years + baseYear + 1)

/-- The cases in which a tag fails. -/
def Builtin.FailsIn (context : Context) (args : List String) : Builtin → Prop
  | newline => False
  | custom => False
  | clock _ => False
  | universalTime => context.YearOverflows
  | year => context.YearOverflows
  | date => ∃ fault, context.calendar.formatTime context.snapshot.time
      (datePattern context.overlay args) = .error fault
  | target => context.snapshot.target = none
  | missionTime => context.snapshot.vessel = none
  | vessel _ => context.snapshot.vessel = none
  | biome => ∀ vessel ∈ context.snapshot.vessel, vessel.biome = none
  | landingZone => ∀ vessel ∈ context.snapshot.vessel, vessel.landedAt = none ∧ vessel.biome = none
  | orbit _ => ∀ vessel ∈ context.snapshot.vessel, vessel.orbit = none
  | period => ∀ vessel ∈ context.snapshot.vessel, vessel.orbit = none
  | crew _ => (∃ word ∈ args.head?, word ≠ "" ∧ word ≠ "full" ∧ word ≠ "short") ∨
      context.snapshot.vessel = none

/-! ## Failing parts of texts -/

theorem Scope.fails_vessel_iff {scope : Scope} :
    Fails scope.vessel ↔ scope.context.snapshot.vessel = none := by
  rw [Scope.vessel]
  cases scope.context.snapshot.vessel with
  | none => simp
  | some vessel => simp

/-- What needs a vessel fails without one, and else where it fails for the vessel. -/
theorem Scope.fails_bind_vessel_iff {α : Type} {scope : Scope}
    {next : Vessel → Except TagFault α} :
    Fails (scope.vessel >>= next) ↔
      ∀ vessel ∈ scope.context.snapshot.vessel, Fails (next vessel) := by
  rw [Scope.vessel]
  cases scope.context.snapshot.vessel with
  | none => simp
  | some vessel => simp

theorem Scope.fails_orbit_iff {scope : Scope} :
    Fails scope.orbit ↔ ∀ vessel ∈ scope.context.snapshot.vessel, vessel.orbit = none := by
  rw [Scope.orbit, fails_bind_vessel_iff]
  refine forall₂_congr fun vessel _ => ?_
  cases vessel.orbit with
  | none => simp
  | some orbit => simp

theorem Builtin.fails_require_iff {data : String} {found : Option String} :
    Fails (require data found) ↔ found = none := by
  cases found with
  | none => simp [require]
  | some text => simp [require]

/-- The calendar has no year for the snapshot's time exactly where one of the sums is out of
    range. -/
theorem Context.fails_yearOf_iff {context : Context} :
    Fails (context.calendar.yearOf (context.calendar.split context.snapshot.time)) ↔
      context.YearOverflows :=
  Calendar.fails_yearOf_iff.trans not_and_or

theorem NameStyle.ofWord?_eq_none_iff {word : Option String} :
    ofWord? word = none ↔ ∃ w ∈ word, w ≠ "" ∧ w ≠ "full" ∧ w ≠ "short" := by
  cases word with
  | none => simp [ofWord?]
  | some w =>
    by_cases hfull : w = "" ∨ w = "full"
    · rcases hfull with rfl | rfl <;> simp [ofWord?]
    · by_cases hshort : w = "short"
      · simp [ofWord?, hshort]
      · simpa [ofWord?, hfull, hshort] using not_or.mp hfull

/-! ## Failing tags -/

namespace Builtin

/-- The crew tags fail for a word that they do not know, and without a vessel. -/
theorem fails_crewText_iff {scope : Scope} {role : Option CrewRole} {args : List String} :
    Fails (crewText scope role args) ↔
      (∃ word ∈ args.head?, word ≠ "" ∧ word ≠ "full" ∧ word ≠ "short") ∨
        scope.context.snapshot.vessel = none := by
  rw [← NameStyle.ofWord?_eq_none_iff, crewText]
  cases NameStyle.ofWord? args.head? with
  | none => simp
  | some style =>
    rw [fails_bind_pure_iff, Scope.fails_vessel_iff]
    simp

/-- The text of a tag is a fault in the cases that are listed, and in no others. -/
theorem fails_textIn_iff {context : Context} {args : List String} {tag : Builtin} :
    Fails (tag.textIn context args) ↔ tag.FailsIn context args := by
  -- One case for each kind of tag, after what it needs first
  cases tag with
  | newline => simp [textIn, text, FailsIn]
  | custom => simp [textIn, text, FailsIn]
  | clock part => simp [textIn, text, FailsIn]
  | universalTime =>
    rw [textIn, text, fails_mapError_iff, Calendar.universalTime, fails_bind_pure_iff]
    exact Context.fails_yearOf_iff
  | year =>
    rw [textIn, text, fails_mapError_iff, fails_map_iff]
    exact Context.fails_yearOf_iff
  | date =>
    rw [textIn, text, fails_mapError_iff]
    rfl
  | target => exact fails_require_iff
  | missionTime => exact fails_bind_pure_iff.trans Scope.fails_vessel_iff
  | vessel reading => exact fails_bind_pure_iff.trans Scope.fails_vessel_iff
  | biome =>
    rw [textIn, text, Scope.fails_bind_vessel_iff]
    simp only [fails_require_iff]
    rfl
  | landingZone =>
    rw [textIn, text, Scope.fails_bind_vessel_iff]
    simp only [fails_require_iff, Option.orElse_eq_orElse, Option.orElse_eq_or,
      Option.or_eq_none_iff]
    rfl
  | orbit reading => exact fails_bind_pure_iff.trans Scope.fails_orbit_iff
  | period => exact fails_bind_pure_iff.trans Scope.fails_orbit_iff
  | crew role => exact fails_crewText_iff

end Builtin

/-! ## Failing captions -/

/-- A fault becomes a marker with one event, and nothing else does. -/
theorem exists_captionOfResult_eq_iff {tag : String} {result : Except TagFault String} :
    (∃ fault, captionOfResult tag result =
      { text := Caption.marker tag, log := [.failed tag fault] }) ↔ Fails result := by
  cases result with
  | ok text => simp [captionOfResult]
  | error fault => simp [captionOfResult]

theorem exists_failed_mem_captionOfResult_iff {tag : String} {result : Except TagFault String} :
    (∃ fault, .failed tag fault ∈ (captionOfResult tag result).log) ↔ Fails result := by
  cases result with
  | ok text => simp [captionOfResult]
  | error fault => simp [captionOfResult]

/-- Where the custom tag is switched off, it does not fail either. -/
theorem failed_custom_not_mem_log (context : Context) (tokens : List Token) (fault : TagFault) :
    .failed customTagName fault ∉ (expand context false tokens).log := by
  induction tokens with
  | nil => simp
  | cons token tokens ih =>
    have htoken : .failed customTagName fault ∉ (expand context false [token]).log := by
      cases token with
      | literal text => simp
      | tag key args =>
        rcases left_or_builtin_or_custom false key with
          hleft | ⟨tag, htag, rfl⟩ | ⟨-, hallowed⟩
        · rw [expand_left context false hleft]
          simp
        · -- The events of another tag carry its own name
          have hname : customTagName ≠ tag.name :=
            fun hname => htag (Builtin.name_injective hname.symm)
          rw [expand_tag context false htag]
          cases tag.textIn context args with
          | ok text => simp [captionOfResult]
          | error fault => simpa [captionOfResult] using fun hsame => absurd hsame hname
        · exact absurd hallowed (by decide)
    rw [expand_cons, Caption.log_append, List.mem_append, not_or]
    exact ⟨htoken, ih⟩

/-- **A built-in tag is marked as failed exactly where it lacks what it needs.** Its caption is then
    its marker with one event that names it, and there is no such event otherwise. (A text that
    happens to read like a marker, such as the name of a vessel, comes without the event.) Nothing
    else can fail behind a tag: every time can be split, into parts that are in range together with
    the day of the year, and the pattern of the time of day can be written for them. -/
theorem expand_marked_iff_failsIn (context : Context) (args : List String) (tag : Builtin) :
    ((∃ fault, expand context true [.tag tag.name args] =
        { text := "Error expanding <" ++ tag.name ++ ">", log := [.failed tag.name fault] }) ↔
      tag.FailsIn context args) ∧
    ((∃ fault, .failed tag.name fault ∈ (expand context true [.tag tag.name args]).log) ↔
      tag.FailsIn context args) ∧
    ∀ time,
      context.calendar.units.split? time = .ok (context.calendar.split time) ∧
      (context.calendar.split time).Fit ∧
      context.calendar.format (context.calendar.split time) "h:mm:ss" =
        .ok (context.calendar.split time).clock := by
  have htimes : ∀ time, context.calendar.units.split? time = .ok (context.calendar.split time) ∧
      (context.calendar.split time).Fit ∧
      context.calendar.format (context.calendar.split time) "h:mm:ss" =
        .ok (context.calendar.split time).clock := by
    intro time
    exact ⟨context.calendar.split?_units time, context.calendar.fit_split time,
      context.calendar.format_clock _⟩
  by_cases hcustom : tag = .custom
  · -- The caption of the custom tag is that of its text, which never names the tag as failed
    subst hcustom
    have hlog : ∀ fault, .failed customTagName fault ∉
        (expand context true [.tag Builtin.custom.name args]).log := by
      intro fault
      rw [Builtin.name, expand_custom]
      exact failed_custom_not_mem_log context _ fault
    refine ⟨⟨?_, False.elim⟩, ⟨?_, False.elim⟩, htimes⟩
    · rintro ⟨fault, hcaption⟩
      apply hlog fault
      rw [hcaption]
      exact List.mem_singleton_self _
    · rintro ⟨fault, hmem⟩
      exact hlog fault hmem
  · rw [expand_tag context true hcustom, ← Builtin.fails_textIn_iff]
    exact ⟨exists_captionOfResult_eq_iff, exists_failed_mem_captionOfResult_iff, htimes⟩

/-- A crew tag is marked for a word that it does not know, and not for one that it knows. -/
theorem expand_marked_iff_failsIn_crewWord :
    let context : Context := { snapshot := { vessel := some {} }, calendar := default }
    (∃ fault, expand context true [.tag "Crew" ["initials"]] =
      { text := "Error expanding <Crew>", log := [.failed "Crew" fault] }) ∧
    ¬ ∃ fault, .failed "Crew" fault ∈ (expand context true [.tag "Crew" ["short"]]).log := by
  intro context
  constructor
  · have hfails : (Builtin.crew none).FailsIn context ["initials"] :=
      .inl ⟨"initials", rfl, by decide, by decide, by decide⟩
    exact (expand_marked_iff_failsIn context ["initials"] (.crew none)).1.mpr hfails
  · intro hmarked
    have hfails := (expand_marked_iff_failsIn context ["short"] (.crew none)).2.1.mp hmarked
    simp [Builtin.FailsIn, context] at hfails

end FlightCaption
