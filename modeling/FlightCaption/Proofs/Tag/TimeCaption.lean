import FlightCaption.Proofs.Calendar.ClockText
import FlightCaption.Proofs.Tag.Failure
import FlightCaption.Renderer

/-!
# Captions of times

Three built-in tags write a time: the universal time, the time of the mission and the period of the
orbit. This module says which times can be read back from their captions.

1. The universal time stands in its caption in full, so that the caption determines the whole
   seconds, as long as the calendar has a year for them.
2. So does the mission time, as a sign and an elapsed time.
3. The period is written as an elapsed time without a sign. It can be read back where it is not
   negative. A negative period is shown as its rest by whole years, which is never the period.

Main statements: `render_universalTime_unambiguous`, `render_missionTime_faithful` and
`render_period_nonneg_faithful`.
-/

namespace FlightCaption

open Text (numbers)
open Numeric (Binary64)

/-- The parts of the time of a caption. -/
def Context.timeParts (context : Context) : TimeParts :=
  context.calendar.split context.snapshot.time

/-- The caption of a template that is one built-in tag other than the custom tag. -/
theorem render_singleTag {tag : Builtin} (htag : tag ≠ .custom) {template : String}
    {args : List String} (htokens : tokenize template = [.tag tag.name args]) (context : Context) :
    render template context = captionOfResult tag.name (tag.textIn context args) := by
  rw [render, htokens, expand_tag context true htag]

/-- Its text, where it has one. -/
theorem render_tag {tag : Builtin} (htag : tag ≠ .custom) {template : String} {args : List String}
    (htokens : tokenize template = [.tag tag.name args]) {context : Context} {text : String}
    (htext : tag.textIn context args = .ok text) : render template context = { text } := by
  rw [render_singleTag htag htokens, htext, captionOfResult]

/-! ## Universal time -/

/-- The caption of the universal time, where the calendar has a year for it. -/
theorem render_universalTime {context : Context} (hyear : ¬ context.YearOverflows) :
    ∃ year text, context.calendar.yearOf context.timeParts = .ok year ∧
      render "<UT>" context = { text } ∧ IsUniversalTime year context.timeParts text := by
  have hyear : context.calendar.HasYear context.timeParts := by
    rwa [← Context.fails_yearOf_iff, Calendar.fails_yearOf_iff, not_not] at hyear
  obtain ⟨year, text, hok, htext, hread⟩ := Calendar.exists_isUniversalTime hyear
  have htag : Builtin.universalTime ≠ .custom := by decide
  exact ⟨year, text, hok, render_tag htag rfl (mapError_eq_ok_iff.mpr htext), hread⟩

/-- **The caption of the universal time is unambiguous.** The calendar year, the day of the year and
    the time of day are read back from it, and no other whole seconds have the same caption in the
    calendar. -/
theorem render_universalTime_unambiguous {context : Context} (hyear : ¬ context.YearOverflows) :
    ∃ year text, context.calendar.yearOf context.timeParts = .ok year ∧
      render "<UT>" context = { text } ∧ IsUniversalTime year context.timeParts text ∧
      numbers text.toList = [year, context.timeParts.dayOfYear, context.timeParts.hours,
        context.timeParts.minutes, context.timeParts.seconds] ∧
      ∀ other : Context, other.calendar = context.calendar → ¬ other.YearOverflows →
        (render "<UT>" other).text = text →
          other.snapshot.time.wholeSeconds = context.snapshot.time.wholeSeconds := by
  obtain ⟨year, text, hok, hrender, hread⟩ := render_universalTime hyear
  refine ⟨year, text, hok, hrender, hread, hread.numbers_toList, ?_⟩
  intro other hcalendar hother htext
  obtain ⟨year', text', hok', hrender', hread'⟩ := render_universalTime hother
  obtain rfl : text' = text := by rw [← htext, hrender']
  rw [hcalendar] at hok'
  have hparts := Calendar.eq_of_isUniversalTime hok' hok hread' hread
  rw [Context.timeParts, hcalendar] at hparts
  exact Calendar.wholeSeconds_eq_of_split_eq hparts

/-- A time without a vessel, in the default calendar. -/
def Context.atTime (time : Binary64) : Context :=
  { snapshot := { time }, calendar := default }

@[simp] theorem Context.calendar_atTime (time : Binary64) :
    (Context.atTime time).calendar = default := rfl

theorem render_atTime {time : Binary64} {text : String}
    (h : (default : Calendar).universalTime ((default : Calendar).split time) = .ok text) :
    render "<UT>" (.atTime time) = { text } := by
  have htag : Builtin.universalTime ≠ .custom := by decide
  exact render_tag htag rfl (mapError_eq_ok_iff.mpr h)

/-- The first second of the calendar and the one before it, which ends the year before, have
    different captions. -/
theorem render_universalTime_acrossEpoch :
    ¬ (Context.atTime 0).YearOverflows ∧ ¬ (Context.atTime (-1)).YearOverflows ∧
      render "<UT>" (.atTime (-1)) = { text := "Y0, D426, 5:59:59" } ∧
      (render "<UT>" (.atTime 0)).text ≠ "Y0, D426, 5:59:59" := by
  have hepoch : ¬ (Context.atTime 0).YearOverflows := by
    rw [← Context.fails_yearOf_iff, not_fails_iff]
    exact ⟨1, by decide +kernel⟩
  have hbefore : ¬ (Context.atTime (-1)).YearOverflows := by
    rw [← Context.fails_yearOf_iff, not_fails_iff]
    exact ⟨0, by decide +kernel⟩
  have hrender : render "<UT>" (.atTime (-1)) = { text := "Y0, D426, 5:59:59" } :=
    render_atTime (by decide +kernel)
  obtain ⟨-, text, -, htext, -, -, hunique⟩ := render_universalTime_unambiguous hbefore
  obtain rfl : "Y0, D426, 5:59:59" = text := congrArg Caption.text (hrender.symm.trans htext)
  refine ⟨hepoch, hbefore, hrender, fun hsame => ?_⟩
  have hseconds := hunique (.atTime 0) (by simp) hepoch hsame
  rw [← Binary64.floor64_eq_wholeSeconds, ← Binary64.floor64_eq_wholeSeconds] at hseconds
  exact absurd hseconds (by decide +kernel)

/-! ## Mission time -/

/-- The caption of the mission time, where there is a vessel. -/
theorem render_missionTime {context : Context} {vessel : Vessel}
    (hvessel : context.snapshot.vessel = some vessel) :
    render "<T+>" context = { text := context.calendar.missionTime vessel.missionTime } := by
  have htag : Builtin.missionTime ≠ .custom := by decide
  refine render_tag htag rfl ?_
  rw [Builtin.textIn, Builtin.text, Scope.vessel]
  simp only [Expansion.scope, hvessel]
  rfl

/-- **The caption of the mission time shows its sign and its magnitude.** Years, days and the time
    of day are read back from it and make the whole seconds of the absolute value. So no mission
    time with another sign or with other whole seconds has the same caption in the calendar. -/
theorem render_missionTime_faithful {context : Context} {vessel : Vessel}
    (hvessel : context.snapshot.vessel = some vessel) :
    ∃ text, render "<T+>" context = { text } ∧
      IsMissionTime vessel.missionTime (context.calendar.split vessel.missionTime.abs) text ∧
      (∃ shown, TimeParts.ofNumbers? (numbers text.toList) = some shown ∧
        shown.total context.calendar.units = vessel.missionTime.abs.wholeSeconds) ∧
      ∀ (other : Context) (vessel' : Vessel), other.calendar = context.calendar →
        other.snapshot.vessel = some vessel' → (render "<T+>" other).text = text →
          (vessel'.missionTime.IsBelowZero ↔ vessel.missionTime.IsBelowZero) ∧
            vessel'.missionTime.abs.wholeSeconds = vessel.missionTime.abs.wholeSeconds := by
  have hread := context.calendar.isMissionTime_missionTime vessel.missionTime
  refine ⟨_, render_missionTime hvessel, hread,
    ⟨_, hread.ofNumbers?_numbers, context.calendar.total_split _⟩, ?_⟩
  intro other vessel' hcalendar hvessel' htext
  have hread' := other.calendar.isMissionTime_missionTime vessel'.missionTime
  rw [render_missionTime hvessel'] at htext
  change other.calendar.missionTime vessel'.missionTime = _ at htext
  rw [htext, hcalendar] at hread'
  exact ⟨hread'.isBelowZero_iff.trans hread.isBelowZero_iff.symm,
    Calendar.wholeSeconds_eq_of_split_eq (hread'.unique hread)⟩

/-- A vessel at a mission time, in the default calendar. -/
def Context.onMission (time : Binary64) : Context :=
  { snapshot := { vessel := some { missionTime := time } }, calendar := default }

@[simp] theorem Context.calendar_onMission (time : Binary64) :
    (Context.onMission time).calendar = default := rfl

/-- The same time before and after the launch. -/
theorem render_missionTime_bothSides :
    (Context.onMission (-65)).snapshot.vessel = some { missionTime := -65 } ∧
      (Context.onMission 65).snapshot.vessel = some { missionTime := 65 } ∧
      render "<T+>" (Context.onMission (-65)) = { text := "T- 0:01:05" } ∧
      (render "<T+>" (Context.onMission 65)).text ≠ "T- 0:01:05" := by
  have hrender : render "<T+>" (Context.onMission (-65)) = { text := "T- 0:01:05" } := by
    rw [render_missionTime rfl]
    decide +kernel
  obtain ⟨text, htext, -, -, hunique⟩ := @render_missionTime_faithful (.onMission (-65)) _ rfl
  obtain rfl : "T- 0:01:05" = text := congrArg Caption.text (hrender.symm.trans htext)
  refine ⟨rfl, rfl, hrender, fun hsame => ?_⟩
  obtain ⟨hsign, -⟩ := hunique (.onMission 65) _ (by simp) rfl hsame
  rw [← Binary64.lt_zero_iff, ← Binary64.lt_zero_iff] at hsign
  exact absurd hsign (by decide +kernel)

/-! ## Period of the orbit -/

/-- The caption of the period, where there is an orbit. -/
theorem render_period {context : Context} {vessel : Vessel} {orbit : Orbit}
    (hvessel : context.snapshot.vessel = some vessel) (horbit : vessel.orbit = some orbit) :
    render "<Period>" context =
      { text := (context.calendar.split orbit.period).duration } := by
  have htag : Builtin.period ≠ .custom := by decide
  refine render_tag htag rfl ?_
  rw [Builtin.textIn, Builtin.text, Scope.orbit, Scope.vessel]
  simp only [Expansion.scope, hvessel, ok_bind, horbit]
  rfl

/-- **The caption of the period shows the period exactly where that is not negative.** What is read
    back from it are the whole seconds of the period, and no other period that is not negative has
    the same caption in the calendar. A negative period is shown as its rest by whole years. -/
theorem render_period_nonneg_faithful {context : Context} {vessel : Vessel} {orbit : Orbit}
    (hvessel : context.snapshot.vessel = some vessel) (horbit : vessel.orbit = some orbit) :
    ∃ text shown, render "<Period>" context = { text } ∧ shown.IsDuration text ∧
      TimeParts.ofNumbers? (numbers text.toList) = some shown ∧
      (shown.total context.calendar.units = orbit.period.wholeSeconds ↔
        0 ≤ orbit.period.wholeSeconds) ∧
      (orbit.period.wholeSeconds < 0 → shown.total context.calendar.units =
        orbit.period.wholeSeconds % context.calendar.units.secondsPerYear) ∧
      ∀ (other : Context) (vessel' : Vessel) (orbit' : Orbit),
        other.calendar = context.calendar → other.snapshot.vessel = some vessel' →
        vessel'.orbit = some orbit' → 0 ≤ orbit.period.wholeSeconds →
        0 ≤ orbit'.period.wholeSeconds → (render "<Period>" other).text = text →
          orbit'.period.wholeSeconds = orbit.period.wholeSeconds := by
  have hread := context.calendar.isDuration_duration_split orbit.period
  have htotal := context.calendar.total_shown_split orbit.period
  have hyear := context.calendar.units_valid.secondsPerYear_pos
  refine ⟨_, _, render_period hvessel horbit, hread, hread.ofNumbers?_numbers, ?_, ?_, ?_⟩
  · rw [htotal]
    split
    · next hnonneg => exact iff_of_true rfl hnonneg
    · next hneg =>
      -- The rest by whole years is not negative
      have hrest := Int.emod_nonneg orbit.period.wholeSeconds hyear.ne'
      exact iff_of_false (fun h => hneg (h ▸ hrest)) hneg
  · intro hneg
    rw [htotal, if_neg (not_le.mpr hneg)]
  · intro other vessel' orbit' hcalendar hvessel' horbit' hnonneg hnonneg' htext
    have hread' := other.calendar.isDuration_duration_split orbit'.period
    have htotal' := other.calendar.total_shown_split orbit'.period
    rw [render_period hvessel' horbit'] at htext
    change (other.calendar.split orbit'.period).duration = _ at htext
    rw [htext] at hread'
    rw [hread'.unique hread, hcalendar, htotal, if_pos hnonneg, if_pos hnonneg'] at htotal'
    exact htotal'.symm

/-- A vessel in an orbit of a period, in the default calendar. -/
def Context.inOrbit (period : Binary64) : Context :=
  { snapshot := { vessel := some { orbit := some { period } } }, calendar := default }

theorem render_inOrbit {period : Binary64} {text : String}
    (h : ((default : Calendar).split period).duration = text) :
    render "<Period>" (.inOrbit period) = { text } := by
  rw [render_period rfl rfl, ← h]
  rfl

/-- A low orbit of 33 minutes. -/
theorem render_period_lowOrbit :
    (Context.inOrbit 1980).snapshot.vessel = some { orbit := some { period := 1980 } } ∧
      render "<Period>" (.inOrbit 1980) = { text := "0:33:00" } ∧
      ∃ shown, TimeParts.ofNumbers? (numbers "0:33:00".toList) = some shown ∧
        shown.total .kerbin = 1980 := by
  have hrender : render "<Period>" (.inOrbit 1980) = { text := "0:33:00" } :=
    render_inOrbit (by decide +kernel)
  have hseconds : (1980 : Binary64).wholeSeconds = 1980 := by
    rw [← Binary64.floor64_eq_wholeSeconds]
    decide +kernel
  obtain ⟨text, shown, htext, -, hread, htotal, -⟩ :=
    @render_period_nonneg_faithful (.inOrbit 1980) _ _ rfl rfl
  obtain rfl : "0:33:00" = text := congrArg Caption.text (hrender.symm.trans htext)
  refine ⟨rfl, hrender, shown, hread, ?_⟩
  exact (htotal.mpr (by rw [hseconds]; decide)).trans hseconds

/-- **A negative period cannot be read back.** A period of one second below zero is shown as a year
    less that second, and so is the period of that length. -/
theorem render_period_beforeZero :
    (-1 : Binary64).wholeSeconds = -1 ∧ (9201599 : Binary64).wholeSeconds = 9201599 ∧
      render "<Period>" (.inOrbit (-1)) = { text := "425d, 5:59:59" } ∧
      render "<Period>" (.inOrbit 9201599) = { text := "425d, 5:59:59" } ∧
      ∃ shown, TimeParts.ofNumbers? (numbers "425d, 5:59:59".toList) = some shown ∧
        shown.total .kerbin = 9201599 := by
  have hnegative : ((default : Calendar).split (-1)).duration = "425d, 5:59:59" := by
    decide +kernel
  have hpositive : ((default : Calendar).split 9201599).duration = "425d, 5:59:59" := by
    decide +kernel
  have hread := (default : Calendar).isDuration_duration_split (-1)
  rw [hnegative] at hread
  refine ⟨?_, ?_, render_inOrbit hnegative, render_inOrbit hpositive, _, hread.ofNumbers?_numbers,
    by decide +kernel⟩
  · rw [← Binary64.floor64_eq_wholeSeconds]
    decide +kernel
  · rw [← Binary64.floor64_eq_wholeSeconds]
    decide +kernel

end FlightCaption
