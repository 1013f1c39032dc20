import FlightCaption.Proofs.Calendar.Concatenation
import FlightCaption.Proofs.Tag.TimeCaption

/-!
# Captions of years

The calendar year of a time is its years since the epoch, plus the base year, plus one. The tag of
the year shows it, the universal time begins with it, and each run of `y` in a date pattern asks for
it, filled up to the length of the run.

The sum is taken in two steps, and each of them has to be a 64-bit integer. So the year is missing
where it is no 64-bit integer, and also where it is the smallest one: then the first step is out of
range, although the year itself is not. Where there is a year, it is shown exactly.

Main statement: `expand_year_shown_iff`.
-/

namespace FlightCaption

open Text (IsNumeral)

/-! ## The year -/

/-- The calendar year of some parts of a time, of any size. -/
def Calendar.year (calendar : Calendar) (parts : TimeParts) : ℤ :=
  parts.years + calendar.baseYear.toInt + 1

/-- No calendar has the smallest 64-bit integer for a year, but all others. -/
theorem Calendar.hasYear_iff {calendar : Calendar} {parts : TimeParts} :
    calendar.HasYear parts ↔
      Fits (calendar.year parts) ∧ calendar.year parts ≠ Int64.minValue.toInt := by
  have hmin : Int64.minValue.toInt = -9223372036854775808 := rfl
  rw [HasYear, year, fits_iff, fits_iff, hmin]
  omega

/-- The calendar year of a caption cannot be shown: it is no 64-bit integer, or the smallest one. -/
def Context.LacksYear (context : Context) : Prop :=
  ¬ Calendar.Fits (context.calendar.year context.timeParts) ∨
    context.calendar.year context.timeParts = Int64.minValue.toInt

theorem Context.lacksYear_iff {context : Context} :
    context.LacksYear ↔ ¬ context.calendar.HasYear context.timeParts := by
  rw [LacksYear, Calendar.hasYear_iff, not_and_or, not_not]

/-- What is reported where the year is missing. -/
def Context.yearFault (context : Context) : CalendarFault :=
  .yearOutOfRange context.timeParts.years context.calendar.baseYear.toInt

theorem Context.yearOf_of_lacksYear {context : Context} (h : context.LacksYear) :
    context.calendar.yearOf context.timeParts = .error context.yearFault :=
  Calendar.yearOf_eq_error_iff.mpr ⟨lacksYear_iff.mp h, rfl⟩

theorem Context.yearOf_of_not_lacksYear {context : Context} (h : ¬ context.LacksYear) :
    context.calendar.yearOf context.timeParts =
      .ok (context.calendar.year context.timeParts) := by
  rw [lacksYear_iff, not_not] at h
  exact Calendar.yearOf_eq_ok h

/-! ## Tags -/

/-- The caption of a tag that lacks the year. -/
def Context.yearMissing (context : Context) (tag : Builtin) : Caption :=
  { text := Caption.marker tag.name, log := [.failed tag.name (.calendar context.yearFault)] }

section

variable {context : Context} (allowCustom : Bool) (args : List String)

theorem expand_year_of_lacksYear (h : context.LacksYear) :
    expand context allowCustom [.tag "Year" args] = context.yearMissing .year := by
  have htext : Builtin.year.textIn context args = .error (.calendar context.yearFault) := by
    show ((context.calendar.yearOf context.timeParts).map Text.integer).mapError
      TagFault.ofCalendar = _
    rw [Context.yearOf_of_lacksYear h]
    rfl
  have hcaption := expand_tag context allowCustom (show Builtin.year ≠ .custom by decide) args
  rwa [htext] at hcaption

theorem expand_year_of_not_lacksYear (h : ¬ context.LacksYear) :
    expand context allowCustom [.tag "Year" args] =
      { text := toString (context.calendar.year context.timeParts) } := by
  have htext : Builtin.year.textIn context args =
      .ok (toString (context.calendar.year context.timeParts)) := by
    show ((context.calendar.yearOf context.timeParts).map Text.integer).mapError
      TagFault.ofCalendar = _
    rw [Context.yearOf_of_not_lacksYear h, ← Text.integer_eq_toString]
    rfl
  have hcaption := expand_tag context allowCustom (show Builtin.year ≠ .custom by decide) args
  rwa [htext] at hcaption

theorem expand_universalTime_of_lacksYear (h : context.LacksYear) :
    expand context allowCustom [.tag "UT" args] = context.yearMissing .universalTime := by
  have htext : Builtin.universalTime.textIn context args =
      .error (.calendar context.yearFault) := by
    show (context.calendar.universalTime context.timeParts).mapError TagFault.ofCalendar = _
    rw [Calendar.universalTime, Context.yearOf_of_lacksYear h]
    rfl
  have hcaption := expand_tag context allowCustom
    (show Builtin.universalTime ≠ .custom by decide) args
  rwa [htext] at hcaption

theorem expand_universalTime_of_not_lacksYear (h : ¬ context.LacksYear) :
    ∃ text, expand context allowCustom [.tag "UT" args] = { text } ∧
      IsUniversalTime (context.calendar.year context.timeParts) context.timeParts text := by
  have hyear := Context.yearOf_of_not_lacksYear h
  rw [Context.lacksYear_iff, not_not] at h
  obtain ⟨year, text, hok, htext, hread⟩ := Calendar.exists_isUniversalTime h
  obtain rfl : context.calendar.year context.timeParts = year :=
    Except.ok.inj (hyear.symm.trans hok)
  refine ⟨text, ?_, hread⟩
  have htag : Builtin.universalTime.textIn context args = .ok text :=
    mapError_eq_ok_iff.mpr htext
  have hcaption := expand_tag context allowCustom
    (show Builtin.universalTime ≠ .custom by decide) args
  rwa [htag] at hcaption

end

/-! ## Patterns -/

section

variable {context : Context} {width : ℕ}

theorem write_year_eq (context : Context) (hwidth : width ≤ 65535) :
    (DateField.ofRun ⟨'y', width⟩).write context.calendar context.timeParts =
      (context.calendar.yearOf context.timeParts).map (Text.paddedInteger width) := by
  show (DateField.year width).write context.calendar context.timeParts = _
  rw [DateField.write]
  cases context.calendar.yearOf context.timeParts with
  | error fault => rfl
  | ok year => rw [ok_bind, DateField.padded, DateField.maxWidth, if_pos hwidth]; rfl

/-- A run of `y` is missing exactly where the year is. -/
theorem write_year_eq_error_iff (hwidth : width ≤ 65535) :
    (DateField.ofRun ⟨'y', width⟩).write context.calendar context.timeParts =
      .error context.yearFault ↔ context.LacksYear := by
  rw [write_year_eq context hwidth, map_eq_error_iff, Calendar.yearOf_eq_error_iff,
    Context.lacksYear_iff]
  exact and_iff_left rfl

/-- A pattern with such a run has its fault, unless a run before it has one. -/
theorem formatTime_of_lacksYear (h : context.LacksYear) (hwidth : width ≤ 65535)
    {pattern : String} {before after : List Run}
    (hruns : Run.ofChars pattern.toList = before ++ ⟨'y', width⟩ :: after)
    (hbefore : ∀ run ∈ before,
      ¬ ∃ cause, run.Offends context.calendar context.timeParts cause) :
    context.calendar.formatTime context.snapshot.time pattern = .error context.yearFault := by
  have hoffends := DateField.write_ofRun_eq_error_iff.mp ((write_year_eq_error_iff hwidth).mpr h)
  exact Calendar.format_eq_error_iff.mpr
    ⟨before, ⟨'y', width⟩, after, hruns, hbefore, hoffends⟩

/-- Only a missing year is reported as one. -/
theorem formatTime_ne_yearOutOfRange (h : ¬ context.LacksYear) (pattern : String)
    (years baseYear : ℤ) :
    context.calendar.formatTime context.snapshot.time pattern ≠
      .error (.yearOutOfRange years baseYear) := by
  intro hfault
  obtain ⟨run, hoffends⟩ := Calendar.exists_offends_of_format hfault
  rw [Context.lacksYear_iff, not_not] at h
  cases hoffends with
  | year _ hyear => exact hyear h

end

/-! ## All places -/

/-- **The year is shown exactly, wherever there is one, and otherwise it is reported missing.** It
    is missing where it is no 64-bit integer, and where it is the smallest one. This holds of the
    tag of the year, of the universal time, and of every run of `y` in a pattern that is not too
    wide.
    The fault of a run is that of its pattern, unless a run before it has one. -/
theorem expand_year_shown_iff (context : Context) :
    (∀ allowCustom args,
      (expand context allowCustom [.tag "Year" args] = context.yearMissing .year ↔
        context.LacksYear) ∧
      (¬ context.LacksYear → expand context allowCustom [.tag "Year" args] =
        { text := toString (context.calendar.year context.timeParts) })) ∧
    (∀ allowCustom args,
      (expand context allowCustom [.tag "UT" args] = context.yearMissing .universalTime ↔
        context.LacksYear) ∧
      (¬ context.LacksYear → ∃ text, expand context allowCustom [.tag "UT" args] = { text } ∧
        IsUniversalTime (context.calendar.year context.timeParts) context.timeParts text)) ∧
    ∀ (pattern : String) (before : List Run) (width : ℕ) (after : List Run),
      Run.AreMaximal (before ++ ⟨'y', width⟩ :: after) pattern.toList → width ≤ 65535 →
        ((DateField.ofRun ⟨'y', width⟩).write context.calendar context.timeParts =
          .error context.yearFault ↔ context.LacksYear) ∧
        ((∀ run ∈ before, ¬ ∃ cause, run.Offends context.calendar context.timeParts cause) →
          (context.calendar.formatTime context.snapshot.time pattern =
            .error context.yearFault ↔ context.LacksYear)) ∧
        (¬ context.LacksYear → ∃ numeral,
          IsNumeral width (context.calendar.year context.timeParts) numeral ∧
          context.calendar.formatTime context.snapshot.time pattern = do
            let first ← context.calendar.writeRuns context.timeParts before
            let last ← context.calendar.writeRuns context.timeParts after
            return first ++ numeral ++ last) := by
  refine ⟨fun allowCustom args => ⟨⟨?_, expand_year_of_lacksYear allowCustom args⟩,
      expand_year_of_not_lacksYear allowCustom args⟩,
    fun allowCustom args => ⟨⟨?_, expand_universalTime_of_lacksYear allowCustom args⟩,
      expand_universalTime_of_not_lacksYear allowCustom args⟩, ?_⟩
  · intro hcaption
    by_contra hyear
    rw [expand_year_of_not_lacksYear allowCustom args hyear] at hcaption
    simp [Context.yearMissing] at hcaption
  · intro hcaption
    by_contra hyear
    obtain ⟨text, htext, -⟩ := expand_universalTime_of_not_lacksYear allowCustom args hyear
    rw [htext] at hcaption
    simp [Context.yearMissing] at hcaption
  · intro pattern before width after hruns hwidth
    have hformat : Run.ofChars pattern.toList = before ++ ⟨'y', width⟩ :: after :=
      Run.ofChars_eq_iff.mpr hruns
    refine ⟨write_year_eq_error_iff hwidth, fun hbefore => ⟨?_, ?_⟩, ?_⟩
    · intro hfault
      by_contra hyear
      exact formatTime_ne_yearOutOfRange hyear pattern _ _ hfault
    · intro hyear
      exact formatTime_of_lacksYear hyear hwidth hformat hbefore
    · intro hyear
      refine ⟨_, Text.isNumeral_paddedInteger width _, ?_⟩
      show context.calendar.format context.timeParts pattern = _
      rw [Calendar.format_eq_writeRuns, hformat, Calendar.writeRuns_append,
        Calendar.writeRuns_cons, write_year_eq context hwidth,
        Context.yearOf_of_not_lacksYear hyear]
      simp only [Except.map, ok_bind, bind_assoc, pure_bind, String.append_assoc]

/-- The first year of the default calendar, as a tag and on three characters behind the day. -/
theorem expand_year_shown_first :
    ¬ (Context.atTime 0).LacksYear ∧
      expand (.atTime 0) true [.tag "Year" []] = { text := "1" } ∧
      Run.AreMaximal ([⟨'d', 2⟩, ⟨' ', 1⟩] ++ ⟨'y', 3⟩ :: []) "dd yyy".toList ∧ 3 ≤ 65535 ∧
      ∃ numeral, IsNumeral 3 1 numeral ∧
        (default : Calendar).formatTime 0 "dd yyy" = .ok ("01 " ++ numeral) := by
  have hparts : (Context.atTime 0).timeParts = {} := by decide +kernel
  have hyear : (Context.atTime 0).calendar.year (Context.atTime 0).timeParts = 1 := by
    rw [hparts]
    rfl
  have hshown : ¬ (Context.atTime 0).LacksYear := by
    rw [Context.LacksYear, hyear]
    decide
  have hruns : Run.AreMaximal ([⟨'d', 2⟩, ⟨' ', 1⟩] ++ ⟨'y', 3⟩ :: []) "dd yyy".toList :=
    ⟨by decide, by decide, by decide⟩
  obtain ⟨htag, -, hpattern⟩ := expand_year_shown_iff (.atTime 0)
  have htext := (htag true []).2 hshown
  obtain ⟨numeral, hnumeral, hformat⟩ :=
    (hpattern "dd yyy" _ 3 _ hruns (by decide)).2.2 hshown
  rw [hyear] at htext hnumeral
  refine ⟨hshown, htext, hruns, by decide, numeral, hnumeral, hformat.trans ?_⟩
  have hday : (Context.atTime 0).calendar.writeRuns (Context.atTime 0).timeParts
      [⟨'d', 2⟩, ⟨' ', 1⟩] = .ok "01 " := by
    rw [hparts]
    decide +kernel
  rw [hday, Calendar.writeRuns_nil, ok_bind, ok_bind, String.append_empty]
  rfl

/-- One second before the epoch, in a calendar whose base year is the smallest 64-bit integer. -/
def Context.beforeEpochAtMinimum : Context :=
  { snapshot := { time := -1 }, calendar := (default : Calendar).withBaseYear Int64.minValue }

/-- **The smallest year is reported missing although it is a 64-bit integer**, by the tags and by a
    pattern. -/
theorem render_year_smallest :
    let context := Context.beforeEpochAtMinimum
    context.calendar.year context.timeParts = Int64.minValue.toInt ∧
      Calendar.Fits (context.calendar.year context.timeParts) ∧
      context.yearFault = .yearOutOfRange (-1) Int64.minValue.toInt ∧
      render "<Year>" context = { text := "Error expanding <Year>",
                                  log := [.failed "Year" (.calendar context.yearFault)] } ∧
      render "<UT>" context = { text := "Error expanding <UT>",
                                log := [.failed "UT" (.calendar context.yearFault)] } ∧
      context.calendar.formatTime context.snapshot.time "y" =
        .error context.yearFault := by
  intro context
  have hyears : context.timeParts.years = -1 := by decide +kernel
  have hyear : context.calendar.year context.timeParts = Int64.minValue.toInt := by
    rw [Calendar.year, hyears]
    decide
  have hlacks : context.LacksYear := .inr hyear
  have hfault : context.yearFault = .yearOutOfRange (-1) Int64.minValue.toInt := by
    rw [Context.yearFault, hyears]
    rfl
  have hpattern : Run.ofChars "y".toList = [] ++ ⟨'y', 1⟩ :: [] := by decide
  refine ⟨hyear, ?_, hfault, expand_year_of_lacksYear true [] hlacks,
    expand_universalTime_of_lacksYear true [] hlacks, ?_⟩
  · rw [hyear]
    decide
  · exact formatTime_of_lacksYear hlacks (by decide) hpattern (by simp)

end FlightCaption
