import FlightCaption.Calendar.Pattern
import FlightCaption.Proofs.Calendar.Runs
import FlightCaption.Proofs.Results

/-!
# Faults of patterns

A pattern can ask for a month that the day of the year does not have, for a calendar year out of
range, or for too wide a field. Names of months and weekdays are looked up by numbers that come from
the calendar itself, and every one of these has a name.

1. Each number of a date is missing under a condition on the day or the year alone.
2. A run *offends* where it asks for a number that is missing, or for too wide a year
   (`Run.Offends`). It is written exactly where it does not.
3. A pattern is written exactly where none of its runs offends, and else the first one that does
   decides.

Main statement: `Calendar.format_leftmost_fault`.
-/

namespace FlightCaption

/-! ## Names -/

namespace Calendar

/-- The number of a month has a name. -/
theorem monthName?_number (calendar : Calendar) (month : Month) :
    calendar.monthName? month.number = .ok (calendar.monthName month) := by
  have hrange : 1 ≤ month.number ∧ month.number ≤ 12 := by
    rw [Month.number]
    omega
  rw [monthName?, dif_pos hrange]
  congr 2
  apply Fin.ext
  simp [Month.number]

/-- The number of a weekday has a name. -/
theorem dayName?_number (calendar : Calendar) (weekday : Weekday) :
    calendar.dayName? weekday.number = .ok (calendar.dayName weekday) := by
  have hrange : 1 ≤ weekday.number ∧ weekday.number ≤ 6 := by
    rw [Weekday.number]
    omega
  rw [dayName?, dif_pos hrange]
  congr 2
  apply Fin.ext
  simp [Weekday.number]

end Calendar

/-! ## Numbers of a date -/

theorem Month.ofDay_eq_error_iff {day : Int} {fault : CalendarFault} :
    ofDay day = .error fault ↔
      ¬ (1 ≤ day ∧ day ≤ 426) ∧ .dayOutOfRange day 426 = fault := by
  have hlast : lastDay = 426 := rfl
  rw [ofDay]
  split
  · next hday => simp [hlast ▸ hday]
  · next hday => simp [hlast, hlast ▸ hday]

theorem dayOfMonth_eq_error_iff {day : Int} {fault : CalendarFault} :
    dayOfMonth day = .error fault ↔
      ¬ (1 ≤ day ∧ day ≤ 426) ∧ .dayOutOfRange day 426 = fault := by
  rw [dayOfMonth, map_eq_error_iff, Month.ofDay_eq_error_iff]

/-- The year of a time is a 64-bit integer, and so is the year before it, which is the sum that is
    taken first. -/
def Calendar.HasYear (calendar : Calendar) (parts : TimeParts) : Prop :=
  Fits (parts.years + calendar.baseYear.toInt) ∧ Fits (parts.years + calendar.baseYear.toInt + 1)

theorem Calendar.yearOf_eq_error_iff {calendar : Calendar} {parts : TimeParts}
    {fault : CalendarFault} :
    calendar.yearOf parts = .error fault ↔
      ¬ calendar.HasYear parts ∧
        .yearOutOfRange parts.years calendar.baseYear.toInt = fault :=
  ite_eq_error_iff

/-- The calendar year where there is one. -/
theorem Calendar.yearOf_eq_ok {calendar : Calendar} {parts : TimeParts}
    (hyear : calendar.HasYear parts) :
    calendar.yearOf parts = .ok (parts.years + calendar.baseYear.toInt + 1) :=
  if_pos hyear

theorem Calendar.fails_yearOf_iff {calendar : Calendar} {parts : TimeParts} :
    Fails (calendar.yearOf parts) ↔ ¬ calendar.HasYear parts := by
  simp [Fails, yearOf_eq_error_iff]

theorem Calendar.exists_yearOf_eq_ok_iff {calendar : Calendar} {parts : TimeParts} :
    (∃ year, calendar.yearOf parts = .ok year) ↔ calendar.HasYear parts := by
  rw [← not_fails_iff, fails_yearOf_iff, Classical.not_not]

/-! ## Runs that cannot be written -/

/-- What is wrong with a run of a pattern, for the parts of a time in a calendar. -/
inductive Run.Offends (calendar : Calendar) (parts : TimeParts) (run : Run) :
    CalendarFault → Prop where
  /-- Months, by number or name, are those of the 426 days of the year. -/
  | month (hchar : run.char = 'M') (hday : ¬ (1 ≤ parts.dayOfYear ∧ parts.dayOfYear ≤ 426)) :
      run.Offends calendar parts (.dayOutOfRange parts.dayOfYear 426)
  /-- So are days of the month. Longer runs ask for the weekday, which every day has. -/
  | dayOfMonth (hchar : run.char = 'd') (hlength : run.length ≤ 2)
      (hday : ¬ (1 ≤ parts.dayOfYear ∧ parts.dayOfYear ≤ 426)) :
      run.Offends calendar parts (.dayOutOfRange parts.dayOfYear 426)
  /-- Years are 64-bit integers, the year before as well. -/
  | year (hchar : run.char = 'y') (hyear : ¬ calendar.HasYear parts) :
      run.Offends calendar parts (.yearOutOfRange parts.years calendar.baseYear.toInt)
  /-- Only a year is filled up to the length of its run, and only one that there is. -/
  | width (hchar : run.char = 'y') (hyear : calendar.HasYear parts)
      (hlength : 65535 < run.length) :
      run.Offends calendar parts (.fieldTooWide run.length)

namespace DateField

variable {calendar : Calendar} {parts : TimeParts} {fault : CalendarFault}

theorem padded_eq_error_iff {width : Nat} {n : Int} :
    padded width n = .error fault ↔ 65535 < width ∧ .fieldTooWide width = fault := by
  rw [padded, ite_eq_error_iff, maxWidth, Nat.not_le]

/-- Fields of few digits are never too wide. -/
theorem padded_ne_error {width : Nat} {n : Int} (hwidth : width ≤ 2) :
    padded width n ≠ .error fault := by
  rw [ne_eq, padded_eq_error_iff]
  omega

theorem write_monthName (abbreviated : Bool) :
    write calendar parts (monthName abbreviated) =
      (Month.ofDay parts.dayOfYear).map fun month =>
        shorten abbreviated (calendar.monthName month) := by
  rw [write]
  cases Month.ofDay parts.dayOfYear with
  | ok month => rw [ok_bind, Calendar.monthName?_number]; rfl
  | error cause => rfl

theorem offends_of_write {run : Run} (h : (ofRun run).write calendar parts = .error fault) :
    run.Offends calendar parts fault := by
  rw [ofRun] at h
  -- One case for each character: hours, minutes and seconds are short, and the rest is copied
  split at h
  · exact absurd h (padded_ne_error (by decide))
  · exact absurd h (padded_ne_error (by decide))
  · exact absurd h (padded_ne_error (Nat.min_le_right _ _))
  · exact absurd h (padded_ne_error (Nat.min_le_right _ _))
  · next hchar =>
    split at h
    · next hlength =>
      rw [write, bind_eq_error_iff] at h
      rcases h with hfault | ⟨day, -, hpadded⟩
      · obtain ⟨hday, rfl⟩ := dayOfMonth_eq_error_iff.mp hfault
        exact .dayOfMonth hchar hlength hday
      · exact absurd hpadded (padded_ne_error hlength)
    · rw [write, Calendar.dayName?_number] at h
      contradiction
  · next hchar =>
    split at h
    · next hlength =>
      rw [write, bind_eq_error_iff] at h
      rcases h with hfault | ⟨month, -, hpadded⟩
      · obtain ⟨hday, rfl⟩ := Month.ofDay_eq_error_iff.mp hfault
        exact .month hchar hday
      · exact absurd hpadded (padded_ne_error hlength)
    · rw [write_monthName, map_eq_error_iff] at h
      obtain ⟨hday, rfl⟩ := Month.ofDay_eq_error_iff.mp h
      exact .month hchar hday
  · next hchar =>
    rw [write, bind_eq_error_iff] at h
    rcases h with hfault | ⟨year, hyear, hpadded⟩
    · obtain ⟨hyear, rfl⟩ := Calendar.yearOf_eq_error_iff.mp hfault
      exact .year hchar hyear
    · obtain ⟨hlength, rfl⟩ := padded_eq_error_iff.mp hpadded
      exact .width hchar (Calendar.exists_yearOf_eq_ok_iff.mp ⟨year, hyear⟩) hlength
  · contradiction

theorem write_of_offends {run : Run} (h : run.Offends calendar parts fault) :
    (ofRun run).write calendar parts = .error fault := by
  cases h with
  | month hchar hday =>
    have hmonth := Month.ofDay_eq_error_iff.mpr ⟨hday, rfl⟩
    simp only [ofRun, hchar]
    split
    · rw [write, hmonth]
      rfl
    · rw [write, hmonth]
      rfl
  | dayOfMonth hchar hlength hday =>
    have hday := dayOfMonth_eq_error_iff.mpr ⟨hday, rfl⟩
    simp only [ofRun, hchar, if_pos hlength]
    rw [write, hday]
    rfl
  | year hchar hyear =>
    have hyear := Calendar.yearOf_eq_error_iff.mpr ⟨hyear, rfl⟩
    simp only [ofRun, hchar]
    rw [write, hyear]
    rfl
  | width hchar hyear hlength =>
    obtain ⟨year, hyear⟩ := Calendar.exists_yearOf_eq_ok_iff.mpr hyear
    simp only [ofRun, hchar]
    rw [write, hyear, ok_bind, padded_eq_error_iff]
    exact ⟨hlength, rfl⟩

/-- **A run cannot be written exactly where it offends**, and then for that reason. -/
theorem write_ofRun_eq_error_iff {run : Run} :
    (ofRun run).write calendar parts = .error fault ↔ run.Offends calendar parts fault :=
  ⟨offends_of_write, write_of_offends⟩

theorem fails_write_ofRun_iff {run : Run} :
    Fails ((ofRun run).write calendar parts) ↔ ∃ fault, run.Offends calendar parts fault :=
  exists_congr fun _ => write_ofRun_eq_error_iff

end DateField

/-! ## Patterns -/

namespace Calendar

/-- A pattern fails for the first of its runs that offends. -/
theorem format_eq_error_iff {calendar : Calendar} {parts : TimeParts} {pattern : String}
    {fault : CalendarFault} :
    calendar.format parts pattern = .error fault ↔
      ∃ before run after, Run.ofChars pattern.toList = before ++ run :: after ∧
        (∀ earlier ∈ before, ¬ ∃ cause, earlier.Offends calendar parts cause) ∧
        run.Offends calendar parts fault := by
  rw [format, bind_pure_eq_error_iff, mapM_eq_error_iff]
  simp only [DateField.fails_write_ofRun_iff, DateField.write_ofRun_eq_error_iff]

theorem fails_format_iff {calendar : Calendar} {parts : TimeParts} {pattern : String} :
    Fails (calendar.format parts pattern) ↔
      ∃ run ∈ Run.ofChars pattern.toList, ∃ fault, run.Offends calendar parts fault := by
  rw [format, fails_bind_pure_iff, fails_mapM_iff]
  simp only [DateField.fails_write_ofRun_iff]

/-- The fault of a pattern is that of one of its runs. -/
theorem exists_offends_of_format {calendar : Calendar} {parts : TimeParts} {pattern : String}
    {fault : CalendarFault} (h : calendar.format parts pattern = .error fault) :
    ∃ run : Run, run.Offends calendar parts fault := by
  obtain ⟨-, run, -, -, -, hoffends⟩ := format_eq_error_iff.mp h
  exact ⟨run, hoffends⟩

/-- **A pattern is written exactly where none of its runs offends**, and else it fails for the
    leftmost one that does. Its runs are the only maximal ones. -/
theorem format_leftmost_fault (calendar : Calendar) (parts : TimeParts) (pattern : String) :
    ∃ runs : List Run, (∀ other, Run.AreMaximal other pattern.toList ↔ other = runs) ∧
      ((∃ text, calendar.format parts pattern = .ok text) ↔
        ∀ run ∈ runs, ¬ ∃ fault, run.Offends calendar parts fault) ∧
      ∀ fault, calendar.format parts pattern = .error fault ↔
        ∃ before run after, runs = before ++ run :: after ∧
          (∀ earlier ∈ before, ¬ ∃ cause, earlier.Offends calendar parts cause) ∧
          run.Offends calendar parts fault := by
  refine ⟨Run.ofChars pattern.toList, ?_, ?_, fun _ => format_eq_error_iff⟩
  · intro other
    rw [← Run.ofChars_eq_iff, eq_comm]
  · rw [← not_fails_iff, fails_format_iff]
    simp only [not_exists, not_and]

/-- Both the year and the month are missing. The year stands first, behind an hour that has nothing
    to do with either. -/
theorem format_leftmost_fault_yearFirst :
    ((default : Calendar).withBaseYear Int64.maxValue).format { days := 500 } "h yyy-MM" =
      .error (.yearOutOfRange 0 9223372036854775807) := by
  obtain ⟨runs, hruns, -, hfault⟩ := format_leftmost_fault
    ((default : Calendar).withBaseYear Int64.maxValue) { days := 500 } "h yyy-MM"
  have hmaximal : Run.AreMaximal [⟨'h', 1⟩, ⟨' ', 1⟩, ⟨'y', 3⟩, ⟨'-', 1⟩, ⟨'M', 2⟩]
      "h yyy-MM".toList :=
    ⟨by decide, by decide, by decide⟩
  obtain rfl := (hruns _).mp hmaximal
  refine (hfault _).mpr ⟨[⟨'h', 1⟩, ⟨' ', 1⟩], ⟨'y', 3⟩, [⟨'-', 1⟩, ⟨'M', 2⟩], rfl, ?_, ?_⟩
  · rintro earlier hearlier ⟨cause, hoffends⟩
    have hchar : earlier.char = 'h' ∨ earlier.char = ' ' := by
      rcases List.mem_pair.mp hearlier with rfl | rfl
      · exact .inl rfl
      · exact .inr rfl
    cases hoffends <;> simp_all
  · refine .year rfl ?_
    rw [HasYear]
    decide

end Calendar

end FlightCaption
