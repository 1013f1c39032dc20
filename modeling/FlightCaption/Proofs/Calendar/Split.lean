import FlightCaption.Calendar.Basic
import FlightCaption.Proofs.Numeric.WholeSeconds
import FlightCaption.Proofs.Results

/-!
# Times split into parts

The parts of a time are written as integers of any size. This module shows that nothing is lost by
that: where all unit lengths are positive, as they are in a calendar, every part of every time fits
a 64-bit integer, and so does the day of the year, which is one more than the part.

Splitting is four divisions in a row. It fails where one of the lengths is zero. Else it gives the
parts unless one of the divisions overflows, which needs a length of -1, so that a calendar splits
every time.

Main statements: `Calendar.fit_split` and `Calendar.split?_units`.
-/

namespace FlightCaption

/-! ## Integers of 64 bits -/

namespace Calendar

theorem fits_iff {n : Int} : Fits n ↔ -9223372036854775808 ≤ n ∧ n ≤ 9223372036854775807 :=
  Iff.rfl

theorem fits_toInt (n : Int64) : Fits n.toInt :=
  ⟨n.minValue_le_toInt, n.toInt_le⟩

theorem fits_length (units : Units) (unit : UnitName) : Fits (units.length unit) := by
  cases unit <;> exact fits_toInt _

/-- Dividing by a positive number brings a number closer to zero. -/
theorem Fits.ediv {n m : Int} (hn : Fits n) (hm : 0 < m) : Fits (n / m) := by
  rw [fits_iff] at hn ⊢
  by_cases hsign : 0 ≤ n
  · have hnonneg : 0 ≤ n / m := Int.ediv_nonneg hsign (Int.le_of_lt hm)
    have hself : n / m ≤ n := Int.ediv_le_self m hsign
    omega
  · have hneg : n / m < 0 := Int.ediv_neg_of_neg_of_pos (by omega) hm
    have hself : n ≤ n / m := by
      rw [Int.le_ediv_iff_mul_le hm]
      have hmul : n * m ≤ n * 1 := Int.mul_le_mul_of_nonpos_left (by omega) (by omega)
      omega
    omega

/-- A remainder is less than its divisor, so there is room for one more. -/
theorem fits_emod {m : Int} (hm : 0 < m) (hfits : Fits m) (n : Int) :
    Fits (n % m) ∧ Fits (n % m + 1) := by
  have hnonneg : 0 ≤ n % m := Int.emod_nonneg n (Int.ne_of_gt hm)
  have hlt : n % m < m := Int.emod_lt_of_pos n hm
  rw [fits_iff] at hfits
  rw [fits_iff, fits_iff]
  omega

/-- The whole seconds of a time are cut to the range. -/
theorem fits_floor64 (time : Numeric.Binary64) : Fits time.floor64 := by
  rw [time.floor64_eq_wholeSeconds]
  exact time.wholeSeconds_mem_range

end Calendar

/-! ## Parts of 64 bits -/

/-- The divisions of a splitting in their order: what is divided, and the length by which. -/
def Units.divisions (units : Units) (seconds : Int) : List (Int × Int) :=
  let minutes := seconds / units.length .secondsPerMinute
  let hours := minutes / units.length .minutesPerHour
  let days := hours / units.length .hoursPerDay
  [(seconds, units.length .secondsPerMinute), (minutes, units.length .minutesPerHour),
    (hours, units.length .hoursPerDay), (days, units.length .daysPerYear)]

/-- Positive lengths divide a 64-bit time into 64-bit numbers. -/
theorem Units.Valid.fits_dividend {units : Units} (hvalid : units.Valid) {seconds : Int}
    (hseconds : Calendar.Fits seconds) :
    ∀ division ∈ units.divisions seconds, Calendar.Fits division.1 := by
  -- One division after the other, each of a number that fits
  have hminutes := hseconds.ediv (hvalid .secondsPerMinute)
  have hhours := hminutes.ediv (hvalid .minutesPerHour)
  have hdays := hhours.ediv (hvalid .hoursPerDay)
  simpa [divisions] using ⟨hseconds, hminutes, hhours, hdays⟩

/-- All parts of a time, and the day of the year that they stand for, are 64-bit integers. -/
structure TimeParts.Fit (parts : TimeParts) : Prop where
  seconds : Calendar.Fits parts.seconds
  minutes : Calendar.Fits parts.minutes
  hours : Calendar.Fits parts.hours
  days : Calendar.Fits parts.days
  years : Calendar.Fits parts.years
  dayOfYear : Calendar.Fits parts.dayOfYear

/-- Positive lengths take a 64-bit time to 64-bit parts. -/
theorem TimeParts.fit_ofSeconds {units : Units} (hvalid : units.Valid) {seconds : Int}
    (hseconds : Calendar.Fits seconds) : (ofSeconds units seconds).Fit := by
  have hdividend := hvalid.fits_dividend hseconds
  simp only [Units.divisions, List.forall_mem_cons] at hdividend
  obtain ⟨-, -, -, hdays, -⟩ := hdividend
  have hpart := fun unit => Calendar.fits_emod (hvalid unit) (Calendar.fits_length units unit)
  exact {
    seconds := (hpart .secondsPerMinute _).1
    minutes := (hpart .minutesPerHour _).1
    hours := (hpart .hoursPerDay _).1
    days := (hpart .daysPerYear _).1
    years := hdays.ediv (hvalid .daysPerYear)
    dayOfYear := (hpart .daysPerYear _).2 }

/-! ## Four divisions -/

theorem divide?_eq_ok {dividend length : Int} (hzero : length ≠ 0)
    (hoverflow : ¬ (dividend = Int64.minValue.toInt ∧ length = -1)) :
    divide? dividend length = .ok (dividend / length, dividend % length) := by
  rw [divide?, if_neg hzero, if_neg hoverflow]

/-- Nothing comes after a division by zero. -/
theorem fails_divide?_zero_bind {α : Type} {dividend length : Int} (hzero : length = 0)
    (next : Int × Int → Except SplitFault α) : Fails (divide? dividend length >>= next) := by
  rw [divide?, if_pos hzero]
  exact fails_error _

namespace Units

/-- No length is zero. Lengths that are negative divide as well. -/
def NonZero (units : Units) : Prop :=
  ∀ unit, units.length unit ≠ 0

theorem Valid.nonZero {units : Units} (hvalid : units.Valid) : units.NonZero :=
  fun unit => Int.ne_of_gt (hvalid unit)

/-- One of the divisions is that of the smallest 64-bit integer by -1. -/
def Overflows (units : Units) (seconds : Int) : Prop :=
  (Int64.minValue.toInt, -1) ∈ units.divisions seconds

theorem exists_length_of_mem_divisions {units : Units} {seconds dividend length : Int}
    (h : (dividend, length) ∈ units.divisions seconds) : ∃ unit, length = units.length unit := by
  simp only [divisions, List.mem_cons, Prod.mk.injEq, List.not_mem_nil, or_false] at h
  rcases h with ⟨-, h⟩ | ⟨-, h⟩ | ⟨-, h⟩ | ⟨-, h⟩ <;> exact ⟨_, h⟩

/-- Positive lengths divide without overflow. -/
theorem Valid.not_overflows {units : Units} (hvalid : units.Valid) (seconds : Int) :
    ¬ units.Overflows seconds := by
  intro hoverflow
  obtain ⟨unit, hlength⟩ := exists_length_of_mem_divisions hoverflow
  have hpositive := hvalid unit
  omega

/-- Without a length of zero and without an overflow there are parts. -/
theorem split?_eq_ok {units : Units} {time : Numeric.Binary64} (hnonzero : units.NonZero)
    (hoverflow : ¬ units.Overflows time.floor64) :
    units.split? time = .ok (TimeParts.ofSeconds units time.floor64) := by
  have hdivide : ∀ division ∈ units.divisions time.floor64,
      divide? division.1 division.2 = .ok (division.1 / division.2, division.1 % division.2) := by
    rintro ⟨dividend, length⟩ hmem
    obtain ⟨unit, hlength⟩ := exists_length_of_mem_divisions hmem
    apply divide?_eq_ok
    · exact hlength ▸ hnonzero unit
    · rintro ⟨rfl, rfl⟩
      exact hoverflow hmem
  simp only [divisions, List.forall_mem_cons] at hdivide
  obtain ⟨hseconds, hminutes, hhours, hdays, -⟩ := hdivide
  simp only [split?, hseconds, hminutes, hhours, hdays, ok_bind]
  rfl

/-- A length of zero is noticed at its division, if not an overflow before. -/
theorem fails_split?_of_not_nonZero {units : Units} {time : Numeric.Binary64}
    (hzero : ¬ units.NonZero) : Fails (units.split? time) := by
  obtain ⟨unit, hunit⟩ : ∃ unit, units.length unit = 0 := by
    simpa [NonZero] using hzero
  -- Whatever the divisions before give, the one by this length fails
  cases unit with
  | secondsPerMinute => exact fails_divide?_zero_bind hunit _
  | minutesPerHour =>
    refine fails_bind_of_forall fun _ => ?_
    exact fails_divide?_zero_bind hunit _
  | hoursPerDay =>
    refine fails_bind_of_forall fun _ => fails_bind_of_forall fun _ => ?_
    exact fails_divide?_zero_bind hunit _
  | daysPerYear =>
    refine fails_bind_of_forall fun _ => fails_bind_of_forall fun _ =>
      fails_bind_of_forall fun _ => ?_
    exact fails_divide?_zero_bind hunit _

end Units

namespace Calendar

/-- **No part of a time is out of range**, whatever the time is. -/
theorem fit_split (calendar : Calendar) (time : Numeric.Binary64) : (calendar.split time).Fit :=
  TimeParts.fit_ofSeconds calendar.units_valid (fits_floor64 time)

/-- **A calendar splits every time**: its lengths are positive. -/
theorem split?_units (calendar : Calendar) (time : Numeric.Binary64) :
    calendar.units.split? time = .ok (calendar.split time) :=
  Units.split?_eq_ok calendar.units_valid.nonZero (calendar.units_valid.not_overflows _)

end Calendar

end FlightCaption
