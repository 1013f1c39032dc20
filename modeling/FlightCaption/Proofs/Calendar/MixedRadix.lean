import FlightCaption.Proofs.Calendar.Split
import Mathlib.Data.Int.Lemmas
import Mathlib.Data.Prod.Lex

/-!
# Times in a mixed radix

The unit lengths of a calendar are the radices of a number system. Seconds, minutes, hours and days
are the digits of a time, each less than the length of its unit, and years are what is left.

1. Digits and years are determined by the time that they make together, whatever signs the lengths
   have. Splitting finds them.
2. Where the lengths are positive, times are ordered as their years and digits are, the years first.

Main statements: `Units.split?_digits` and `Units.split?_chronological`.
-/

namespace FlightCaption

open Numeric (Binary64)
open Numeric.Binary64 (wholeSeconds)

/-! ## Digits -/

/-- All parts but the years are digits: none is negative, and each is less than the length of its
    unit, apart from the sign of the length. -/
structure TimeParts.AreDigits (units : Units) (parts : TimeParts) : Prop where
  seconds : 0 ≤ parts.seconds ∧ parts.seconds < |units.length .secondsPerMinute|
  minutes : 0 ≤ parts.minutes ∧ parts.minutes < |units.length .minutesPerHour|
  hours : 0 ≤ parts.hours ∧ parts.hours < |units.length .hoursPerDay|
  days : 0 ≤ parts.days ∧ parts.days < |units.length .daysPerYear|

namespace TimeParts

/-- Remainders are digits. -/
theorem areDigits_ofSeconds {units : Units} (hnonzero : units.NonZero) (seconds : ℤ) :
    (ofSeconds units seconds).AreDigits units := by
  have hdigit : ∀ unit n,
      0 ≤ n % units.length unit ∧ n % units.length unit < |units.length unit| :=
    fun unit n => ⟨Int.emod_nonneg n (hnonzero unit), Int.emod_lt_abs n (hnonzero unit)⟩
  exact ⟨hdigit _ _, hdigit _ _, hdigit _ _, hdigit _ _⟩

/-- Digits and years are found again by dividing the time that they make. -/
theorem ofSeconds_total {units : Units} {parts : TimeParts} (hnonzero : units.NonZero)
    (hdigits : parts.AreDigits units) : ofSeconds units (parts.total units) = parts := by
  -- Each division takes off the smallest digit and leaves what the larger ones make
  obtain ⟨hminutes, hseconds⟩ :=
    (Int.ediv_emod_unique'' (hnonzero .secondsPerMinute)).mpr ⟨rfl, hdigits.seconds⟩
  obtain ⟨hhours, hminute⟩ :=
    (Int.ediv_emod_unique'' (hnonzero .minutesPerHour)).mpr ⟨rfl, hdigits.minutes⟩
  obtain ⟨hdays, hhour⟩ :=
    (Int.ediv_emod_unique'' (hnonzero .hoursPerDay)).mpr ⟨rfl, hdigits.hours⟩
  obtain ⟨hyears, hday⟩ :=
    (Int.ediv_emod_unique'' (hnonzero .daysPerYear)).mpr ⟨rfl, hdigits.days⟩
  rw [total, ofSeconds, hminutes, hseconds, hhours, hminute, hdays, hhour, hyears, hday]

end TimeParts

/-- **Splitting finds the digits of a time in the mixed radix of the unit lengths.**

* Without a length of zero and without a division that overflows, a time is split into digits and
  years that make its whole seconds, and no others do.
* With a length of zero, splitting fails.
* With positive lengths, all that is divided on the way, all parts and the day of the year are
  64-bit integers. -/
theorem Units.split?_digits (units : Units) (time : Binary64) :
    (units.NonZero → ¬ units.Overflows time.wholeSeconds →
      ∃ parts, units.split? time = .ok parts ∧
        time.wholeSeconds = parts.total units ∧ parts.AreDigits units ∧
        ∀ other : TimeParts, time.wholeSeconds = other.total units → other.AreDigits units →
          other = parts) ∧
    (¬ units.NonZero → Fails (units.split? time)) ∧
    (units.Valid → ∃ parts, units.split? time = .ok parts ∧ parts.Fit ∧
      ∀ division ∈ units.divisions time.wholeSeconds, Calendar.Fits division.1) := by
  have hfits := Calendar.fits_floor64 time
  rw [← time.floor64_eq_wholeSeconds]
  refine ⟨?_, fails_split?_of_not_nonZero, ?_⟩
  · intro hnonzero hoverflow
    refine ⟨_, split?_eq_ok hnonzero hoverflow, (TimeParts.total_ofSeconds units _).symm,
      TimeParts.areDigits_ofSeconds hnonzero _, ?_⟩
    intro other htotal hdigits
    rw [htotal, TimeParts.ofSeconds_total hnonzero hdigits]
  · intro hvalid
    exact ⟨_, split?_eq_ok hvalid.nonZero (hvalid.not_overflows _),
      TimeParts.fit_ofSeconds hvalid hfits, hvalid.fits_dividend hfits⟩

/-- A second before the epoch, with minutes that run backwards, with days that have no hours, and
    with the usual lengths. -/
theorem Units.split?_digits_beforeEpoch :
    ({ secondsPerMinute := -60 } : Units).split? (-1) = .ok { seconds := 59, minutes := 1 } ∧
    Fails (({ hoursPerDay := 0 } : Units).split? (-1)) ∧
    ∃ parts, Units.kerbin.split? (-1) = .ok parts ∧ parts.Fit := by
  have hwhole : (-1 : Binary64).wholeSeconds = -1 := by
    rw [← Binary64.floor64_eq_wholeSeconds]
    decide +kernel
  refine ⟨?_, ?_, ?_⟩
  · have hnonzero : ({ secondsPerMinute := -60 } : Units).NonZero := by
      intro unit
      cases unit <;> decide
    have hoverflow :
        ¬ ({ secondsPerMinute := -60 } : Units).Overflows (-1 : Binary64).wholeSeconds := by
      rw [hwhole, Units.Overflows]
      decide
    obtain ⟨parts, hparts, -, -, hunique⟩ := (Units.split?_digits _ _).1 hnonzero hoverflow
    rw [hparts, hunique { seconds := 59, minutes := 1 } (by rw [hwhole]; decide)
      ⟨by decide, by decide, by decide, by decide⟩]
  · exact (Units.split?_digits _ _).2.1 fun hnonzero => hnonzero .hoursPerDay rfl
  · obtain ⟨parts, hparts, hfit, -⟩ := (Units.split?_digits .kerbin (-1)).2.2 (by decide)
    exact ⟨parts, hparts, hfit⟩

/-! ## Order -/

/-- The parts from the largest unit down to the smallest, ordered as words are. -/
def TimeParts.chronological (parts : TimeParts) : ℤ ×ₗ ℤ ×ₗ ℤ ×ₗ ℤ ×ₗ ℤ :=
  toLex (parts.years, toLex (parts.days, toLex (parts.hours,
    toLex (parts.minutes, parts.seconds))))

/-- Of two numbers in order, the quotients are in order, or these are the same and the remainders
    are in order. -/
theorem ediv_lt_or_emod_lt {m a b : ℤ} (hm : 0 < m) (h : a < b) :
    a / m < b / m ∨ a / m = b / m ∧ a % m < b % m := by
  have hle : a / m ≤ b / m := Int.ediv_le_ediv hm (le_of_lt h)
  rcases lt_or_eq_of_le hle with hlt | heq
  · exact .inl hlt
  · refine .inr ⟨heq, ?_⟩
    have ha := Int.emod_add_mul_ediv a m
    have hb := Int.emod_add_mul_ediv b m
    rw [heq] at ha
    omega

/-- The parts of a later time come later. -/
theorem TimeParts.chronological_lt {units : Units} (hvalid : units.Valid) {a b : ℤ} (hab : a < b) :
    (ofSeconds units a).chronological < (ofSeconds units b).chronological := by
  simp only [chronological, ofSeconds, Prod.Lex.toLex_lt_toLex]
  -- The largest part that differs decides, and the smaller ones count only where it does not
  rcases ediv_lt_or_emod_lt (hvalid .secondsPerMinute) hab with hminutes | ⟨hminutes, hseconds⟩
  · rcases ediv_lt_or_emod_lt (hvalid .minutesPerHour) hminutes with hhours | ⟨hhours, hminute⟩
    · rcases ediv_lt_or_emod_lt (hvalid .hoursPerDay) hhours with hdays | ⟨hdays, hhour⟩
      · rcases ediv_lt_or_emod_lt (hvalid .daysPerYear) hdays with hyears | ⟨hyears, hday⟩
        · exact .inl hyears
        · exact .inr ⟨hyears, .inl hday⟩
      · exact .inr ⟨by rw [hdays], .inr ⟨by rw [hdays], .inl hhour⟩⟩
    · exact .inr ⟨by rw [hhours], .inr ⟨by rw [hhours], .inr ⟨by rw [hhours], .inl hminute⟩⟩⟩
  · exact .inr ⟨by rw [hminutes], .inr ⟨by rw [hminutes], .inr ⟨by rw [hminutes],
      .inr ⟨by rw [hminutes], hseconds⟩⟩⟩⟩

/-- **Splitting keeps the order of times**, and it keeps times apart whose whole seconds differ.
    Infinite times and times out of range are split as well. -/
theorem Units.split?_chronological {units : Units} (hvalid : units.Valid) {u v : Binary64}
    (huv : u ≤ v) :
    ∃ p q, units.split? u = .ok p ∧ units.split? v = .ok q ∧
      (∀ calendar : Calendar, calendar.units = units →
        calendar.split u = p ∧ calendar.split v = q) ∧
      p.chronological ≤ q.chronological ∧
      (u.wholeSeconds ≠ v.wholeSeconds → p.chronological < q.chronological) := by
  have hwhole : u.wholeSeconds ≤ v.wholeSeconds := Binary64.wholeSeconds_le_wholeSeconds huv
  have hsplit (time : Binary64) := split?_eq_ok hvalid.nonZero (hvalid.not_overflows time.floor64)
  refine ⟨_, _, hsplit u, hsplit v, ?_, ?_, ?_⟩
  · rintro calendar rfl
    exact ⟨rfl, rfl⟩
  · rw [u.floor64_eq_wholeSeconds, v.floor64_eq_wholeSeconds]
    rcases lt_or_eq_of_le hwhole with hlt | heq
    · exact le_of_lt (TimeParts.chronological_lt hvalid hlt)
    · rw [heq]
  · intro hne
    rw [u.floor64_eq_wholeSeconds, v.floor64_eq_wholeSeconds]
    exact TimeParts.chronological_lt hvalid (lt_of_le_of_ne hwhole hne)

/-- The last second before the epoch comes before the first one after it, although all of its digits
    are greater and only its years are less. -/
theorem Units.split?_chronological_acrossEpoch :
    Units.kerbin.Valid ∧ (-1 : Binary64) ≤ 0 ∧ (-1 : Binary64).wholeSeconds ≠ wholeSeconds 0 ∧
    ∃ p, Units.kerbin.split? (-1) = .ok p ∧
      p = { seconds := 59, minutes := 59, hours := 5, days := 425, years := -1 } ∧
      p.chronological < TimeParts.chronological {} := by
  have hvalid : Units.kerbin.Valid := by decide
  have hle : (-1 : Binary64) ≤ 0 := by decide +kernel
  have hne : (-1 : Binary64).wholeSeconds ≠ wholeSeconds 0 := by
    rw [← Binary64.floor64_eq_wholeSeconds, ← Binary64.floor64_eq_wholeSeconds]
    decide +kernel
  obtain ⟨p, q, hp, hq, -, -, hlt⟩ := Units.split?_chronological hvalid hle
  have hbefore : Units.kerbin.split? (-1) =
      .ok { seconds := 59, minutes := 59, hours := 5, days := 425, years := -1 } := by
    decide +kernel
  have hafter : Units.kerbin.split? 0 = .ok {} := by decide +kernel
  obtain rfl := Except.ok.inj (hbefore.symm.trans hp)
  obtain rfl := Except.ok.inj (hafter.symm.trans hq)
  exact ⟨hvalid, hle, hne, _, hp, rfl, hlt hne⟩

end FlightCaption
