import FlightCaption.Calendar.Date
import FlightCaption.Proofs.Numeric.Nearest

/-!
# Months by doubles

The month of a day is the quotient `(day - 0.01) / 35.5`, rounded down. Taken in doubles, the
hundredth is rounded, and so are the difference and the quotient. This module shows that for the
days of a year this leads to the same months as whole numbers do.

The exact quotient is either a whole number of months or more, or it falls short of one by at least
the hundredth. Rounding does not lead past a double, so it is enough to place doubles between: the
difference is between `day - 1/64` and `day - 1/128`, and the quotient not above a number that is
`1/8192` below the next whole one. All of them are counted in the same small part of a day.

Main statement: `Month.ofDay_eq_ofDoubles`.
-/

namespace FlightCaption

open Numeric

-- Powers are those of the core library, whatever other instances are in scope.
attribute [local instance (2000)] instPowNat

namespace Month

/-! ## The scale -/

/-- A 16384th part of one, in units of doubles. -/
def sliver : ℕ := 2 ^ (1060 : ℕ)

theorem sliver_pos : 0 < sliver := by
  decide +kernel

theorem unitsPerOne_eq : unitsPerOne = 16384 * sliver := by
  decide +kernel

theorem representable_mul_sliver {m : ℕ} (hm : m < 2 ^ 53) : Representable (m * sliver) := by
  obtain ⟨e, he, hsliver⟩ : ∃ e, e ≤ 2045 ∧ sliver = 2 ^ e := ⟨1060, by decide, by decide +kernel⟩
  rw [hsliver]
  exact representable_mul_two_pow hm he

/-- Units of doubles are taken apart into slivers. -/
theorem mul_unitsPerOne (m : ℕ) : m * unitsPerOne = m * 16384 * sliver := by
  calc m * unitsPerOne = m * (16384 * sliver) := congrArg (m * ·) unitsPerOne_eq
    _ = m * 16384 * sliver := (Nat.mul_assoc m 16384 sliver).symm

theorem representable_mul_unitsPerOne {m : ℕ} (hm : m < 2 ^ 39) :
    Representable (m * unitsPerOne) := by
  rw [mul_unitsPerOne]
  exact representable_mul_sliver (by omega)

/-- The double nearest to a hundredth is between two simple fractions. -/
theorem exists_hundredth :
    ∃ hundredth : Magnitude, Binary64.ofDecimal false 1 (-2) = .finite false hundredth ∧
      128 * sliver ≤ hundredth.count ∧ hundredth.count ≤ 256 * sliver :=
  ⟨⟨nearestCount unitsPerOne 100, by decide +kernel⟩, by decide +kernel, by decide +kernel,
    by decide +kernel⟩

/-- The mean length of a month is a double. -/
theorem exists_monthLength :
    ∃ length : Magnitude, Binary64.ofDecimal false 355 (-1) = .finite false length ∧
      length.count = 581632 * sliver :=
  ⟨⟨581632 * sliver, representable_mul_sliver (by decide)⟩, by decide +kernel, rfl⟩

/-! ## Difference and quotient -/

section

variable {day : ℕ} (hday : 1 ≤ day ∧ day ≤ 426)
include hday

/-- The day itself is a double. -/
theorem exists_whole :
    ∃ whole : Magnitude, Binary64.ofInt day = .finite false whole ∧
      whole.count = 16384 * day * sliver := by
  have hday' : Representable (day * unitsPerOne) := representable_mul_unitsPerOne (by omega)
  refine ⟨⟨day * unitsPerOne, hday'⟩, Binary64.ofInt_natCast hday', ?_⟩
  show day * unitsPerOne = _
  rw [mul_unitsPerOne, Nat.mul_comm day]

/-- A day less a hundredth. -/
theorem exists_difference :
    ∃ difference : Magnitude,
      Binary64.ofInt day - Binary64.ofDecimal false 1 (-2) = .finite false difference ∧
      (16384 * day - 256) * sliver ≤ difference.count ∧
      difference.count ≤ (16384 * day - 128) * sliver := by
  obtain ⟨whole, hwhole, hcount⟩ := exists_whole hday
  obtain ⟨hundredth, hdecimal, hlow, hhigh⟩ := exists_hundredth
  have hless : hundredth.count < whole.count := by
    rw [hcount]
    exact hhigh.trans_lt (Nat.mul_lt_mul_of_pos_right (by omega) sliver_pos)
  have hlower : (16384 * day - 256) * sliver ≤
      nearestCount (whole.count - hundredth.count) 1 := by
    refine le_nearestCount one_pos (representable_mul_sliver (by omega)) ?_
    rw [Nat.mul_one, hcount, Nat.sub_mul]
    exact Nat.sub_le_sub_left hhigh _
  have hupper : nearestCount (whole.count - hundredth.count) 1 ≤
      (16384 * day - 128) * sliver := by
    refine nearestCount_le one_pos (representable_mul_sliver (by omega)) ?_
    rw [Nat.mul_one, hcount, Nat.sub_mul]
    exact Nat.sub_le_sub_left hlow _
  have hrange : nearestCount (whole.count - hundredth.count) 1 < overflowCount :=
    hupper.trans_lt (representable_mul_sliver (by omega)).2
  refine ⟨⟨_, representable_nearestCount hrange⟩, ?_, hlower, hupper⟩
  rw [hwhole, hdecimal, Binary64.finite_sub_finite hless]
  exact Binary64.ofRatio_eq_finite rfl

/-- The rounded quotient is between a whole number of months and the next one. -/
theorem exists_quotient {month : ℕ} (hmonth : month = (100 * day - 1) / 3550) :
    ∃ quotient : Magnitude,
      (Binary64.ofInt day - Binary64.ofDecimal false 1 (-2)) / Binary64.ofDecimal false 355 (-1) =
        .finite false quotient ∧
      month * unitsPerOne ≤ quotient.count ∧ quotient.count < (month + 1) * unitsPerOne := by
  obtain ⟨difference, hdifference, hlow, hhigh⟩ := exists_difference hday
  obtain ⟨length, hlength, hcount⟩ := exists_monthLength
  have hpos : 0 < length.count := hcount ▸ Nat.mul_pos (by decide) sliver_pos
  have hlower : month * unitsPerOne ≤
      nearestCount (difference.count * unitsPerOne) length.count := by
    refine le_nearestCount hpos (representable_mul_unitsPerOne (by omega)) ?_
    calc month * unitsPerOne * length.count
        = month * 581632 * sliver * unitsPerOne := by rw [hcount]; ring
      _ ≤ difference.count * unitsPerOne := Nat.mul_le_mul_right _
          ((Nat.mul_le_mul_right sliver (by omega)).trans hlow)
  have hupper : nearestCount (difference.count * unitsPerOne) length.count ≤
      (16384 * month + 16382) * sliver := by
    refine nearestCount_le hpos (representable_mul_sliver (by omega)) ?_
    calc difference.count * unitsPerOne
        ≤ (16384 * day - 128) * sliver * unitsPerOne := Nat.mul_le_mul_right _ hhigh
      _ = (16384 * day - 128) * 16384 * (sliver * sliver) := by
          rw [mul_unitsPerOne, Nat.mul_right_comm _ sliver, Nat.mul_assoc _ sliver]
      _ ≤ (16384 * month + 16382) * 581632 * (sliver * sliver) :=
          Nat.mul_le_mul_right _ (by omega)
      _ = (16384 * month + 16382) * sliver * length.count := by rw [hcount]; ring
  have hbelow : (16384 * month + 16382) * sliver < (month + 1) * unitsPerOne := by
    rw [mul_unitsPerOne]
    exact Nat.mul_lt_mul_of_pos_right (by omega) sliver_pos
  have hrange : nearestCount (difference.count * unitsPerOne) length.count < overflowCount :=
    hupper.trans_lt (representable_mul_sliver (by omega)).2
  refine ⟨⟨_, representable_nearestCount hrange⟩, ?_, hlower, hupper.trans_lt hbelow⟩
  rw [hdifference, hlength, Binary64.finite_div_finite hpos.ne']
  exact Binary64.ofRatio_eq_finite rfl

end

/-! ## Months -/

/-- The whole part of a small positive double. -/
theorem floor64_finite {n : ℕ} {magnitude : Magnitude} (hlow : n * unitsPerOne ≤ magnitude.count)
    (hhigh : magnitude.count < (n + 1) * unitsPerOne) (hn : n < 2 ^ 63) :
    (Binary64.finite false magnitude).floor64 = n := by
  have hfloor : (magnitude.count : ℤ) / (unitsPerOne : ℤ) = n := by
    rw [← Int.natCast_ediv, Nat.div_eq_of_lt_le hlow hhigh]
  show max (-2 ^ 63) (min (2 ^ 63 - 1) ((magnitude.count : ℤ) / (unitsPerOne : ℤ))) = n
  rw [hfloor]
  omega

/-- **The roundings of doubles lead no day of the year into another month.** -/
theorem ofDay_eq_ofDoubles {day : ℤ} {month : Month} (h : ofDay day = .ok month) :
    month.val = ofDoubles day := by
  rw [ofDay] at h
  split at h
  · next hday =>
    obtain rfl := Except.ok.inj h
    have hlast : lastDay = 426 := rfl
    obtain ⟨n, rfl⟩ := Int.eq_ofNat_of_zero_le (show 0 ≤ day by omega)
    have hn : 1 ≤ n ∧ n ≤ 426 := by omega
    obtain ⟨quotient, hquotient, hlow, hhigh⟩ := exists_quotient hn rfl
    rw [ofDoubles, hquotient, floor64_finite hlow hhigh (by omega)]
    show (((100 * (n : ℤ) - 1) / 3550).toNat : ℤ) = _
    omega
  · contradiction

end Month

end FlightCaption
