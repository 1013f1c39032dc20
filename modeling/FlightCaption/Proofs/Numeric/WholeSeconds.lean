import FlightCaption.Numeric.Binary64
import Mathlib.Data.Rat.Floor

/-!
# Whole seconds of a time

A time is a double-precision number of seconds. Its whole seconds are those of its exact value,
rounded downwards and cut to the range of 64-bit integers. This module says so in rational numbers,
independently of how a double is stored, and shows that the conversion to 64 bits does that.

Main statements: the conversion gives the whole seconds (`floor64_eq_wholeSeconds`), and a later
time has no fewer of them (`wholeSeconds_le_wholeSeconds`).
-/

namespace FlightCaption.Numeric

/-- A whole number cut to the range of 64-bit integers. -/
def saturate (n : ℤ) : ℤ :=
  max Int64.minValue.toInt (min Int64.maxValue.toInt n)

theorem minValue_le_saturate (n : ℤ) : Int64.minValue.toInt ≤ saturate n :=
  le_max_left _ _

theorem saturate_le_maxValue (n : ℤ) : saturate n ≤ Int64.maxValue.toInt :=
  max_le (by decide) (min_le_left _ _)

theorem saturate_eq_self {n : ℤ} (h : Int64.minValue.toInt ≤ n ∧ n ≤ Int64.maxValue.toInt) :
    saturate n = n := by
  rw [saturate, min_eq_right h.2, max_eq_right h.1]

/-- A number that is cut goes to an end of the range. -/
theorem saturate_eq_self_of_lt {n : ℤ}
    (h : Int64.minValue.toInt < saturate n ∧ saturate n < Int64.maxValue.toInt) :
    saturate n = n := by
  unfold saturate at h ⊢
  omega

theorem saturate_mono {n m : ℤ} (h : n ≤ m) : saturate n ≤ saturate m :=
  max_le_max_left _ (min_le_min_left _ h)

namespace Binary64

/-- The exact value of a finite number. -/
def value (negative : Bool) (magnitude : Magnitude) : ℚ :=
  (signedCount negative magnitude : ℚ) / (unitsPerOne : ℚ)

/-- The whole seconds of a time. Infinite times are cut to the range, and not-a-number has none. -/
def wholeSeconds : Binary64 → ℤ
  | nan => 0
  | infinity true => Int64.minValue.toInt
  | infinity false => Int64.maxValue.toInt
  | finite negative magnitude => saturate ⌊value negative magnitude⌋

/-- **The conversion to 64 bits gives the whole seconds.** -/
theorem floor64_eq_wholeSeconds (time : Binary64) : time.floor64 = time.wholeSeconds := by
  cases time with
  | nan => rfl
  | infinity negative => cases negative <;> rfl
  | finite negative magnitude =>
    rw [wholeSeconds, value, Rat.floor_intCast_div_natCast]
    rfl

/-- Finite numbers are ordered by their values. -/
theorem value_le_value {s t : Bool} {m n : Magnitude} (h : finite s m ≤ finite t n) :
    value s m ≤ value t n := by
  have hcount : signedCount s m ≤ signedCount t n := by
    have hle : (!lt (finite t n) (finite s m)) = true := h
    simpa [lt] using hle
  rw [value, value]
  gcongr

/-- Whole seconds are 64-bit integers. -/
theorem wholeSeconds_mem_range (time : Binary64) :
    Int64.minValue.toInt ≤ time.wholeSeconds ∧ time.wholeSeconds ≤ Int64.maxValue.toInt := by
  cases time with
  | nan => decide
  | infinity negative => cases negative <;> decide
  | finite negative magnitude => exact ⟨minValue_le_saturate _, saturate_le_maxValue _⟩

/-- **Whole seconds follow the order of times**, infinite times and those out of range included. -/
theorem wholeSeconds_le_wholeSeconds {u v : Binary64} (h : u ≤ v) :
    u.wholeSeconds ≤ v.wholeSeconds := by
  cases u with
  | nan => exact absurd h Bool.false_ne_true
  | infinity s =>
    cases s with
    | true => exact v.wholeSeconds_mem_range.1
    | false =>
      -- Nothing but itself is as large as positive infinity
      cases v with
      | nan => exact absurd h Bool.false_ne_true
      | infinity t =>
        cases t with
        | true => exact absurd h Bool.false_ne_true
        | false => exact le_refl _
      | finite t n => exact absurd h Bool.false_ne_true
  | finite s m =>
    cases v with
    | nan => exact absurd h Bool.false_ne_true
    | infinity t =>
      cases t with
      | true => exact absurd h Bool.false_ne_true
      | false => exact (finite s m).wholeSeconds_mem_range.2
    | finite t n => exact saturate_mono (Int.floor_mono (value_le_value h))

/-- The time is finite, and its exact value, rounded downwards, is a given 64-bit integer: nothing
    is cut. -/
def HasFloor (time : Binary64) (n : ℤ) : Prop :=
  ∃ negative magnitude, time = finite negative magnitude ∧ ⌊value negative magnitude⌋ = n ∧
    Int64.minValue.toInt ≤ n ∧ n ≤ Int64.maxValue.toInt

theorem HasFloor.wholeSeconds_eq {time : Binary64} {n : ℤ} (h : time.HasFloor n) :
    time.wholeSeconds = n := by
  obtain ⟨negative, magnitude, rfl, hfloor, hlow, hhigh⟩ := h
  rw [wholeSeconds, hfloor, saturate_eq_self ⟨hlow, hhigh⟩]

/-- What the conversion to 64 bits gives inside the range has not been cut. -/
theorem hasFloor_of_floor64 {time : Binary64} {n : ℤ} (hfinite : time.isFinite)
    (hfloor : time.floor64 = n) (hrange : Int64.minValue.toInt < n ∧ n < Int64.maxValue.toInt) :
    time.HasFloor n := by
  subst hfloor
  rw [floor64_eq_wholeSeconds] at hrange ⊢
  cases time with
  | nan => exact absurd hfinite Bool.false_ne_true
  | infinity negative => exact absurd hfinite Bool.false_ne_true
  | finite negative magnitude =>
    rw [wholeSeconds] at hrange ⊢
    have hself := saturate_eq_self_of_lt hrange
    rw [hself] at hrange ⊢
    exact ⟨negative, magnitude, rfl, rfl, hrange.1.le, hrange.2.le⟩

/-! ## Sign and magnitude -/

/-- The exact value of a number is below zero. Not-a-number has no value, and that of either zero is
    zero. -/
def IsBelowZero : Binary64 → Prop
  | nan => False
  | infinity negative => negative = true
  | finite negative magnitude => value negative magnitude < 0

theorem representable_zero : Representable 0 :=
  ⟨Nat.dvd_zero _, by decide +kernel⟩

theorem zero_eq_finite : (0 : Binary64) = finite false ⟨0, representable_zero⟩ := by
  decide +kernel

theorem lt_zero_iff {time : Binary64} : time < 0 ↔ time.IsBelowZero := by
  rw [zero_eq_finite]
  cases time with
  | nan => exact iff_of_false Bool.false_ne_true not_false
  | infinity negative => rfl
  | finite negative magnitude =>
    have hunits : (0 : ℚ) < (unitsPerOne : ℚ) := by
      rw [unitsPerOne]
      positivity
    show decide (signedCount negative magnitude < 0) = true ↔
      (signedCount negative magnitude : ℚ) / (unitsPerOne : ℚ) < 0
    rw [decide_eq_true_iff, div_lt_iff₀ hunits, zero_mul, Int.cast_lt_zero]

/-- A time without its sign has no negative seconds. -/
theorem wholeSeconds_abs_nonneg (time : Binary64) : 0 ≤ time.abs.wholeSeconds := by
  cases time with
  | nan => exact le_refl 0
  | infinity negative => exact (infinity false).wholeSeconds_mem_range.2.trans' (by decide)
  | finite negative magnitude =>
    have hvalue : 0 ≤ value false magnitude := by
      rw [value, signedCount, if_neg Bool.false_ne_true]
      positivity
    exact saturate_mono (Int.floor_nonneg.mpr hvalue)

end Binary64

end FlightCaption.Numeric
