import FlightCaption.Numeric.Binary64
import Mathlib.Tactic.Ring

/-!
# Rounding and bounds

Rounding does not lead past a number that needs none: a quotient on one side of a whole number is
rounded to the same side or onto it, and a quotient of doubles on one side of a double likewise.

Main statements: `nearestCount_le` and `le_nearestCount`.
-/

namespace FlightCaption.Numeric

-- Powers are those of the core library, whatever other instances are in scope.
attribute [local instance (2000)] instPowNat

/-! ## Whole numbers -/

section

variable {num den k : ℕ}

theorem roundDiv_le_of_le (hden : 0 < den) (h : num ≤ k * den) : roundDiv num den ≤ k := by
  rcases h.lt_or_eq with hlt | rfl
  · have hbelow : num / den < k := (Nat.div_lt_iff_lt_mul hden).mpr hlt
    exact (roundDiv_le num den).trans hbelow
  · exact (roundDiv_mul_right k hden).le

theorem le_roundDiv_of_le (hden : 0 < den) (h : k * den ≤ num) : k ≤ roundDiv num den :=
  ((Nat.le_div_iff_mul_le hden).mpr h).trans (le_roundDiv num den)

/-- Above an odd number, rounding up starts with the half: the half goes to the even neighbour. -/
theorem lt_roundDiv_iff_of_odd (hden : 0 < den) (hodd : k % 2 = 1) :
    k < roundDiv num den ↔ (2 * k + 1) * den ≤ 2 * num := by
  have hsplit := Nat.div_add_mod num den
  have hrest := Nat.mod_lt num hden
  have hhalf : (2 * k + 1) * den = 2 * (den * k) + den := by ring
  rcases lt_trichotomy (num / den) k with hlt | heq | hgt
  · have hround := roundDiv_le num den
    have hmul : den * (num / den + 1) ≤ den * k := Nat.mul_le_mul_left den hlt
    rw [Nat.mul_add, Nat.mul_one] at hmul
    omega
  · rw [heq] at hsplit
    rw [roundDiv, heq, hodd, hhalf]
    split
    · omega
    · split <;> omega
  · have hround := le_roundDiv num den
    have hmul : den * (k + 1) ≤ den * (num / den) := Nat.mul_le_mul_left den hgt
    rw [Nat.mul_add, Nat.mul_one] at hmul
    omega

end

/-! ## Doubles -/

theorem log2_le_log2 {m n : ℕ} (h : m ≤ n) : m.log2 ≤ n.log2 := by
  by_cases hm : m = 0
  · simp [hm]
  · exact (Nat.le_log2 (by omega)).mpr ((Nat.log2_self_le hm).trans h)

theorem unitsPerOne_pos : 0 < unitsPerOne := by
  decide +kernel

section

variable {num den bound : ℕ} (hden : 0 < den) (hbound : Representable bound)
include hden hbound

/-- A quotient that is not above a double is not rounded to one above it. -/
theorem nearestCount_le (h : num ≤ bound * den) : nearestCount num den ≤ bound := by
  have hquotient : num / den ≤ bound := Nat.div_le_of_le_mul (by rwa [mul_comm den])
  -- The grain of the quotient divides the bound
  obtain ⟨k, hk⟩ : 2 ^ ((num / den).log2 - 52) ∣ bound := by
    refine Nat.dvd_trans (Nat.pow_dvd_pow 2 ?_) hbound.1
    exact Nat.sub_le_sub_right (log2_le_log2 hquotient) 52
  unfold nearestCount
  dsimp only
  generalize hgrain : 2 ^ ((num / den).log2 - 52) = grain at hk ⊢
  have hpos : 0 < grain := hgrain ▸ Nat.two_pow_pos _
  rw [hk, mul_comm grain k]
  refine Nat.mul_le_mul_right grain (roundDiv_le_of_le (Nat.mul_pos hden hpos) ?_)
  rw [hk] at h
  calc num ≤ grain * k * den := h
    _ = k * (den * grain) := by ring

/-- A quotient that is not below a double is not rounded to one below it. -/
theorem le_nearestCount (h : bound * den ≤ num) : bound ≤ nearestCount num den := by
  have hquotient : bound ≤ num / den := (Nat.le_div_iff_mul_le hden).mpr h
  -- A multiple of the grain lies between the two
  obtain ⟨k, hlow, hhigh⟩ : ∃ k, bound ≤ k * 2 ^ ((num / den).log2 - 52) ∧
      k * 2 ^ ((num / den).log2 - 52) ≤ num / den := by
    rcases (log2_le_log2 hquotient).eq_or_lt with heq | hlt
    · obtain ⟨k, hk⟩ := hbound.1
      rw [heq, mul_comm] at hk
      exact ⟨k, hk.le, hk ▸ hquotient⟩
    · -- The leading bit of the quotient is above the bound already
      have hne : num / den ≠ 0 := by
        intro hzero
        rw [hzero] at hlt
        exact absurd hlt (Nat.not_lt_zero _)
      obtain ⟨k, hk⟩ : 2 ^ ((num / den).log2 - 52) ∣ 2 ^ (num / den).log2 :=
        Nat.pow_dvd_pow 2 (Nat.sub_le _ _)
      rw [mul_comm] at hk
      refine ⟨k, ?_, hk ▸ Nat.log2_self_le hne⟩
      rw [← hk]
      exact Nat.lt_log2_self.le.trans (Nat.pow_le_pow_right (by decide) hlt)
  unfold nearestCount
  dsimp only
  generalize hgrain : 2 ^ ((num / den).log2 - 52) = grain at hlow hhigh ⊢
  have hpos : 0 < grain := hgrain ▸ Nat.two_pow_pos _
  refine hlow.trans (Nat.mul_le_mul_right grain (le_roundDiv_of_le (Nat.mul_pos hden hpos) ?_))
  calc k * (den * grain) = k * grain * den := by ring
    _ ≤ num := (Nat.le_div_iff_mul_le hden).mp hhigh

end

/-- A number of 53 bits times a power of two is a double. -/
theorem representable_mul_two_pow {m e : ℕ} (hm : m < 2 ^ 53) (he : e ≤ 2045) :
    Representable (m * 2 ^ e) := by
  constructor
  · refine Nat.dvd_trans (Nat.pow_dvd_pow 2 ?_) (Nat.dvd_mul_left (2 ^ e) m)
    rcases m.eq_zero_or_pos with rfl | hpos
    · simp
    · have hlog : (m * 2 ^ e).log2 < 53 + e := by
        refine (Nat.log2_lt (Nat.mul_pos hpos (Nat.two_pow_pos e)).ne').mpr ?_
        rw [Nat.pow_add]
        exact Nat.mul_lt_mul_of_pos_right hm (Nat.two_pow_pos e)
      omega
  · obtain ⟨top, htop, hover⟩ : ∃ top, 2098 ≤ top ∧ 2 ^ top = overflowCount :=
      ⟨2098, le_rfl, by decide +kernel⟩
    calc m * 2 ^ e < 2 ^ 53 * 2 ^ e := Nat.mul_lt_mul_of_pos_right hm (Nat.two_pow_pos e)
      _ = 2 ^ (53 + e) := (Nat.pow_add 2 53 e).symm
      _ ≤ 2 ^ top := Nat.pow_le_pow_right (Nat.succ_pos 1) (by omega)
      _ = overflowCount := hover

/-- A double is not rounded. -/
theorem nearestCount_mul_right {count den : ℕ} (hden : 0 < den) (hcount : Representable count) :
    nearestCount (count * den) den = count :=
  le_antisymm (nearestCount_le hden hcount le_rfl) (le_nearestCount hden hcount le_rfl)

/-! ## Operations on finite doubles -/

namespace Binary64

/-- A ratio is the double that its count makes. -/
theorem ofRatio_eq_finite {negative : Bool} {num den : ℕ} {magnitude : Magnitude}
    (h : nearestCount num den = magnitude.count) :
    ofRatio negative num den = finite negative magnitude := by
  obtain ⟨count, hcount⟩ := magnitude
  obtain rfl : nearestCount num den = count := h
  rw [ofRatio, dif_pos hcount.2]

theorem ofInt_natCast {n : ℕ} (hn : Representable (n * unitsPerOne)) :
    ofInt n = finite false ⟨n * unitsPerOne, hn⟩ := by
  have hsign : decide ((n : ℤ) < 0) = false := by simp
  rw [ofInt, hsign, Int.natAbs_natCast]
  apply ofRatio_eq_finite
  simpa using nearestCount_mul_right one_pos hn

/-- A smaller positive number is taken away. -/
theorem finite_sub_finite {magnitude less : Magnitude} (h : less.count < magnitude.count) :
    finite false magnitude - finite false less =
      ofRatio false (magnitude.count - less.count) 1 := by
  have hdifference : signedCount false magnitude - signedCount false less =
      ((magnitude.count - less.count : ℕ) : ℤ) := (Int.ofNat_sub h.le).symm
  show (if signedCount false magnitude - signedCount false less = 0 then _ else
    ofRatio (signedCount false magnitude - signedCount false less < 0)
      (signedCount false magnitude - signedCount false less).natAbs 1) = _
  rw [hdifference, if_neg (by omega), Int.natAbs_natCast, decide_eq_false (by omega)]

theorem finite_div_finite {negative negative' : Bool} {magnitude divisor : Magnitude}
    (h : divisor.count ≠ 0) :
    finite negative magnitude / finite negative' divisor =
      ofRatio (negative ^^ negative') (magnitude.count * unitsPerOne) divisor.count :=
  if_neg h

end Binary64

end FlightCaption.Numeric
