import FlightCaption.Proofs.Numeric.Nearest
import FlightCaption.Proofs.Numeric.WholeSeconds
import FlightCaption.Proofs.Text.Numerals
import FlightCaption.Snapshot.Reading

/-!
# Distances and their units

A distance is written in metres or in a larger unit, each a thousand times the one before, with one
place. The unit is chosen by the distance itself, and what is written is the quotient of the two,
which is rounded to a double first and then to one place.

1. A number with one place and a unit can be read back from their text (`IsDistance`).
2. The quotient is at least one in every unit but the smallest, and below a thousand, or a thousand
   itself, in every unit but the largest: rounding it to a double does not lead past these numbers.
3. Neither does rounding to one place. So the number that is shown is at least one where the unit is
   not the metre. But it is not always below a thousand where a larger unit is left: from 999.95 on
   the quotient is shown as `1000.0`.

Main statement: `distanceText_fits`.
-/

namespace FlightCaption

open Numeric

/-! ## Reading a distance -/

/-- A text shows a number with one place, and a unit behind it. -/
def IsDistance (number : ℚ) (symbol text : String) : Prop :=
  ∃ (negative : Bool) (whole tenth : ℕ), tenth < 10 ∧
    number = (if negative then -1 else 1) * (whole + tenth / 10 : ℚ) ∧
    text = (if negative then "-" else "") ++ toString whole ++ "." ++ toString tenth ++ " " ++
      symbol

/-- Texts that are the same are so on both sides of the first place of a character. -/
theorem eq_and_eq_of_append_cons_eq {c : Char} {before before' after after' : List Char}
    (hbefore : c ∉ before) (hbefore' : c ∉ before')
    (h : before ++ c :: after = before' ++ c :: after') : before = before' ∧ after = after' := by
  induction before generalizing before' with
  | nil =>
    cases before' with
    | nil => exact ⟨rfl, (List.cons.inj h).2⟩
    | cons d before' => exact absurd ((List.cons.inj h).1 ▸ List.mem_cons_self) hbefore'
  | cons d before ih =>
    cases before' with
    | nil => exact absurd ((List.cons.inj h).1 ▸ List.mem_cons_self) hbefore
    | cons d' before' =>
      obtain ⟨rfl, hrest⟩ := List.cons.inj h
      rw [List.mem_cons, not_or] at hbefore hbefore'
      obtain ⟨rfl, hafter⟩ := ih hbefore.2 hbefore'.2 hrest
      exact ⟨rfl, hafter⟩

theorem not_mem_toString {n : ℕ} {c : Char} (hc : c.isDigit = false) : c ∉ (toString n).toList := by
  intro hmem
  rw [Nat.toString_eq_repr, Nat.toList_repr] at hmem
  rw [Nat.isDigit_of_mem_toDigits (by decide) (by decide) hmem] at hc
  contradiction

theorem eq_of_toList_toString_eq {m n : ℕ} (h : (toString m).toList = (toString n).toList) :
    m = n :=
  Nat.repr_inj.mp (String.toList_inj.mp h)

/-- The characters of a sign. -/
def signChars (negative : Bool) : List Char :=
  if negative then ['-'] else []

/-- No digit is a sign. -/
theorem eq_of_signChars_append_eq {negative negative' : Bool} {n n' : ℕ}
    (h : signChars negative ++ (toString n).toList = signChars negative' ++ (toString n').toList) :
    negative = negative' ∧ n = n' := by
  have hminus : ∀ n : ℕ, '-' ∉ (toString n).toList := fun n => not_mem_toString rfl
  cases negative <;> cases negative' <;> simp only [signChars] at h
  · exact ⟨rfl, eq_of_toList_toString_eq h⟩
  · exact absurd ((show (toString n).toList = _ from h) ▸ List.mem_cons_self) (hminus n)
  · exact absurd ((show (toString n').toList = _ from h.symm) ▸ List.mem_cons_self) (hminus n')
  · exact ⟨rfl, eq_of_toList_toString_eq (List.cons.inj h).2⟩

/-- A text shows at most one distance. -/
theorem IsDistance.unique {number number' : ℚ} {symbol symbol' text : String}
    (h : IsDistance number symbol text) (h' : IsDistance number' symbol' text) :
    number = number' ∧ symbol = symbol' := by
  obtain ⟨negative, whole, tenth, -, rfl, rfl⟩ := h
  obtain ⟨negative', whole', tenth', -, rfl, htext⟩ := h'
  have hchars : ∀ (negative : Bool) (whole tenth : ℕ) (symbol : String),
      ((if negative then "-" else "") ++ toString whole ++ "." ++ toString tenth ++ " " ++
        symbol).toList = signChars negative ++ (toString whole).toList ++
          '.' :: ((toString tenth).toList ++ ' ' :: symbol.toList) := by
    intro negative whole tenth symbol
    cases negative <;> simp [signChars]
  have hpoint : ∀ (negative : Bool) (whole : ℕ),
      '.' ∉ signChars negative ++ (toString whole).toList := by
    intro negative whole hmem
    rcases List.mem_append.mp hmem with hsign | hdigit
    · cases negative <;> simp [signChars] at hsign
    · exact not_mem_toString rfl hdigit
  have hlists := congrArg String.toList htext
  rw [hchars, hchars] at hlists
  -- The point ends the whole part, and the blank ends the place
  obtain ⟨hwhole, hrest⟩ := eq_and_eq_of_append_cons_eq (hpoint _ _) (hpoint _ _) hlists
  obtain ⟨htenth, hsymbol⟩ :=
    eq_and_eq_of_append_cons_eq (not_mem_toString rfl) (not_mem_toString rfl) hrest
  obtain ⟨rfl, rfl⟩ := eq_of_signChars_append_eq hwhole
  obtain rfl := eq_of_toList_toString_eq htenth
  exact ⟨rfl, String.toList_inj.mp hsymbol⟩

/-! ## Numbers with one place -/

theorem zeroFilled_one_digits (n : ℕ) : Text.zeroFilled 1 (Text.digits n) = Text.digits n := by
  have hdigits : 1 - (Text.digits n).length = 0 := Nat.sub_eq_zero_of_le Nat.length_toDigits_pos
  rw [Text.zeroFilled, hdigits]
  rfl

/-- A double with one place and a unit behind it is a distance, in tenths. -/
theorem isDistance_fixed_one (negative : Bool) (quotient : Magnitude) (symbol : String) :
    IsDistance ((if negative then -1 else 1) * (Binary64.scaled 1 quotient / 10 : ℚ)) symbol
      ((Binary64.finite negative quotient).fixed 1 ++ " " ++ symbol) := by
  generalize htenths : Binary64.scaled 1 quotient = tenths
  refine ⟨negative, tenths / 10, tenths % 10, Nat.mod_lt _ (by decide), ?_, ?_⟩
  · have hsplit : (tenths : ℚ) = ((10 * (tenths / 10) + tenths % 10 : ℕ) : ℚ) := by
      rw [Nat.div_add_mod]
    rw [hsplit]
    push_cast
    ring
  · have htext : (Binary64.finite negative quotient).fixed 1 =
        (if negative then "-" else "") ++ toString (tenths / 10) ++ "." ++
          toString (tenths % 10) := by
      rw [← String.toList_inj, Binary64.fixed, htenths]
      cases negative <;> simp [scaledText, zeroFilled_one_digits] <;> rfl
    rw [htext]

/-- How the tenths of a number follow from it, as far as the ends of a unit are concerned. -/
theorem Numeric.Binary64.ten_le_scaled {quotient : Magnitude} (h : unitsPerOne ≤ quotient.count) :
    10 ≤ scaled 1 quotient :=
  le_roundDiv_of_le unitsPerOne_pos (by omega)

theorem Numeric.Binary64.scaled_le {quotient : Magnitude}
    (h : quotient.count ≤ 1000 * unitsPerOne) : scaled 1 quotient ≤ 10000 :=
  roundDiv_le_of_le unitsPerOne_pos (by omega)

/-- From 999.95 on a number is shown as a thousand. -/
theorem Numeric.Binary64.scaled_lt_iff {quotient : Magnitude} :
    scaled 1 quotient < 10000 ↔ 20 * quotient.count < 19999 * unitsPerOne := by
  have hround : 9999 < scaled 1 quotient ↔ (2 * 9999 + 1) * unitsPerOne ≤
      2 * (quotient.count * 10 ^ 1) :=
    lt_roundDiv_iff_of_odd unitsPerOne_pos (by decide)
  omega

/-! ## Quotients -/

namespace Numeric.Binary64

section

variable {n : ℕ} (hn : Representable (n * unitsPerOne))
include hn

theorem ofInt_natCast_le_abs {negative : Bool} {magnitude : Magnitude} :
    ofInt n ≤ (finite negative magnitude).abs ↔ n * unitsPerOne ≤ magnitude.count := by
  rw [ofInt_natCast hn]
  show (!decide (signedCount false magnitude < signedCount false ⟨n * unitsPerOne, hn⟩)) = true ↔ _
  rw [Bool.not_eq_true', decide_eq_false_iff_not, signedCount, signedCount,
    if_neg Bool.false_ne_true, if_neg Bool.false_ne_true, Int.ofNat_lt, Nat.not_lt]

/-- The quotient of a double and a whole number is not infinite, and it is on the same side of every
    double as the exact quotient. -/
theorem exists_finite_div_ofInt (hpos : 0 < n) (negative : Bool) (magnitude : Magnitude) :
    ∃ quotient : Magnitude,
      finite negative magnitude / ofInt n = finite negative quotient ∧
      (∀ bound, Representable bound → magnitude.count ≤ bound * n → quotient.count ≤ bound) ∧
      ∀ bound, Representable bound → bound * n ≤ magnitude.count → bound ≤ quotient.count := by
  have hden : 0 < n * unitsPerOne := Nat.mul_pos hpos unitsPerOne_pos
  have hmul : ∀ bound, bound * (n * unitsPerOne) = bound * n * unitsPerOne := fun bound =>
    (mul_assoc bound n unitsPerOne).symm
  -- The quotient is not longer than what is divided, and so it is in range
  have hle : nearestCount (magnitude.count * unitsPerOne) (n * unitsPerOne) ≤ magnitude.count := by
    refine nearestCount_le hden magnitude.representable ?_
    rw [hmul]
    exact Nat.mul_le_mul_right _ (Nat.le_mul_of_pos_right _ hpos)
  refine ⟨⟨_, representable_nearestCount (hle.trans_lt magnitude.representable.2)⟩, ?_, ?_, ?_⟩
  · have hdivisor : (⟨n * unitsPerOne, hn⟩ : Magnitude).count ≠ 0 := hden.ne'
    rw [ofInt_natCast hn, finite_div_finite hdivisor, Bool.xor_false]
    exact ofRatio_eq_finite rfl
  · intro bound hbound h
    refine nearestCount_le hden hbound ?_
    rw [hmul]
    exact Nat.mul_le_mul_right _ h
  · intro bound hbound h
    refine le_nearestCount hden hbound ?_
    rw [hmul]
    exact Nat.mul_le_mul_right _ h

end

/-- Dividing by one changes nothing. -/
theorem finite_div_one (negative : Bool) (magnitude : Magnitude) :
    finite negative magnitude / ofInt (1 : ℕ) = finite negative magnitude := by
  have hone : Representable (1 * unitsPerOne) := by decide +kernel
  obtain ⟨quotient, hquotient, hle, hge⟩ :=
    exists_finite_div_ofInt hone one_pos negative magnitude
  have hcount : quotient.count = magnitude.count :=
    le_antisymm (hle _ magnitude.representable (by simp)) (hge _ magnitude.representable (by simp))
  obtain rfl : quotient = magnitude := by
    obtain ⟨count, _⟩ := quotient
    obtain ⟨count', _⟩ := magnitude
    obtain rfl : count = count' := hcount
    rfl
  exact hquotient

end Numeric.Binary64

/-! ## The unit of a distance -/

namespace LengthUnit

/-- The metre, in which a distance is written that is shorter than all larger units. -/
def metre : LengthUnit := ⟨1, "m"⟩

/-- All units, the metre first and then the large ones from the largest on. -/
def all : List LengthUnit := metre :: large

/-- The lengths of the units are doubles. -/
theorem pos_and_representable :
    ∀ unit ∈ all, 0 < unit.metres ∧ Representable (unit.metres * unitsPerOne) := by
  decide +kernel

/-- A unit suits a length, counted in a fraction of the metre: the length is at least that of the
    unit, unless this is the metre, and below a thousand of it, unless there is no larger unit. -/
structure Suits (metre count : ℕ) (unit : LengthUnit) : Prop where
  mem : unit ∈ all
  le : unit.symbol ≠ "m" → unit.metres * metre ≤ count
  lt : unit.symbol ≠ "Gm" → count < 1000 * (unit.metres * metre)

/-- The first large unit that is not longer than a length suits it, and else the metre does: every
    unit is a thousand of the next. -/
theorem suits_find? {p : LengthUnit → Bool} {metre count : ℕ}
    (hp : ∀ unit ∈ large, p unit = true ↔ unit.metres * metre ≤ count) :
    ((large.find? p).getD LengthUnit.metre).Suits metre count := by
  rw [large] at hp ⊢
  simp only [List.forall_mem_cons] at hp
  obtain ⟨hgiga, hmega, hkilo, -⟩ := hp
  by_cases hg : 1000000000 * metre ≤ count
  · rw [List.find?_cons_of_pos (hgiga.mpr hg)]
    exact ⟨by decide, fun _ => hg, fun h => absurd rfl h⟩
  · rw [List.find?_cons_of_neg (hgiga.not.mpr hg)]
    by_cases hm : 1000000 * metre ≤ count
    · rw [List.find?_cons_of_pos (hmega.mpr hm)]
      exact ⟨by decide, fun _ => hm, fun _ => by simp only [Option.getD_some]; omega⟩
    · rw [List.find?_cons_of_neg (hmega.not.mpr hm)]
      by_cases hk : 1000 * metre ≤ count
      · rw [List.find?_cons_of_pos (hkilo.mpr hk)]
        exact ⟨by decide, fun _ => hk, fun _ => by simp only [Option.getD_some]; omega⟩
      · rw [List.find?_cons_of_neg (hkilo.not.mpr hk), List.find?_nil]
        refine ⟨by decide, fun h => absurd rfl h, fun _ => ?_⟩
        simp only [Option.getD_none, LengthUnit.metre]
        omega

end LengthUnit

/-- A distance is written as its quotient by the unit that is found, if this is the distance itself
    for the metre. -/
theorem distanceText_eq_fixed {metres : Binary64}
    (hmetre : metres / Binary64.ofInt LengthUnit.metre.metres = metres) {unit : LengthUnit}
    (hunit : (LengthUnit.large.find? fun unit =>
      decide (Binary64.ofInt unit.metres ≤ metres.abs)).getD LengthUnit.metre = unit) :
    distanceText metres =
      (metres / Binary64.ofInt unit.metres).fixed 1 ++ " " ++ unit.symbol := by
  subst hunit
  unfold distanceText
  cases LengthUnit.large.find? fun unit => decide (Binary64.ofInt unit.metres ≤ metres.abs) with
  | some unit => rfl
  | none =>
    rw [Option.getD_none, hmetre, String.append_assoc]
    rfl

/-- A distance is written as its quotient by a unit that suits it. -/
theorem exists_suits_distanceText (negative : Bool) (magnitude : Magnitude) :
    ∃ unit : LengthUnit, unit.Suits unitsPerOne magnitude.count ∧
      distanceText (.finite negative magnitude) =
        (Binary64.finite negative magnitude / Binary64.ofInt unit.metres).fixed 1 ++ " " ++
          unit.symbol := by
  refine ⟨_, LengthUnit.suits_find? fun unit hunit => ?_,
    distanceText_eq_fixed (Binary64.finite_div_one negative magnitude) rfl⟩
  have hunits := (LengthUnit.pos_and_representable unit (List.mem_cons_of_mem _ hunit)).2
  rw [decide_eq_true_iff, Binary64.ofInt_natCast_le_abs hunits]

/-! ## The ends of a unit -/

theorem abs_sign_mul_tenths (negative : Bool) (tenths : ℕ) :
    |(if negative then -1 else 1) * (tenths / 10 : ℚ)| = tenths / 10 := by
  have hpos : (0 : ℚ) ≤ tenths / 10 := by positivity
  cases negative <;> simp [abs_of_nonneg hpos]

theorem Numeric.Binary64.abs_value (negative : Bool) (magnitude : Magnitude) :
    |value negative magnitude| = (magnitude.count : ℚ) / (unitsPerOne : ℚ) := by
  have hcount : |(signedCount negative magnitude : ℚ)| = magnitude.count := by
    cases negative <;> simp [signedCount]
  rw [value, abs_div, Nat.abs_cast, hcount]

/-- A number is below 999.95 if its twentieths are below 19999. -/
theorem Numeric.Binary64.abs_value_lt_iff {negative : Bool} {quotient : Magnitude} :
    |value negative quotient| < 999.95 ↔ 20 * quotient.count < 19999 * unitsPerOne := by
  have hunits : (0 : ℚ) < (unitsPerOne : ℚ) := Nat.cast_pos.mpr unitsPerOne_pos
  rw [abs_value, div_lt_iff₀ hunits, ← Nat.cast_lt (α := ℚ), Nat.cast_mul, Nat.cast_mul]
  generalize (unitsPerOne : ℚ) = units
  constructor <;> intro h <;> norm_num at h ⊢ <;> linarith

/-- **A distance is shown with a unit that fits it.** Its text shows one number and one of the four
    units. The number is at least one unless the unit is the metre. Unless the unit is the largest,
    it is at most a thousand, and below a thousand where the quotient, as a double, is below
    999.95. -/
theorem distanceText_fits (negative : Bool) (magnitude : Magnitude) :
    ∃ unit ∈ LengthUnit.all, ∃ (quotient : Magnitude) (number : ℚ),
      Binary64.finite negative magnitude / Binary64.ofInt unit.metres = .finite negative quotient ∧
      IsDistance number unit.symbol (distanceText (.finite negative magnitude)) ∧
      (∀ number' symbol', IsDistance number' symbol' (distanceText (.finite negative magnitude)) →
        number' = number ∧ symbol' = unit.symbol) ∧
      (unit.symbol ≠ "m" → 1 ≤ |number|) ∧
      (unit.symbol ≠ "Gm" → |number| ≤ 1000 ∧
        (|number| < 1000 ↔ |Binary64.value negative quotient| < 999.95)) := by
  obtain ⟨unit, hsuits, htext⟩ := exists_suits_distanceText negative magnitude
  obtain ⟨hpos, hrepresentable⟩ := LengthUnit.pos_and_representable unit hsuits.mem
  obtain ⟨quotient, hquotient, hle, hge⟩ :=
    Binary64.exists_finite_div_ofInt hrepresentable hpos negative magnitude
  rw [hquotient] at htext
  have hshown := htext ▸ isDistance_fixed_one negative quotient unit.symbol
  have hlow : unit.symbol ≠ "m" → 10 ≤ Binary64.scaled 1 quotient := by
    intro hsymbol
    have hone : Representable unitsPerOne := by decide +kernel
    refine Binary64.ten_le_scaled (hge _ hone ?_)
    rw [mul_comm]
    exact hsuits.le hsymbol
  have hhigh : unit.symbol ≠ "Gm" → Binary64.scaled 1 quotient ≤ 10000 := by
    intro hsymbol
    have hthousand : Representable (1000 * unitsPerOne) := by decide +kernel
    refine Binary64.scaled_le (hle _ hthousand ?_)
    rw [mul_assoc, mul_comm unitsPerOne]
    exact (hsuits.lt hsymbol).le
  refine ⟨unit, hsuits.mem, quotient, _, hquotient, hshown, fun _ _ h => h.unique hshown, ?_, ?_⟩
  · intro hsymbol
    rw [abs_sign_mul_tenths, le_div_iff₀ (by norm_num)]
    exact_mod_cast hlow hsymbol
  · intro hsymbol
    rw [abs_sign_mul_tenths, Binary64.abs_value_lt_iff, ← Binary64.scaled_lt_iff,
      div_le_iff₀ (by norm_num), div_lt_iff₀ (by norm_num)]
    have htenths := hhigh hsymbol
    generalize Binary64.scaled 1 quotient = tenths at htenths ⊢
    norm_num
    exact_mod_cast htenths

/-- **A distance just below a kilometre is shown as a thousand metres**, and its text has no other
    reading. -/
theorem distanceText_belowKilometre :
    let metres : Binary64 := .ofDecimal false 99996875 (-5)
    metres.isFinite ∧ distanceText metres = "1000.0 m" ∧ IsDistance 1000 "m" "1000.0 m" ∧
      (∀ number symbol, IsDistance number symbol "1000.0 m" → number = 1000 ∧ symbol = "m") ∧
      ¬ |(1000 : ℚ)| < 1000 := by
  have hshown : IsDistance 1000 "m" "1000.0 m" :=
    ⟨false, 1000, 0, by decide, by norm_num, rfl⟩
  refine ⟨by decide +kernel, by decide +kernel, hshown, fun _ _ h => h.unique hshown, by norm_num⟩

end FlightCaption
