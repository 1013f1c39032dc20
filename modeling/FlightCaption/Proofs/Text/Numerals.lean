import FlightCaption.Text.Digits
import Mathlib.Data.Int.Notation
import Mathlib.Data.List.Basic
import Std.Data.String.ToInt

/-!
# Numerals

Captions show numbers. This module says what it means that a text is a numeral for a number, and how
the numbers of a longer text are read back.

1. A numeral reads back as its number, is made of digits behind the sign of a negative number, and
   is as long as the shortest numeral unless it is filled up to a width (`IsNumeral`). Numbers are
   written in this way.
2. The numbers of a text are those of its longest stretches of digits and minus signs (`numbers`).
   Numerals that other characters keep apart are read back one by one.

Main statements: `isNumeral_paddedInteger` and `IsNumeral.numbers_append`.
-/

namespace FlightCaption.Text

/-! ## Numerals -/

/-- A text is a numeral for a number, filled up to a width. -/
structure IsNumeral (width : ℕ) (n : ℤ) (text : String) : Prop where
  reads : text.toInt? = some n
  chars : ∀ c ∈ text.toList, c.isDigit ∨ c = '-' ∧ n < 0
  length : text.length = max width (toString n).length

@[simp] theorem zeroFilled_zero (cs : List Char) : zeroFilled 0 cs = cs := by
  simp [zeroFilled]

theorem isDigit_of_mem_zeroFilled {width m : ℕ} {c : Char}
    (h : c ∈ zeroFilled width (digits m)) : c.isDigit := by
  rcases List.mem_append.mp h with hzero | hdigit
  · rw [List.eq_of_mem_replicate hzero]
    decide
  · exact Nat.isDigit_of_mem_toDigits (by decide) (by decide) hdigit

/-- Zeros in front do not change what digits read as. -/
theorem toNat?_zeroFilled (width m : ℕ) :
    (String.ofList (zeroFilled width (digits m))).toNat? = some m := by
  have hdigits : ∀ c ∈ (String.ofList (zeroFilled width (digits m))).toList, c.isDigit := by
    intro c hc
    rw [String.toList_ofList] at hc
    exact isDigit_of_mem_zeroFilled hc
  have hnonempty : String.ofList (zeroFilled width (digits m)) ≠ "" := by
    simp [zeroFilled, digits]
  -- Reading skips underscores, but there are none
  have hunderscore : '_' ∉ zeroFilled width (digits m) :=
    fun h => absurd (isDigit_of_mem_zeroFilled h) (by decide)
  rw [String.toNat?_eq_some_ofDigitChars (String.isNat_of_isDigit hnonempty hdigits),
    String.toList_ofList, List.filter_bne_eq_self_of_not_mem hunderscore, zeroFilled,
    Nat.ofDigitChars_append, Nat.ofDigitChars_replicate_zero, digits, Nat.mul_zero,
    Nat.ofDigitChars_ten_toDigits]

theorem paddedInteger_of_neg {n : ℤ} (hn : n < 0) (width : ℕ) :
    paddedInteger width n =
      "-" ++ String.ofList (zeroFilled (width - 1) (digits n.natAbs)) := by
  rw [paddedInteger, if_pos hn, String.ofList_cons]
  rfl

theorem paddedInteger_of_not_neg {n : ℤ} (hn : ¬ n < 0) (width : ℕ) :
    paddedInteger width n = String.ofList (zeroFilled width (digits n.natAbs)) := by
  rw [paddedInteger, if_neg hn]

theorem paddedInteger_zero (n : ℤ) : paddedInteger 0 n = integer n := by
  rw [integer, paddedInteger, Nat.zero_sub, zeroFilled_zero]

/-- Every numeral has a digit, so a width of one fills nothing up. -/
theorem paddedInteger_one (n : ℤ) : paddedInteger 1 n = integer n := by
  have hdigits : 1 - (digits n.natAbs).length = 0 :=
    Nat.sub_eq_zero_of_le Nat.length_toDigits_pos
  rw [integer, paddedInteger, Nat.sub_self, zeroFilled_zero, zeroFilled, hdigits]
  rfl

/-- A number without a width is written as its shortest numeral. -/
theorem integer_eq_toString (n : ℤ) : integer n = toString n := by
  rw [Int.toString_eq_repr, Int.repr_eq_if, ← paddedInteger_zero]
  by_cases hn : n < 0
  · have habs : (-n).toNat = n.natAbs := by omega
    rw [if_neg (Int.not_le.mpr hn), paddedInteger_of_neg hn, habs, zeroFilled_zero]
    rfl
  · have habs : n.toNat = n.natAbs := by omega
    rw [if_pos (Int.not_lt.mp hn), paddedInteger_of_not_neg hn, habs, zeroFilled_zero]
    rfl

/-- **A number that is filled up with zeros is a numeral of that width.** The zeros stand behind the
    sign, and the width counts it. -/
theorem isNumeral_paddedInteger (width : ℕ) (n : ℤ) :
    IsNumeral width n (paddedInteger width n) := by
  by_cases hn : n < 0
  · have habs : -(n.natAbs : ℤ) = n := by omega
    -- The sign takes one character of the width
    have hminus : "-".length = 1 := rfl
    constructor
    · rw [paddedInteger_of_neg hn, String.toInt?_minus_append, toNat?_zeroFilled,
        Option.map_some, habs]
    · intro c hc
      simp only [paddedInteger_of_neg hn, String.toList_append, String.toList_ofList,
        List.mem_append] at hc
      rcases hc with hsign | hdigit
      · exact .inr ⟨List.mem_singleton.mp hsign, hn⟩
      · exact .inl (isDigit_of_mem_zeroFilled hdigit)
    · rw [← integer_eq_toString, ← paddedInteger_zero, paddedInteger_of_neg hn,
        paddedInteger_of_neg hn]
      simp only [String.length_append, String.length_ofList, length_zeroFilled, hminus]
      omega
  · have habs : (n.natAbs : ℤ) = n := by omega
    constructor
    · rw [paddedInteger_of_not_neg hn,
        String.toInt?_eq_some_of_toNat?_eq_some (toNat?_zeroFilled width n.natAbs), habs]
    · intro c hc
      rw [paddedInteger_of_not_neg hn, String.toList_ofList] at hc
      exact .inl (isDigit_of_mem_zeroFilled hc)
    · rw [← integer_eq_toString, ← paddedInteger_zero, paddedInteger_of_not_neg hn,
        paddedInteger_of_not_neg hn]
      simp only [String.length_ofList, length_zeroFilled]
      omega

theorem isNumeral_toString (n : ℤ) : IsNumeral 0 n (toString n) := by
  rw [← integer_eq_toString, ← paddedInteger_zero]
  exact isNumeral_paddedInteger 0 n

/-- A text is a numeral for one number only. -/
theorem IsNumeral.eq_of_reads {width width' : ℕ} {n n' : ℤ} {text : String}
    (h : IsNumeral width n text) (h' : IsNumeral width' n' text) : n = n' :=
  Option.some.inj (h.reads.symm.trans h'.reads)

/-- A text of two digits. -/
def IsTwoDigits (text : String) : Prop :=
  text.length = 2 ∧ ∀ c ∈ text.toList, c.isDigit

/-- Numbers below a hundred fill a width of two exactly. -/
theorem IsNumeral.isTwoDigits {n : ℤ} {text : String} (h : IsNumeral 2 n text)
    (hn : 0 ≤ n ∧ n < 100) : IsTwoDigits text := by
  constructor
  · have hshort : (toString n).length ≤ 2 := by
      rw [Int.toString_eq_repr, Int.repr_eq_if, if_pos hn.1, ← String.length_toList,
        Nat.toList_repr, Nat.length_toDigits_le_iff (by decide) (by decide)]
      omega
    rw [h.length]
    omega
  · intro c hc
    rcases h.chars c hc with hdigit | ⟨-, hneg⟩
    · exact hdigit
    · omega

/-! ## Numbers of a text -/

/-- The characters that numerals are made of. -/
def isNumeralChar (c : Char) : Bool :=
  c.isDigit || c == '-'

/-- The numbers that stand in a text, in order. A stretch that reads as no number, such as a lone
    minus sign, is passed over. -/
def numbers (cs : List Char) : List ℤ :=
  (cs.splitOnP fun c => !isNumeralChar c).filterMap fun stretch => (String.ofList stretch).toInt?

theorem toNat?_empty : "".toNat? = none := by
  rw [String.toNat?_eq_none_iff, ← Bool.not_eq_true]
  simp [String.isNat_iff]

theorem toInt?_empty : "".toInt? = none := by
  rw [String.toInt?_eq_none_iff, ← Bool.not_eq_true]
  simp [String.isInt_iff, String.isNat_iff]

theorem toInt?_minus : "-".toInt? = none := by
  have hminus : "-" = "-" ++ "" := rfl
  rw [hminus, String.toInt?_minus_append, toNat?_empty, Option.map_none]

theorem numbers_cons {c : Char} (hc : isNumeralChar c = false) (cs : List Char) :
    numbers (c :: cs) = numbers cs := by
  rw [numbers, List.splitOnP_cons_eq_if_modifyHead]
  simp [hc, toInt?_empty, numbers]

theorem numbers_append_of_forall {gap : List Char} (h : ∀ c ∈ gap, isNumeralChar c = false)
    (cs : List Char) : numbers (gap ++ cs) = numbers cs := by
  induction gap with
  | nil => rfl
  | cons c gap ih =>
    rw [List.forall_mem_cons] at h
    rw [List.cons_append, numbers_cons h.1, ih h.2]

/-- A text that keeps numerals apart has characters, and none that numerals are made of. -/
def isGap (gap : String) : Bool :=
  !gap.toList.isEmpty && gap.toList.all fun c => !isNumeralChar c

theorem isGap_iff {gap : String} :
    isGap gap ↔ gap.toList ≠ [] ∧ ∀ c ∈ gap.toList, isNumeralChar c = false := by
  simp [isGap]

theorem numbers_gap_append {gap : String} (h : isGap gap) (rest : String) :
    numbers (gap ++ rest).toList = numbers rest.toList := by
  rw [String.toList_append, numbers_append_of_forall (isGap_iff.mp h).2]

theorem numbers_minus_cons {c : Char} (hc : isNumeralChar c = false) (cs : List Char) :
    numbers ('-' :: c :: cs) = numbers cs := by
  have hminus : ∀ x ∈ ['-'], (!isNumeralChar x) = false :=
    List.forall_mem_singleton.mpr rfl
  have hnone : (String.ofList ['-']).toInt? = none := toInt?_minus
  show numbers (['-'] ++ c :: cs) = numbers cs
  rw [numbers, List.splitOnP_append_cons_of_forall_mem hminus c (by simp [hc])]
  simp [hnone, numbers]

namespace IsNumeral

variable {width : ℕ} {n : ℤ} {text : String} (h : IsNumeral width n text)
include h

theorem forall_isNumeralChar : ∀ c ∈ text.toList, (!isNumeralChar c) = false := by
  intro c hc
  rcases h.chars c hc with hdigit | ⟨rfl, -⟩
  · simp [isNumeralChar, hdigit]
  · rfl

theorem numbers_toList : numbers text.toList = [n] := by
  rw [numbers, List.splitOnP_eq_singleton h.forall_isNumeralChar]
  simp [h.reads]

/-- **A numeral in front of a gap is read back**, and nothing else is read off it. -/
theorem numbers_append {gap : String} (hgap : isGap gap) (rest : String) :
    numbers (text ++ (gap ++ rest)).toList = n :: numbers rest.toList := by
  obtain ⟨hnonempty, hchars⟩ := isGap_iff.mp hgap
  obtain ⟨c, cs, hgap⟩ := List.exists_cons_of_ne_nil hnonempty
  rw [hgap, List.forall_mem_cons] at hchars
  -- The first character of the gap ends the numeral, and the others are passed over
  rw [String.toList_append, String.toList_append, hgap, List.cons_append, numbers,
    List.splitOnP_append_cons_of_forall_mem h.forall_isNumeralChar c (by simp [hchars.1])]
  simpa [h.reads, numbers] using numbers_append_of_forall hchars.2 rest.toList

end IsNumeral

end FlightCaption.Text
