import FlightCaption.Numeric.Rounding

/-!
# Double-precision numbers

The numbers of the IEEE 754 format with 53 significant bits, as exact values. The smallest positive
double is 2⁻¹⁰⁷⁴ and every finite double is a whole multiple of it, so a finite number is a sign
and a *count* of that unit. Order, rounding and printing then are arithmetic on natural numbers.

Every operation takes its exact result and rounds it once, to the nearest double, a half going to
the even neighbour (`Binary64.ofRatio`). Main statement: the rounded count fits the format
(`representable_nearestCount`).
-/

namespace FlightCaption.Numeric

-- Powers are those of the core library, whatever other instances are in scope.
attribute [local instance (2000)] instPowNat

/-! ## Counts that a double can hold -/

/-- A double of value one is this many units. -/
def unitsPerOne : Nat := 2 ^ (1074 : Nat)

/-- The first count that is too large for a finite double. -/
def overflowCount : Nat := 2 ^ (2098 : Nat)

/-- A count has at most 53 significant bits and is in range. -/
def Representable (count : Nat) : Prop :=
  2 ^ (count.log2 - 52) ∣ count ∧ count < overflowCount

instance (count : Nat) : Decidable (Representable count) :=
  inferInstanceAs (Decidable (_ ∧ _))

/-- The absolute value of a finite double. -/
structure Magnitude where
  /-- How many times the smallest positive double it is. -/
  count : Nat
  representable : Representable count
deriving DecidableEq

/-- The representable count nearest to `num / den`, out of range if `num / den` is. The 53 leading
bits of the quotient are kept; below 2⁵³ that is all of them, and the format rounds to whole units.
-/
def nearestCount (num den : Nat) : Nat :=
  let grain := 2 ^ ((num / den).log2 - 52)
  roundDiv num (den * grain) * grain

theorem dvd_nearestCount (num den : Nat) :
    2 ^ ((nearestCount num den).log2 - 52) ∣ nearestCount num den := by
  unfold nearestCount
  dsimp only
  generalize hs : (num / den).log2 - 52 = s
  have leading : num / (den * 2 ^ s) < 2 ^ (53 : Nat) := by
    rw [← Nat.div_div_eq_div_mul, Nat.div_lt_iff_lt_mul (Nat.two_pow_pos s), ← Nat.pow_add]
    exact Nat.lt_of_lt_of_le Nat.lt_log2_self (Nat.pow_le_pow_right (by omega) (by omega))
  have bound := roundDiv_le num (den * 2 ^ s)
  generalize roundDiv num (den * 2 ^ s) = m at bound
  rcases Nat.lt_or_ge m (2 ^ (53 : Nat)) with small | large
  · -- at most 53 bits: the grain itself divides the count
    refine Nat.dvd_trans (Nat.pow_dvd_pow 2 ?_) (Nat.dvd_mul_left (2 ^ s) m)
    rcases Nat.eq_zero_or_pos m with rfl | pos
    · simp
    · have : (m * 2 ^ s).log2 < 53 + s := by
        refine (Nat.log2_lt (Nat.ne_of_gt (Nat.mul_pos pos (Nat.two_pow_pos s)))).2 ?_
        rw [Nat.pow_add]
        exact Nat.mul_lt_mul_of_pos_right small (Nat.two_pow_pos s)
      omega
  · -- rounding carried into a new leading bit: the count is a power of two
    have : m = 2 ^ (53 : Nat) := by omega
    subst this
    rw [← Nat.pow_add, Nat.log2_two_pow]
    exact Nat.pow_dvd_pow 2 (by omega)

/-- A rounded count fits the format unless it is out of range. -/
theorem representable_nearestCount {num den : Nat} (h : nearestCount num den < overflowCount) :
    Representable (nearestCount num den) :=
  ⟨dvd_nearestCount num den, h⟩

/-! ## Doubles -/

/-- A double-precision number. Zero has two signs. -/
inductive Binary64 where
  | nan
  | infinity (negative : Bool)
  | finite (negative : Bool) (magnitude : Magnitude)
deriving DecidableEq

namespace Binary64

/-- The double nearest to plus or minus `num / den` units; infinite where that is out of range. -/
def ofRatio (negative : Bool) (num den : Nat) : Binary64 :=
  if h : nearestCount num den < overflowCount then
    finite negative ⟨nearestCount num den, representable_nearestCount h⟩
  else infinity negative

/-- The zero of a sign. -/
def zero (negative : Bool) : Binary64 :=
  ofRatio negative 0 1

/-- The double nearest to a whole number. -/
def ofInt (n : Int) : Binary64 :=
  ofRatio (n < 0) (n.natAbs * unitsPerOne) 1

instance (n : Nat) : OfNat Binary64 n := ⟨ofInt n⟩

instance : Inhabited Binary64 := ⟨0⟩

/-- The double nearest to plus or minus `digits · 10 ^ exponent`. Above an exponent of 400 every
number overflows, and one that is below `2 · 10⁻⁴⁰⁰` vanishes, so that no huge power is computed. -/
def ofDecimal (negative : Bool) (digits : Nat) (exponent : Int) : Binary64 :=
  if digits = 0 then zero negative
  else if 400 < exponent then infinity negative
  else if exponent + (digits.log2 : Int) < -400 then zero negative
  else if 0 ≤ exponent then ofRatio negative (digits * 10 ^ exponent.toNat * unitsPerOne) 1
  else ofRatio negative (digits * unitsPerOne) (10 ^ (-exponent).toNat)

/-! ## Sign and order -/

/-- Whether the sign bit is set; not-a-number counts as unsigned. -/
def negative : Binary64 → Bool
  | nan => false
  | infinity negative => negative
  | finite negative _ => negative

/-- The number without its sign. -/
def abs : Binary64 → Binary64
  | nan => nan
  | infinity _ => infinity false
  | finite _ magnitude => finite false magnitude

/-- The number with the other sign. -/
def neg : Binary64 → Binary64
  | nan => nan
  | infinity negative => infinity (! negative)
  | finite negative magnitude => finite (! negative) magnitude

instance : Neg Binary64 := ⟨neg⟩

/-- The signed count of units that a sign and a magnitude stand for. -/
def signedCount (negative : Bool) (magnitude : Magnitude) : Int :=
  if negative then -(magnitude.count : Int) else magnitude.count

/-- Whether a number is less than another. Nothing is less than not-a-number, nor the reverse, and
the two zeros are equal. -/
def lt : Binary64 → Binary64 → Bool
  | nan, _ => false
  | _, nan => false
  | infinity s, infinity t => s && ! t
  | infinity s, finite _ _ => s
  | finite _ _, infinity t => ! t
  | finite s m, finite t n => signedCount s m < signedCount t n

/-- Whether a number is at most another. Not-a-number is in no order with anything. -/
def le : Binary64 → Binary64 → Bool
  | nan, _ => false
  | _, nan => false
  | x, y => ! lt y x

instance : LT Binary64 := ⟨fun x y => lt x y = true⟩
instance : LE Binary64 := ⟨fun x y => le x y = true⟩
instance (x y : Binary64) : Decidable (x < y) := inferInstanceAs (Decidable (lt x y = true))
instance (x y : Binary64) : Decidable (x ≤ y) := inferInstanceAs (Decidable (le x y = true))

/-! ## Arithmetic -/

/-- Whether the number is a zero. -/
def isZero : Binary64 → Bool
  | finite _ magnitude => magnitude.count == 0
  | _ => false

/-- Whether the number is neither infinite nor not-a-number. -/
def isFinite : Binary64 → Bool
  | finite _ _ => true
  | _ => false

/-- The difference, rounded. A difference of nothing has a minus sign only where it is that of a
negative and a positive zero. -/
def sub : Binary64 → Binary64 → Binary64
  | finite s m, finite t n =>
    let difference := signedCount s m - signedCount t n
    if difference = 0 then zero (s && ! t) else ofRatio (difference < 0) difference.natAbs 1
  | nan, _ => nan
  | _, nan => nan
  | infinity s, infinity t => if s = t then nan else infinity s
  | infinity s, finite _ _ => infinity s
  | finite _ _, infinity t => infinity (! t)

/-- The product, rounded. -/
def mul : Binary64 → Binary64 → Binary64
  | finite s m, finite t n => ofRatio (s ^^ t) (m.count * n.count) unitsPerOne
  | nan, _ => nan
  | _, nan => nan
  | x, y => if x.isZero || y.isZero then nan else infinity (x.negative ^^ y.negative)

/-- The quotient, rounded. -/
def div : Binary64 → Binary64 → Binary64
  | finite s m, finite t n =>
    if n.count = 0 then (if m.count = 0 then nan else infinity (s ^^ t))
    else ofRatio (s ^^ t) (m.count * unitsPerOne) n.count
  | nan, _ => nan
  | _, nan => nan
  | infinity _, infinity _ => nan
  | infinity s, finite t _ => infinity (s ^^ t)
  | finite s _, infinity t => zero (s ^^ t)

instance : Sub Binary64 := ⟨sub⟩
instance : Mul Binary64 := ⟨mul⟩
instance : Div Binary64 := ⟨div⟩

/-! ## Whole seconds and bit patterns -/

/-- The greatest whole number not above the number, cut to the range of a 64-bit integer;
not-a-number counts as zero. -/
def floor64 : Binary64 → Int
  | nan => 0
  | infinity true => -2 ^ (63 : Nat)
  | infinity false => 2 ^ (63 : Nat) - 1
  | finite s m =>
    max (-2 ^ (63 : Nat)) (min (2 ^ (63 : Nat) - 1) (signedCount s m / (unitsPerOne : Int)))

/-- The 64-bit pattern. Counts below 2⁵³ stand for themselves; above, the exponent field counts the
bits that were dropped. -/
def toBits : Binary64 → Nat
  | nan => 0x7FF8000000000000
  | infinity s => (if s then 2 ^ (63 : Nat) else 0) + 0x7FF0000000000000
  | finite s m =>
    let dropped := m.count.log2 - 52
    -- the leading bit of a normal number adds one to the exponent field
    (if s then 2 ^ (63 : Nat) else 0) + dropped * 2 ^ (52 : Nat) + m.count / 2 ^ dropped

end Binary64

end FlightCaption.Numeric
