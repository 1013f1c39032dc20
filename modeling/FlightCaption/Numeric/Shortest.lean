import FlightCaption.Numeric.Binary64
import FlightCaption.Text.Digits

/-!
# Shortest decimal text

The fewest decimal digits that read back as the same double and, among those, the nearest to it; an
exact tie goes to the even digit. A double reads back from every decimal that is nearer to it than
to its neighbours, the half-way points included when its own significand is even.

The text is positional while the first digit stands at most sixteen places before the point and
at most five after it; otherwise it has one digit before the point and an exponent with a sign. A
positional text always shows a fraction, `5.0` for five.
-/

namespace FlightCaption.Numeric

-- Powers are those of the core library, whatever other instances are in scope.
attribute [local instance (2000)] instPowNat

/-! ## Digits -/

/-- A decimal number `digits · 10 ^ exponent`. -/
structure Decimal where
  digits : Nat
  exponent : Int
deriving DecidableEq, Repr

/-- The decimals that read back as a positive count of units: an interval of quarter units. -/
structure RoundingInterval where
  low : Nat
  high : Nat
  /-- Whether the ends belong to it. -/
  closed : Bool

/-- The interval of a count. Downwards the neighbour of a power of two is only half as far away. -/
def roundingInterval (count : Nat) : RoundingInterval :=
  let dropped := count.log2 - 52
  let grain := 2 ^ dropped
  let significand := count / grain
  let below := if significand = 2 ^ (52 : Nat) && dropped != 0 then grain else 2 * grain
  { low := 4 * count - below
    high := 4 * count + 2 * grain
    closed := significand % 2 == 0 }

/-- Whether a positive fraction of units lies in the interval. -/
def RoundingInterval.contains (interval : RoundingInterval) (num den : Nat) : Bool :=
  if interval.closed then interval.low * den ≤ 4 * num && 4 * num ≤ interval.high * den
  else interval.low * den < 4 * num && 4 * num < interval.high * den

/-- The step of the decimal grid `10 ^ exponent`, in units, as a fraction. -/
def gridStep (exponent : Int) : Nat × Nat :=
  if 0 ≤ exponent then (10 ^ exponent.toNat * unitsPerOne, 1)
  else (unitsPerOne, 10 ^ (-exponent).toNat)

/-- The point of the grid `10 ^ exponent` that reads back as `count` units: of the two neighbours
on the grid the nearer one if both do, an exact tie going to the even one. -/
def gridPoint? (count : Nat) (exponent : Int) : Option Nat :=
  let (num, den) := gridStep exponent
  let below := count * den / num
  let interval := roundingInterval count
  let lower := interval.contains (below * num) den
  let upper := interval.contains ((below + 1) * num) den
  if lower && upper then some (roundDiv (count * den) num)
  else if lower then some below
  else if upper then some (below + 1)
  else none

/-- How many digits the whole part of a count of units has, or how far before the first digit the
point stands: the least `k` with `count < 10 ^ k` units of one, searched from `start` upwards. -/
def decimalPlace (count : Nat) : Nat → Int → Int
  | 0, k => k
  | fuel + 1, k =>
    let (num, den) := gridStep k
    if count * den < num then k else decimalPlace count fuel (k + 1)

/-- The first grid, from coarse to fine, that has a point in the interval. -/
def searchGrid (count : Nat) (place : Int) : Nat → Nat → Decimal
  | 0, _ => ⟨0, 0⟩
  | fuel + 1, width =>
    match gridPoint? count (place - width) with
    | some digits => ⟨digits, place - width⟩
    | none => searchGrid count place fuel (width + 1)

/-- The shortest decimal that reads back as a positive count of units. Seventeen digits are always
enough, and a double lies between `10 ^ -324` and `10 ^ 309`. -/
def shortest (count : Nat) : Decimal :=
  searchGrid count (decimalPlace count 640 (-324)) 17 1

/-! ## Text -/

/-- An exponent with its sign. -/
def exponentText (power : Int) : List Char :=
  'e' :: ((if power < 0 then [] else ['+']) ++ (Text.integer power).toList)

/-- The digits and the exponent as text. The number is below `10 ^ place`. -/
def shortestText (decimal : Decimal) : List Char :=
  let all := Text.digits decimal.digits
  let kept := (all.reverse.dropWhile (· = '0')).reverse
  let place := decimal.exponent + all.length
  if (kept.length : Int) ≤ place ∧ place ≤ 16 then
    -- the point stands behind all digits
    kept ++ List.replicate (place.toNat - kept.length) '0' ++ ['.', '0']
  else if 0 < place ∧ place ≤ 16 then
    -- the point stands between two digits
    kept.take place.toNat ++ '.' :: kept.drop place.toNat
  else if -5 < place ∧ place ≤ 0 then
    -- the point stands before all digits
    '0' :: '.' :: (List.replicate (-place).toNat '0' ++ kept)
  else
    let mantissa := match kept with
      | first :: second :: rest => first :: '.' :: second :: rest
      | short => short
    mantissa ++ exponentText (place - 1)

/-- The shortest text of a finite double. -/
def Binary64.shortest : Binary64 → String
  | .nan => "NaN"
  | .infinity negative => if negative then "-inf" else "inf"
  | .finite negative magnitude =>
    let text := if magnitude.count = 0 then ['0', '.', '0']
      else shortestText (Numeric.shortest magnitude.count)
    String.ofList (if negative then '-' :: text else text)

end FlightCaption.Numeric
