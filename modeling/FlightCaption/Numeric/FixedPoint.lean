import FlightCaption.Numeric.Binary64
import FlightCaption.Text.Digits

/-!
# Fixed-point text

A double with a fixed number of decimal places. The exact binary value is rounded, a half going to
the even neighbour, and the sign is kept also where the digits are all zero. Not-a-number and the
infinities are words without places.
-/

namespace FlightCaption.Numeric

-- Powers are those of the core library, whatever other instances are in scope.
attribute [local instance (2000)] instPowNat

/-- A count of `10 ^ -places` as text. -/
def scaledText (places scaled : Nat) : List Char :=
  let whole := Text.digits (scaled / 10 ^ places)
  if places = 0 then whole
  else whole ++ '.' :: Text.zeroFilled places (Text.digits (scaled % 10 ^ places))

namespace Binary64

/-- The number in units of `10 ^ -places`, without its sign, rounded to the nearest. -/
def scaled (places : Nat) (magnitude : Magnitude) : Nat :=
  roundDiv (magnitude.count * 10 ^ places) unitsPerOne

/-- The number with `places` decimal places. -/
def fixed (places : Nat) : Binary64 → String
  | nan => "NaN"
  | infinity negative => if negative then "-inf" else "inf"
  | finite negative magnitude =>
    let text := scaledText places (scaled places magnitude)
    String.ofList (if negative then '-' :: text else text)

end Binary64

end FlightCaption.Numeric
