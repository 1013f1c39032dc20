/-!
# Decimal digits

Whole numbers as text: digits after a minus sign where there is one, and the same filled up with
zeros to a width. The width counts the sign.
-/

namespace FlightCaption.Text

/-- The decimal digits of a natural number, without leading zeros. -/
def digits (n : Nat) : List Char :=
  Nat.toDigits 10 n

/-- The least number of characters from `cs` on, zeros put in front. -/
def zeroFilled (width : Nat) (cs : List Char) : List Char :=
  List.replicate (width - cs.length) '0' ++ cs

/-- A whole number as text. -/
def integer (n : Int) : String :=
  String.ofList (if n < 0 then '-' :: digits n.natAbs else digits n.natAbs)

/-- A whole number as text of at least `width` characters, zeros standing between the sign and the
first digit. -/
def paddedInteger (width : Nat) (n : Int) : String :=
  String.ofList (if n < 0 then '-' :: zeroFilled (width - 1) (digits n.natAbs)
    else zeroFilled width (digits n.natAbs))

@[simp] theorem length_zeroFilled (width : Nat) (cs : List Char) :
    (zeroFilled width cs).length = max width cs.length := by
  simp only [zeroFilled, List.length_append, List.length_replicate]
  omega

end FlightCaption.Text
