import FlightCaption.Document.Value

/-!
# JSON numbers

A number is written as in RFC 8259. Without fraction and exponent it is an integer while 64 bits
hold it; minus zero and all other numbers are doubles.

A double is the written significand, cut to what 64 unsigned bits hold, times a power of ten: one
product or one quotient of doubles, each rounded. Digits that do not fit are dropped; those before
the point still count in the exponent. A number too large for a double has no value.
-/

namespace FlightCaption.Document.Json

-- Powers are those of the core library, whatever other instances are in scope.
attribute [local instance (2000)] instPowNat

open Numeric (Binary64)

/-! ## The written parts -/

/-- The parts of a written number. -/
structure NumberText where
  negative : Bool
  whole : List Nat
  fraction : List Nat
  exponent : Int
  /-- Neither a fraction nor an exponent is written. -/
  plain : Bool
deriving DecidableEq, Repr

/-- The digits at the start of a text, and the rest. -/
def digitRun (cs : List Char) : List Nat × List Char :=
  ((cs.takeWhile Char.isDigit).map fun c => c.toNat - '0'.toNat, cs.dropWhile Char.isDigit)

/-- The number that digits stand for. -/
def digitValue (digits : List Nat) : Nat :=
  digits.foldl (fun value digit => value * 10 + digit) 0

/-- An exponent, of which at least one digit must stand, up to the end of the text. -/
def exponent? (cs : List Char) : Option Int :=
  let (negative, cs) := match cs with
    | '-' :: rest => (true, rest)
    | '+' :: rest => (false, rest)
    | rest => (false, rest)
  match digitRun cs with
  | (digit :: digits, []) =>
    let value : Int := digitValue (digit :: digits)
    some (if negative then -value else value)
  | _ => none

/-- The parts of a number that makes up the whole text. The whole part has no leading zero, and a
point is followed by a digit. -/
def NumberText.ofChars? (cs : List Char) : Option NumberText :=
  let (negative, cs) := match cs with
    | '-' :: rest => (true, rest)
    | rest => (false, rest)
  match digitRun cs with
  | ([], _) => none
  | (0 :: _ :: _, _) => none
  | (whole, []) => some { negative, whole, fraction := [], exponent := 0, plain := true }
  | (whole, '.' :: rest) =>
    match digitRun rest with
    | ([], _) => none
    | (fraction, []) => some { negative, whole, fraction, exponent := 0, plain := false }
    | (fraction, c :: rest) =>
      if c = 'e' ∨ c = 'E' then
        (exponent? rest).map fun exponent => { negative, whole, fraction, exponent, plain := false }
      else none
  | (whole, c :: rest) =>
    if c = 'e' ∨ c = 'E' then
      (exponent? rest).map fun exponent =>
        { negative, whole, fraction := [], exponent, plain := false }
    else none

/-! ## The value -/

/-- Appends digits to a significand while 64 unsigned bits hold it: the significand, and how many
digits were left over from the first one that did not fit. -/
def appendDigits (significand : Nat) : List Nat → Nat × Nat
  | [] => (significand, 0)
  | digit :: digits =>
    if significand * 10 + digit < 2 ^ (64 : Nat) then appendDigits (significand * 10 + digit) digits
    else (significand, digits.length + 1)

/-- A power of ten as a double. -/
def powerOfTen (exponent : Nat) : Binary64 :=
  Binary64.ofDecimal false 1 exponent

/-- A double divided by a power of ten, in steps that a double can hold. -/
def scaleDown (x : Binary64) (exponent : Nat) : Binary64 :=
  if exponent ≤ 308 then x / powerOfTen exponent
  else if x.isZero then x
  else scaleDown (x / powerOfTen 308) (exponent - 308)
termination_by exponent

/-- A double times a power of ten, unless that is too large. -/
def scaleUp? (x : Binary64) (exponent : Nat) : Option Binary64 :=
  if exponent ≤ 308 then
    let product := x * powerOfTen exponent
    if product.isFinite then some product else none
  else if x.isZero then some x
  else none

/-- The double that a number stands for. -/
def NumberText.real? (number : NumberText) : Option Binary64 :=
  let (significand, dropped) := appendDigits 0 number.whole
  let (significand, unused) := appendDigits significand number.fraction
  -- digits dropped before the point raise the exponent, digits read after it lower it
  let exponent := (dropped : Int) - (number.fraction.length - unused : Nat) + number.exponent
  let x := Binary64.ofInt significand
  let size? := if 0 ≤ exponent then scaleUp? x exponent.toNat
    else some (scaleDown x (-exponent).toNat)
  size?.map fun size => if number.negative then -size else size

/-- Whether a plain number is an integer value: 64 bits hold it, and it is not minus zero. -/
def NumberText.isInteger (number : NumberText) : Bool :=
  let size := digitValue number.whole
  number.plain &&
    if number.negative then 0 < size && size ≤ 2 ^ (63 : Nat) else size < 2 ^ (64 : Nat)

/-- The value of a number. -/
def NumberText.value (number : NumberText) : Value :=
  if number.isInteger then
    let size : Int := digitValue number.whole
    .integer (if number.negative then -size else size)
  else
    match number.real? with
    | some x => .real x
    | none => .unreadable

end FlightCaption.Document.Json
