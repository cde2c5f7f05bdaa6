import Intake.Binary64
import Intake.Decimal.Basic

/-!
# Decimals and binary floating-point numbers

A double becomes a decimal in two steps.  First its exact value is cut to what a decimal can hold:
a number without halves must be below `2 ^ 96` in size; otherwise the halves are turned into a
power of ten, one by one, and one that the coefficient has no room for costs its last bit.  Then
the result is rounded to a number of significant digits, a tie to even.

A decimal becomes a double by adding its integer part and its fraction as doubles and rounding the
sum to the places that the scale says.
-/

namespace Intake.Decimal

/-- Takes `count` halvings off `magnitude * 10 ^ power`: an even coefficient is halved, an odd one
is multiplied by five if it has room and loses a bit otherwise.  The power of ten counts the
halvings that no factor of five stands for. -/
def takeHalves : (count magnitude : Nat) → (power : Int) → Nat × Int
  | 0, magnitude, power => (magnitude, power)
  | count + 1, magnitude, power =>
    if magnitude % 2 = 0 then takeHalves count (magnitude / 2) (power + 1)
    else if 5 * magnitude < coefficientBound then takeHalves count (5 * magnitude) power
    else takeHalves count (magnitude / 2) (power + 1)

/-- Divides by ten `count` times, each time to the nearest, a half up; nothing is left of a
coefficient that comes to one digit. -/
def reduce : (count magnitude : Nat) → Nat
  | 0, magnitude => magnitude
  | count + 1, magnitude =>
    if magnitude < 10 then 0 else reduce count (halfUp magnitude 10)

/-- The decimal that `significand * 2 ^ exponent` is cut to; there is none for a number of `2 ^ 96`
or more in size. -/
def ofBinary? (negative : Bool) (significand : Nat) (exponent : Int) : Option Decimal :=
  if significand = 0 then ofParts? negative 0 0
  else if 0 ≤ exponent then ofParts? negative (significand * twoTo exponent.toNat) 0
  else
    let (magnitude, power) := takeHalves exponent.natAbs significand exponent
    let magnitude := reduce (-power - 28).toNat magnitude
    ofParts? negative magnitude (if magnitude = 0 then 0 else min (-power).toNat 28)

/-- A double cut to what a decimal can hold. -/
def cut? (x : Float) : Option Decimal :=
  match Binary64.decode x with
  | .finite negative significand exponent => ofBinary? negative significand exponent
  | _ => none

def roundSignificant? (digits : Nat) (d : Decimal) : Option Decimal :=
  let size := (decimalDigits d.magnitude).length
  if d.magnitude = 0 then ofParts? false 0 0
  else if size ≤ digits then some d
  else
    let excess := size - digits
    let magnitude := halfEven d.magnitude (tenTo excess)
    if excess ≤ d.scale then ofParts? d.isNegative magnitude (d.scale - excess)
    else ofParts? d.isNegative (magnitude * tenTo (excess - d.scale)) 0

def ofFloat? (digits : Nat) (x : Float) : Option Decimal :=
  ((cut? x).bind (roundSignificant? digits)).map normalize

/-- A power of a double by squaring: the factors are multiplied from the low bits of the exponent
up, which decides how the product is rounded. -/
def powerBySquaring : (fuel : Nat) → (base acc : Float) → (exponent : Nat) → Float
  | 0, _, acc, _ => acc
  | fuel + 1, base, acc, exponent =>
    let acc := if exponent % 2 = 1 then acc * base else acc
    if exponent / 2 = 0 then acc else powerBySquaring fuel (base * base) acc (exponent / 2)

/-- The double with the value of an integer, for a double that is one already. -/
def roundToInteger (x : Float) : Float :=
  match Binary64.round? x with
  | some n => Binary64.ofInt n
  | none => x

def toFloat (d : Decimal) : Float :=
  let unit := tenTo d.scale
  let whole := Binary64.nearest false (d.magnitude / unit) 1
  let fraction := Binary64.nearest false (d.magnitude % unit) 1 / Binary64.nearest false unit 1
  let size :=
    if d.magnitude % unit = 0 then whole
    else
      let shift :=
        powerBySquaring 64 (Binary64.nearest false 10 1) (Binary64.nearest false 1 1) d.scale
      roundToInteger ((whole + fraction) * shift) / shift
  if d.isNegative then -size else size

end Intake.Decimal
