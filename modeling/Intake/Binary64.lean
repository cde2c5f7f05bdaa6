import Intake.Numeral
import Intake.Power
import Intake.Rounding

/-!
# Binary floating-point numbers

A finite double stands for `significand * 2 ^ exponent` with a sign.  `nearest` rounds a quotient of
natural numbers to a double, ties to even, and everything else here rests on these two: reading a
numeral, the conversion of integers, rounding to an integer.
-/

namespace Intake.Binary64

/-- What a double stands for. -/
inductive Number where
  | nan
  | infinite (negative : Bool)
  | finite (negative : Bool) (significand : Nat) (exponent : Int)

def decode (x : Float) : Number :=
  let bits := x.toBits.toNat
  let negative := bits / twoTo 63 == 1
  let exponent : Nat := bits / twoTo 52 % twoTo 11
  let fraction : Nat := bits % twoTo 52
  if exponent = 2047 then
    if fraction = 0 then .infinite negative else .nan
  else if exponent = 0 then .finite negative fraction (-1074)
  else .finite negative (fraction + twoTo 52) ((exponent : Int) - 1075)

def isFinite (x : Float) : Bool :=
  match decode x with
  | .finite .. => true
  | _ => false

/-- The greatest `k` with `2 ^ k ≤ num / den`, for positive `num` and `den`. -/
def log2Quotient (num den : Nat) : Int :=
  let k : Int := (num.log2 : Int) - (den.log2 : Int)
  if den * twoTo k.toNat ≤ num * twoTo (-k).toNat then k else k - 1

/-- The bits of the positive double nearest to `num / den`, a tie to the even one; too large a
quotient gives infinity. -/
def nearestBits (num den : Nat) : Nat :=
  if num = 0 then 0
  else
    let exponent := max (log2Quotient num den - 52) (-1074)
    let significand := halfEven (num * twoTo (-exponent).toNat) (den * twoTo exponent.toNat)
    min ((exponent + 1074).toNat * twoTo 52 + significand) (2047 * twoTo 52)

def nearest (negative : Bool) (num den : Nat) : Float :=
  let bits := nearestBits num den
  Float.ofBits (UInt64.ofNat (if negative then bits + twoTo 63 else bits))

def ofInt (n : Int) : Float :=
  nearest (n < 0) n.natAbs 1

/-- The double nearest to `coefficient * 10 ^ power`.  Powers far beyond the range of doubles are
not worked out. -/
def ofScaled (negative : Bool) (coefficient : Nat) (power : Int) : Float :=
  let size : Int := (decimalDigits coefficient).length + power
  if coefficient = 0 || size < -400 then nearest negative 0 1
  else if 400 < size then nearest negative (twoTo 1024) 1
  else nearest negative (coefficient * tenTo power.toNat) (tenTo (-power).toNat)

def ofNumeral (numeral : Numeral) : Float :=
  ofScaled numeral.negative numeral.coefficient numeral.power

def truncate? (x : Float) : Option Int :=
  match decode x with
  | .finite negative significand exponent =>
    let n : Nat := significand * twoTo exponent.toNat / twoTo (-exponent).toNat
    some (if negative then -n else n)
  | _ => none

def floor? (x : Float) : Option Int :=
  match decode x with
  | .finite negative significand exponent =>
    let n : Int := significand * twoTo exponent.toNat
    some ((if negative then -n else n) / twoTo (-exponent).toNat)
  | _ => none

/-- The integer nearest to a finite double; a tie goes away from zero. -/
def round? (x : Float) : Option Int :=
  match decode x with
  | .finite negative significand exponent =>
    let n := halfUp (significand * twoTo exponent.toNat) (twoTo (-exponent).toNat)
    some (if negative then -n else n)
  | _ => none

end Intake.Binary64
