import Intake.Binary64

/-!
# The shortest text of a double

A double is written with the fewest digits that read back as the same double.  The number of digits
goes up from one; at each number of digits only the two neighbours of the value on that decimal grid
can read back, and the nearer one is tried first.  Of two equally near neighbours it is the greater.
-/

namespace Intake.Binary64

/-- The greatest `k` with `10 ^ k ≤ num / den`, for positive `num` and `den`. -/
def log10Quotient (num den : Nat) : Int :=
  if den ≤ num then
    (decimalDigits (num / den)).length - 1
  else
    let k := (decimalDigits (den / num)).length
    if den ≤ num * tenTo (k - 1) then 1 - k else -k

/-- The two multiples of `10 ^ power` around `num / den`, the nearer one first; a value halfway
between them goes to the greater one. -/
def neighbours (num den : Nat) (power : Int) : List Nat :=
  let num := num * tenTo (-power).toNat
  let den := den * tenTo power.toNat
  let below := num / den
  if 2 * (num % den) < den then [below, below + 1] else [below + 1, below]

/-- The decimal with the given number of digits that reads back as the bits. -/
def withDigits? (bits num den count : Nat) : Option (Nat × Int) :=
  let power := log10Quotient num den - (count - 1)
  ((neighbours num den power).find? fun n =>
    nearestBits (n * tenTo power.toNat) (tenTo (-power).toNat) == bits).map (·, power)

/-- The shortest decimal `n * 10 ^ power` that reads back as `significand * 2 ^ exponent`. -/
def shortest (significand : Nat) (exponent : Int) : Nat × Int :=
  let num := significand * twoTo exponent.toNat
  let den := twoTo (-exponent).toNat
  let bits := nearestBits num den
  ((List.range' 1 17).findSome? (withDigits? bits num den)).getD (0, 0)

/-- Moves the zeros at the end of a number into the power of ten that goes with it. -/
def dropZeros : Nat → Nat → Int → Nat × Int
  | 0, n, power => (n, power)
  | fuel + 1, n, power =>
    if n % 10 = 0 then dropZeros fuel (n / 10) (power + 1) else (n, power)

/-- The bounds of positional notation: a value with its first digit at a lower or a higher power of
ten is written with an exponent. -/
def leastPositional : Int := -4
def greatestPositional : Int := 15

/-- The text of digits that end at a power of ten, always with a point or an exponent. -/
def digitsText (digits : List Char) (power : Int) : List Char :=
  let first := power + digits.length - 1
  if first < leastPositional || greatestPositional < first then
    let mantissa :=
      match digits with
      | [] => []
      | [d] => [d]
      | d :: ds => d :: '.' :: ds
    mantissa ++ 'e' :: (if first < 0 then ['-'] else []) ++ decimalDigits first.natAbs
  else if 0 ≤ power then
    digits ++ List.replicate power.toNat '0' ++ ['.', '0']
  else if 0 ≤ first then
    digits.take (first.toNat + 1) ++ '.' :: digits.drop (first.toNat + 1)
  else
    '0' :: '.' :: List.replicate (-first - 1).toNat '0' ++ digits

def text (x : Float) : String :=
  match decode x with
  | .nan => "NaN"
  | .infinite negative => if negative then "-inf" else "inf"
  | .finite negative significand exponent =>
    let body :=
      if significand = 0 then ['0', '.', '0']
      else
        let (n, power) := shortest significand exponent
        let (n, power) := dropZeros 17 n power
        digitsText (decimalDigits n) power
    String.ofList (if negative then '-' :: body else body)

/-- The double that a text denotes: a numeral, or one of the names of the special values. -/
def read? (s : String) : Option Float :=
  match s with
  | "NaN" => some (Float.ofBits 0x7ff8000000000000)
  | "inf" => some (Float.ofBits 0x7ff0000000000000)
  | "-inf" => some (Float.ofBits 0xfff0000000000000)
  | _ => (Numeral.read? s.toList).map ofNumeral

end Intake.Binary64
