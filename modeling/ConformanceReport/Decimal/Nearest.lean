import ConformanceReport.Decimal.Shortest

/-!
# Nearest binary floating point number to a decimal

A positive fraction of natural numbers is rounded to 53 significant bits, a tie to the even
significand, in exact arithmetic. Below the smallest normal number the spacing stays the same;
above the largest number the result is infinite.
-/

namespace ConformanceReport

namespace Decimal

/-- The quotient of two positive numbers rounded to the nearest natural number, a tie to the even
one. -/
def roundQuotient (numerator denominator : Nat) : Nat :=
  let floor := numerator / denominator
  match compare (2 * (numerator % denominator)) denominator with
  | .lt => floor
  | .gt => floor + 1
  | .eq => floor + floor % 2

/-- A fraction divided by a power of two, as a numerator and a denominator. -/
def shifted (numerator denominator : Nat) (exponent : Int) : Nat × Nat :=
  if 0 ≤ exponent then (numerator, denominator * powerOfTwo exponent.toNat)
  else (numerator * powerOfTwo (-exponent).toNat, denominator)

/-- The exponent for which a positive fraction has a significand of 53 bits, or of fewer bits if
the exponent is the least one. -/
def binaryExponent (numerator denominator : Nat) : Int :=
  let low := (numerator.log2 : Int) - denominator.log2 - 53
  let (top, bottom) := shifted numerator denominator low
  max (-1074) (if top / bottom < 2 * fractions then low else low + 1)

/-- The bits of the positive infinity. -/
def infinityBits : Nat :=
  2047 * fractions

/-- The bits of the double nearest to a positive fraction. A significand that rounds up to 54
bits carries over into the exponent bits. -/
def nearestBits (numerator denominator : Nat) : Nat :=
  let exponent := binaryExponent numerator denominator
  let (top, bottom) := shifted numerator denominator exponent
  let significand := roundQuotient top bottom
  let bits :=
    if significand < fractions then significand
    else (exponent + 1074).toNat * fractions + significand
  min bits infinityBits

/-- The double nearest to a decimal. Decimals far outside the range of doubles are told by their
magnitude. -/
def Scaled.nearest (decimal : Scaled) : Float :=
  if decimal.digits = 0 then 0
  else if 400 < decimal.magnitude then Float.ofBits infinityBits.toUInt64
  else if decimal.magnitude < -400 then 0
  else if 0 ≤ decimal.exponent then
    Float.ofBits (nearestBits (decimal.digits * powerOfTen decimal.exponent.toNat) 1).toUInt64
  else Float.ofBits (nearestBits decimal.digits (powerOfTen (-decimal.exponent).toNat)).toUInt64

end Decimal

end ConformanceReport
