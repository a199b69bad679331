/-!
# Shortest decimal digits of a binary floating point number

A finite positive double is `significand * 2 ^ exponent`. The reals that round to it form an
interval around it, whose ends belong to it exactly when the significand is even. Among the
decimals of the fewest digits in that interval the nearest is chosen; of two equally near ones a
format chooses the even one or the greater one. All arithmetic is exact, on natural numbers scaled
by a common denominator.
-/

namespace ConformanceReport

namespace Decimal

/-- A decimal `digits * 10 ^ exponent`. -/
structure Scaled where
  digits : Nat
  exponent : Int
  deriving DecidableEq, Repr

/-- Which of two equally near decimals is chosen. -/
inductive Tie where
  | toEven
  | upward
  deriving DecidableEq, Repr

/-- Whether the lower one of two equally near decimals is chosen. -/
def Tie.takesLower (tie : Tie) (lower : Nat) : Bool :=
  match tie with
  | .toEven => lower % 2 = 0
  | .upward => false

/-- The number of fractions between a power of two and the next one, `2 ^ 52`. -/
def fractions : Nat := 0x10000000000000

/-- The place of the sign bit, `2 ^ 63`. -/
def signPlace : Nat := 0x8000000000000000

/-- A power of two. -/
def powerOfTwo (exponent : Nat) : Nat :=
  Nat.pow 2 exponent

/-- A power of ten. -/
def powerOfTen (exponent : Nat) : Nat :=
  Nat.pow 10 exponent

/-- A positive binary number `significand * 2 ^ exponent` together with the width of its
rounding interval: below a power of two the gap to the lower neighbour is half as wide. -/
structure Binary where
  significand : Nat
  exponent : Int
  lowerGapHalved : Bool
  deriving DecidableEq, Repr

/-- The magnitude of a finite nonzero double, from its bits. -/
def Binary.ofBits (bits : UInt64) : Binary :=
  let fraction : Nat := bits.toNat % fractions
  let biased : Nat := bits.toNat / fractions % 2048
  if biased = 0 then ⟨fraction, -1074, false⟩
  else ⟨fractions + fraction, (biased : Int) - 1075, fraction = 0 && 1 < biased⟩

namespace Binary

/-- Four times the number as a fraction of naturals: the numerator and its scale, so that the
ends of the rounding interval are whole numbers of quarters. -/
def quarters (binary : Binary) : Nat × Nat :=
  if 0 ≤ binary.exponent then (4 * binary.significand * powerOfTwo binary.exponent.toNat, 1)
  else (4 * binary.significand, powerOfTwo (-binary.exponent).toNat)

/-- The distances, in quarters, from the number to the lower and upper ends of its interval. -/
def margins (binary : Binary) : Nat × Nat :=
  let unit := if 0 ≤ binary.exponent then powerOfTwo binary.exponent.toNat else 1
  (if binary.lowerGapHalved then unit else 2 * unit, 2 * unit)

/-- Whether the decimal lies in the rounding interval. -/
def covers (binary : Binary) (decimal : Scaled) : Bool :=
  let (numerator, scale) := binary.quarters
  let (below, above) := binary.margins
  let lower := numerator - below
  let upper := numerator + above
  let (value, factor) :=
    if 0 ≤ decimal.exponent then
      (4 * decimal.digits * powerOfTen decimal.exponent.toNat * scale, 1)
    else (4 * decimal.digits * scale, powerOfTen (-decimal.exponent).toNat)
  if binary.significand % 2 = 0 then
    lower * factor ≤ value && value ≤ upper * factor
  else lower * factor < value && value < upper * factor

/-- The floor of the number on the grid of multiples of `10 ^ exponent`, and twice the
remainder compared with the grid's step. -/
def onGrid (binary : Binary) (exponent : Int) : Nat × Ordering :=
  let (numerator, scale) := binary.quarters
  let (value, step) :=
    if 0 ≤ exponent then (numerator, 4 * scale * powerOfTen exponent.toNat)
    else (numerator * powerOfTen (-exponent).toNat, 4 * scale)
  (value / step, compare (2 * (value % step)) step)

/-- The decimal on the grid that lies in the interval and is nearest to the number, if any. -/
def nearestOn? (tie : Tie) (binary : Binary) (exponent : Int) : Option Scaled :=
  let (floor, half) := binary.onGrid exponent
  let low : Scaled := ⟨floor, exponent⟩
  let high : Scaled := ⟨floor + 1, exponent⟩
  let lowFirst := match half with
    | .lt => true
    | .eq => tie.takesLower floor
    | .gt => false
  let (first, second) := if lowFirst then (low, high) else (high, low)
  if first.digits ≠ 0 && binary.covers first then some first
  else if second.digits ≠ 0 && binary.covers second then some second
  else none

/-- Tries grids from coarse to fine, `fuel` of them. -/
def searchFrom (tie : Tie) (binary : Binary) (exponent : Int) : Nat → Scaled
  | 0 => ⟨0, 0⟩
  | fuel + 1 =>
    match binary.nearestOn? tie exponent with
    | some found => found
    | none => searchFrom tie binary (exponent - 1) fuel

/-- A power of ten that is at least the number. -/
def ceilingExponent (binary : Binary) : Int :=
  let bitLength := (binary.significand.log2 : Int) + 1 + binary.exponent
  if 0 ≤ bitLength then bitLength * 302 / 1000 + 1 else bitLength * 301 / 1000 + 1

/-- Drops the zeros at the end of the digits. -/
def trimZeros (digits : Nat) (exponent : Int) : Nat → Scaled
  | 0 => ⟨digits, exponent⟩
  | fuel + 1 =>
    if digits ≠ 0 && digits % 10 = 0 then trimZeros (digits / 10) (exponent + 1) fuel
    else ⟨digits, exponent⟩

/-- The shortest decimal that rounds to the number. Twenty-one grids below the number's
magnitude are fine enough for every double. -/
def shortest (tie : Tie) (binary : Binary) : Scaled :=
  let found := binary.searchFrom tie binary.ceilingExponent 24
  trimZeros found.digits found.exponent 24

end Binary

/-- A run of zeros. -/
def zeros (count : Nat) : String :=
  String.ofList (List.replicate count '0')

/-- The digit text of a natural number. -/
def digitText (number : Nat) : String :=
  String.ofList (Nat.toDigits 10 number)

/-- A decimal in positional notation, with at least one digit on each side of the point. -/
def Scaled.positional (decimal : Scaled) : String :=
  let digits := digitText decimal.digits
  if 0 ≤ decimal.exponent then digits ++ zeros decimal.exponent.toNat ++ ".0"
  else
    let places := (-decimal.exponent).toNat
    if digits.length ≤ places then "0." ++ zeros (places - digits.length) ++ digits
    else
      let whole := digits.length - places
      String.ofList (digits.toList.take whole) ++ "." ++ String.ofList (digits.toList.drop whole)

/-- A decimal in exponent notation, with one digit before the point and a signed exponent. -/
def Scaled.scientific (decimal : Scaled) : String :=
  let digits := (digitText decimal.digits).toList
  let power := decimal.exponent + (digits.length : Int) - 1
  let mantissa := match digits with
    | first :: second :: more => String.ofList (first :: '.' :: second :: more)
    | short => String.ofList short
  let sign := if power < 0 then "-" else "+"
  mantissa ++ "e" ++ sign ++ digitText power.natAbs

/-- The magnitude of a decimal: the power of ten just above it. -/
def Scaled.magnitude (decimal : Scaled) : Int :=
  decimal.exponent + (digitText decimal.digits).length

/-- How a format writes floating point numbers. -/
structure Layout where
  /-- The magnitudes that are written positionally. -/
  positional : Int → Bool
  /-- Which of two shortest decimals is written if both are equally near. -/
  tie : Tie
  notANumber : String
  infinity : String

/-- The text of a double in a layout, by its shortest decimal. -/
def Layout.write (style : Layout) (value : Float) : String :=
  let bits := value.toBits
  let negative := bits.toNat / signPlace = 1
  let sign := if negative then "-" else ""
  if value.isNaN then style.notANumber
  else if value.isInf then sign ++ style.infinity
  else if bits.toNat % signPlace = 0 then sign ++ "0.0"
  else
    let decimal := (Binary.ofBits bits).shortest style.tie
    sign ++ if style.positional decimal.magnitude then decimal.positional
      else decimal.scientific

end Decimal

end ConformanceReport
