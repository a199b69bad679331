import ConformanceReport.Decimal.Nearest
import ConformanceReport.Toml.Scanner

/-!
# Numbers of TOML documents

Integers are written in decimal with an optional sign, or in base 2, 8 or 16 without one, and have
to fit 64 bits. Floating point numbers have a fraction, an exponent or both, or are one of the two
special words. Single underscores may stand between digits.
-/

namespace ConformanceReport

namespace Toml

open Scanner

/-- The value of a digit in a base up to sixteen. -/
def digitValue? (base : Nat) (character : Char) : Option Nat :=
  let value :=
    if '0' ≤ character && character ≤ '9' then character.toNat - 48
    else if 'a' ≤ character && character ≤ 'f' then character.toNat - 87
    else if 'A' ≤ character && character ≤ 'F' then character.toNat - 55
    else 16
  if value < base then some value else none

/-- A digit in a base. -/
def digit (base : Nat) : Scanner Nat := do
  let found ← satisfying fun character => (digitValue? base character).isSome
  return (digitValue? base found).getD 0

/-- Digits, with single underscores allowed between them. -/
def digits (base : Nat) : Scanner (List Nat) := do
  let first ← digit base
  let more ← many (do
    let _ ← optionally '_'
    digit base)
  return first :: more

/-- The number that digits write. -/
def ofDigits (base : Nat) (digits : List Nat) : Nat :=
  digits.foldl (fun number digit => number * base + digit) 0

/-- A sign, true for a minus, if one comes next. -/
def sign : Scanner Bool := do
  if ← optionally '-' then return true
  let _ ← optionally '+'
  return false

/-- A sign and decimal digits without leading zeros. -/
def signedDigits : Scanner (Bool × List Nat) := do
  let negative ← sign
  if (← peek?) = some '0' then
    character '0'
    return (negative, [0])
  else return (negative, ← digits 10)

/-- The least number too large for an integer, `2 ^ 63`. -/
def integerBound : Nat := 0x8000000000000000

/-- An integer in a base that is announced by a letter. -/
def basedInteger (letter : Char) (base : Nat) : Scanner Int := do
  character '0'
  character letter
  let number := ofDigits base (← digits base)
  guard (number < integerBound)
  return number

/-- A decimal integer. -/
def decimalInteger : Scanner Int := do
  let (negative, found) ← signedDigits
  let number : Int := ofDigits 10 found
  let value := if negative then -number else number
  guard (-(integerBound : Int) ≤ value && value < integerBound)
  return value

/-- An integer of any form. -/
def integer : Scanner Int := do
  match ← ahead 2 with
  | ['0', 'x'] => basedInteger 'x' 16
  | ['0', 'o'] => basedInteger 'o' 8
  | ['0', 'b'] => basedInteger 'b' 2
  | _ => decimalInteger

/-- The exponent of a floating point number. -/
def exponent : Scanner Int := do
  let _ ← satisfying fun character => character = 'e' || character = 'E'
  let negative ← sign
  let magnitude : Int := ofDigits 10 (← digits 10)
  return if negative then -magnitude else magnitude

/-- The fraction of a floating point number. -/
def fraction : Scanner (List Nat) := do
  character '.'
  digits 10

/-- A floating point number in digits. One that exceeds every double is refused if it is
positive. -/
def digitalFloat : Scanner Float := do
  let (negative, whole) ← signedDigits
  let places ← fraction <|> pure []
  let power ← if places.isEmpty then exponent else exponent <|> pure 0
  let magnitude :=
    (Decimal.Scaled.mk (ofDigits 10 (whole ++ places)) (power - places.length)).nearest
  let value := if negative then -magnitude else magnitude
  guard !(value.isInf && !negative)
  return value

/-- Infinity, or what is no number. -/
def specialFloat : Scanner Float := do
  let negative ← sign
  let magnitude ←
    (do characters "inf"; return (1 / 0 : Float)) <|> (do characters "nan"; return (0 / 0 : Float))
  return if negative then -magnitude else magnitude

/-- A floating point number of any form. -/
def floating : Scanner Float :=
  digitalFloat <|> specialFloat

end Toml

end ConformanceReport
