import ConformanceReport.Decimal.Nearest
import ConformanceReport.Json.Parsed

/-!
# Numbers of JSON texts

A number literal is read by its grammar alone: an optional minus sign, a whole part without
leading zeros, an optional fraction, an optional exponent. What it denotes is a second step. A
plain integer literal within the 64-bit ranges denotes that integer; every other literal denotes
a double, computed from as many leading digits as fit a 64-bit word and a power of ten.
-/

namespace ConformanceReport

namespace Json

/-- The parts of a number literal, as digits. -/
structure Literal where
  negative : Bool
  whole : List Nat
  fraction : Option (List Nat)
  /-- The sign, true for a minus, and the digits of the exponent. -/
  exponent : Option (Bool × List Nat)
  deriving DecidableEq, Repr

/-- The value of a decimal digit. -/
def digit? (byte : UInt8) : Option Nat :=
  if ascii '0' ≤ byte && byte ≤ ascii '9' then some (byte.toNat - 48) else none

/-- The digits at the front of the input, and what follows them. -/
def spanDigits : Bytes → List Nat × Bytes
  | [] => ([], [])
  | byte :: rest =>
    match digit? byte with
    | some digit => (digit :: (spanDigits rest).1, (spanDigits rest).2)
    | none => ([], byte :: rest)

/-- Taking digits never lengthens the input. -/
theorem spanDigits_length_le (input : Bytes) : (spanDigits input).2.length ≤ input.length := by
  induction input with
  | nil => simp [spanDigits]
  | cons byte rest inductionHypothesis =>
    unfold spanDigits
    split
    · exact Nat.le_succ_of_le inductionHypothesis
    · exact Nat.le_refl _

/-- The digits at the front of an input. -/
def optionalDigits (input : Bytes) : Optional (List Nat) input :=
  ⟨(spanDigits input).1, (spanDigits input).2, spanDigits_length_le input⟩

/-- The whole part: one zero, or digits that start with none. A text that ends where a digit has
to stand is refused with `atEnd`. -/
def readWhole (atEnd : Cause) : Reader Cause (List Nat)
  | [] => .error ⟨atEnd, [], .consumed⟩
  | byte :: rest =>
    match digit? byte with
    | none => .error ⟨.invalidNumber, rest, .consumed⟩
    | some 0 =>
      if (spanDigits rest).1.isEmpty then .ok (.single [0] byte rest)
      else .error ⟨.invalidNumber, rest, .peeked⟩
    | some first =>
      .ok (((optionalDigits rest).behindRequired byte).map fun digits => first :: digits)

/-- The fraction, if a point follows; a point calls for a digit. -/
def readFraction (atEnd : Cause) (input : Bytes) :
    Except (Fault Cause) (Optional (Option (List Nat)) input) :=
  match input with
  | [] => .ok (.nothing none [])
  | byte :: rest =>
    if byte ≠ ascii '.' then .ok (.nothing none (byte :: rest))
    else if (spanDigits rest).1.isEmpty then
      .error ⟨if rest.isEmpty then atEnd else .invalidNumber, rest, .peeked⟩
    else .ok (((optionalDigits rest).map some).behind byte)

/-- The sign of an exponent, true for a minus, and what follows it. -/
def exponentSign : Bytes → Bool × Bytes
  | [] => (false, [])
  | byte :: rest =>
    if byte = ascii '-' then (true, rest)
    else if byte = ascii '+' then (false, rest)
    else (false, byte :: rest)

/-- Taking a sign never lengthens the input. -/
theorem exponentSign_length_le (input : Bytes) :
    (exponentSign input).2.length ≤ input.length := by
  unfold exponentSign
  repeat' split
  all_goals simp

/-- A sign and the digits after it, of an exponent. -/
def optionalExponent (input : Bytes) : Optional (Bool × List Nat) input :=
  let signed := exponentSign input
  ⟨(signed.1, (spanDigits signed.2).1), (spanDigits signed.2).2,
    Nat.le_trans (spanDigits_length_le _) (exponentSign_length_le input)⟩

/-- The exponent, if its mark follows; a mark calls for a digit. -/
def readExponent (atEnd : Cause) (input : Bytes) :
    Except (Fault Cause) (Optional (Option (Bool × List Nat)) input) :=
  match input with
  | [] => .ok (.nothing none [])
  | byte :: rest =>
    if byte ≠ ascii 'e' && byte ≠ ascii 'E' then .ok (.nothing none (byte :: rest))
    else
      let unsigned := (exponentSign rest).2
      if (spanDigits unsigned).1.isEmpty then
        .error ⟨if unsigned.isEmpty then atEnd else .invalidNumber, unsigned.drop 1, .consumed⟩
      else .ok (((optionalExponent rest).map some).behind byte)

/-- The part of a literal after its sign. -/
def readUnsigned (atEnd : Cause) (negative : Bool) : Reader Cause Literal := fun input => do
  let whole ← readWhole atEnd input
  let fraction ← readFraction atEnd whole.rest
  let exponent ← readExponent atEnd fraction.rest
  .ok (((whole.andMaybe fraction).andMaybe exponent).replace
    ⟨negative, whole.value, fraction.value, exponent.value⟩)

/-- A number literal. A text cut where a digit has to stand is refused with `atEnd`. -/
def readLiteral (atEnd : Cause) : Reader Cause Literal
  | [] => .error ⟨atEnd, [], .consumed⟩
  | byte :: rest =>
    if byte = ascii '-' then do
      let literal ← readUnsigned atEnd true rest
      .ok (literal.behind byte)
    else readUnsigned atEnd false (byte :: rest)

/-- What a number literal denotes. -/
inductive Number where
  | natural (value : UInt64)
  /-- A negative integer of a signed 64-bit word. -/
  | negative (value : Int)
  | floating (value : Float)

/-- Adds digits to a number while the result fits a 64-bit word. Yields the number and the
digits that were left. -/
def accumulate (number : Nat) : List Nat → Nat × List Nat
  | [] => (number, [])
  | digit :: rest =>
    if number * 10 + digit < UInt64.size then accumulate (number * 10 + digit) rest
    else (number, digit :: rest)

/-- The double `10 ^ power`. -/
def powerOfTen (power : Nat) : Float :=
  (Decimal.Scaled.mk 1 power).nearest

/-- The double that is `value * 10 ^ exponent`, computed by single multiplications and divisions
by powers of ten up to `10 ^ 308`; `none` if it exceeds every double. The steps are bounded,
since a double is zero after few divisions by `10 ^ 308`. -/
def scale (value : Float) (exponent : Int) : Nat → Option Float
  | 0 => some value
  | steps + 1 =>
    if exponent.natAbs ≤ 308 then
      if 0 ≤ exponent then
        let scaled := value * powerOfTen exponent.toNat
        if scaled.isInf then none else some scaled
      else some (value / powerOfTen exponent.natAbs)
    else if value == 0 then some value
    else if 0 ≤ exponent then none
    else scale (value / powerOfTen 308) (exponent + 308) steps

/-- The largest exponent that is told apart, the largest number of a signed 32-bit word. -/
def exponentLimit : Nat :=
  2147483647

/-- The value of exponent digits, or the number of digits left after the one that takes the value
past `exponentLimit`. -/
def exponentValue (value : Nat) : List Nat → Nat ⊕ Nat
  | [] => .inl value
  | digit :: rest =>
    if value * 10 + digit ≤ exponentLimit then exponentValue (value * 10 + digit) rest
    else .inr rest.length

/-- An exponent kept within the range of a signed 32-bit word. -/
def clampExponent (exponent : Int) : Int :=
  max (-2147483648) (min exponent 2147483647)

namespace Literal

/-- The leading digits that fit a 64-bit word, and the power of ten that goes with them. -/
def significand (literal : Literal) : Nat × Int :=
  let (whole, dropped) := accumulate 0 literal.whole
  let digits := literal.fraction.getD []
  let (all, unused) := accumulate whole digits
  (all, (dropped.length : Int) - ((digits.length : Int) - unused.length))

/-- A double with the sign of the literal. -/
def signed (literal : Literal) (value : Float) : Number :=
  .floating (if literal.negative then -value else value)

/-- The denotation as a double; otherwise the number of exponent digits that follow the point at
which the magnitude is known to exceed every double. -/
def floating (literal : Literal) : Except Nat Number :=
  let (digits, power) := literal.significand
  let mantissa := digits.toUInt64.toFloat
  match literal.exponent with
  | none =>
    match scale mantissa power 4 with
    | some value => .ok (literal.signed value)
    | none => .error 0
  | some (negative, exponentDigits) =>
    match exponentValue 0 exponentDigits with
    | .inl exponent =>
      let total := clampExponent (if negative then power - exponent else power + exponent)
      match scale mantissa total 4 with
      | some value => .ok (literal.signed value)
      | none => .error 0
    | .inr left =>
      if digits ≠ 0 && !negative then .error left else .ok (literal.signed 0)

/-- The greatest magnitude of a negative integer, that of the least signed 64-bit word. -/
def negativeLimit : Nat :=
  9223372036854775808

/-- What the literal denotes; otherwise the number of its digits that need not be looked at to
see that it is out of range. -/
def denoted (literal : Literal) : Except Nat Number :=
  match literal.fraction, literal.exponent, accumulate 0 literal.whole with
  | none, none, (value, []) =>
    if !literal.negative then .ok (.natural value.toUInt64)
    else if 0 < value && value ≤ negativeLimit then .ok (.negative (-(value : Int)))
    else .ok (literal.signed value.toUInt64.toFloat)
  | _, _, _ => literal.floating

end Literal

/-- A number. One that is out of range is refused where that is first known. -/
def readNumber : Reader Cause Number := fun input => do
  let literal ← readLiteral .endInValue input
  match literal.value.denoted with
  | .ok number => .ok (literal.replace number)
  | .error left =>
    .error ⟨.numberOutOfRange, input.drop (input.length - (literal.rest.length + left)),
      .consumed⟩

/-- Passes over a number of which only the form matters. -/
def skipNumber : Reader Cause Unit := fun input => do
  let literal ← readLiteral .invalidNumber input
  .ok (literal.replace ())

end Json

end ConformanceReport
