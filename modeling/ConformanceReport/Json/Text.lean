import ConformanceReport.Json.Parsed

/-!
# Strings of JSON texts

`readText` reads the part of a string after its opening quote and yields the text it denotes:
escapes are resolved, surrogate escapes are paired, and the bytes have to be UTF-8 once the closing
quote is found. `skipText` passes over a string of which only the form matters.
-/

namespace ConformanceReport

namespace Json

/-- The value of a hexadecimal digit. -/
def hexDigit? (byte : UInt8) : Option Nat :=
  if ascii '0' ≤ byte && byte ≤ ascii '9' then some (byte.toNat - 48)
  else if ascii 'a' ≤ byte && byte ≤ ascii 'f' then some (byte.toNat - 87)
  else if ascii 'A' ≤ byte && byte ≤ ascii 'F' then some (byte.toNat - 55)
  else none

/-- The number written by four hexadecimal digits. A text cut within them is at its end; four
bytes that are not all digits are passed over before the refusal. -/
def hexQuad : Reader Cause Nat
  | first :: second :: third :: fourth :: rest =>
    match hexDigit? first, hexDigit? second, hexDigit? third, hexDigit? fourth with
    | some a, some b, some c, some d =>
      .ok ⟨((a * 16 + b) * 16 + c) * 16 + d, rest, by simp; omega⟩
    | _, _, _, _ => .error ⟨.invalidEscape, rest, .consumed⟩
  | _ => .error ⟨.endInText, [], .consumed⟩

/-- The character of a one-letter escape. -/
def shortEscape? (letter : UInt8) : Option Char :=
  if letter = ascii '"' then some '"'
  else if letter = ascii '\\' then some '\\'
  else if letter = ascii '/' then some '/'
  else if letter = ascii 'b' then some '\x08'
  else if letter = ascii 'f' then some '\x0c'
  else if letter = ascii 'n' then some '\n'
  else if letter = ascii 'r' then some '\r'
  else if letter = ascii 't' then some '\t'
  else none

/-- A code unit of the first half of a surrogate pair. -/
def isLeadingUnit (unit : Nat) : Bool :=
  0xD800 ≤ unit && unit ≤ 0xDBFF

/-- A code unit of the second half of a surrogate pair. -/
def isTrailingUnit (unit : Nat) : Bool :=
  0xDC00 ≤ unit && unit ≤ 0xDFFF

/-- The character of a surrogate pair. -/
def pairedScalar (leading trailing : Nat) : Char :=
  Char.ofNat (0x10000 + (leading - 0xD800) * 0x400 + (trailing - 0xDC00))

/-- The second half of a surrogate pair, which has to follow the first at once. -/
def readTrailing (leading : Nat) : Reader Cause Char
  | [] => .error ⟨.endInText, [], .consumed⟩
  | backslash :: rest =>
    if backslash ≠ ascii '\\' then .error ⟨.unfinishedSurrogate, rest, .consumed⟩
    else match rest with
      | [] => .error ⟨.endInText, [], .consumed⟩
      | letter :: rest =>
        if letter ≠ ascii 'u' then .error ⟨.unfinishedSurrogate, rest, .consumed⟩
        else do
          let unit ← hexQuad rest
          if isTrailingUnit unit.value then
            .ok (((unit.behind letter).behind backslash).map (pairedScalar leading))
          else .error ⟨.loneSurrogate, unit.rest, .consumed⟩

/-- The character that an escape stands for; the input starts after the backslash. -/
def readEscape : Reader Cause Char
  | [] => .error ⟨.endInText, [], .consumed⟩
  | letter :: rest =>
    match shortEscape? letter with
    | some character => .ok (.single character letter rest)
    | none =>
      if letter ≠ ascii 'u' then .error ⟨.invalidEscape, rest, .consumed⟩
      else do
        let unit ← hexQuad rest
        if isTrailingUnit unit.value then .error ⟨.loneSurrogate, unit.rest, .consumed⟩
        else if isLeadingUnit unit.value then
          let character ← readTrailing unit.value unit.rest
          .ok ((unit.andThen character).behind letter)
        else .ok ((unit.behind letter).map Char.ofNat)

/-- A byte that may not stand in a string. -/
def isControl (byte : UInt8) : Bool :=
  byte < 0x20

/-- The bytes that a string denotes, added to those already found, up to its closing quote. -/
def readDenoted (found : Bytes) (input : Bytes) : Except (Fault Cause) (Parsed Bytes input) :=
  match input with
  | [] => .error ⟨.endInText, [], .consumed⟩
  | byte :: rest =>
    if byte = ascii '"' then .ok (.single found.reverse byte rest)
    else if byte = ascii '\\' then
      match readEscape rest with
      | .error fault => .error fault
      | .ok character =>
        match readDenoted ((String.utf8EncodeChar character.value).reverse ++ found)
            character.rest with
        | .error fault => .error fault
        | .ok denoted => .ok ((character.andThen denoted).behind byte)
    else if isControl byte then .error ⟨.controlCharacter, rest, .consumed⟩
    else match readDenoted (byte :: found) rest with
      | .error fault => .error fault
      | .ok denoted => .ok (denoted.behind byte)
termination_by input.length
decreasing_by
  · have := character.shorter
    simp
    omega
  · simp

/-- The text of a string; the input starts after the opening quote. When the denoted bytes are
not UTF-8, the place is as far before the end as the first broken byte. -/
def readText : Reader Cause String := fun input => do
  let denoted ← readDenoted [] input
  match Utf8.decode? denoted.value with
  | some text => .ok (denoted.replace text)
  | none =>
    .error ⟨.invalidUnicode, denoted.rest,
      .before (denoted.value.length - Utf8.validLength denoted.value)⟩

/-- Passes over a string of which only the form matters: escapes need not denote a character,
and bytes need not be UTF-8. The input starts after the opening quote. -/
def skipText (input : Bytes) : Except (Fault Cause) (Parsed Unit input) :=
  match input with
  | [] => .error ⟨.endInText, [], .consumed⟩
  | byte :: rest =>
    if byte = ascii '"' then .ok (.single () byte rest)
    else if byte = ascii '\\' then
      match rest with
      | [] => .error ⟨.endInText, [], .consumed⟩
      | letter :: rest =>
        if (shortEscape? letter).isSome then
          match skipText rest with
          | .error fault => .error fault
          | .ok skipped => .ok ((skipped.behind letter).behind byte)
        else if letter ≠ ascii 'u' then .error ⟨.invalidEscape, rest, .consumed⟩
        else match hexQuad rest with
          | .error fault => .error fault
          | .ok unit =>
            match skipText unit.rest with
            | .error fault => .error fault
            | .ok skipped => .ok (((unit.andThen skipped).behind letter).behind byte)
    else if isControl byte then .error ⟨.controlCharacter, byte :: rest, .consumed⟩
    else match skipText rest with
      | .error fault => .error fault
      | .ok skipped => .ok (skipped.behind byte)
termination_by input.length
decreasing_by
  · simp only [List.length_cons]
    omega
  · have := unit.shorter
    simp
    omega
  · simp

end Json

end ConformanceReport
