import ConformanceReport.Text.Utf8

/-!
# Faults in a JSON text

A reader that refuses its input names a cause and what was left of the input when it stopped.
The place of the fault in the whole text, a line and a column counted in bytes, follows from how
much was left.
-/

namespace ConformanceReport

namespace Json

/-- Why a text is no JSON value. -/
inductive Cause where
  | endInValue
  | endInList
  | endInObject
  | endInText
  | valueExpected
  | literalExpected
  | colonExpected
  | listSeparatorExpected
  | memberSeparatorExpected
  | keyNotText
  | trailingComma
  | trailingCharacters
  | invalidNumber
  | numberOutOfRange
  | invalidEscape
  | controlCharacter
  | loneSurrogate
  | unfinishedSurrogate
  | invalidUnicode
  | nestedTooDeeply
  deriving DecidableEq, Repr

/-- The wording of a cause. -/
def Cause.message : Cause → String
  | .endInValue => "EOF while parsing a value"
  | .endInList => "EOF while parsing a list"
  | .endInObject => "EOF while parsing an object"
  | .endInText => "EOF while parsing a string"
  | .valueExpected => "expected value"
  | .literalExpected => "expected ident"
  | .colonExpected => "expected `:`"
  | .listSeparatorExpected => "expected `,` or `]`"
  | .memberSeparatorExpected => "expected `,` or `\x7d`"
  | .keyNotText => "key must be a string"
  | .trailingComma => "trailing comma"
  | .trailingCharacters => "trailing characters"
  | .invalidNumber => "invalid number"
  | .numberOutOfRange => "number out of range"
  | .invalidEscape => "invalid escape"
  | .controlCharacter => "control character (\\u0000-\\u001F) found while parsing a string"
  | .loneSurrogate => "lone leading surrogate in hex escape"
  | .unfinishedSurrogate => "unexpected end of hex escape"
  | .invalidUnicode => "invalid unicode code point"
  | .nestedTooDeeply => "recursion limit exceeded"

/-- Where a fault is, relative to the first byte of the rest. -/
inductive Place where
  /-- Just before the rest: everything up to it was consumed. -/
  | consumed
  /-- At the first byte of the rest, which was looked at and not consumed. -/
  | peeked
  /-- A number of columns before the rest. -/
  | before (columns : Nat)
  deriving DecidableEq, Repr

/-- A refusal: its cause, what was left of the input, and the place relative to that. -/
structure Fault (κ : Type) where
  cause : κ
  rest : Bytes
  place : Place

/-- Restates a fault with another type of cause. -/
def Fault.map {κ μ : Type} (change : κ → μ) (fault : Fault κ) : Fault μ :=
  ⟨change fault.cause, fault.rest, fault.place⟩

/-- A line, counted from one, and a number of bytes on it. -/
structure Position where
  line : Nat
  column : Nat
  deriving DecidableEq, Repr

/-- The position after one more byte. -/
def Position.advance (position : Position) (byte : UInt8) : Position :=
  if byte = ascii '\n' then ⟨position.line + 1, 0⟩ else ⟨position.line, position.column + 1⟩

/-- The position after a sequence of bytes from the start of a text. -/
def Position.after (consumed : Bytes) : Position :=
  consumed.foldl Position.advance ⟨1, 0⟩

/-- The position of a fault that was found while reading `content`. -/
def Fault.position {κ : Type} (fault : Fault κ) (content : Bytes) : Position :=
  let consumed := content.length - fault.rest.length
  match fault.place with
  | .consumed => Position.after (content.take consumed)
  | .peeked => Position.after (content.take (consumed + 1))
  | .before columns =>
    let position := Position.after (content.take consumed)
    ⟨position.line, position.column - columns⟩

end Json

end ConformanceReport
