import ConformanceReport.Text.Utf8
import ConformanceReport.Text.Shapeless

/-!
# Quoted text for messages

The form in which a message shows a text that came from outside: between double quotes, with
short escapes for the common controls and a code point number for every character that has no
shape of its own. Of a byte sequence, the bytes that are no text are shown one by one in
hexadecimal.
-/

namespace ConformanceReport

namespace Quoted

/-- The digit characters of a number in a base of at most sixteen, in lower case. -/
def digits (base number : Nat) : List Char :=
  Nat.toDigits base number

/-- How one character is shown between the quotes. -/
def character (shown : Char) : List Char :=
  if shown = '\x00' then ['\\', '0']
  else if shown = '\t' then ['\\', 't']
  else if shown = '\r' then ['\\', 'r']
  else if shown = '\n' then ['\\', 'n']
  else if shown = '"' then ['\\', '"']
  else if shown = '\\' then ['\\', '\\']
  else if isShapeless shown then ['\\', 'u', '\x7b'] ++ digits 16 shown.toNat ++ ['\x7d']
  else [shown]

/-- How a byte that belongs to no character is shown between the quotes. -/
def byte (shown : UInt8) : List Char :=
  ['\\', 'x'] ++ ((Nat.toDigits 16 (256 + shown.toNat)).drop 1).map Char.toUpper

/-- How a piece of a byte sequence is shown between the quotes. -/
def piece : Utf8.Piece → List Char
  | .scalar shown => character shown
  | .broken bytes => bytes.flatMap byte

/-- A text between double quotes. -/
def ofText (text : String) : String :=
  String.ofList ('"' :: text.toList.flatMap character ++ ['"'])

/-- A byte sequence between double quotes. -/
def ofBytes (bytes : Bytes) : String :=
  String.ofList ('"' :: (Utf8.pieces bytes).flatMap piece ++ ['"'])

end Quoted

end ConformanceReport
