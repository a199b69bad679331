import ConformanceReport.Text.Quoted

/-!
# Written JSON strings

The one written form that this library gives a text in JSON: short escapes where the format has
them, a four-digit escape for the other controls, and every other character as it is.
-/

namespace ConformanceReport

namespace Json

/-- The escape of a control character that has no short one. -/
def controlEscape (character : Char) : List Char :=
  let digits := Quoted.digits 16 character.toNat
  ['\\', 'u'] ++ List.replicate (4 - digits.length) '0' ++ digits

/-- A character inside a JSON string. -/
def writtenCharacter (character : Char) : List Char :=
  if character = '"' then ['\\', '"']
  else if character = '\\' then ['\\', '\\']
  else if character = '\x08' then ['\\', 'b']
  else if character = '\x0c' then ['\\', 'f']
  else if character = '\n' then ['\\', 'n']
  else if character = '\r' then ['\\', 'r']
  else if character = '\t' then ['\\', 't']
  else if character.toNat < 0x20 then controlEscape character
  else [character]

/-- A text as a JSON string. -/
def writeText (text : String) : String :=
  String.ofList ('"' :: text.toList.flatMap writtenCharacter ++ ['"'])

end Json

end ConformanceReport
