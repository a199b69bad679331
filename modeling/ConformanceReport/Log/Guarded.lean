import ConformanceReport.Text.Quoted

/-!
# Messages in a log

A log is often read on a terminal. Control characters that a terminal acts upon are therefore
written out as escapes in it; blanks and ends of lines stay.
-/

namespace ConformanceReport

namespace Log

/-- A character of a message in a log. -/
def guardedCharacter (character : Char) : List Char :=
  if ['\x07', '\x08', '\x0c', '\x1b', '\x7f'].contains character then
    Quoted.byte character.toNat.toUInt8 |>.map Char.toLower
  else if 0x80 ≤ character.toNat && character.toNat ≤ 0x9F then
    ['\\', 'u', '\x7b'] ++ Quoted.digits 16 character.toNat ++ ['\x7d']
  else [character]

/-- A message in a log. -/
def guarded (message : String) : String :=
  String.ofList (message.toList.flatMap guardedCharacter)

end Log

end ConformanceReport
