import ConformanceReport.Toml.Scanner

/-!
# Strings of TOML documents

Basic strings resolve escapes, literal strings do not. Both have a form that spans lines, in which
a line end right after the opening quotes is dropped and the others are line feeds.
-/

namespace ConformanceReport

namespace Toml

open Scanner

/-- A character that stands for itself in some string: no control but the tab. -/
def isTextCharacter (character : Char) : Bool :=
  character = '\t' || (0x20 ≤ character.toNat && character.toNat ≠ 0x7F)

/-- A character that stands for itself in a basic string. -/
def isBasicCharacter (character : Char) : Bool :=
  isTextCharacter character && character ≠ '"' && character ≠ '\\'

/-- A character of a literal string. -/
def isLiteralCharacter (character : Char) : Bool :=
  isTextCharacter character && character ≠ '\''

/-- The value of a hexadecimal digit. -/
def hexValue? (character : Char) : Option Nat :=
  if '0' ≤ character && character ≤ '9' then some (character.toNat - 48)
  else if 'a' ≤ character && character ≤ 'f' then some (character.toNat - 87)
  else if 'A' ≤ character && character ≤ 'F' then some (character.toNat - 55)
  else none

/-- A character given by the code point that so many hexadecimal digits write. -/
def codePoint (digits : Nat) : Scanner (List Char) := do
  let found ← (List.replicate digits ()).mapM fun _ => satisfying fun c => (hexValue? c).isSome
  let code := found.foldl (fun code digit => code * 16 + (hexValue? digit).getD 0) 0
  guard (decide code.isValidChar)
  return [Char.ofNat code]

/-- An escape. -/
def escape : Scanner (List Char) := do
  character '\\'
  match ← satisfying fun _ => true with
  | 'b' => return ['\x08']
  | 't' => return ['\t']
  | 'n' => return ['\n']
  | 'f' => return ['\x0c']
  | 'r' => return ['\r']
  | '"' => return ['"']
  | '\\' => return ['\\']
  | 'u' => codePoint 4
  | 'U' => codePoint 8
  | _ => failure

/-- A basic string on one line. -/
def basicText : Scanner String := do
  character '"'
  let parts ← many (spanningSome isBasicCharacter <|> escape)
  character '"'
  return String.ofList parts.flatten

/-- A literal string on one line. -/
def literalText : Scanner String := do
  character '\''
  let content ← spanning isLiteralCharacter
  character '\''
  return String.ofList content

/-- A line end inside a string. -/
def innerLineEnd : Scanner (List Char) := do
  newline
  return ['\n']

/-- A backslash at the end of a line, with the blanks and line ends that follow it. -/
def continuation : Scanner (List Char) := do
  character '\\'
  blanks
  newline
  let _ ← many ((do let _ ← spanningSome isBlank) <|> newline)
  return []

/-- One or two quotes that do not close a string on several lines. -/
def innerQuotes (quote : Char) : Scanner (List Char) := do
  let run ← ahead 3
  guard ((run.takeWhile (· = quote)).length < 3)
  spanningSome (· = quote)

/-- The quotes that close a string on several lines, with up to two that belong to it. -/
def closingQuotes (quote : Char) : Scanner (List Char) := do
  let run ← spanning (· = quote)
  guard (3 ≤ run.length && run.length ≤ 5)
  return run.drop 3

/-- A string on several lines, made of parts between tripled quotes. -/
def longText (quote : Char) (part : Scanner (List Char)) : Scanner String := do
  characters (String.ofList [quote, quote, quote])
  if (← peek?) = some '\n' || (← ahead 2) = ['\r', '\n'] then newline
  let parts ← many (part <|> innerLineEnd <|> innerQuotes quote)
  let quotes ← closingQuotes quote
  return String.ofList (parts.flatten ++ quotes)

/-- A string of any form. -/
def text : Scanner String :=
  longText '"' (spanningSome isBasicCharacter <|> continuation <|> escape)
    <|> basicText
    <|> longText '\'' (spanningSome isLiteralCharacter)
    <|> literalText

end Toml

end ConformanceReport
