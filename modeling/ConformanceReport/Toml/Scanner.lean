/-!
# Scanning TOML text

A scanner walks over the characters of a text and either yields a value or fails; a failure says
nothing more, and an alternative starts over from where its first branch started. The second half
holds the insignificant parts of a document: blanks, comments and ends of lines.
-/

namespace ConformanceReport

namespace Toml

/-- A place in a text: the number of characters before it, the number of all characters of the
text, and the characters after it. -/
structure Cursor where
  offset : Nat
  size : Nat
  rest : List Char

/-- A scanner of values from a text. -/
abbrev Scanner (α : Type) := StateT Cursor Option α

namespace Scanner

/-- The number of characters scanned so far. -/
def offset : Scanner Nat := do
  return (← get).offset

/-- The next character, which is left where it is. -/
def peek? : Scanner (Option Char) := do
  return (← get).rest.head?

/-- The next characters, as many as asked for or as there are, which are left where they are. -/
def ahead (count : Nat) : Scanner (List Char) := do
  return (← get).rest.take count

/-- Whether nothing is left. -/
def isAtEnd : Scanner Bool := do
  return (← get).rest.isEmpty

/-- A character with a property. -/
def satisfying (accepts : Char → Bool) : Scanner Char := fun cursor =>
  match cursor.rest with
  | [] => none
  | character :: rest =>
    if accepts character then some (character, ⟨cursor.offset + 1, cursor.size, rest⟩)
    else none

/-- The longest run of characters with a property. -/
def spanning (accepts : Char → Bool) : Scanner (List Char) := fun cursor =>
  let (run, rest) := cursor.rest.span accepts
  some (run, ⟨cursor.offset + run.length, cursor.size, rest⟩)

/-- The longest run of characters with a property, which must not be empty. -/
def spanningSome (accepts : Char → Bool) : Scanner (List Char) := do
  let run ← spanning accepts
  guard !run.isEmpty
  return run

/-- A given character. -/
def character (expected : Char) : Scanner Unit := do
  let _ ← satisfying (· = expected)

/-- Given characters, one after the other. -/
def characters (expected : String) : Scanner Unit :=
  expected.toList.forM character

/-- A character, if it comes next. -/
def optionally (expected : Char) : Scanner Bool := do
  if (← peek?) = some expected then
    character expected
    return true
  else return false

/-- Scans items as long as they succeed and go forward, at most `fuel` of them. -/
def manyWithin {α : Type} (item : Scanner α) : Nat → Scanner (List α)
  | 0 => return []
  | fuel + 1 => fun cursor =>
    match item cursor with
    | none => some ([], cursor)
    | some (value, next) =>
      if cursor.offset < next.offset then
        (do return value :: (← manyWithin item fuel)) next
      else some ([], cursor)

/-- Scans items as long as they succeed and go forward. Each takes a character at least, so that
there are no more of them than characters are left. -/
def many {α : Type} (item : Scanner α) : Scanner (List α) := do
  let cursor ← get
  manyWithin item (cursor.size - cursor.offset + 1)

/-- The result of a scanner on a whole text. -/
def onWhole {α : Type} (scanner : Scanner α) (text : List Char) : Option α := do
  let (value, cursor) ← scanner ⟨0, text.length, text⟩
  guard cursor.rest.isEmpty
  return value

end Scanner

open Scanner

/-- A space or a tab. -/
def isBlank (character : Char) : Bool :=
  character = ' ' || character = '\t'

/-- A run of blanks, which may be empty. -/
def blanks : Scanner Unit := do
  let _ ← spanning isBlank

/-- The end of a line: a line feed, or a carriage return and a line feed. -/
def newline : Scanner Unit :=
  character '\n' <|> (do character '\r'; character '\n')

/-- A character that may stand in a comment: no control but the tab. -/
def isCommentCharacter (character : Char) : Bool :=
  character = '\t' || (0x20 ≤ character.toNat && character.toNat ≠ 0x7F)

/-- A comment, up to the end of its line. -/
def comment : Scanner Unit := do
  character '#'
  let _ ← spanning isCommentCharacter

/-- The end of a line, or of the text. -/
def lineEnd : Scanner Unit := do
  if ← isAtEnd then return else newline

/-- What may follow an expression on its line. -/
def lineRemainder : Scanner Unit := do
  blanks
  if (← peek?) = some '#' then comment
  lineEnd

/-- What may stand between the items of a list: blanks, ends of lines, comments. -/
def betweenItems : Scanner Unit := do
  let _ ← many ((do let _ ← spanningSome isBlank) <|> newline <|> comment)

end Toml

end ConformanceReport
