import ConformanceReport.Text.Utf8

/-!
# Printable text

What is left of a text when the control functions in it are taken out: single control characters,
escape sequences, control sequences, and control strings. Blanks and ends of lines stay. Outside
of them a character beyond ASCII is printed; inside it belongs to the control function.
-/

namespace ConformanceReport

namespace Printable

/-- What a character may be a part of. -/
inductive State where
  | ground
  /-- After an escape character. -/
  | escape
  /-- In an escape sequence of several characters. -/
  | sequence
  /-- In a control sequence, which takes parameters. -/
  | control
  /-- In the text of a command to the system. -/
  | command
  /-- At the start of a control string for a device. -/
  | device
  /-- In the parameters of a control string for a device. -/
  | parameters
  /-- Between the parameters and the text of a control string for a device. -/
  | intermediates
  /-- In the text of a control string other than a command. -/
  | string
  deriving DecidableEq, Repr

/-- How much of a text a filter sees at a time. A blank inside a sequence is printed in any case. -/
inductive Filter where
  /-- A text as a whole: the blank ends the sequence that it is in. -/
  | text
  /-- A stream: the sequence goes on at the next ASCII character that is not printed, unless a
  character beyond ASCII is printed before. -/
  | stream
  deriving DecidableEq, Repr

/-- Whether a character lies between two others. -/
def isWithin (first last : Char) (character : Char) : Bool :=
  first ≤ character && character ≤ last

/-- The control characters that lay out a text: the blanks and ends of lines. -/
def isLayout (character : Char) : Bool :=
  ['\t', '\n', '\x0c', '\r'].contains character

/-- Whether a character is printed outside of control functions. -/
def isPrinted (character : Char) : Bool :=
  isLayout character || isWithin ' ' '~' character || '\x80' ≤ character

/-- Whether a character ends the text of a control string: the string terminator is a part of its
encoding. -/
def isTerminating (character : Char) : Bool :=
  (String.utf8EncodeChar character).contains 0x9C

/-- The state after the character that follows an escape character. -/
def afterEscape (character : Char) : State :=
  if character = '[' then .control
  else if character = ']' then .command
  else if character = 'P' then .device
  else if ['X', '^', '_'].contains character then .string
  else if isWithin ' ' '/' character then .sequence
  else if isWithin '0' '~' character then .ground
  else .escape

/-- The state after a character inside a control function. -/
def inside (state : State) (character : Char) : State :=
  match state with
  | .ground => .ground
  | .escape => afterEscape character
  | .sequence => if isWithin '0' '~' character then .ground else .sequence
  | .control => if isWithin '@' '~' character then .ground else .control
  | .command => if character = '\x07' then .ground else .command
  | .device =>
    if isWithin ' ' '/' character then .intermediates
    else if isWithin '0' '?' character then .parameters
    else if isWithin '@' '~' character then .string
    else .device
  | .parameters =>
    if isWithin ' ' '/' character then .intermediates
    else if isWithin '<' '~' character then .string
    else .parameters
  | .intermediates => if isWithin '0' '~' character then .string else .intermediates
  | .string => if isTerminating character then .ground else .string

/-- Whether a character is printed in some state. Control strings print nothing. -/
def prints (state : State) (character : Char) : Bool :=
  match state with
  | .ground => isPrinted character
  | .escape | .sequence | .control => isLayout character
  | .command | .device | .parameters | .intermediates | .string => false

/-- The state after a character that is not printed. An escape character starts a new control
function in every state, and two other control characters cancel the one that they are in. -/
def step (state : State) (character : Char) : State :=
  if character = '\x1b' then .escape
  else if character = '\x18' || character = '\x1a' then .ground
  else inside state character

/-- The state after a character that was printed in some state. -/
def Filter.resumed (filter : Filter) (state : State) (character : Char) : State :=
  match filter with
  | .text => .ground
  | .stream => if '\x80' ≤ character then .ground else state

/-- The printed characters of a text that is entered in some state. Once a character is printed,
so are those after it, up to one that is not printed outside of control functions. -/
def printedFrom (filter : Filter) (state : State) (printing : Bool) : List Char → List Char
  | [] => []
  | character :: rest =>
    if prints state character || printing && isPrinted character then
      character :: printedFrom filter (filter.resumed state character) true rest
    else printedFrom filter (step state character) false rest

end Printable

/-- A text without the control functions in it. -/
def printable (filter : Printable.Filter) (text : String) : String :=
  String.ofList (Printable.printedFrom filter .ground false text.toList)

end ConformanceReport
