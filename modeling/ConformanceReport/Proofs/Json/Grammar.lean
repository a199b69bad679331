import ConformanceReport.Json.Skip

/-!
# The grammar of JSON texts

The language that the readers are measured by, written down without them. Strings come twice:
`TextLiteral` relates a string to the text that it denotes, and `TextForm` asks only for the form.
`Form` is the form of whole values, nested to any depth. A container is cut after the value of
each entry, so that what a stack of open containers still calls for can be put together from
`Form (.tail bracket)`.
-/

namespace ConformanceReport.Json

/-- Bytes that are all insignificant. -/
def Blank (bytes : Bytes) : Prop :=
  ∀ byte ∈ bytes, isBlank byte = true

/-- Bytes that are all decimal digits. -/
def Digits (bytes : Bytes) : Prop :=
  ∀ byte ∈ bytes, ascii '0' ≤ byte ∧ byte ≤ ascii '9'

/-- The values of decimal digits. -/
def digitsOf (bytes : Bytes) : List Nat :=
  bytes.map fun byte => byte.toNat - 48

/-- The number that decimal digits write. -/
def decimalValue (digits : List Nat) : Nat :=
  digits.foldl (fun value digit => value * 10 + digit) 0

/-- The whole part of a number: a single zero, or digits of which the first is not zero. -/
inductive WholeForm : Bytes → Prop where
  | zero : WholeForm [ascii '0']
  | digits {first : UInt8} {more : Bytes} (least : ascii '1' ≤ first) (greatest : first ≤ ascii '9')
      (all : Digits more) : WholeForm (first :: more)

/-- The fraction of a number, if it has one. -/
inductive FractionForm : Bytes → Option (List Nat) → Prop where
  | absent : FractionForm [] none
  | present {digits : Bytes} (some_digit : digits ≠ []) (all : Digits digits) :
      FractionForm (ascii '.' :: digits) (some (digitsOf digits))

/-- The sign of an exponent, true for a minus. -/
inductive SignForm : Bytes → Bool → Prop where
  | absent : SignForm [] false
  | plus : SignForm [ascii '+'] false
  | minus : SignForm [ascii '-'] true

/-- The exponent of a number, if it has one. -/
inductive ExponentForm : Bytes → Option (Bool × List Nat) → Prop where
  | absent : ExponentForm [] none
  | present {mark : UInt8} {sign digits : Bytes} {negative : Bool}
      (marked : mark = ascii 'e' ∨ mark = ascii 'E') (signed : SignForm sign negative)
      (some_digit : digits ≠ []) (all : Digits digits) :
      ExponentForm (mark :: (sign ++ digits)) (some (negative, digitsOf digits))

/-- The minus sign in front of a number, or nothing. -/
def minusSign (negative : Bool) : Bytes :=
  if negative then [ascii '-'] else []

/-- A number and its parts. -/
inductive NumberForm : Bytes → Literal → Prop where
  | parts (negative : Bool) {whole fraction exponent : Bytes} {fractionDigits : Option (List Nat)}
      {exponentParts : Option (Bool × List Nat)} (isWhole : WholeForm whole)
      (isFraction : FractionForm fraction fractionDigits)
      (isExponent : ExponentForm exponent exponentParts) :
      NumberForm (minusSign negative ++ (whole ++ (fraction ++ exponent)))
        ⟨negative, digitsOf whole, fractionDigits, exponentParts⟩

/-- A plain integer: digits without a sign, a leading zero, a fraction or an exponent. -/
def NaturalLiteral (bytes : Bytes) (value : Nat) : Prop :=
  WholeForm bytes ∧ decimalValue (digitsOf bytes) = value

/-- Four hexadecimal digits and their number. -/
inductive HexForm : Bytes → Nat → Prop where
  | quad {first second third fourth : UInt8} {a b c d : Nat} (isFirst : hexDigit? first = some a)
      (isSecond : hexDigit? second = some b) (isThird : hexDigit? third = some c)
      (isFourth : hexDigit? fourth = some d) :
      HexForm [first, second, third, fourth] (((a * 16 + b) * 16 + c) * 16 + d)

/-- The letters of short escapes and the characters that they stand for. -/
def shortEscapes : List (Char × Char) :=
  [('"', '"'), ('\\', '\\'), ('/', '/'), ('b', '\x08'), ('f', '\x0c'), ('n', '\n'), ('r', '\r'),
    ('t', '\t')]

/-- What stands after the backslash of an escape, and the character that it stands for. A code
unit of a surrogate pair stands for nothing by itself. -/
inductive EscapeForm : Bytes → Char → Prop where
  | short {letter character : Char} (known : (letter, character) ∈ shortEscapes) :
      EscapeForm [ascii letter] character
  | unit {digits : Bytes} {code : Nat} (hexadecimal : HexForm digits code)
      (noSurrogate : code < 0xD800 ∨ 0xDFFF < code) :
      EscapeForm (ascii 'u' :: digits) (Char.ofNat code)
  | pair {first second : Bytes} {leading trailing : Nat} (isFirst : HexForm first leading)
      (isSecond : HexForm second trailing) (isLeading : 0xD800 ≤ leading ∧ leading ≤ 0xDBFF)
      (isTrailing : 0xDC00 ≤ trailing ∧ trailing ≤ 0xDFFF) :
      EscapeForm (ascii 'u' :: (first ++ ascii '\\' :: ascii 'u' :: second))
        (Char.ofNat (0x10000 + (leading - 0xD800) * 0x400 + (trailing - 0xDC00)))

/-- The part of a string between its quotes, and the characters that it denotes. -/
inductive Denotes : Bytes → List Char → Prop where
  | nil : Denotes [] []
  | plain {character : Char} {body : Bytes} {more : List Char} (printable : 0x20 ≤ character.toNat)
      (notQuote : character ≠ '"') (notBackslash : character ≠ '\\') (rest : Denotes body more) :
      Denotes (String.utf8EncodeChar character ++ body) (character :: more)
  | escape {escape body : Bytes} {character : Char} {more : List Char}
      (stands : EscapeForm escape character) (rest : Denotes body more) :
      Denotes (ascii '\\' :: (escape ++ body)) (character :: more)

/-- A string, and the text that it denotes. -/
def TextLiteral (bytes : Bytes) (text : String) : Prop :=
  ∃ body, bytes = ascii '"' :: (body ++ [ascii '"']) ∧ Denotes body text.toList

/-- The part between the quotes of a string of which only the form matters: its bytes need not be
UTF-8, and its escapes need not denote characters. -/
inductive BodyForm : Bytes → Prop where
  | nil : BodyForm []
  | plain {byte : UInt8} {body : Bytes} (printable : 0x20 ≤ byte) (notQuote : byte ≠ ascii '"')
      (notBackslash : byte ≠ ascii '\\') (rest : BodyForm body) : BodyForm (byte :: body)
  | short {letter character : Char} {body : Bytes} (known : (letter, character) ∈ shortEscapes)
      (rest : BodyForm body) : BodyForm (ascii '\\' :: ascii letter :: body)
  | unit {digits body : Bytes} {code : Nat} (hexadecimal : HexForm digits code)
      (rest : BodyForm body) : BodyForm (ascii '\\' :: ascii 'u' :: (digits ++ body))

/-- A string of which only the form matters. -/
def TextForm (bytes : Bytes) : Prop :=
  ∃ body, bytes = ascii '"' :: (body ++ [ascii '"']) ∧ BodyForm body

/-- The byte that opens a container. -/
def Bracket.opening : Bracket → UInt8
  | .list => ascii '['
  | .object => ascii '\x7b'

/-- What stands in front of the value of an entry: nothing in a list, a key in an object. -/
inductive LabelForm : Bracket → Bytes → Prop where
  | item {before : Bytes} (blank : Blank before) : LabelForm .list before
  | member {before key between after : Bytes} (blankBefore : Blank before) (isKey : TextForm key)
      (blankBetween : Blank between) (blankAfter : Blank after) :
      LabelForm .object (before ++ (key ++ (between ++ ascii ':' :: after)))

/-- The parts of a text that are told apart: a value, and what follows the value of an entry up to
the end of its container. -/
inductive Part where
  | value
  | tail (bracket : Bracket)
  deriving DecidableEq, Repr

/-- The form of a part of a text. -/
inductive Form : Part → Bytes → Prop where
  | name {name : String} (known : name ∈ ["null", "true", "false"]) : Form .value (utf8 name)
  | number {bytes : Bytes} {literal : Literal} (isNumber : NumberForm bytes literal) :
      Form .value bytes
  | text {bytes : Bytes} (isText : TextForm bytes) : Form .value bytes
  | empty {bracket : Bracket} {inside : Bytes} (blank : Blank inside) :
      Form .value (bracket.opening :: (inside ++ [bracket.closing]))
  | entries {bracket : Bracket} {label value tail : Bytes} (isLabel : LabelForm bracket label)
      (isValue : Form .value value) (isTail : Form (.tail bracket) tail) :
      Form .value (bracket.opening :: (label ++ (value ++ tail)))
  | close {bracket : Bracket} {before : Bytes} (blank : Blank before) :
      Form (.tail bracket) (before ++ [bracket.closing])
  | next {bracket : Bracket} {before label value tail : Bytes} (blank : Blank before)
      (isLabel : LabelForm bracket label) (isValue : Form .value value)
      (isTail : Form (.tail bracket) tail) :
      Form (.tail bracket) (before ++ ascii ',' :: (label ++ (value ++ tail)))

end ConformanceReport.Json
