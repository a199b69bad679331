import ConformanceReport.Toml.Item
import ConformanceReport.Toml.Moment
import ConformanceReport.Toml.Text

/-!
# TOML documents

A document is a sequence of key-value pairs and table headers, each on its own line. Lists and
inline tables may be nested in each other only so deep, and a dotted key has only so many parts.
-/

namespace ConformanceReport

namespace Toml

open Scanner

/-- The number of nested containers, and of the parts of a dotted key, that is too many. -/
def nestingBound : Nat := 80

/-- A character of a bare key. -/
def isBareCharacter (character : Char) : Bool :=
  ('A' ≤ character && character ≤ 'Z') || ('a' ≤ character && character ≤ 'z')
    || ('0' ≤ character && character ≤ '9') || character = '-' || character = '_'

/-- One part of a key. -/
def keyPart : Scanner Key := do
  blanks
  let start ← offset
  let content ← basicText <|> literalText
    <|> (do return String.ofList (← spanningSome isBareCharacter))
  let stop ← offset
  blanks
  return ⟨content, ⟨start, stop⟩⟩

/-- A key: the parts before the last one, and the last one. -/
def dottedKey : Scanner (List Key × Key) := do
  let first ← keyPart
  let more ← many (do character '.'; keyPart)
  let parts := first :: more
  guard (parts.length < nestingBound)
  return (parts.dropLast, parts.getLastD first)

/-- A key and a value, the value after blanks. -/
def keyValue (value : Scanner Value) : Scanner (List Key × Key × Value) := do
  let (path, key) ← dottedKey
  character '='
  blanks
  return (path, key, ← value)

/-- Items with commas between them; a comma calls for another item. -/
def separated {α : Type} (item : Scanner α) : Scanner (List α) :=
  (do
    let first ← item
    let more ← many (do character ','; item)
    return first :: more)
    <|> pure []

/-- The items of a list, where a comma may follow the last one. -/
def listItems (value : Scanner Value) : Scanner (List Value) := do
  character '['
  let items ← separated (do
    betweenItems
    let item ← value
    betweenItems
    return item)
  if !items.isEmpty then
    let _ ← optionally ','
  betweenItems
  character ']'
  return items

/-- The entries of an inline table, on one line. -/
def inlineEntries (value : Scanner Value) : Scanner Table := do
  character '\x7b'
  blanks
  let pairs ← separated (do
    let pair ← keyValue value
    blanks
    return pair)
  blanks
  character '\x7d'
  StateT.lift (pairs.foldlM (fun table (path, key, value) => table.insert path key value)
    (.empty .defined))

/-- A number, or a date or time. -/
def numeric (start : Nat) : Scanner Value := do
  let build : Span → Value ←
    (do moment; return .moment)
      <|> (do let number ← floating; return fun span => .floating span number)
      <|> (do let number ← integer; return fun span => .integer span number)
  return build ⟨start, ← offset⟩

/-- A value, given the scanner of the values inside it; without one it is no container. -/
def valueAround (inner : Option (Scanner Value)) : Scanner Value := do
  let start ← offset
  match ← peek? with
  | some '"' | some '\'' =>
    let content ← text
    return .text ⟨start, ← offset⟩ content
  | some '[' =>
    let some inner := inner | failure
    let items ← listItems inner
    return .list ⟨start, ← offset⟩ items
  | some '\x7b' =>
    let some inner := inner | failure
    let table ← inlineEntries inner
    return .table ⟨start, ← offset⟩ (finishEntries table.entries)
  | some 't' =>
    characters "true"
    return .boolean ⟨start, ← offset⟩ true
  | some 'f' =>
    characters "false"
    return .boolean ⟨start, ← offset⟩ false
  | some _ => numeric start
  | none => failure

/-- A value, in which at most `room` containers may be nested. -/
def value : (room : Nat) → Scanner Value
  | 0 => valueAround none
  | room + 1 => valueAround (some (value room))

/-- A line of a document. -/
inductive Expression where
  | pair (path : List Key) (key : Key) (value : Value)
  | header (path : List Key) (key : Key) (span : Span)
  | elementHeader (path : List Key) (key : Key) (span : Span)

/-- A table header. -/
def header : Scanner Expression := do
  let start ← offset
  if (← ahead 2) = ['[', '['] then
    characters "[["
    let (path, key) ← dottedKey
    characters "]]"
    return .elementHeader path key ⟨start, ← offset⟩
  else
    character '['
    let (path, key) ← dottedKey
    character ']'
    return .header path key ⟨start, ← offset⟩

/-- A key-value pair. -/
def pair : Scanner Expression := do
  let (path, key, value) ← keyValue (value (nestingBound - 1))
  return .pair path key value

/-- One line, with the expression on it if there is one. -/
def line : Scanner (Option Expression) := do
  blanks
  match ← peek? with
  | none => failure
  | some '#' | some '\n' | some '\r' =>
    lineRemainder
    return none
  | some first =>
    let expression ← if first = '[' then header else pair
    lineRemainder
    return some expression

/-- All expressions of a document, in order. A byte order mark may come first. -/
def expressions : Scanner (List Expression) := do
  let _ ← optionally '\uFEFF'
  let lines ← many line
  blanks
  return lines.filterMap id

/-- A document that is being built: its table, and the table under the last header with the path
to it. The table under the last header is put in its place when the next header comes. -/
structure Draft where
  root : Table
  /-- The path to the current table, and whether it is an element of a list of tables; nothing
  for the document itself. -/
  place : Option (List Key × Key × Bool)
  current : Table

namespace Draft

/-- Before the first line. -/
def start : Draft :=
  ⟨.empty .defined, none, .empty .defined⟩

/-- Puts the current table in its place. -/
def settle (draft : Draft) : Option Table :=
  match draft.place with
  | none => some draft.current
  | some (path, key, true) =>
    draft.root.descend .implied (fun parent =>
      match parent.find? key with
      | some (.tables elements) =>
        some (parent.replace key (.tables (elements ++ [draft.current.toItem])))
      | some _ => none
      | none => some (parent.append key (.tables [draft.current.toItem]))) path
  | some (path, key, false) =>
    draft.root.descend .implied (fun parent =>
      match parent.find? key with
      | some (.table .defined _ _) => none
      | some (.table _ _ _) => some (parent.replace key draft.current.toItem)
      | some _ => none
      | none => some (parent.append key draft.current.toItem)) path

/-- The table that a path leads to, if every table on the way exists. -/
def tableAt? : List Key → Table → Option Table
  | [], table => some table
  | key :: path, table =>
    match table.find? key with
    | some (.table origin span entries) => tableAt? path ⟨origin, span, entries⟩
    | some (.tables elements) =>
      match elements.getLast? with
      | some (.table origin span entries) => tableAt? path ⟨origin, span, entries⟩
      | _ => none
    | _ => none

/-- Starts the table of a header. A table that was only implied so far is taken out and goes on
as the current one. -/
def startTable (draft : Draft) (path : List Key) (key : Key) (span : Span) : Option Draft := do
  let settled ← draft.settle
  let root ← settled.descend .implied some path
  let parent ← tableAt? path root
  match parent.find? key with
  | none => return ⟨root, some (path, key, false), ⟨.defined, some span, []⟩⟩
  | some (.table .implied _ entries) =>
    let root ← root.descend .implied (fun parent => some (parent.remove key)) path
    return ⟨root, some (path, key, false), ⟨.defined, some span, entries⟩⟩
  | some _ => none

/-- Starts an element of a list of tables. -/
def startElement (draft : Draft) (path : List Key) (key : Key) (span : Span) : Option Draft := do
  let settled ← draft.settle
  let root ← settled.descend .implied (fun parent =>
    match parent.find? key with
    | none => some (parent.append key (.tables []))
    | some (.tables _) => some parent
    | some _ => none) path
  return ⟨root, some (path, key, true), ⟨.defined, some span, []⟩⟩

/-- Adds one expression. A pair extends the span of the table that it is in. -/
def add (draft : Draft) : Expression → Option Draft
  | .pair path key value => do
    let current ← draft.current.insert path key value
    return { draft with
      current := { current with span := current.span.map fun span => span.through value.span } }
  | .header path key span => draft.startTable path key span
  | .elementHeader path key span => draft.startElement path key span

end Draft

/-- The entries of the document that a text writes, if it writes one. -/
def parse (text : List Char) : Option (List (String × Value)) := do
  let found ← expressions.onWhole text
  let draft ← found.foldlM Draft.add .start
  let root ← draft.settle
  return finishEntries root.entries

end Toml

end ConformanceReport
