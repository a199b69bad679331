import ConformanceReport.Toml.Value

/-!
# Building the tables of a TOML document

While a document is read, a table remembers how it came to be: by a header, by being named on the
way to another table, or by a dotted key. That decides what may still be added to it. A finished
item is a value; a table that has no text of its own stands where its key stands.
-/

namespace ConformanceReport

namespace Toml

/-- A key, with the place where it stands. -/
structure Key where
  text : String
  span : Span
  deriving DecidableEq, Repr

/-- How a table came to be. -/
inductive Origin where
  /-- By a header of its own, or as the document. -/
  | defined
  /-- By being named on the way to a table with a header. -/
  | implied
  /-- By a dotted key. -/
  | dotted
  deriving DecidableEq, Repr

/-- What a key of an unfinished table stands for. A table made by neither a header nor braces has
no span. -/
inductive Item where
  | value (value : Value)
  | table (origin : Origin) (span : Option Span) (entries : List (Key × Item))
  | tables (elements : List Item)

/-- An unfinished table: how it came to be, where it stands, and its entries in order. -/
structure Table where
  origin : Origin
  span : Option Span
  entries : List (Key × Item)

namespace Table

/-- A table that nothing was added to. -/
def empty (origin : Origin) : Table :=
  ⟨origin, none, []⟩

/-- The table as an item of another table. -/
def toItem (table : Table) : Item :=
  .table table.origin table.span table.entries

/-- The item that a key stands for. -/
def find? (table : Table) (key : Key) : Option Item :=
  (table.entries.find? fun entry => entry.1.text = key.text).map Prod.snd

/-- The table with one more entry at its end. -/
def append (table : Table) (key : Key) (item : Item) : Table :=
  { table with entries := table.entries ++ [(key, item)] }

/-- The table with another item for a key that it has. -/
def replace (table : Table) (key : Key) (item : Item) : Table :=
  { table with
    entries := table.entries.map fun entry =>
      if entry.1.text = key.text then (entry.1, item) else entry }

/-- The table without a key. -/
def remove (table : Table) (key : Key) : Table :=
  { table with entries := table.entries.filter fun entry => entry.1.text ≠ key.text }

end Table

/-- Changes the table that a path of keys leads to. Tables on the way are made as needed, with the
given origin; the last table of a list of tables stands for the list. A path through a value is
refused, and so is a dotted path through a table that has a definition of its own. -/
def Table.descend (origin : Origin) (change : Table → Option Table) :
    List Key → Table → Option Table
  | [], table => change table
  | key :: path, table =>
    match table.find? key with
    | none => do
      let child ← descend origin change path (.empty origin)
      return table.append key child.toItem
    | some (.value _) => none
    | some (.table childOrigin span entries) =>
      if origin = .dotted && childOrigin = .defined then none
      else do
        let child ← descend origin change path ⟨childOrigin, span, entries⟩
        return table.replace key child.toItem
    | some (.tables elements) =>
      match elements.getLast? with
      | some (.table childOrigin span entries) => do
        let child ← descend origin change path ⟨childOrigin, span, entries⟩
        return table.replace key (.tables (elements.dropLast ++ [child.toItem]))
      | _ => none

/-- Adds a value under a dotted key. A table is extended only in the way it came to be: a dotted
table by dotted keys, any other by plain ones. -/
def Table.insert (table : Table) (path : List Key) (key : Key) (value : Value) : Option Table :=
  table.descend .dotted (fun target =>
    if decide (target.origin = .dotted) == path.isEmpty || (target.find? key).isSome then none
    else some (target.append key (.value value))) path

/-- The span from the start of a first part to the end of a last one. -/
def Span.through (first last : Span) : Span :=
  ⟨first.start, last.stop⟩

mutual

/-- The value of a finished item that belongs to a key. -/
def Item.finish (key : Span) : Item → Value
  | .value value => value
  | .table _ span entries => .table (span.getD key) (finishEntries entries)
  | .tables elements =>
    let items := finishElements key elements
    let span := match items.head?, items.getLast? with
      | some first, some last => first.span.through last.span
      | _, _ => key
    .list span items

/-- The values of finished entries. -/
def finishEntries : List (Key × Item) → List (String × Value)
  | [] => []
  | (key, item) :: entries => (key.text, item.finish key.span) :: finishEntries entries

/-- The values of the elements of a list of tables. -/
def finishElements (key : Span) : List Item → List Value
  | [] => []
  | element :: elements => element.finish key :: finishElements key elements

end

end Toml

end ConformanceReport
