import ConformanceReport.Files.Error
import ConformanceReport.Text.Utf8

/-!
# What a program sees of a file system

A program asks three things of a file system: the content of a file, the entries of a directory,
and whether a path leads anywhere. A listing comes in the order in which the system yields it, and
may break off with an error.
-/

namespace ConformanceReport

/-- A path, as the bytes that the system takes. -/
abbrev Path := Bytes

/-- A path for a reader. -/
def Path.shown (path : Path) : String :=
  Utf8.lossy path

/-- The path of a name inside a directory. -/
def Path.join (directory : Path) (name : Bytes) : Path :=
  if name.head? = some (ascii '/') || directory.isEmpty then name
  else if directory.getLast? = some (ascii '/') then directory ++ name
  else directory ++ ascii '/' :: name

/-- An entry of a directory: its name, and what reading it as a file yields. -/
structure Entry where
  name : Bytes
  content : Except OsError Bytes

/-- A name for a reader. -/
def Entry.shownName (entry : Entry) : String :=
  Utf8.lossy entry.name

/-- The entries of a directory in the order they are yielded, and the error that ended the listing
early, if any. -/
structure Listing where
  entries : List Entry
  failure : Option OsError

/-- What a program sees of a file system. -/
structure FileView where
  /-- The content of a file. -/
  read : Path → Except OsError Bytes
  /-- The entries of a directory. -/
  list : Path → Except OsError Listing
  /-- Whether a path leads to something, following links. -/
  resolves : Path → Bool

end ConformanceReport
