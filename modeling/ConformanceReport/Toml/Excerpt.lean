import ConformanceReport.Text.Utf8
import ConformanceReport.Toml.Value

/-!
# Excerpts of TOML documents

A complaint about a part of a document names the line and column, shows the line, and marks the
part on it. Columns count characters; the mark has one sign for each byte of the part that lies on
the line, and at least one.
-/

namespace ConformanceReport

namespace Toml

/-- The number of bytes that encode some characters. -/
def byteCount (characters : List Char) : Nat :=
  characters.foldl (fun total character => total + character.utf8Size) 0

/-- Repeats a character. -/
def repeated (count : Nat) (character : Char) : String :=
  String.ofList (List.replicate count character)

/-- A complaint about the part of a document that a span covers. -/
def excerpt (document : List Char) (span : Span) (complaint : String) : String :=
  let before := document.take span.start
  let line := before.count '\n'
  let column := (before.reverse.takeWhile (· ≠ '\n')).length
  let content := (document.splitOn '\n').getD line []
  let lineNumber := toString (line + 1)
  let marked := (document.drop span.start).take (span.stop - span.start)
  let marks := max 1 (min (byteCount marked) (byteCount content - column))
  let gutter := repeated (lineNumber.length + 1) ' ' ++ "|"
  "TOML parse error at line " ++ lineNumber ++ ", column " ++ toString (column + 1) ++ "\n"
    ++ gutter ++ "\n"
    ++ lineNumber ++ " | " ++ String.ofList content ++ "\n"
    ++ gutter ++ repeated (column + 1) ' ' ++ repeated marks '^' ++ "\n"
    ++ complaint ++ "\n"

end Toml

end ConformanceReport
