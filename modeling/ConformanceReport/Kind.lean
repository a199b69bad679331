import ConformanceReport.Decimal.Shortest
import ConformanceReport.Text.Quoted

/-!
# Kinds of values in messages

A value that is not wanted where it stands is named by its kind, and by its content if it is no
container.
-/

namespace ConformanceReport

/-- What kind of value was found, with the content of a scalar. -/
inductive Kind where
  | null
  | boolean (value : Bool)
  | integer (value : Int)
  | floating (value : Float)
  | text (value : String)
  | list
  | object

namespace Kind

/-- A kind as a message shows it, with floating point numbers in a given layout. -/
def shown (layout : Decimal.Layout) : Kind → String
  | .null => "null"
  | .boolean value => "boolean `" ++ (if value then "true" else "false") ++ "`"
  | .integer value => "integer `" ++ toString value ++ "`"
  | .floating value => "floating point `" ++ layout.write value ++ "`"
  | .text value => "string " ++ Quoted.ofText value
  | .list => "sequence"
  | .object => "map"

/-- The message that one kind was found where another was wanted. -/
def mismatch (layout : Decimal.Layout) (found : Kind) (wanted : String) : String :=
  "invalid type: " ++ found.shown layout ++ ", expected " ++ wanted

end Kind

end ConformanceReport
