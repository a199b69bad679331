import ConformanceReport.Json.Value
import ConformanceReport.Json.Written

/-!
# Case identifiers

A conformance case is identified by its number or by a free-form name. Numbers come before names;
numbers compare by value and names by their UTF-8 bytes.
-/

namespace ConformanceReport

/-- The identifier of one conformance case. -/
inductive CaseId where
  | number (value : UInt64)
  | name (text : String)
  deriving DecidableEq, Repr

namespace CaseId

/-- The order of identifiers. -/
def order : CaseId → CaseId → Ordering
  | .number left, .number right => compare left right
  | .name left, .name right => compare (utf8 left) (utf8 right)
  | .number _, .name _ => .lt
  | .name _, .number _ => .gt

/-- The order of identifiers as a partial order, in which any two of them compare. -/
def order? (left right : CaseId) : Option Ordering :=
  some (left.order right)

/-- An identifier as a reader sees it: the decimal digits of a number, or the bare name. -/
def shown : CaseId → String
  | .number value => toString value.toNat
  | .name text => text

/-- The identifier that a JSON value denotes: an integer of 64 bits without sign, or a string. -/
def ofJson? : Json.Value → Option CaseId
  | .number (.natural value) => some (.number value)
  | .text text => some (.name text)
  | _ => none

/-- The identifier as a JSON value. -/
def written : CaseId → String
  | .number value => toString value.toNat
  | .name text => Json.writeText text

end CaseId

end ConformanceReport
