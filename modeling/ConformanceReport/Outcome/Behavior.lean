import ConformanceReport.Text.Utf8

/-!
# Behaviors

The classification that a test suite reports for a case. Seven labels are known; every other label
is kept as it is. Known behaviors are ordered as listed, and the others come last, by the bytes of
their labels.
-/

namespace ConformanceReport

/-- The reported classification of one case. -/
inductive Behavior where
  | ok
  | nonStrict
  | informational
  | failed
  | wrongCode
  | unimplemented
  | unclean
  | other (label : String)
  deriving DecidableEq, Repr

namespace Behavior

/-- The label that the suite writes. -/
def label : Behavior → String
  | .ok => "OK"
  | .nonStrict => "NON-STRICT"
  | .informational => "INFORMATIONAL"
  | .failed => "FAILED"
  | .wrongCode => "WRONG CODE"
  | .unimplemented => "UNIMPLEMENTED"
  | .unclean => "UNCLEAN"
  | .other label => label

/-- The behavior with a given label; labels are compared exactly. -/
def ofLabel (label : String) : Behavior :=
  if label = "OK" then .ok
  else if label = "NON-STRICT" then .nonStrict
  else if label = "INFORMATIONAL" then .informational
  else if label = "FAILED" then .failed
  else if label = "WRONG CODE" then .wrongCode
  else if label = "UNIMPLEMENTED" then .unimplemented
  else if label = "UNCLEAN" then .unclean
  else .other label

/-- The behaviors that count as a pass unless a configuration says otherwise. -/
def defaultPassing : List Behavior :=
  [.ok, .nonStrict, .informational]

/-- The place of a behavior in the order of the list above. -/
def rank : Behavior → Nat
  | .ok => 0
  | .nonStrict => 1
  | .informational => 2
  | .failed => 3
  | .wrongCode => 4
  | .unimplemented => 5
  | .unclean => 6
  | .other _ => 7

/-- The order of behaviors. -/
def order (left right : Behavior) : Ordering :=
  (compare left.rank right.rank).then (compare (utf8 left.label) (utf8 right.label))

/-- Telling the behaviors apart loses nothing of a label. -/
theorem label_ofLabel (label : String) : (ofLabel label).label = label := by
  unfold ofLabel
  repeat' split
  all_goals simp_all [Behavior.label]

end Behavior

end ConformanceReport
