import ConformanceReport.Outcome.Basic

/-!
# Which outcomes pass

An outcome passes if its label, exactly as reported, is one of the labels that are accepted.
-/

namespace ConformanceReport

/-- The labels that are accepted as a pass. -/
structure Rules where
  passing : List String
  deriving DecidableEq, Repr

namespace Rules

/-- The labels of the behaviors that count as a pass by default. -/
def standard : Rules :=
  ⟨Behavior.defaultPassing.map Behavior.label⟩

/-- Whether an outcome passes. -/
def accepts (rules : Rules) (outcome : Outcome) : Bool :=
  rules.passing.contains outcome.label

end Rules

end ConformanceReport
