import ConformanceReport.Summary.Rules

/-!
# Summaries

A summary holds the outcomes of a run in the order of their cases, and the verdict on them.
Outcomes of the same case stay in the order in which they came. No outcomes at all are a pass.
-/

namespace ConformanceReport

/-- Whether an outcome may stand before another one. -/
def Outcome.mayPrecede (left right : Outcome) : Bool :=
  (left.caseId.order right.caseId).isLE

/-- Outcomes in the order of their cases. -/
def sortByCase (outcomes : List Outcome) : List Outcome :=
  outcomes.mergeSort Outcome.mayPrecede

/-- The verdict on some outcomes. -/
def Rules.verdict (rules : Rules) (outcomes : List Outcome) : Verdict :=
  .ofAllPass (outcomes.all rules.accepts)

/-- The outcomes of a run in order, with the verdict on them. -/
structure Summary where
  total : Nat
  outcomes : List Outcome
  verdict : Verdict
  rules : Rules
  deriving DecidableEq, Repr

namespace Summary

/-- The summary of some outcomes. -/
def of (outcomes : List Outcome) (rules : Rules) : Summary where
  total := outcomes.length
  outcomes := sortByCase outcomes
  verdict := rules.verdict (sortByCase outcomes)
  rules := rules

/-- The outcomes that do not pass, in order. -/
def failures (summary : Summary) : List Outcome :=
  summary.outcomes.filter fun outcome => !summary.rules.accepts outcome

/-- The text of a summary: the number of outcomes, a line for each, and the verdict. -/
def text (summary : Summary) : String :=
  "Total result count: " ++ toString summary.total ++ "\n"
    ++ String.join (summary.outcomes.map fun outcome => outcome.shown ++ "\n")
    ++ summary.verdict.marker ++ "\n"

end Summary

end ConformanceReport
