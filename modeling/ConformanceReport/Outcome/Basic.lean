import ConformanceReport.Outcome.CaseId
import ConformanceReport.Outcome.Behavior

/-!
# Outcomes and verdicts

An outcome is what one result file says about one case. A verdict is the judgment over all
outcomes of a run.
-/

namespace ConformanceReport

/-- The outcome of one conformance case, with the behavior label exactly as reported. -/
structure Outcome where
  caseId : CaseId
  label : String
  deriving DecidableEq, Repr

namespace Outcome

/-- The classification that the label stands for. -/
def behavior (outcome : Outcome) : Behavior :=
  .ofLabel outcome.label

/-- An outcome as one line of a report, without the end of the line. -/
def shown (outcome : Outcome) : String :=
  "Case " ++ outcome.caseId.shown ++ ": " ++ outcome.label

/-- The outcome as a compact JSON object. -/
def written (outcome : Outcome) : String :=
  "\x7b\"case\":" ++ outcome.caseId.written ++ ",\"behavior\":" ++ Json.writeText outcome.label
    ++ "\x7d"

end Outcome

/-- The judgment over all outcomes of a run. -/
inductive Verdict where
  | passed
  | failed
  deriving DecidableEq, Repr

namespace Verdict

/-- The verdict on whether all outcomes pass. -/
def ofAllPass (allPass : Bool) : Verdict :=
  if allPass then .passed else .failed

/-- Whether the verdict is a pass. -/
def isPassed (verdict : Verdict) : Bool :=
  verdict = .passed

/-- The line that announces the verdict in a report. -/
def marker : Verdict → String
  | .passed => "Tests passed ✅"
  | .failed => "Tests failed ❌"

/-- The name of the verdict in log messages. -/
def name : Verdict → String
  | .passed => "Passed"
  | .failed => "Failed"

/-- The exit code of a completed run: two for a failure that is asked to show, zero otherwise. -/
def exitCode (verdict : Verdict) (failOnVerdict : Bool) : UInt32 :=
  if verdict = .failed && failOnVerdict then 2 else 0

end Verdict

end ConformanceReport
