import ConformanceReport.Output.Sink
import ConformanceReport.Scan.Finding

/-!
# Diagnostics of a scan

While a directory is scanned, each rejected file is reported on a sink right away. The scan goes
no further than the first piece of a report that the sink does not take.
-/

namespace ConformanceReport

/-- How far a scan came: the findings that it reached, the sink after that, and the error that
stopped it, if any. -/
structure Reached where
  findings : List Finding
  sink : Sink
  error : Option SinkError

namespace Reached

/-- Puts a finding in front of those that were reached after it. -/
def after (finding : Finding) (reached : Reached) : Reached :=
  { reached with findings := finding :: reached.findings }

end Reached

/-- Reports the rejected files among some findings on a sink. -/
def Sink.diagnose (sink : Sink) : List Finding → Reached
  | [] => ⟨[], sink, none⟩
  | finding :: more =>
    match finding.pieces? with
    | none => (sink.diagnose more).after finding
    | some pieces =>
      match sink.writeAll (pieces.map utf8) with
      | (sink, .error error) => ⟨[finding], sink, some error⟩
      | (sink, .ok ()) => (sink.diagnose more).after finding

end ConformanceReport
