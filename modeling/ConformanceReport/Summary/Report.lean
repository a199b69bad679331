import ConformanceReport.Output.Sink
import ConformanceReport.Summary.Basic

/-!
# Reports

A report is the text of a summary, written to a sink at once and flushed.
-/

namespace ConformanceReport

/-- Writes the report on some outcomes to a sink. Yields the summary if all of it was written. -/
def Sink.report (sink : Sink) (outcomes : List Outcome) (rules : Rules) :
    Sink × Except SinkError Summary :=
  let summary := Summary.of outcomes rules
  match sink.write (utf8 summary.text) with
  | (sink, .error error) => (sink, .error error)
  | (sink, .ok ()) =>
    match sink.flush with
    | (sink, .error error) => (sink, .error error)
    | (sink, .ok ()) => (sink, .ok summary)

end ConformanceReport
