import ConformanceReport.Files.View
import ConformanceReport.Outcome.Load
import ConformanceReport.Scan.Filter

/-!
# Findings of a scan

A scan looks at every entry of a directory whose name is that of a result file, and finds an
outcome or a reason why there is none. What it finds about one entry depends on that entry alone.
-/

namespace ConformanceReport

/-- Why a result file yields no outcome. -/
inductive Rejection where
  | unreadable (error : OsError)
  | malformed (refusal : Outcome.Malformed)

namespace Rejection

/-- The wording for a report. -/
def message : Rejection → String
  | .unreadable error => error.message
  | .malformed refusal => refusal.message

/-- The wording for a log, with all parts. -/
def details : Rejection → String
  | .unreadable error => "Read(" ++ error.details ++ ")"
  | .malformed refusal =>
    "Malformed(Error(" ++ Quoted.ofText refusal.defect.message ++ ", line: "
      ++ toString refusal.position.line ++ ", column: " ++ toString refusal.position.column
      ++ "))"

end Rejection

/-- What a scan finds in one result file. -/
inductive Finding where
  | loaded (name : String) (outcome : Outcome)
  | rejected (name : String) (rejection : Rejection)

namespace Finding

/-- The outcome in the content of a file, or the reason why there is none. -/
def judge (content : Except OsError Bytes) : Except Rejection Outcome :=
  match content with
  | .error error => .error (.unreadable error)
  | .ok content => (Outcome.load content).mapError .malformed

/-- What is found in a result file. -/
def of (entry : Entry) : Finding :=
  match judge entry.content with
  | .ok outcome => .loaded entry.shownName outcome
  | .error rejection => .rejected entry.shownName rejection

/-- The outcome that was found, if one was. -/
def outcome? : Finding → Option Outcome
  | .loaded _ outcome => some outcome
  | .rejected _ _ => none

/-- The line of a report about a file that was rejected, in the pieces in which it is written. -/
def pieces? : Finding → Option (List String)
  | .loaded _ _ => none
  | .rejected name rejection => some ["Error reading ", name, ": ", rejection.message, "\n"]

/-- The line of a report about a file that was rejected. -/
def diagnostic? (finding : Finding) : Option String :=
  finding.pieces?.map String.join

/-- What is found in the result files among some entries, in order. -/
def all (filter : Filter) (entries : List Entry) : List Finding :=
  (entries.filter fun entry => filter.accepts entry.shownName).map of

end Finding

/-- The outcomes among some findings, in order. -/
def outcomesOf (findings : List Finding) : List Outcome :=
  findings.filterMap Finding.outcome?

/-- The lines about the rejected files among some findings, in order. -/
def diagnosticsOf (findings : List Finding) : List String :=
  findings.filterMap Finding.diagnostic?

end ConformanceReport
