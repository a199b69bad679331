import ConformanceReport.Arguments.Answer
import ConformanceReport.Log.Guarded
import ConformanceReport.Run.Failure
import ConformanceReport.Scan.Finding

/-!
# Events of a run

What a run does is told in events, from the start to the verdict or the failure that ended it.
Each event is a message of some level in the log.
-/

namespace ConformanceReport

/-- Something that happens in a run. -/
inductive Event where
  | started
  | arguments (given : Arguments)
  | configNamed (path : Path)
  | configFound
  | configAbsent
  | scanning (path : Path)
  | loaded (name : String) (outcome : Outcome)
  | rejected (name : String) (rejection : Rejection)
  | scanned (accepted refused : Nat)
  | counted (behavior : Behavior) (count : Nat)
  | verdict (judgment : Verdict) (failing total : Nat)
  | exitCode (code : UInt32)
  | failed (failure : Failure)

namespace Event

/-- What was found in a file, as an event. -/
def ofFinding : Finding → Event
  | .loaded name outcome => .loaded name outcome
  | .rejected name rejection => .rejected name rejection

/-- How grave an event is. -/
def level : Event → Log.Level
  | .started => .information
  | .arguments _ => .debugging
  | .configNamed _ => .information
  | .configFound => .information
  | .configAbsent => .debugging
  | .scanning _ => .information
  | .loaded _ _ => .debugging
  | .rejected _ _ => .debugging
  | .scanned _ _ => .information
  | .counted _ _ => .debugging
  | .verdict _ _ _ => .information
  | .exitCode _ => .warning
  | .failed _ => .error

/-- The message of an event. -/
def message : Event → String
  | .started => Arguments.programName ++ " v" ++ Arguments.programVersion
  | .arguments given => "Arguments: " ++ given.shown
  | .configNamed path => "Loading config from: " ++ path.shown
  | .configFound => "Loaded default config from " ++ Config.fileName
  | .configAbsent => "No config file found, using defaults"
  | .scanning path => "Scanning results in " ++ path.shown
  | .loaded name outcome => "Loaded " ++ name ++ " (" ++ outcome.shown ++ ")"
  | .rejected name rejection => "Rejected " ++ name ++ ": " ++ rejection.details
  | .scanned accepted refused =>
    "Loaded " ++ toString accepted ++ " results (" ++ toString refused ++ " rejected)"
  | .counted behavior count => behavior.label ++ ": " ++ toString count
  | .verdict judgment failing total =>
    "Verdict: " ++ judgment.name ++ " (" ++ toString failing ++ " of " ++ toString total
      ++ " cases failing)"
  | .exitCode code => "Conformance verdict failed (exit code " ++ toString code.toNat ++ ")"
  | .failed failure => "Report failed: " ++ failure.message

/-- The message of an event as it stands in the log. -/
def logged (event : Event) : String :=
  Log.guarded event.message

end Event

end ConformanceReport
