import ConformanceReport.Config.Load
import ConformanceReport.Output.Sink

/-!
# Failures of a run

A run ends early if there is no usable configuration, if the directory cannot be listed, or if the
output is not taken.
-/

namespace ConformanceReport

/-- Why a run ended early. -/
inductive Failure where
  | config (failure : Config.Failure)
  | directory (path : Path) (error : OsError)
  | listing (path : Path) (error : OsError)
  | diagnostic (error : SinkError)
  | summary (error : SinkError)
  | flush (error : SinkError)

namespace Failure

/-- The wording of a failure. -/
def message : Failure → String
  | .config failure => failure.message
  | .directory path error =>
    "Failed to read results directory: " ++ path.shown ++ ": " ++ error.message
  | .listing path error =>
    "Failed to list results directory: " ++ path.shown ++ ": " ++ error.message
  | .diagnostic error => "Failed to write diagnostic: " ++ error.message
  | .summary error => "Failed to write summary: " ++ error.message
  | .flush error => "Failed to flush stdout: " ++ error.message

end Failure

end ConformanceReport
