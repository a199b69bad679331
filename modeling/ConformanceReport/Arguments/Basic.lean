import ConformanceReport.Files.View
import ConformanceReport.Log.Level
import ConformanceReport.Text.Quoted

/-!
# Arguments of a run

What a command line asks for: the directory to report on, a configuration file if one is named,
how much to log, and whether a failed verdict is to show in the exit code.
-/

namespace ConformanceReport

/-- The arguments of a run. -/
structure Arguments where
  path : Path
  config : Option Path
  verbose : Bool
  quiet : Bool
  failOnVerdict : Bool
  deriving DecidableEq, Repr

namespace Arguments

/-- Whether the arguments can be followed: nobody asks for more and for less at once. -/
def areConsistent (arguments : Arguments) : Bool :=
  !(arguments.verbose && arguments.quiet)

/-- The complaint about arguments that cannot be followed. -/
def inconsistency : String := "Cannot use both --verbose and --quiet"

/-- The level of the log. Being quiet outweighs being verbose. -/
def logLevel (arguments : Arguments) : Log.Level :=
  if arguments.quiet then .error
  else if arguments.verbose then .debugging
  else .information

/-- A truth value in a log. -/
def shownFlag (flag : Bool) : String :=
  if flag then "true" else "false"

/-- The arguments in a log. -/
def shown (arguments : Arguments) : String :=
  let config := match arguments.config with
    | none => "None"
    | some path => "Some(" ++ Quoted.ofBytes path ++ ")"
  "Args \x7b path: " ++ Quoted.ofBytes arguments.path ++ ", config: " ++ config
    ++ ", verbose: " ++ shownFlag arguments.verbose ++ ", quiet: " ++ shownFlag arguments.quiet
    ++ ", fail_on_verdict: " ++ shownFlag arguments.failOnVerdict ++ " \x7d"

end Arguments

end ConformanceReport
