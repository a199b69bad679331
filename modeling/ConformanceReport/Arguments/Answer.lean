import ConformanceReport.Arguments.Read
import ConformanceReport.Text.Printable

/-!
# Answers to a command line that asks for no run

Help and the version are printed for a reader; everything else is an error in the arguments. What
an error repeats of an argument is shown without the control functions in it.
-/

namespace ConformanceReport

namespace Arguments

/-- The name and version of the program. -/
def programVersion : String := "1.0.0"

/-- The name under which the program is called. -/
def programName : String := "autobahn-report"

/-- The lines with which every help text starts. -/
def helpHead : List String :=
  ["Summarizes Autobahn WebSocket conformance results into a pass/fail verdict",
    "",
    "Usage: autobahn-report [OPTIONS] --path <DIR>",
    "",
    "Options:"]

/-- The help text with one line for each option. -/
def shortHelp : List String :=
  ["  -p, --path <DIR>       Path to the folder containing result JSON files",
    "  -c, --config <FILE>    Path to configuration file",
    "  -v, --verbose          Enable verbose logging output",
    "  -q, --quiet            Run in quiet mode (errors only)",
    "      --fail-on-verdict  Exit with code 2 when any case failed",
    "  -h, --help             Print help (see more with '--help')",
    "  -V, --version          Print version"]

/-- The help text with a paragraph for each option. -/
def longHelp : List String :=
  ["  -p, --path <DIR>",
    "          Path to the folder containing result JSON files",
    "",
    "  -c, --config <FILE>",
    "          Path to configuration file",
    "          ",
    "          If not specified, looks for .autobahn-report.toml in the current directory",
    "",
    "  -v, --verbose",
    "          Enable verbose logging output",
    "",
    "  -q, --quiet",
    "          Run in quiet mode (errors only)",
    "",
    "      --fail-on-verdict",
    "          Exit with code 2 when any case failed",
    "          ",
    "          By default the verdict is only printed and the exit code is 0.",
    "",
    "  -h, --help",
    "          Print help (see a summary with '-h')",
    "",
    "  -V, --version",
    "          Print version"]

/-- Lines, each with an end. -/
def lines (content : List String) : String :=
  String.join (content.map fun line => line ++ "\n")

namespace Stop

/-- Whether the answer is what the command line asked for. -/
def isAnswer : Stop → Bool
  | .help _ => true
  | .version => true
  | _ => false

/-- The wording of an answer, filtered in some way. An error is worded without the end of the
line. -/
def wording (filter : Printable.Filter) : Stop → String
  | .help long => lines (helpHead ++ if long then longHelp else shortHelp)
  | .version => programName ++ " " ++ programVersion ++ "\n"
  | .missingPath =>
    "error: the following required arguments were not provided:\n  "
      ++ (Named.setting .path).shown
  | .missingValue setting =>
    "error: a value is required for '" ++ (Named.setting setting).shown
      ++ "' but none was supplied"
  | .unknown argument =>
    "error: unexpected argument '" ++ printable filter argument ++ "' found"
  | .repeated option =>
    "error: the argument '" ++ option.shown ++ "' cannot be used multiple times"
  | .unneededValue value option =>
    "error: unexpected value '" ++ printable filter value ++ "' for '" ++ option.shown
      ++ "' found; no more were expected"

/-- An answer as a text. -/
def message (stop : Stop) : String :=
  stop.wording .text

/-- An answer as it is written to an output. -/
def written (stop : Stop) : String :=
  stop.wording .stream

/-- The exit code: two for an error, zero for an answer. -/
def exitCode (stop : Stop) : UInt32 :=
  if stop.isAnswer then 0 else 2

end Stop

end Arguments

end ConformanceReport
