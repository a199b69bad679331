import ConformanceReport.Arguments.Basic
import ConformanceReport.Scan.Filter
import ConformanceReport.Summary.Rules

/-!
# Configurations

A configuration says which files of a directory are result files, which labels pass, and whether a
failed verdict shows in the exit code.
-/

namespace ConformanceReport

/-- How a verdict is reached and whether it shows in the exit code. -/
structure Policy where
  rules : Rules
  failOnVerdict : Bool
  deriving DecidableEq, Repr

namespace Policy

/-- The policy where nothing is configured. -/
def standard : Policy := ⟨.standard, false⟩

end Policy

/-- All settings of a run. -/
structure Config where
  filter : Filter
  policy : Policy
  deriving DecidableEq, Repr

namespace Config

/-- The settings where nothing is configured. -/
def standard : Config := ⟨.standard, .standard⟩

/-- The settings after arguments are taken into account. They may ask for a failed verdict to show
in the exit code, but are never a reason to stop showing it. -/
def withArguments (config : Config) (arguments : Arguments) : Config :=
  { config with
    policy := { config.policy with
      failOnVerdict := config.policy.failOnVerdict || arguments.failOnVerdict } }

/-- Nothing else in arguments matters to the settings. -/
theorem withArguments_congr (config : Config) {first second : Arguments}
    (same : first.failOnVerdict = second.failOnVerdict) :
    config.withArguments first = config.withArguments second := by
  rw [withArguments, withArguments, same]

/-- The settings as a compact JSON object. -/
def written (config : Config) : String :=
  let labels := config.policy.rules.passing.map Json.writeText
  "\x7b\"scanner\":\x7b\"manifest_file\":" ++ Json.writeText config.filter.manifest
    ++ ",\"extension\":" ++ Json.writeText config.filter.extension
    ++ "\x7d,\"verdict\":\x7b\"passing_behaviors\":[" ++ ",".intercalate labels
    ++ "],\"fail_on_verdict\":" ++ (if config.policy.failOnVerdict then "true" else "false")
    ++ "\x7d\x7d"

end Config

end ConformanceReport
