import ConformanceReport.Run.Event
import ConformanceReport.Scan.Diagnostics
import ConformanceReport.Summary.Counts
import ConformanceReport.Summary.Report

/-!
# Runs

A run resolves the configuration, scans the directory, and reports on the outcomes. It ends with
an exit code or with the failure that stopped it; either way it tells what it did and what the
sink took.
-/

namespace ConformanceReport

/-- How a run, or a part of one, ended. -/
structure Ended where
  /-- What happened, in order. -/
  events : List Event
  sink : Sink
  result : Except Failure UInt32

namespace Ended

/-- Puts earlier events in front. -/
def after (events : List Event) (ended : Ended) : Ended :=
  { ended with events := events ++ ended.events }

end Ended

/-- The configuration that a run uses, before its arguments are taken into account: the one that
is named, or the one in the working directory, or the defaults. -/
def resolveConfig (arguments : Arguments) (files : FileView) :
    List Event × Except Failure Config :=
  match arguments.config with
  | some path =>
    ([.configNamed path], (Config.load files path).mapError .config)
  | none =>
    match Config.loadStandard? files with
    | .error failure => ([], .error (.config failure))
    | .ok (some config) => ([.configFound], .ok config)
    | .ok none => ([.configAbsent], .ok .standard)

/-- How a scan of a directory ended: the findings that it reached, the sink after that, and the
failure that stopped it, if any. -/
structure Scanned where
  findings : List Finding
  sink : Sink
  failure : Option Failure

/-- Scans the directory at a path. A report that the sink does not take stops the scan before an
error in the listing is seen. -/
def scanDirectory (path : Path) (filter : Filter) (files : FileView) (sink : Sink) : Scanned :=
  match files.list path with
  | .error error => ⟨[], sink, some (.directory path error)⟩
  | .ok listing =>
    let reached := sink.diagnose (Finding.all filter listing.entries)
    let failure := match reached.error with
      | some error => some (.diagnostic error)
      | none => listing.failure.map (.listing path)
    ⟨reached.findings, reached.sink, failure⟩

/-- What a scan tells: what it found in each file and, if nothing stopped it, the numbers of all. -/
def Scanned.events (scanned : Scanned) : List Event :=
  let found := scanned.findings.map Event.ofFinding
  match scanned.failure with
  | some _ => found
  | none =>
    let outcomes := outcomesOf scanned.findings
    let counted := (Counts.of outcomes).map fun (behavior, count) => .counted behavior count
    found ++ .scanned outcomes.length (diagnosticsOf scanned.findings).length :: counted

/-- How a scan ended, and the summary after it if it came to that. -/
structure Summarized where
  scanned : Scanned
  /-- The sink after the summary. -/
  sink : Sink
  result : Except Failure Summary

/-- Writes the summary of what a scan found, unless something stopped the scan. -/
def Scanned.summarize (scanned : Scanned) (rules : Rules) : Summarized :=
  match scanned.failure with
  | some failure => ⟨scanned, scanned.sink, .error failure⟩
  | none =>
    let (sink, reported) := scanned.sink.report (outcomesOf scanned.findings) rules
    ⟨scanned, sink, reported.mapError .summary⟩

/-- Scans a directory and writes the summary of what is found to the same sink. -/
def scanAndSummarize (path : Path) (config : Config) (files : FileView) (sink : Sink) :
    Summarized :=
  (scanDirectory path config.filter files sink).summarize config.policy.rules

/-- Ends a run after its summary: the sink is flushed once more, and the verdict gives the exit
code. -/
def Summarized.conclude (summarized : Summarized) (policy : Policy) : Ended :=
  let told := summarized.scanned.events
  match summarized.result with
  | .error failure => ⟨told, summarized.sink, .error failure⟩
  | .ok summary =>
    match summarized.sink.flush with
    | (sink, .error error) => ⟨told, sink, .error (.flush error)⟩
    | (sink, .ok ()) =>
      let code := summary.verdict.exitCode policy.failOnVerdict
      let judged := .verdict summary.verdict summary.failures.length summary.total
      let warning := if code = 0 then [] else [.exitCode code]
      ⟨told ++ judged :: warning, sink, .ok code⟩

/-- Scans a directory and reports on what is found. -/
def scanAndReport (path : Path) (config : Config) (files : FileView) (sink : Sink) : Ended :=
  ((scanAndSummarize path config files sink).conclude config.policy).after [.scanning path]

/-- A whole run with given arguments. -/
def run (arguments : Arguments) (files : FileView) (sink : Sink) : Ended :=
  let told := [.started, .arguments arguments]
  match resolveConfig arguments files with
  | (resolving, .error failure) => ⟨told ++ resolving, sink, .error failure⟩
  | (resolving, .ok config) =>
    (scanAndReport arguments.path (config.withArguments arguments) files sink).after
      (told ++ resolving)

end ConformanceReport
