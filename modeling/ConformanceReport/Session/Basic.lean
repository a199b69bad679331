import ConformanceReport.Config.Load
import ConformanceReport.Summary.Basic
import ConformanceReport.Summary.Counts

/-!
# Sessions

A session gathers outcomes step by step, possibly from several scans, and changes its
configuration on the way. A configuration that cannot be loaded leaves the session as it was.
-/

namespace ConformanceReport

/-- The outcomes that were gathered so far, and the configuration. -/
structure Session where
  outcomes : List Outcome
  config : Config
  deriving DecidableEq, Repr

namespace Session

/-- A session with nothing in it. -/
def start : Session := ⟨[], .standard⟩

/-- A change of a session. -/
inductive Step where
  /-- Outcomes are added after those that are there. -/
  | append (outcomes : List Outcome)
  /-- The outcome at a place is taken out, if there is one. -/
  | remove (index : Nat)
  | clear
  | sort
  /-- The configuration is replaced, if loading one succeeded. -/
  | configure (loaded : Except Config.Failure Config)
  /-- Arguments are taken into account. -/
  | merge (arguments : Arguments)

/-- The session after a step. -/
def apply (session : Session) : Step → Session
  | .append outcomes => { session with outcomes := session.outcomes ++ outcomes }
  | .remove index => { session with outcomes := session.outcomes.eraseIdx index }
  | .clear => { session with outcomes := [] }
  | .sort => { session with outcomes := sortByCase session.outcomes }
  | .configure (.ok config) => { session with config }
  | .configure (.error _) => session
  | .merge arguments => { session with config := session.config.withArguments arguments }

/-- The session after some steps. -/
def applyAll (session : Session) (steps : List Step) : Session :=
  steps.foldl apply session

/-- The summary of the outcomes that were gathered. -/
def summary (session : Session) : Summary :=
  .of session.outcomes session.config.policy.rules

/-- The verdict on the outcomes that were gathered. -/
def verdict (session : Session) : Verdict :=
  session.config.policy.rules.verdict session.outcomes

/-- The exit code for the outcomes that were gathered. -/
def exitCode (session : Session) : UInt32 :=
  session.verdict.exitCode session.config.policy.failOnVerdict

/-- How often each behavior was gathered. -/
def counts (session : Session) : Counts :=
  .of session.outcomes

end Session

end ConformanceReport
