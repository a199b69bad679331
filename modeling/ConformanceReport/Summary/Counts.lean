import ConformanceReport.Outcome.Basic

/-!
# Counts of behaviors

How often each behavior occurs among some outcomes. Only behaviors that occur are counted, each
once, in their order.
-/

namespace ConformanceReport

/-- Behaviors in order, each with the number of its occurrences. -/
abbrev Counts := List (Behavior × Nat)

namespace Counts

/-- Counts one more occurrence of a behavior. -/
def add (behavior : Behavior) : Counts → Counts
  | [] => [(behavior, 1)]
  | (first, count) :: rest =>
    match behavior.order first with
    | .lt => (behavior, 1) :: (first, count) :: rest
    | .eq => (first, count + 1) :: rest
    | .gt => (first, count) :: add behavior rest

/-- The counts of the behaviors of some outcomes. -/
def of (outcomes : List Outcome) : Counts :=
  outcomes.foldl (fun counts outcome => add outcome.behavior counts) []

end Counts

end ConformanceReport
