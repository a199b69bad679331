import ConformanceReport.Proofs.Outcome.Order
import ConformanceReport.Summary.Counts

/-!
# Counting in any order

Two occurrences are counted with the same result in either order (`add_comm`), so the counts of
outcomes do not depend on how these are arranged (`of_perm`).
-/

namespace ConformanceReport.Counts

/-- An occurrence of an earlier behavior may be counted before or after that of a later one. -/
theorem add_comm_of_lt {first second : Behavior} (isLess : first.order second = .lt)
    (counts : Counts) : add first (add second counts) = add second (add first counts) := by
  have isGreater : second.order first = .gt := Std.OrientedCmp.gt_iff_lt.mpr isLess
  induction counts with
  | nil => simp [add, isLess, isGreater]
  | cons entry rest inductionHypothesis =>
    obtain ⟨head, count⟩ := entry
    cases isSecond : second.order head with
    | lt =>
      have isFirst : first.order head = .lt := Std.TransCmp.lt_trans isLess isSecond
      simp [add, isFirst, isSecond, isLess, isGreater]
    | eq =>
      have isFirst : first.order head = .lt := Std.TransCmp.lt_of_lt_of_eq isLess isSecond
      simp [add, isFirst, isSecond, isGreater]
    | gt =>
      cases isFirst : first.order head with
      | lt => simp [add, isFirst, isSecond, isGreater]
      | eq => simp [add, isFirst, isSecond]
      | gt => simp [add, isFirst, isSecond, inductionHypothesis]

/-- Two occurrences may be counted in either order. -/
theorem add_comm (first second : Behavior) (counts : Counts) :
    add first (add second counts) = add second (add first counts) := by
  cases order : first.order second with
  | lt => exact add_comm_of_lt order counts
  | eq => rw [Std.LawfulEqCmp.eq_of_compare order]
  | gt => exact (add_comm_of_lt (Std.OrientedCmp.gt_iff_lt.mp order) counts).symm

/-- Outcomes in another arrangement have the same counts. -/
theorem of_perm {left right : List Outcome} (arranged : left.Perm right) : of left = of right :=
  arranged.foldl_eq' (fun _ _ _ _ counts => add_comm _ _ counts) []

end ConformanceReport.Counts
