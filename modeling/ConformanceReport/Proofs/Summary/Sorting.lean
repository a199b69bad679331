import ConformanceReport.Proofs.Outcome.Order
import ConformanceReport.Summary.Basic

/-!
# Outcomes in the order of their cases

Sorting moves outcomes of different cases past each other and nothing else: the result is ordered
(`pairwise_sortByCase`), and the outcomes of one case stay in the order in which they came
(`ofCase_sortByCase`).
-/

namespace ConformanceReport

/-- What may precede an outcome may precede all that this one may precede. -/
theorem Outcome.mayPrecede_trans (first second third : Outcome)
    (left : first.mayPrecede second = true) (right : second.mayPrecede third = true) :
    first.mayPrecede third = true :=
  Std.TransCmp.isLE_trans left right

/-- Of two outcomes one may precede the other. -/
theorem Outcome.mayPrecede_total (left right : Outcome) :
    (left.mayPrecede right || right.mayPrecede left) = true := by
  rw [Bool.or_eq_true]
  exact CaseId.order_total left.caseId right.caseId

/-- Outcomes of the same case may precede each other. -/
theorem Outcome.mayPrecede_of_caseId_eq {left right : Outcome}
    (sameCase : left.caseId = right.caseId) : left.mayPrecede right = true := by
  rw [mayPrecede, sameCase]
  exact Std.ReflCmp.isLE_rfl

/-- Only outcomes of the same case may precede each other. -/
theorem Outcome.caseId_eq_of_mayPrecede {left right : Outcome}
    (precedes : left.mayPrecede right = true) (follows : right.mayPrecede left = true) :
    left.caseId = right.caseId :=
  CaseId.eq_of_isLE precedes follows

/-- The outcomes of one case, in order. -/
def ofCase (caseId : CaseId) (outcomes : List Outcome) : List Outcome :=
  outcomes.filter fun outcome => outcome.caseId = caseId

/-- The outcomes of one case are those among all that carry it. -/
theorem mem_ofCase {caseId : CaseId} {outcomes : List Outcome} {outcome : Outcome} :
    outcome ∈ ofCase caseId outcomes ↔ outcome ∈ outcomes ∧ outcome.caseId = caseId := by
  rw [ofCase, List.mem_filter, decide_eq_true_iff]

/-- Outcomes of one case are ordered as they are. -/
theorem pairwise_ofCase (caseId : CaseId) (outcomes : List Outcome) :
    (ofCase caseId outcomes).Pairwise fun left right => left.mayPrecede right = true := by
  refine List.pairwise_of_forall_mem_list fun left isLeft right isRight => ?_
  rw [mem_ofCase] at isLeft isRight
  exact Outcome.mayPrecede_of_caseId_eq (isLeft.2.trans isRight.2.symm)

variable (outcomes : List Outcome)

/-- Sorting loses nothing and adds nothing. -/
theorem sortByCase_perm : (sortByCase outcomes).Perm outcomes :=
  List.mergeSort_perm outcomes Outcome.mayPrecede

/-- What is sorted is what came. -/
theorem mem_sortByCase {outcome : Outcome} :
    outcome ∈ sortByCase outcomes ↔ outcome ∈ outcomes :=
  (sortByCase_perm outcomes).mem_iff

/-- Sorted outcomes are ordered. -/
theorem pairwise_sortByCase :
    (sortByCase outcomes).Pairwise fun left right => left.mayPrecede right = true :=
  List.pairwise_mergeSort Outcome.mayPrecede_trans Outcome.mayPrecede_total outcomes

/-- The outcomes of one case stay in the order in which they came. -/
theorem ofCase_sortByCase (caseId : CaseId) :
    ofCase caseId (sortByCase outcomes) = ofCase caseId outcomes := by
  have kept : (ofCase caseId outcomes).Sublist (sortByCase outcomes) :=
    List.sublist_mergeSort Outcome.mayPrecede_trans Outcome.mayPrecede_total
      (pairwise_ofCase caseId outcomes) List.filter_sublist
  -- The part is kept in order, and no other outcome of the case can have joined it.
  have inside : (ofCase caseId outcomes).Sublist (ofCase caseId (sortByCase outcomes)) := by
    have filtered := kept.filter fun outcome => decide (outcome.caseId = caseId)
    simpa only [ofCase, List.filter_filter, Bool.and_self] using filtered
  have sameLength : (ofCase caseId (sortByCase outcomes)).length =
      (ofCase caseId outcomes).length :=
    ((sortByCase_perm outcomes).filter _).length_eq
  exact (inside.eq_of_length sameLength.symm).symm

end ConformanceReport
