import ConformanceReport.Proofs.Summary.Sorting

/-!
# What sorting keeps

Sorting keeps the outcomes of each case in their order. Two lists that agree in this are the same
once they are sorted (`SameByCase.sortByCase_eq`), and there is one sorted list among them
(`SameByCase.eq_sortByCase`). So it is not seen in the end whether outcomes were sorted before some
of them were taken out or more were appended.
-/

namespace ConformanceReport

/-- Two lists hold the same outcomes of each case, in the same order. -/
def SameByCase (left right : List Outcome) : Prop :=
  ∀ caseId, ofCase caseId left = ofCase caseId right

/-! ## Outcomes of one case -/

/-- An outcome in front is the first one of its case. -/
theorem ofCase_cons_self (outcome : Outcome) (more : List Outcome) :
    ofCase outcome.caseId (outcome :: more) = outcome :: ofCase outcome.caseId more :=
  List.filter_cons_of_pos (decide_eq_true rfl)

/-- An outcome in front is none of another case. -/
theorem ofCase_cons_of_ne {outcome : Outcome} {caseId : CaseId} (other : outcome.caseId ≠ caseId)
    (more : List Outcome) : ofCase caseId (outcome :: more) = ofCase caseId more :=
  List.filter_cons_of_neg (by simpa using other)

/-- An outcome is among some exactly if it is among those of its case. -/
theorem mem_ofCase_self {outcome : Outcome} {outcomes : List Outcome} :
    outcome ∈ ofCase outcome.caseId outcomes ↔ outcome ∈ outcomes :=
  mem_ofCase.trans (and_iff_left rfl)

/-- The outcomes of one case among more are those among each part. -/
theorem ofCase_append (caseId : CaseId) (left right : List Outcome) :
    ofCase caseId (left ++ right) = ofCase caseId left ++ ofCase caseId right :=
  List.filter_append left right

/-- The outcomes of one case may be taken before others are taken out or after it. -/
theorem ofCase_filter (caseId : CaseId) (keeps : Outcome → Bool) (outcomes : List Outcome) :
    ofCase caseId (outcomes.filter keeps) = (ofCase caseId outcomes).filter keeps := by
  unfold ofCase
  rw [List.filter_filter, List.filter_filter]
  congr 1
  funext outcome
  exact Bool.and_comm _ _

namespace SameByCase

variable {left right : List Outcome}

/-- A list holds the same outcomes of each case as itself. -/
theorem refl (outcomes : List Outcome) : SameByCase outcomes outcomes :=
  fun _ => rfl

/-- Lists that hold the same outcomes of each case do so either way round. -/
theorem symm (same : SameByCase left right) : SameByCase right left :=
  fun caseId => (same caseId).symm

/-- Lists that hold the same outcomes of each case as a third one hold the same as each other. -/
theorem trans {middle : List Outcome} (first : SameByCase left middle)
    (second : SameByCase middle right) : SameByCase left right :=
  fun caseId => (first caseId).trans (second caseId)

/-- Lists that hold the same outcomes of each case hold the same outcomes. -/
theorem mem_iff (same : SameByCase left right) {outcome : Outcome} :
    outcome ∈ left ↔ outcome ∈ right := by
  rw [← mem_ofCase_self, same, mem_ofCase_self]

/-- Without a common outcome in front, lists still hold the same outcomes of each case. -/
theorem tail {first : Outcome} (same : SameByCase (first :: left) (first :: right)) :
    SameByCase left right := by
  intro caseId
  have front := same caseId
  by_cases isCase : first.caseId = caseId
  · subst isCase
    rw [ofCase_cons_self, ofCase_cons_self] at front
    exact (List.cons.inj front).2
  · rwa [ofCase_cons_of_ne isCase, ofCase_cons_of_ne isCase] at front

/-- Lists that hold the same outcomes of each case may be continued by such lists. -/
theorem append {more others : List Outcome} (same : SameByCase left right)
    (sameMore : SameByCase more others) : SameByCase (left ++ more) (right ++ others) := by
  intro caseId
  rw [ofCase_append, ofCase_append, same caseId, sameMore caseId]

/-- Lists that hold the same outcomes of each case may be filtered. -/
theorem filter (same : SameByCase left right) (keeps : Outcome → Bool) :
    SameByCase (left.filter keeps) (right.filter keeps) := by
  intro caseId
  rw [ofCase_filter, ofCase_filter, same caseId]

end SameByCase

/-- Only the cases of outcomes in either list need to be looked at. -/
theorem sameByCase_iff_forall_mem {left right : List Outcome} :
    SameByCase left right ↔ ∀ outcome ∈ left ++ right,
      ofCase outcome.caseId left = ofCase outcome.caseId right := by
  constructor
  · exact fun same outcome _ => same outcome.caseId
  · intro same caseId
    by_cases occurs : ∃ outcome ∈ left ++ right, outcome.caseId = caseId
    · obtain ⟨outcome, member, rfl⟩ := occurs
      exact same outcome member
    · have neither : ofCase caseId (left ++ right) = [] :=
        List.filter_eq_nil_iff.mpr fun outcome member isCase =>
          occurs ⟨outcome, member, of_decide_eq_true isCase⟩
      rw [ofCase_append, List.append_eq_nil_iff] at neither
      rw [neither.1, neither.2]

instance (left right : List Outcome) : Decidable (SameByCase left right) :=
  decidable_of_iff _ sameByCase_iff_forall_mem.symm

/-- Sorting keeps the outcomes of each case in their order. -/
theorem sameByCase_sortByCase (outcomes : List Outcome) :
    SameByCase (sortByCase outcomes) outcomes :=
  ofCase_sortByCase outcomes

/-! ## Sorted lists -/

/-- The first of some sorted outcomes may precede each of them. -/
theorem mayPrecede_of_mem_cons {first outcome : Outcome} {more : List Outcome}
    (sorted : (first :: more).Pairwise fun left right => left.mayPrecede right = true)
    (member : outcome ∈ first :: more) : first.mayPrecede outcome = true := by
  rcases List.mem_cons.mp member with rfl | later
  · exact Outcome.mayPrecede_of_caseId_eq rfl
  · exact (List.pairwise_cons.mp sorted).1 outcome later

namespace SameByCase

variable {left right : List Outcome}

/-- A sorted list is known by the outcomes of each case in it. -/
theorem eq_of_pairwise (same : SameByCase left right)
    (sortedLeft : left.Pairwise fun first second => first.mayPrecede second = true)
    (sortedRight : right.Pairwise fun first second => first.mayPrecede second = true) :
    left = right := by
  induction left generalizing right with
  | nil =>
    cases right with
    | nil => rfl
    | cons second others => exact absurd (same.mem_iff.mpr List.mem_cons_self) List.not_mem_nil
  | cons first more inductionHypothesis =>
    cases right with
    | nil => exact absurd (same.mem_iff.mp List.mem_cons_self) List.not_mem_nil
    | cons second others =>
      -- Each list holds the first outcome of the other one, so neither of the two comes later.
      have sameCase : first.caseId = second.caseId := by
        apply Outcome.caseId_eq_of_mayPrecede
        · exact mayPrecede_of_mem_cons sortedLeft (same.mem_iff.mpr List.mem_cons_self)
        · exact mayPrecede_of_mem_cons sortedRight (same.mem_iff.mp List.mem_cons_self)
      have fronts := same first.caseId
      rw [ofCase_cons_self, sameCase, ofCase_cons_self] at fronts
      obtain rfl : first = second := (List.cons.inj fronts).1
      rw [inductionHypothesis same.tail (List.pairwise_cons.mp sortedLeft).2
        (List.pairwise_cons.mp sortedRight).2]

/-- The sorted list among those that hold the same outcomes of each case is the one that sorting
makes. -/
theorem eq_sortByCase (same : SameByCase left right)
    (sorted : left.Pairwise fun first second => first.mayPrecede second = true) :
    left = sortByCase right :=
  (same.trans (sameByCase_sortByCase right).symm).eq_of_pairwise sorted (pairwise_sortByCase right)

/-- Lists that hold the same outcomes of each case are sorted alike. -/
theorem sortByCase_eq (same : SameByCase left right) : sortByCase left = sortByCase right :=
  ((sameByCase_sortByCase left).trans same).eq_sortByCase (pairwise_sortByCase left)

/-- Lists that hold the same outcomes of each case are arrangements of each other. -/
theorem perm (same : SameByCase left right) : left.Perm right := by
  have sorted := sortByCase_perm left
  rw [same.sortByCase_eq] at sorted
  exact sorted.symm.trans (sortByCase_perm right)

end SameByCase

/-- Outcomes may be taken out before sorting or after it. -/
theorem filter_sortByCase (keeps : Outcome → Bool) (outcomes : List Outcome) :
    (sortByCase outcomes).filter keeps = sortByCase (outcomes.filter keeps) :=
  ((sameByCase_sortByCase outcomes).filter keeps).eq_sortByCase
    ((pairwise_sortByCase outcomes).filter keeps)

end ConformanceReport
