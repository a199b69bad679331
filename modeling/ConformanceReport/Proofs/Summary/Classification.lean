import Mathlib.Data.List.Permutation
import ConformanceReport.Proofs.Summary.Histogram
import ConformanceReport.Proofs.Summary.Stability

/-!
# Which outcomes fail

The failures of a summary are picked from its sorted outcomes, and its verdict is taken over them.
Both say the same about outcomes in any order: the failures are those that carry no accepted label,
sorted, and the verdict is a pass exactly if there are none (`Summary.failures_and_verdict`). Of the
accepted labels it matters only which they are.
-/

namespace ConformanceReport

namespace Rules

variable {rules : Rules}

/-- An outcome is accepted exactly if its label is one of those that are. -/
theorem accepts_iff {outcome : Outcome} :
    rules.accepts outcome = true ↔ outcome.label ∈ rules.passing :=
  List.contains_iff_mem

/-- A verdict is a pass exactly if every outcome is accepted. -/
theorem verdict_eq_passed_iff {outcomes : List Outcome} :
    rules.verdict outcomes = .passed ↔ ∀ outcome ∈ outcomes, outcome.label ∈ rules.passing := by
  have isPassed : ∀ allPass, Verdict.ofAllPass allPass = .passed ↔ allPass = true := by decide
  rw [verdict, isPassed, List.all_eq_true]
  exact forall₂_congr fun outcome _ => accepts_iff

/-- Outcomes in another arrangement have the same verdict. -/
theorem verdict_of_perm {left right : List Outcome} (arranged : left.Perm right) :
    rules.verdict left = rules.verdict right :=
  congrArg Verdict.ofAllPass arranged.all_eq

/-- Outcomes pass together exactly if each part of them passes. -/
theorem verdict_append_eq_passed_iff {left right : List Outcome} :
    rules.verdict (left ++ right) = .passed ↔
      rules.verdict left = .passed ∧ rules.verdict right = .passed := by
  simp only [verdict_eq_passed_iff, List.forall_mem_append]

/-- Rules with the same labels accept the same outcomes. -/
theorem accepts_eq_of_labels {other : Rules}
    (sameLabels : ∀ label, label ∈ other.passing ↔ label ∈ rules.passing) :
    other.accepts = rules.accepts := by
  funext outcome
  rw [Bool.eq_iff_iff, accepts_iff, accepts_iff]
  exact sameLabels outcome.label

end Rules

namespace Summary

variable (outcomes : List Outcome) (rules : Rules)

/-- The failures are the outcomes whose label is not accepted, in the order of their cases. -/
theorem failures_of : (of outcomes rules).failures =
    sortByCase (outcomes.filter fun outcome => outcome.label ∉ rules.passing) := by
  have fails : (fun outcome => !rules.accepts outcome) =
      fun outcome : Outcome => decide (outcome.label ∉ rules.passing) := by
    funext outcome
    rw [Bool.eq_iff_iff, Bool.not_eq_true', ← Bool.not_eq_true, Rules.accepts_iff,
      decide_eq_true_iff]
  show (sortByCase outcomes).filter (fun outcome => !rules.accepts outcome) = _
  rw [fails, filter_sortByCase]

/-- The verdict does not depend on the order of the outcomes. -/
theorem verdict_of : (of outcomes rules).verdict = rules.verdict outcomes :=
  Rules.verdict_of_perm (sortByCase_perm outcomes)

/-- A summary has no failures exactly if every outcome is accepted. -/
theorem failures_eq_nil_iff :
    (of outcomes rules).failures = [] ↔ ∀ outcome ∈ outcomes, outcome.label ∈ rules.passing := by
  rw [failures_of, ← List.length_eq_zero_iff, (sortByCase_perm _).length_eq,
    List.length_eq_zero_iff, List.filter_eq_nil_iff]
  simp

/-- The failures and the outcomes that are counted under an accepted label are all outcomes. -/
theorem length_failures_add_total :
    (of outcomes rules).failures.length +
        Counts.total ((Counts.of outcomes).filter fun entry => entry.1.label ∈ rules.passing) =
      outcomes.length := by
  have accepted := Counts.total_filter_of (fun behavior => behavior.label ∈ rules.passing) outcomes
  rw [accepted, failures_of, (sortByCase_perm _).length_eq, ← List.countP_eq_length_filter,
    List.length_eq_countP_add_countP fun outcome => decide (outcome.label ∈ rules.passing),
    Nat.add_comm]
  simp [Outcome.behavior, Behavior.label_ofLabel]

/-- The failures of a summary are the outcomes that carry no accepted label, sorted; its outcomes
are the given ones, as many as its total; and its verdict is the one on the outcomes in any
arrangement, a pass exactly if there are no failures. Rules with the same labels, in whatever order
and however often each is given, change none of this. -/
theorem failures_and_verdict :
    let summary := of outcomes rules
    summary.failures =
        sortByCase (outcomes.filter fun outcome => outcome.label ∉ rules.passing) ∧
      summary.outcomes.Perm outcomes ∧
      summary.outcomes.length = summary.total ∧
      summary.verdict = rules.verdict outcomes ∧
      (∀ arranged : List Outcome, arranged.Perm outcomes →
        rules.verdict arranged = summary.verdict) ∧
      (summary.verdict = .passed ↔ summary.failures = []) ∧
      ∀ other : Rules, (∀ label, label ∈ other.passing ↔ label ∈ rules.passing) →
        (of outcomes other).failures = summary.failures ∧
          (of outcomes other).outcomes = summary.outcomes ∧
          (of outcomes other).total = summary.total ∧
          (of outcomes other).verdict = summary.verdict ∧
          other.verdict outcomes = rules.verdict outcomes := by
  intro summary
  refine ⟨failures_of outcomes rules, sortByCase_perm outcomes,
    (sortByCase_perm outcomes).length_eq, verdict_of outcomes rules, ?_, ?_, ?_⟩
  · intro arranged isPerm
    rw [Rules.verdict_of_perm isPerm]
    exact (verdict_of outcomes rules).symm
  · rw [failures_eq_nil_iff, verdict_of]
    exact Rules.verdict_eq_passed_iff
  · intro other sameLabels
    have accepted := Rules.accepts_eq_of_labels sameLabels
    have sameVerdict (some : List Outcome) : other.verdict some = rules.verdict some := by
      rw [Rules.verdict, Rules.verdict, accepted]
    refine ⟨?_, rfl, rfl, sameVerdict _, sameVerdict _⟩
    show (sortByCase outcomes).filter (fun outcome => !other.accepts outcome) =
      (sortByCase outcomes).filter fun outcome => !rules.accepts outcome
    rw [accepted]

/-- Two failures of one case stay in their order behind one of a lower number, and labels that are
given twice in another order pick the same ones. -/
theorem failures_in_order :
    let outcomes : List Outcome :=
      [⟨.name "a", "FAILED"⟩, ⟨.number 9, "OK"⟩, ⟨.name "a", "ok"⟩, ⟨.number 7, "UNCLEAN"⟩]
    let rules : Rules := ⟨["OK", "NON-STRICT"]⟩
    let other : Rules := ⟨["NON-STRICT", "OK", "NON-STRICT"]⟩
    (of outcomes rules).failures =
        [⟨.number 7, "UNCLEAN"⟩, ⟨.name "a", "FAILED"⟩, ⟨.name "a", "ok"⟩] ∧
      rules.verdict outcomes.reverse = .failed ∧
      (of outcomes other).failures = (of outcomes rules).failures := by
  intro outcomes rules other
  obtain ⟨isFailures, -, -, isVerdict, anyOrder, -, anyRules⟩ :=
    failures_and_verdict outcomes rules
  have isFailed : rules.verdict outcomes = .failed := by decide
  have sameLabels (label : String) : label ∈ other.passing ↔ label ∈ rules.passing := by
    simp only [other, rules, List.mem_cons, List.not_mem_nil, or_false]
    constructor
    · rintro (isNonStrict | isOk | isNonStrict)
      · exact .inr isNonStrict
      · exact .inl isOk
      · exact .inr isNonStrict
    · rintro (isOk | isNonStrict)
      · exact .inr (.inl isOk)
      · exact .inl isNonStrict
  refine ⟨isFailures.trans (by cbv), ?_, (anyRules other sameLabels).1⟩
  exact (anyOrder outcomes.reverse outcomes.reverse_perm).trans (isVerdict.trans isFailed)

end Summary

end ConformanceReport
