import Mathlib.Algebra.GroupWithZero.Nat
import Mathlib.Algebra.BigOperators.Group.Finset.Piecewise
import Mathlib.Data.List.Dedup
import ConformanceReport.Config.Basic
import ConformanceReport.Proofs.Summary.Classification

/-!
# Labels and the behaviors that they stand for

Different labels stand for different behaviors (`Behavior.ofLabel_inj`), so it is the same to
classify outcomes by their labels and by their behaviors (`Summary.classified_by_behavior`), and the
counts of behaviors are a histogram of the labels as they were reported (`Counts.histogram`).
-/

namespace ConformanceReport

namespace Behavior

/-- Different labels stand for different behaviors. -/
theorem ofLabel_inj {left right : String} : ofLabel left = ofLabel right ↔ left = right := by
  constructor
  · intro same
    rw [← label_ofLabel left, same, label_ofLabel]
  · rintro rfl
    rfl

/-- The behaviors with a label of their own, as they are declared. -/
def known : List Behavior :=
  [.ok, .nonStrict, .informational, .failed, .wrongCode, .unimplemented, .unclean]

/-- The known behaviors are declared in their order. -/
theorem pairwise_known : known.Pairwise fun left right => left.order right = .lt := by
  decide

/-- The label of a behavior that is not known. -/
def otherLabel? : Behavior → Option String
  | .other label => some label
  | _ => none

/-- A behavior is not known exactly if it is kept by its label. -/
theorem otherLabel?_eq_some_iff {behavior : Behavior} {label : String} :
    behavior.otherLabel? = some label ↔ behavior = .other label := by
  cases behavior <;> simp [otherLabel?]

/-- Every behavior is known or kept by its label. -/
theorem mem_known_or_eq_other (behavior : Behavior) :
    behavior ∈ known ∨ ∃ label, behavior = .other label := by
  cases behavior with
  | other label => exact .inr ⟨label, rfl⟩
  | _ => exact .inl (by decide)

/-- A behavior that is kept by its label is not known. -/
theorem other_not_mem_known (label : String) : other label ∉ known := by
  simp [known]

/-- The label of a known behavior stands for it. -/
theorem ofLabel_label_of_mem_known {behavior : Behavior} (isKnown : behavior ∈ known) :
    ofLabel behavior.label = behavior := by
  revert behavior
  decide

/-- Known behaviors come before all that are kept by their labels. -/
theorem order_other_of_mem_known {behavior : Behavior} (isKnown : behavior ∈ known)
    (label : String) : behavior.order (.other label) = .lt := by
  have isLess : compare behavior.rank 7 = .lt := by
    revert behavior
    decide
  rw [order, rank, isLess, Ordering.lt_then]

/-- Behaviors that are kept by their labels are ordered by the bytes of these. -/
theorem order_other_other (left right : String) :
    (other left).order (.other right) = compare (utf8 left) (utf8 right) := rfl

/-- Two lists of behaviors in their order are the same if they have the same elements. -/
theorem eq_of_pairwise_of_mem_iff {left right : List Behavior}
    (isLeft : left.Pairwise fun first second => first.order second = .lt)
    (isRight : right.Pairwise fun first second => first.order second = .lt)
    (same : ∀ behavior, behavior ∈ left ↔ behavior ∈ right) : left = right := by
  have arranged : left.Perm right :=
    (List.perm_ext_iff_of_nodup (isLeft.imp ne_of_order_eq_lt)
      (isRight.imp ne_of_order_eq_lt)).mpr same
  refine arranged.eq_of_pairwise ?_ isLeft isRight
  intro first second _ _ isLess isGreater
  rw [Std.OrientedCmp.gt_iff_lt.mpr isLess] at isGreater
  cases isGreater

/-- Behaviors in their order are the known ones among them, as they are declared, and then those
that are kept by their labels, by the bytes of these. -/
theorem eq_known_append_other {behaviors : List Behavior}
    (ordered : behaviors.Pairwise fun left right => left.order right = .lt) :
    ∃ labels : List String,
      behaviors = known.filter (· ∈ behaviors) ++ labels.map .other ∧
        labels.Pairwise fun left right => compare (utf8 left) (utf8 right) = .lt := by
  have orderedLabels : (behaviors.filterMap otherLabel?).Pairwise fun left right =>
      compare (utf8 left) (utf8 right) = .lt := by
    apply ordered.filterMap
    intro left right isLess leftLabel isLeft rightLabel isRight
    rw [otherLabel?_eq_some_iff] at isLeft isRight
    rwa [isLeft, isRight, order_other_other] at isLess
  refine ⟨behaviors.filterMap otherLabel?, ?_, orderedLabels⟩
  apply eq_of_pairwise_of_mem_iff ordered
  · apply List.pairwise_append.mpr
    refine ⟨pairwise_known.filter _, List.pairwise_map.mpr orderedLabels, ?_⟩
    intro left isLeft right isRight
    obtain ⟨label, -, rfl⟩ := List.mem_map.mp isRight
    exact order_other_of_mem_known (List.mem_filter.mp isLeft).1 label
  · intro behavior
    simp only [List.mem_append, List.mem_filter, List.mem_map, List.mem_filterMap,
      otherLabel?_eq_some_iff, decide_eq_true_eq]
    constructor
    · intro member
      obtain isKnown | ⟨label, rfl⟩ := mem_known_or_eq_other behavior
      · exact .inl ⟨isKnown, member⟩
      · exact .inr ⟨label, ⟨_, member, rfl⟩, rfl⟩
    · rintro (⟨-, member⟩ | ⟨label, ⟨_, member, rfl⟩, rfl⟩)
      · exact member
      · exact member

end Behavior

/-- An outcome has the behavior that a label stands for exactly if it was reported with that
label. -/
theorem Outcome.behavior_eq_ofLabel_iff {outcome : Outcome} {label : String} :
    outcome.behavior = .ofLabel label ↔ outcome.label = label :=
  Behavior.ofLabel_inj

/-- An outcome is accepted exactly if its behavior is one of those that the accepted labels stand
for. -/
theorem Rules.accepts_iff_behavior {rules : Rules} {outcome : Outcome} :
    rules.accepts outcome = true ↔ outcome.behavior ∈ rules.passing.map .ofLabel := by
  rw [accepts_iff, List.mem_map]
  constructor
  · intro accepted
    exact ⟨outcome.label, accepted, rfl⟩
  · rintro ⟨label, accepted, same⟩
    rwa [Outcome.behavior_eq_ofLabel_iff.mp same.symm]

/-- The labels that are accepted by default stand for the behaviors that they are taken from. -/
theorem Rules.map_ofLabel_standard : Rules.standard.passing.map .ofLabel =
    Behavior.defaultPassing := by
  decide

/-- The occurrences of several behaviors are the outcomes that have one of them. -/
theorem sum_occurrences (selected : Finset Behavior) (outcomes : List Outcome) :
    ∑ behavior ∈ selected, occurrences behavior outcomes =
      outcomes.countP fun outcome => outcome.behavior ∈ selected := by
  induction outcomes with
  | nil => simp [occurrences]
  | cons first more inductionHypothesis =>
    simp only [occurrences, List.countP_cons, Finset.sum_add_distrib, decide_eq_true_eq,
      Finset.sum_ite_eq] at inductionHypothesis ⊢
    rw [inductionHypothesis]

namespace Counts

/-- What counts hold of a behavior, zero if it is not among them. -/
theorem getD_lookup_of (behavior : Behavior) (outcomes : List Outcome) :
    ((of outcomes).lookup behavior).getD 0 = occurrences behavior outcomes := by
  rw [lookup_of, told]
  split
  · next isZero => rw [isZero, Option.getD_none]
  · rfl

/-- The number of all occurrences is the sum of the counts. -/
theorem total_eq_sum (counts : Counts) : total counts = (counts.map Prod.snd).sum := by
  induction counts with
  | nil => rfl
  | cons first rest inductionHypothesis =>
    rw [total, inductionHypothesis, List.map_cons, List.sum_cons]

/-- The counted behaviors are those that occur. -/
theorem mem_map_fst_of_iff {behavior : Behavior} {outcomes : List Outcome} :
    behavior ∈ (of outcomes).map Prod.fst ↔ ∃ outcome ∈ outcomes, outcome.behavior = behavior := by
  have isCounted : behavior ∈ (of outcomes).map Prod.fst ↔
      (of outcomes).lookup behavior ≠ none := by
    rw [ne_eq, List.lookup_eq_none_iff, List.mem_map]
    simp only [bne_iff_ne, ne_eq, not_forall, not_not, exists_prop]
    exact exists_congr fun entry => and_congr_right fun _ => eq_comm
  have isTold (number : Nat) : told number ≠ none ↔ 0 < number := by
    cases number <;> simp [told]
  rw [isCounted, lookup_of, isTold, occurrences, List.countP_pos_iff]
  simp only [decide_eq_true_eq]

/-- The labels of the counted behaviors are those of the outcomes, each once. -/
theorem map_label_of_perm (outcomes : List Outcome) :
    ((of outcomes).map fun entry => entry.1.label).Perm (outcomes.map Outcome.label).dedup := by
  apply (List.perm_ext_iff_of_nodup (wellFormed_of outcomes).nodup_labels
    (List.nodup_dedup _)).mpr
  intro label
  have isCounted : label ∈ (of outcomes).map (fun entry => entry.1.label) ↔
      ∃ behavior ∈ (of outcomes).map Prod.fst, behavior.label = label := by
    simp
  rw [isCounted, List.mem_dedup, List.mem_map]
  constructor
  · rintro ⟨behavior, member, rfl⟩
    obtain ⟨outcome, isOutcome, rfl⟩ := mem_map_fst_of_iff.mp member
    exact ⟨outcome, isOutcome, (Behavior.label_ofLabel outcome.label).symm⟩
  · rintro ⟨outcome, isOutcome, rfl⟩
    exact ⟨outcome.behavior, mem_map_fst_of_iff.mpr ⟨outcome, isOutcome, rfl⟩,
      Behavior.label_ofLabel outcome.label⟩

/-- The counts of some outcomes are a histogram of their labels, exactly as reported. Each label
is counted under its own behavior, so none is merged with another spelling. Only behaviors that
occur are there, none under the label of a known one without being it. The known ones come first,
as they are declared, then the others by the bytes of their labels. The labels are those of the
outcomes, each once, and the counts sum to the number of outcomes. -/
theorem histogram (outcomes : List Outcome) :
    let counts := of outcomes
    let behaviors := counts.map Prod.fst
    (∀ label, (counts.lookup (.ofLabel label)).getD 0 =
        outcomes.countP fun outcome => outcome.label = label) ∧
      (∀ entry ∈ counts, 0 < entry.2 ∧ ∃ outcome ∈ outcomes, outcome.behavior = entry.1) ∧
      (∀ label, .other label ∈ behaviors → ∀ known ∈ Behavior.known, known.label ≠ label) ∧
      (behaviors.Pairwise fun left right => left.order right = .lt) ∧
      (∃ labels : List String,
        behaviors = Behavior.known.filter (· ∈ behaviors) ++ labels.map .other ∧
          labels.Pairwise fun left right => compare (utf8 left) (utf8 right) = .lt) ∧
      (behaviors.map Behavior.label).Perm (outcomes.map Outcome.label).dedup ∧
      (counts.map Prod.snd).sum = outcomes.length := by
  intro counts behaviors
  have wellFormed := wellFormed_of outcomes
  have ordered : behaviors.Pairwise fun left right => left.order right = .lt :=
    List.pairwise_map.mpr wellFormed.ordered
  refine ⟨?_, ?_, ?_, ordered, Behavior.eq_known_append_other ordered, ?_, ?_⟩
  · intro label
    rw [getD_lookup_of, occurrences]
    simp only [Outcome.behavior_eq_ofLabel_iff]
  · intro entry member
    exact ⟨wellFormed.positive entry member,
      mem_map_fst_of_iff.mp (List.mem_map_of_mem member)⟩
  · rintro label member known isKnown rfl
    obtain ⟨entry, isEntry, isOther⟩ := List.mem_map.mp member
    have isItself := wellFormed.known entry isEntry
    rw [isOther, Behavior.label, Behavior.ofLabel_label_of_mem_known isKnown] at isItself
    exact Behavior.other_not_mem_known _ (isItself ▸ isKnown)
  · rw [List.map_map]
    exact map_label_of_perm outcomes
  · rw [← total_eq_sum, total_of]

end Counts

namespace Summary

/-- It is the same to classify outcomes by their labels and by their behaviors: an outcome is
accepted exactly if its behavior is one of those that the accepted labels stand for, which by
default are the ones that count as a pass; and the failures and what is counted of those behaviors,
each once, are all outcomes. -/
theorem classified_by_behavior (rules : Rules) (outcomes : List Outcome) :
    let passing := rules.passing.map Behavior.ofLabel
    (∀ outcome, rules.accepts outcome = true ↔ outcome.behavior ∈ passing) ∧
      (∀ outcome, Policy.standard.rules.accepts outcome = true ↔
        outcome.behavior ∈ Behavior.defaultPassing) ∧
      (of outcomes rules).failures.length +
          ∑ behavior ∈ passing.toFinset, ((Counts.of outcomes).lookup behavior).getD 0 =
        (of outcomes rules).total := by
  intro passing
  refine ⟨fun outcome => Rules.accepts_iff_behavior, ?_, ?_⟩
  · intro outcome
    rw [← Rules.map_ofLabel_standard]
    exact Rules.accepts_iff_behavior
  · have selected : ∀ outcome : Outcome,
        (outcome.behavior ∈ passing.toFinset ↔ outcome.behavior.label ∈ rules.passing) := by
      intro outcome
      rw [List.mem_toFinset, ← Rules.accepts_iff_behavior, Rules.accepts_iff,
        Outcome.behavior, Behavior.label_ofLabel]
    have accepted :=
      Counts.total_filter_of (fun behavior => behavior.label ∈ rules.passing) outcomes
    simp only [Counts.getD_lookup_of, sum_occurrences, selected]
    rw [← accepted]
    exact length_failures_add_total outcomes rules

end Summary

end ConformanceReport
