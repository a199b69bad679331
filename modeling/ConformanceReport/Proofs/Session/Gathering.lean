import ConformanceReport.Proofs.Summary.Classification
import ConformanceReport.Proofs.Summary.Histogram
import ConformanceReport.Session.Basic

/-!
# Outcomes gathered step by step

A session may sort its outcomes whenever it likes while more of them come in. Each step keeps the
outcomes of every case as they would be without sorting (`Step.Keeps.sameByCase`), so in the end a
summary is the same as that of all outcomes at once (`Session.gathered_summary`).
-/

namespace ConformanceReport

/-- Outcomes that are the same case by case have the same summary. -/
theorem SameByCase.summary_eq {left right : List Outcome} (same : SameByCase left right)
    (rules : Rules) : Summary.of left rules = Summary.of right rules := by
  rw [Summary.of, Summary.of, same.perm.length_eq, same.sortByCase_eq]

namespace Session

/-- The outcomes that a step adds to a session. -/
def Step.added : Step → List Outcome
  | .append outcomes => outcomes
  | _ => []

/-- A step takes no outcome away: it adds outcomes, sorts them, or is about the configuration. -/
inductive Step.Keeps : Step → Prop where
  | append (outcomes : List Outcome) : Keeps (.append outcomes)
  | sort : Keeps .sort
  | configure (loaded : Except Config.Failure Config) : Keeps (.configure loaded)
  | merge (arguments : Arguments) : Keeps (.merge arguments)

/-- A step that takes no outcome away leaves, case by case, the former outcomes and those that it
adds. -/
theorem Step.Keeps.sameByCase {step : Step} (keeps : step.Keeps) (session : Session) :
    SameByCase (session.apply step).outcomes (session.outcomes ++ step.added) := by
  have nothingAdded : SameByCase session.outcomes (session.outcomes ++ []) := by
    rw [List.append_nil]
    exact .refl session.outcomes
  cases keeps with
  | append outcomes => exact .refl _
  | sort => exact (sameByCase_sortByCase session.outcomes).trans nothingAdded
  | configure loaded => cases loaded <;> exact nothingAdded
  | merge arguments => exact nothingAdded

/-- Steps that take no outcome away leave, case by case, the former outcomes and all that they
add. -/
theorem sameByCase_applyAll (session : Session) {steps : List Step}
    (keep : ∀ step ∈ steps, step.Keeps) :
    SameByCase (session.applyAll steps).outcomes
      (session.outcomes ++ steps.flatMap Step.added) := by
  induction steps generalizing session with
  | nil =>
    rw [List.flatMap_nil, List.append_nil]
    exact .refl session.outcomes
  | cons step more inductionHypothesis =>
    obtain ⟨keepsFirst, keepMore⟩ := List.forall_mem_cons.mp keep
    have first := keepsFirst.sameByCase session
    have rest := inductionHypothesis (session.apply step) keepMore
    rw [List.flatMap_cons, ← List.append_assoc]
    exact rest.trans (first.append (.refl _))

/-- After steps that only append outcomes, sort them or change the configuration, the summary and
the counts are those of all outcomes in the order in which they came, without any sorting in
between. Outcomes that are joined pass exactly if both parts do, and their counts are the sums of
those of the parts. -/
theorem gathered_summary (session : Session) {steps : List Step}
    (keep : ∀ step ∈ steps, step.Keeps) (rules : Rules) (left right : List Outcome) :
    let gathered := (session.applyAll steps).outcomes
    let atOnce := session.outcomes ++ steps.flatMap Step.added
    (Summary.of gathered rules).total = (Summary.of atOnce rules).total ∧
      (Summary.of gathered rules).outcomes = (Summary.of atOnce rules).outcomes ∧
      (Summary.of gathered rules).failures = (Summary.of atOnce rules).failures ∧
      (Summary.of gathered rules).verdict = (Summary.of atOnce rules).verdict ∧
      (Summary.of gathered rules).text = (Summary.of atOnce rules).text ∧
      Counts.of gathered = Counts.of atOnce ∧
      (rules.verdict (left ++ right) = .passed ↔
        rules.verdict left = .passed ∧ rules.verdict right = .passed) ∧
      ∀ behavior, (Counts.of (left ++ right)).lookup behavior =
        Option.merge (· + ·) ((Counts.of left).lookup behavior)
          ((Counts.of right).lookup behavior) := by
  intro gathered atOnce
  have same : SameByCase gathered atOnce := sameByCase_applyAll session keep
  rw [same.summary_eq rules]
  refine ⟨rfl, rfl, rfl, rfl, rfl, Counts.of_perm same.perm, Rules.verdict_append_eq_passed_iff, ?_⟩
  intro behavior
  exact Counts.lookup_of_append behavior left right

/-- Two failures of one case come out in the order in which they came, though one of them was sorted
before. -/
theorem gathered_between_sorts :
    let asking : Arguments := ⟨utf8 "r", none, false, false, true⟩
    let steps : List Step :=
      [.append [⟨.name "b", "FAILED"⟩, ⟨.number 2, "OK"⟩], .sort, .merge asking,
        .append [⟨.name "b", "UNCLEAN"⟩, ⟨.name "a", "OK"⟩], .sort]
    (Summary.of (start.applyAll steps).outcomes .standard).outcomes =
        [⟨.number 2, "OK"⟩, ⟨.name "a", "OK"⟩, ⟨.name "b", "FAILED"⟩, ⟨.name "b", "UNCLEAN"⟩] ∧
      (Counts.of (start.applyAll steps).outcomes).lookup .ok = some 2 := by
  intro asking steps
  have keep : ∀ step ∈ steps, step.Keeps := by
    simp only [steps, List.forall_mem_cons, List.not_mem_nil, false_implies, implies_true, and_true]
    exact ⟨.append _, .sort, .merge asking, .append _, .sort⟩
  obtain ⟨-, sameOutcomes, -, -, -, sameCounts, -⟩ := gathered_summary start keep .standard [] []
  refine ⟨sameOutcomes.trans (by cbv), ?_⟩
  rw [sameCounts]
  decide +kernel

end Session

end ConformanceReport
