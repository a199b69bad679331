import ConformanceReport.Proofs.Summary.Classification
import ConformanceReport.Proofs.Summary.Grouping
import ConformanceReport.Proofs.Text.Lines

/-!
# Summaries of outcomes in any arrangement

A directory is listed in no particular order. All that is counted or judged is the same for every
arrangement of the outcomes; their order in the summary is, exactly if outcomes of one case are
equal, and the text is, exactly if the lines on outcomes of one case may be swapped
(`Summary.arrangement`). That may be so for outcomes that differ, if their labels hold ends of lines
(`Summary.text_of_line_in_label`).
-/

namespace ConformanceReport

/-- Outcomes of the same case are equal. -/
def CasesAgree (outcomes : List Outcome) : Prop :=
  ∀ left ∈ outcomes, ∀ right ∈ outcomes, left.caseId = right.caseId → left = right

/-- The line on an outcome, with its end. -/
def Outcome.line (outcome : Outcome) : String :=
  outcome.shown ++ "\n"

/-- The lines on outcomes of the same case may be swapped. -/
def LinesCommute (outcomes : List Outcome) : Prop :=
  ∀ left ∈ outcomes, ∀ right ∈ outcomes, left.caseId = right.caseId →
    left.line ++ right.line = right.line ++ left.line

/-! ## Outcomes that came in another order -/

section Arranged

variable {left right : List Outcome} (arranged : left.Perm right)

include arranged

/-- Outcomes in another arrangement are the same ones when sorted. -/
theorem sortByCase_perm_of_perm : (sortByCase left).Perm (sortByCase right) :=
  ((sortByCase_perm left).trans arranged).trans (sortByCase_perm right).symm

/-- Where outcomes of one case are equal, there is one way to sort them. -/
theorem sortByCase_eq_of_perm (agree : CasesAgree right) : sortByCase left = sortByCase right := by
  refine List.Perm.eq_of_pairwise ?_ (pairwise_sortByCase left) (pairwise_sortByCase right)
    (sortByCase_perm_of_perm arranged)
  intro first second isFirst isSecond precedes follows
  refine agree first ?_ second ?_ (Outcome.caseId_eq_of_mayPrecede precedes follows)
  · exact arranged.mem_iff.mp ((mem_sortByCase left).mp isFirst)
  · exact (mem_sortByCase right).mp isSecond

end Arranged

/-! ## Outcomes of one case that differ -/

/-- Two outcomes of one case that came first stand in their order in front of the others of the
case. -/
theorem sortByCase_front {caseId : CaseId} {first second : Outcome}
    (isFirst : first.caseId = caseId) (isSecond : second.caseId = caseId) (rest : List Outcome) :
    sortByCase (first :: second :: rest) =
      sortByCase (below caseId rest) ++ (first :: second :: ofCase caseId rest) ++
        sortByCase (above caseId rest) := by
  have together : ofCase caseId (first :: second :: rest) =
      first :: second :: ofCase caseId rest := by
    simp [ofCase, isFirst, isSecond]
  rw [sortByCase_around caseId, together, below_cons_of_eq isFirst, below_cons_of_eq isSecond,
    above_cons_of_eq isFirst, above_cons_of_eq isSecond]

/-- Two different outcomes can be arranged in front in either order. -/
theorem exists_perm_front {outcomes : List Outcome} {left right : Outcome}
    (isLeft : left ∈ outcomes) (isRight : right ∈ outcomes) (differ : left ≠ right) :
    ∃ rest, (left :: right :: rest).Perm outcomes ∧ (right :: left :: rest).Perm outcomes := by
  have remains : right ∈ outcomes.erase left :=
    (List.mem_erase_of_ne differ.symm).mpr isRight
  have arranged : (left :: right :: (outcomes.erase left).erase right).Perm outcomes :=
    ((List.perm_cons_erase remains).symm.cons left).trans (List.perm_cons_erase isLeft).symm
  exact ⟨_, arranged, (List.Perm.swap left right _).trans arranged⟩

/-- What is the same of all arrangements when they are sorted is so in particular of two of them
that differ in the order of two outcomes of one case. -/
theorem exists_swap_of_forall_perm {α : Type} (view : List Outcome → α) {outcomes : List Outcome}
    (same : ∀ arranged : List Outcome, arranged.Perm outcomes →
      view (sortByCase arranged) = view (sortByCase outcomes))
    {left right : Outcome} (isLeft : left ∈ outcomes) (isRight : right ∈ outcomes)
    (sameCase : left.caseId = right.caseId) (differ : left ≠ right) :
    ∃ before after, view (before ++ left :: right :: after) =
      view (before ++ right :: left :: after) := by
  obtain ⟨rest, leftFirst, rightFirst⟩ := exists_perm_front isLeft isRight differ
  have swapped := (same _ leftFirst).trans (same _ rightFirst).symm
  rw [sortByCase_front sameCase rfl, sortByCase_front rfl sameCase] at swapped
  simp only [List.append_assoc, List.cons_append] at swapped
  exact ⟨_, _, swapped⟩

/-- If every arrangement is sorted alike, outcomes of one case are equal: two that differ would
keep the order in which they came. -/
theorem casesAgree_of_forall_perm {outcomes : List Outcome}
    (same : ∀ arranged : List Outcome, arranged.Perm outcomes →
      sortByCase arranged = sortByCase outcomes) : CasesAgree outcomes := by
  intro left isLeft right isRight sameCase
  refine Decidable.byContradiction fun differ => ?_
  obtain ⟨before, after, swapped⟩ :=
    exists_swap_of_forall_perm id same isLeft isRight sameCase differ
  exact differ (List.cons.inj (List.append_cancel_left swapped)).1

/-! ## Lines that may be swapped -/

/-- The lines on some outcomes, one after the other. -/
def linesOn (outcomes : List Outcome) : String :=
  String.join (outcomes.map Outcome.line)

@[simp] theorem linesOn_cons (outcome : Outcome) (more : List Outcome) :
    linesOn (outcome :: more) = outcome.line ++ linesOn more := by
  rw [linesOn, List.map_cons, String.join_cons, ← linesOn]

@[simp] theorem linesOn_append (first second : List Outcome) :
    linesOn (first ++ second) = linesOn first ++ linesOn second := by
  rw [linesOn, List.map_append, String.join_append, ← linesOn, ← linesOn]

/-- A line goes to the front past lines that it may be swapped with. -/
theorem linesOn_append_line {before : List Outcome} {outcome : Outcome}
    (swaps : ∀ other ∈ before, other.line ++ outcome.line = outcome.line ++ other.line) :
    linesOn before ++ outcome.line = outcome.line ++ linesOn before := by
  induction before with
  | nil => simp [linesOn]
  | cons other more inductionHypothesis =>
    obtain ⟨swapsOther, swapsMore⟩ := List.forall_mem_cons.mp swaps
    rw [linesOn_cons, String.append_assoc, inductionHypothesis swapsMore, ← String.append_assoc,
      swapsOther, String.append_assoc]

/-- If the lines of each case may be swapped, all ways to sort some outcomes make the same lines. -/
theorem linesOn_eq_of_perm {left right : List Outcome} (arranged : left.Perm right)
    (sortedLeft : left.Pairwise fun first second => first.mayPrecede second = true)
    (sortedRight : right.Pairwise fun first second => first.mayPrecede second = true)
    (commute : LinesCommute right) : linesOn left = linesOn right := by
  induction left generalizing right with
  | nil => rw [arranged.nil_eq]
  | cons first more inductionHypothesis =>
    obtain ⟨before, after, rfl⟩ :=
      List.append_of_mem (arranged.mem_iff.mp List.mem_cons_self)
    have arrangedMore : more.Perm (before ++ after) :=
      (arranged.trans List.perm_middle).cons_inv
    obtain ⟨isLeast, sortedMore⟩ := List.pairwise_cons.mp sortedLeft
    have isSublist : (before ++ after).Sublist (before ++ first :: after) :=
      (List.sublist_cons_self first after).append_left before
    have rest : linesOn more = linesOn (before ++ after) := by
      refine inductionHypothesis arrangedMore sortedMore (sortedRight.sublist isSublist) ?_
      intro left isLeft right isRight
      exact commute left (isSublist.subset isLeft) right (isSublist.subset isRight)
    -- What stands before the first outcome is of its case: it precedes and follows it.
    have swaps : ∀ other ∈ before, other.line ++ first.line = first.line ++ other.line := by
      intro other isBefore
      have precedes : other.mayPrecede first = true :=
        (List.pairwise_append.mp sortedRight).2.2 other isBefore first List.mem_cons_self
      have follows : first.mayPrecede other = true :=
        isLeast other (arrangedMore.mem_iff.mpr (List.mem_append_left after isBefore))
      exact commute other (List.mem_append_left _ isBefore) first
        (List.mem_append_right before List.mem_cons_self)
        (Outcome.caseId_eq_of_mayPrecede precedes follows)
    rw [linesOn_cons, rest, linesOn_append, linesOn_append, linesOn_cons, ← String.append_assoc,
      ← String.append_assoc, linesOn_append_line swaps]

/-- If every arrangement makes the same lines, those of each case may be swapped. -/
theorem linesCommute_of_forall_perm {outcomes : List Outcome}
    (same : ∀ arranged : List Outcome, arranged.Perm outcomes →
      linesOn (sortByCase arranged) = linesOn (sortByCase outcomes)) : LinesCommute outcomes := by
  intro left isLeft right isRight sameCase
  by_cases differ : left = right
  · rw [differ]
  obtain ⟨before, after, swapped⟩ :=
    exists_swap_of_forall_perm linesOn same isLeft isRight sameCase differ
  rw [linesOn_append, linesOn_append, String.append_right_inj] at swapped
  rw [linesOn_cons, linesOn_cons, linesOn_cons, linesOn_cons, ← String.append_assoc,
    ← String.append_assoc, String.append_left_inj] at swapped
  exact swapped

/-- A case and the line on its outcome tell what the outcome is. -/
theorem Outcome.eq_of_shown_eq {left right : Outcome} (sameCase : left.caseId = right.caseId)
    (sameLine : left.shown = right.shown) : left = right := by
  rw [shown, shown, sameCase, String.append_right_inj] at sameLine
  cases left
  cases right
  exact congr (congrArg _ sameCase) sameLine

/-- Equal outcomes have lines that may be swapped. -/
theorem CasesAgree.linesCommute {outcomes : List Outcome} (agree : CasesAgree outcomes) :
    LinesCommute outcomes := by
  intro left isLeft right isRight sameCase
  rw [agree left isLeft right isRight sameCase]

/-- Outcomes of one case that are on one line each and may be swapped are equal. -/
theorem LinesCommute.casesAgree {outcomes : List Outcome} (commute : LinesCommute outcomes)
    (oneLine : ∀ outcome ∈ outcomes, OneLine outcome.shown) : CasesAgree outcomes := by
  intro left isLeft right isRight sameCase
  have lines : [left.shown, right.shown] = [right.shown, left.shown] := by
    refine eq_of_join_ended_eq ?_ ?_ ?_
    · simp [oneLine left isLeft, oneLine right isRight]
    · simp [oneLine left isLeft, oneLine right isRight]
    · have swap := commute left isLeft right isRight sameCase
      simpa only [Outcome.line, List.map_cons, List.map_nil, String.join_cons, String.join_nil,
        String.append_empty] using swap
  exact Outcome.eq_of_shown_eq sameCase (List.cons.inj lines).1

/-! ## Summaries -/

namespace Summary

variable {left right : List Outcome} (arranged : left.Perm right) (rules : Rules)

include arranged

/-- Outcomes in another arrangement have the same verdict. -/
theorem verdict_of_perm : (of left rules).verdict = (of right rules).verdict :=
  Rules.verdict_of_perm (sortByCase_perm_of_perm arranged)

/-- Outcomes in another arrangement have as many failures. -/
theorem length_failures_of_perm :
    (of left rules).failures.length = (of right rules).failures.length :=
  ((sortByCase_perm_of_perm arranged).filter _).length_eq

/-- The texts on two arrangements differ in the lines on outcomes only. -/
theorem text_eq_iff_of_perm :
    (of left rules).text = (of right rules).text ↔
      linesOn (sortByCase left) = linesOn (sortByCase right) := by
  have sameTotal : (of left rules).total = (of right rules).total := arranged.length_eq
  unfold text
  rw [sameTotal, verdict_of_perm arranged rules, String.append_left_inj, String.append_left_inj,
    String.append_right_inj]
  exact Iff.rfl

end Summary

/-- The text is the same for all arrangements exactly if the lines of each case may be swapped. -/
theorem Summary.forall_text_eq_iff (outcomes : List Outcome) (rules : Rules) :
    (∀ arranged : List Outcome, arranged.Perm outcomes →
        (Summary.of arranged rules).text = (Summary.of outcomes rules).text) ↔
      LinesCommute outcomes := by
  constructor
  · intro same
    refine linesCommute_of_forall_perm fun arranged isPerm => ?_
    exact (text_eq_iff_of_perm isPerm rules).mp (same arranged isPerm)
  · intro commute arranged isPerm
    rw [text_eq_iff_of_perm isPerm]
    refine linesOn_eq_of_perm (sortByCase_perm_of_perm isPerm) (pairwise_sortByCase _)
      (pairwise_sortByCase _) ?_
    intro left isLeft right isRight
    exact commute left ((mem_sortByCase _).mp isLeft) right ((mem_sortByCase _).mp isRight)

/-- For every arrangement of some outcomes the summary has the same total, verdict and number of
failures, the exit code is the same whether or not a failed verdict is to show in it, and so are
the counts of behaviors. The outcomes of the summary are the same for all arrangements exactly if
outcomes of one case are equal. The text is the same for all of them exactly if the lines on
outcomes of one case may be swapped, which is so for equal outcomes, and for no others if each
outcome is on one line. -/
theorem Summary.arrangement (outcomes : List Outcome) (rules : Rules) :
    (∀ arranged : List Outcome, arranged.Perm outcomes →
      (Summary.of arranged rules).total = (Summary.of outcomes rules).total ∧
        (Summary.of arranged rules).verdict = (Summary.of outcomes rules).verdict ∧
        (Summary.of arranged rules).failures.length =
          (Summary.of outcomes rules).failures.length ∧
        (∀ failOnVerdict, (Summary.of arranged rules).verdict.exitCode failOnVerdict =
          (Summary.of outcomes rules).verdict.exitCode failOnVerdict) ∧
        Counts.of arranged = Counts.of outcomes) ∧
      ((∀ arranged : List Outcome, arranged.Perm outcomes →
          (Summary.of arranged rules).outcomes = (Summary.of outcomes rules).outcomes) ↔
        CasesAgree outcomes) ∧
      ((∀ arranged : List Outcome, arranged.Perm outcomes →
          (Summary.of arranged rules).text = (Summary.of outcomes rules).text) ↔
        LinesCommute outcomes) ∧
      (CasesAgree outcomes → LinesCommute outcomes) ∧
      ((∀ outcome ∈ outcomes, OneLine outcome.shown) →
        LinesCommute outcomes → CasesAgree outcomes) := by
  refine ⟨fun arranged isPerm => ?_, ⟨casesAgree_of_forall_perm, ?_⟩,
    forall_text_eq_iff outcomes rules, CasesAgree.linesCommute, ?_⟩
  · have sameVerdict := Summary.verdict_of_perm isPerm rules
    refine ⟨isPerm.length_eq, sameVerdict, length_failures_of_perm isPerm rules, ?_,
      Counts.of_perm isPerm⟩
    intro failOnVerdict
    rw [sameVerdict]
  · exact fun agree arranged isPerm => sortByCase_eq_of_perm isPerm agree
  · exact fun oneLine commute => commute.casesAgree oneLine

/-- A failure that came twice, around an outcome of a lower case, makes the same text as one that
came twice in a row. With another outcome of that case the text tells in which order they came. -/
theorem Summary.arrangement_of_repeated :
    let failed : Outcome := ⟨.name "b", "FAILED"⟩
    let unclean : Outcome := ⟨.name "b", "UNCLEAN"⟩
    let passed : Outcome := ⟨.number 2, "OK"⟩
    (Summary.of [failed, passed, failed] .standard).text =
        (Summary.of [failed, failed, passed] .standard).text ∧
      (Summary.of [failed, passed, failed] .standard).verdict =
        (Summary.of [failed, failed, passed] .standard).verdict ∧
      ¬ ∀ arranged : List Outcome, arranged.Perm [failed, passed, unclean] →
        (Summary.of arranged .standard).text =
          (Summary.of [failed, passed, unclean] .standard).text := by
  intro failed unclean passed
  have isPerm : [failed, passed, failed].Perm [failed, failed, passed] :=
    (List.Perm.swap failed passed []).cons failed
  have agree : CasesAgree [failed, failed, passed] := by unfold CasesAgree; decide
  have oneLine : ∀ outcome ∈ [failed, passed, unclean], OneLine outcome.shown := by decide
  obtain ⟨same, -, textSame, commute, -⟩ := arrangement [failed, failed, passed] .standard
  obtain ⟨-, -, textSame', -, agree'⟩ := arrangement [failed, passed, unclean] .standard
  refine ⟨textSame.mpr (commute agree) _ isPerm, (same _ isPerm).2.1, ?_⟩
  intro always
  have equal := agree' oneLine (textSame'.mp always) failed (by simp) unclean (by simp) rfl
  exact absurd equal (by decide)

/-- A label may go on with the line of another outcome. Such outcomes make the same text in either
order, though they differ. -/
theorem Summary.text_of_line_in_label :
    let short : Outcome := ⟨.name "a", "x"⟩
    let long : Outcome := ⟨.name "a", "x\nCase a: x"⟩
    (Summary.of [short, long] .standard).outcomes ≠ (Summary.of [long, short] .standard).outcomes ∧
      ¬ ((∀ arranged : List Outcome, arranged.Perm [short, long] →
          (Summary.of arranged .standard).text = (Summary.of [short, long] .standard).text) →
        CasesAgree [short, long]) := by
  intro short long
  have commute : LinesCommute [short, long] := by unfold LinesCommute; decide
  have differ : ¬ CasesAgree [short, long] := by unfold CasesAgree; decide
  refine ⟨by cbv; decide, fun conclude => differ (conclude ?_)⟩
  exact (forall_text_eq_iff _ _).mpr commute

end ConformanceReport
