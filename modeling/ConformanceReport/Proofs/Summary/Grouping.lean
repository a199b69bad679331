import ConformanceReport.Proofs.Summary.Stability

/-!
# The groups of sorted outcomes

Sorted outcomes are those of the lower cases, then those of one case as they came, then those of
the higher cases (`sortByCase_around`). So the outcomes of two cases stand in two groups, one
behind the other, also where both cases are shown alike (`groupedApart_of_order`). An order by
case and the order within each case leave one list, which is the sorted one
(`sortByCase_characterized`).
-/

namespace ConformanceReport

/-- No outcome is of a greater case than a later one. -/
def Ascending (outcomes : List Outcome) : Prop :=
  outcomes.Pairwise fun left right => left.caseId.order right.caseId ≠ .gt

instance (outcomes : List Outcome) : Decidable (Ascending outcomes) :=
  inferInstanceAs (Decidable (outcomes.Pairwise _))

/-- Outcomes ascend exactly if each may precede the later ones. -/
theorem ascending_iff {outcomes : List Outcome} :
    Ascending outcomes ↔
      outcomes.Pairwise fun left right => left.mayPrecede right = true := by
  simp only [Ascending, Outcome.mayPrecede, Ordering.isLE_iff_ne_gt, ne_eq]

/-! ## Outcomes around a case -/

/-- The outcomes of lower cases, as they came. -/
def below (bound : CaseId) (outcomes : List Outcome) : List Outcome :=
  outcomes.filter fun outcome => outcome.caseId.order bound = .lt

/-- The outcomes of higher cases, as they came. -/
def above (bound : CaseId) (outcomes : List Outcome) : List Outcome :=
  outcomes.filter fun outcome => bound.order outcome.caseId = .lt

/-- An outcome of a lower case is below, and no other. -/
theorem mem_below {bound : CaseId} {outcomes : List Outcome} {outcome : Outcome} :
    outcome ∈ below bound outcomes ↔ outcome ∈ outcomes ∧ outcome.caseId.order bound = .lt := by
  rw [below, List.mem_filter, decide_eq_true_iff]

/-- An outcome of a higher case is above, and no other. -/
theorem mem_above {bound : CaseId} {outcomes : List Outcome} {outcome : Outcome} :
    outcome ∈ above bound outcomes ↔ outcome ∈ outcomes ∧ bound.order outcome.caseId = .lt := by
  rw [above, List.mem_filter, decide_eq_true_iff]

/-- No outcome of a case is below it. -/
theorem below_cons_of_eq {bound : CaseId} {outcome : Outcome} (sameCase : outcome.caseId = bound)
    (more : List Outcome) : below bound (outcome :: more) = below bound more := by
  have isEq : outcome.caseId.order bound = .eq := by
    rw [sameCase]
    exact Std.ReflCmp.compare_self
  rw [below, List.filter_cons_of_neg (by simp [isEq]), ← below]

/-- No outcome of a case is above it. -/
theorem above_cons_of_eq {bound : CaseId} {outcome : Outcome} (sameCase : outcome.caseId = bound)
    (more : List Outcome) : above bound (outcome :: more) = above bound more := by
  have isEq : bound.order outcome.caseId = .eq := by
    rw [sameCase]
    exact Std.ReflCmp.compare_self
  rw [above, List.filter_cons_of_neg (by simp [isEq]), ← above]

/-- A choice among cases takes all outcomes of a case or none of them. -/
theorem ofCase_filter_caseId (keeps : CaseId → Prop) [DecidablePred keeps] (caseId : CaseId)
    (outcomes : List Outcome) :
    ofCase caseId (outcomes.filter fun outcome => keeps outcome.caseId) =
      if keeps caseId then ofCase caseId outcomes else [] := by
  rw [ofCase_filter]
  split
  case isTrue kept =>
    refine List.filter_eq_self.mpr fun outcome member => decide_eq_true ?_
    rwa [(mem_ofCase.mp member).2]
  case isFalse dropped =>
    refine List.filter_eq_nil_iff.mpr fun outcome member => ?_
    rwa [decide_eq_true_iff, (mem_ofCase.mp member).2]

/-- Below a bound stand all outcomes of a lower case and none of another one. -/
theorem ofCase_below (bound caseId : CaseId) (outcomes : List Outcome) :
    ofCase caseId (below bound outcomes) =
      if caseId.order bound = .lt then ofCase caseId outcomes else [] :=
  ofCase_filter_caseId (fun found => found.order bound = .lt) caseId outcomes

/-- Above a bound stand all outcomes of a higher case and none of another one. -/
theorem ofCase_above (bound caseId : CaseId) (outcomes : List Outcome) :
    ofCase caseId (above bound outcomes) =
      if bound.order caseId = .lt then ofCase caseId outcomes else [] :=
  ofCase_filter_caseId (fun found => bound.order found = .lt) caseId outcomes

/-- Splitting outcomes around a case keeps the outcomes of each case in their order. -/
theorem sameByCase_around (bound : CaseId) (outcomes : List Outcome) :
    SameByCase (below bound outcomes ++ ofCase bound outcomes ++ above bound outcomes)
      outcomes := by
  intro caseId
  have ofBound : ofCase caseId (ofCase bound outcomes) =
      if caseId = bound then ofCase caseId outcomes else [] :=
    ofCase_filter_caseId (fun found => found = bound) caseId outcomes
  have isBound : caseId = bound ↔ caseId.order bound = .eq :=
    Std.LawfulEqCmp.compare_eq_iff_eq.symm
  have turned : bound.order caseId = (caseId.order bound).swap := Std.OrientedCmp.eq_swap
  simp only [ofCase_append, ofCase_below, ofBound, ofCase_above, isBound, turned]
  -- One of the three parts holds all the outcomes of the case.
  cases caseId.order bound <;> simp

/-- A list that ascends to a case may be continued by one that ascends from it. -/
theorem pairwise_append_at (bound : CaseId) {left right : List Outcome}
    (sortedLeft : left.Pairwise fun first second => first.mayPrecede second = true)
    (sortedRight : right.Pairwise fun first second => first.mayPrecede second = true)
    (toBound : ∀ outcome ∈ left, (outcome.caseId.order bound).isLE = true)
    (fromBound : ∀ outcome ∈ right, (bound.order outcome.caseId).isLE = true) :
    (left ++ right).Pairwise fun first second => first.mayPrecede second = true := by
  refine List.pairwise_append.mpr ⟨sortedLeft, sortedRight, ?_⟩
  intro first isFirst second isSecond
  exact Std.TransCmp.isLE_trans (toBound first isFirst) (fromBound second isSecond)

/-- Outcomes are sorted around a case by sorting what is below it and what is above it. -/
theorem sortByCase_around (bound : CaseId) (outcomes : List Outcome) :
    sortByCase outcomes =
      sortByCase (below bound outcomes) ++ ofCase bound outcomes ++
        sortByCase (above bound outcomes) := by
  have isBelow : ∀ outcome ∈ sortByCase (below bound outcomes),
      (outcome.caseId.order bound).isLE = true :=
    fun outcome member => Ordering.isLE_of_eq_lt (mem_below.mp ((mem_sortByCase _).mp member)).2
  have isAbove : ∀ outcome ∈ sortByCase (above bound outcomes),
      (bound.order outcome.caseId).isLE = true :=
    fun outcome member => Ordering.isLE_of_eq_lt (mem_above.mp ((mem_sortByCase _).mp member)).2
  have atBound : ∀ outcome ∈ ofCase bound outcomes, outcome.caseId.order bound = .eq ∧
      bound.order outcome.caseId = .eq := by
    intro outcome member
    rw [(mem_ofCase.mp member).2]
    exact ⟨Std.ReflCmp.compare_self, Std.ReflCmp.compare_self⟩
  refine (SameByCase.eq_sortByCase (.trans ?_ (sameByCase_around bound outcomes)) ?_).symm
  · exact ((sameByCase_sortByCase _).append (.refl _)).append (sameByCase_sortByCase _)
  · refine pairwise_append_at bound ?_ (pairwise_sortByCase _) ?_ isAbove
    · exact pairwise_append_at bound (pairwise_sortByCase _) (pairwise_ofCase bound outcomes)
        isBelow fun outcome member => Ordering.isLE_of_eq_eq (atBound outcome member).2
    · exact List.forall_mem_append.mpr
        ⟨isBelow, fun outcome member => Ordering.isLE_of_eq_eq (atBound outcome member).1⟩

/-! ## The groups of two cases -/

/-- Sorted outcomes hold those of two cases as two groups, in the order in which they came; all
other outcomes are before, between and behind the groups. -/
def GroupedApart (lower upper : CaseId) (outcomes : List Outcome) : Prop :=
  ∃ before between after : List Outcome,
    sortByCase outcomes =
        before ++ ofCase lower outcomes ++ between ++ ofCase upper outcomes ++ after ∧
      ∀ outcome ∈ before ++ between ++ after,
        outcome.caseId ≠ lower ∧ outcome.caseId ≠ upper

/-- The outcomes of two different cases are in groups of their own, that of the lower case first. -/
theorem groupedApart_of_order {lower upper : CaseId} (isLower : lower.order upper = .lt)
    (outcomes : List Outcome) : GroupedApart lower upper outcomes := by
  have upperAbove : ofCase upper (above lower outcomes) = ofCase upper outcomes := by
    rw [ofCase_above, if_pos isLower]
  refine ⟨sortByCase (below lower outcomes), sortByCase (below upper (above lower outcomes)),
    sortByCase (above upper (above lower outcomes)), ?_, ?_⟩
  · rw [sortByCase_around lower outcomes, sortByCase_around upper (above lower outcomes),
      upperAbove]
    simp only [List.append_assoc]
  · intro outcome member
    simp only [List.mem_append, mem_sortByCase, mem_below, mem_above] at member
    rcases member with (⟨-, isBelow⟩ | ⟨⟨-, isAbove⟩, isBelow⟩) | ⟨⟨-, isAbove⟩, isAboveBoth⟩
    · have isBelowBoth := Std.TransCmp.lt_trans isBelow isLower
      exact ⟨ne_of_order_eq_lt isBelow, ne_of_order_eq_lt isBelowBoth⟩
    · exact ⟨(ne_of_order_eq_lt isAbove).symm, ne_of_order_eq_lt isBelow⟩
    · exact ⟨(ne_of_order_eq_lt isAbove).symm, (ne_of_order_eq_lt isAboveBoth).symm⟩

/-! ## What sorting is -/

/-- The sorted list is the one that ascends and holds the outcomes of each case in the order in
which they came. So sorting loses, repeats and joins nothing; the outcomes of two cases stay in
two groups, also those of a number and of a name that are shown alike; and outcomes that
ascend already stay as they are. -/
theorem sortByCase_characterized (outcomes : List Outcome) :
    (∀ arranged : List Outcome,
        arranged = sortByCase outcomes ↔ Ascending arranged ∧ SameByCase arranged outcomes) ∧
      (sortByCase outcomes).Perm outcomes ∧
      (∀ lower upper : CaseId, lower.order upper = .lt → GroupedApart lower upper outcomes) ∧
      (∀ (value : UInt64) (text : String), (CaseId.number value).shown = (CaseId.name text).shown →
        GroupedApart (.number value) (.name text) outcomes) ∧
      (Ascending outcomes → sortByCase outcomes = outcomes) := by
  refine ⟨fun arranged => ⟨?_, ?_⟩, sortByCase_perm outcomes,
    fun _ _ isLower => groupedApart_of_order isLower outcomes,
    fun _ _ _ => groupedApart_of_order rfl outcomes, fun ascending => ?_⟩
  · rintro rfl
    exact ⟨ascending_iff.mpr (pairwise_sortByCase outcomes), sameByCase_sortByCase outcomes⟩
  · rintro ⟨ascending, same⟩
    exact same.eq_sortByCase (ascending_iff.mp ascending)
  · exact ((SameByCase.refl outcomes).eq_sortByCase (ascending_iff.mp ascending)).symm

/-- Outcomes of the number 17 and of the name that shows it come out in two groups, each as it came,
and stay so when they are sorted again. -/
theorem sortByCase_shown_alike :
    let outcomes : List Outcome :=
      [⟨.name "17", "FAILED"⟩, ⟨.number 17, "OK"⟩, ⟨.name "17", "OK"⟩, ⟨.number 17, "FAILED"⟩,
        ⟨.number 3, "OK"⟩]
    let sorted : List Outcome :=
      [⟨.number 3, "OK"⟩, ⟨.number 17, "OK"⟩, ⟨.number 17, "FAILED"⟩, ⟨.name "17", "FAILED"⟩,
        ⟨.name "17", "OK"⟩]
    sortByCase outcomes = sorted ∧ sortByCase sorted = sorted ∧
      GroupedApart (.number 17) (.name "17") outcomes ∧
      GroupedApart (.number 3) (.number 17) outcomes := by
  intro outcomes sorted
  have ascending : Ascending sorted := by decide +kernel
  have same : SameByCase sorted outcomes := by decide +kernel
  obtain ⟨unique, -, grouped, shownAlike, -⟩ := sortByCase_characterized outcomes
  obtain ⟨-, -, -, -, kept⟩ := sortByCase_characterized sorted
  exact ⟨((unique sorted).mpr ⟨ascending, same⟩).symm, kept ascending, shownAlike 17 "17" rfl,
    grouped (.number 3) (.number 17) (by decide)⟩

end ConformanceReport
