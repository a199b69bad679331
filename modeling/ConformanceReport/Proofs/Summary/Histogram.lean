import ConformanceReport.Proofs.Summary.Counts

/-!
# Counts as a histogram

Counting one more occurrence keeps counts well-formed (`WellFormed.add`) and changes the number of
that behavior only (`lookup_add`). So the counts of some outcomes tell of each behavior
how often it occurs (`lookup_of`), and those of selected behaviors sum to the number of outcomes
that have one of them (`total_filter_of`).
-/

namespace ConformanceReport

/-- The behavior of an outcome is the one that its own label stands for. -/
theorem Behavior.ofLabel_label_ofLabel (label : String) :
    ofLabel (ofLabel label).label = ofLabel label :=
  congrArg ofLabel (label_ofLabel label)

/-- How often a behavior occurs among some outcomes. -/
def occurrences (behavior : Behavior) (outcomes : List Outcome) : Nat :=
  outcomes.countP fun outcome => outcome.behavior = behavior

namespace Counts

/-- Counts as they come about: behaviors in their order, each once, with at least one occurrence,
and none that has the label of a known one without being it. -/
structure WellFormed (counts : Counts) : Prop where
  ordered : counts.Pairwise fun left right => left.1.order right.1 = .lt
  positive : ∀ entry ∈ counts, 0 < entry.2
  known : ∀ entry ∈ counts, Behavior.ofLabel entry.1.label = entry.1

/-- The number of all occurrences. -/
def total : Counts → Nat
  | [] => 0
  | (_, count) :: rest => count + total rest

/-- A number of occurrences as counts tell it: behaviors that do not occur are left out. -/
def told (number : Nat) : Option Nat :=
  if number = 0 then none else some number

/-! ## One more occurrence -/

/-- After counting there are the former entries and one for what was counted. -/
theorem mem_or_counted_of_mem_add {behavior : Behavior} {counts : Counts}
    {entry : Behavior × Nat} (member : entry ∈ add behavior counts) :
    entry ∈ counts ∨ entry.1 = behavior ∧ 0 < entry.2 := by
  induction counts with
  | nil =>
    obtain rfl := List.mem_singleton.mp member
    exact .inr ⟨rfl, Nat.one_pos⟩
  | cons first rest inductionHypothesis =>
    obtain ⟨head, count⟩ := first
    rw [add] at member
    cases place : behavior.order head with
    | lt =>
      simp only [place] at member
      rcases List.mem_cons.mp member with rfl | former
      · exact .inr ⟨rfl, Nat.one_pos⟩
      · exact .inl former
    | eq =>
      simp only [place] at member
      rcases List.mem_cons.mp member with rfl | former
      · exact .inr ⟨(Std.LawfulEqCmp.eq_of_compare place).symm, Nat.succ_pos count⟩
      · exact .inl (List.mem_cons_of_mem _ former)
    | gt =>
      simp only [place] at member
      rcases List.mem_cons.mp member with rfl | later
      · exact .inl List.mem_cons_self
      · exact (inductionHypothesis later).imp_left (List.mem_cons_of_mem _)

/-- Counting keeps the behaviors in their order. -/
theorem pairwise_add (behavior : Behavior) {counts : Counts}
    (ordered : counts.Pairwise fun left right => left.1.order right.1 = .lt) :
    (add behavior counts).Pairwise fun left right => left.1.order right.1 = .lt := by
  induction counts with
  | nil => exact List.pairwise_singleton _ _
  | cons first rest inductionHypothesis =>
    obtain ⟨head, count⟩ := first
    obtain ⟨before, orderedRest⟩ := List.pairwise_cons.mp ordered
    rw [add]
    cases place : behavior.order head with
    | lt =>
      apply List.pairwise_cons.mpr
      refine ⟨?_, ordered⟩
      intro entry member
      rcases List.mem_cons.mp member with rfl | later
      · exact place
      · exact Std.TransCmp.lt_trans place (before entry later)
    | eq => exact List.pairwise_cons.mpr ⟨before, orderedRest⟩
    | gt =>
      apply List.pairwise_cons.mpr
      refine ⟨?_, inductionHypothesis orderedRest⟩
      intro entry member
      rcases mem_or_counted_of_mem_add member with later | ⟨isCounted, -⟩
      · exact before entry later
      · rw [isCounted]
        exact Std.OrientedCmp.gt_iff_lt.mp place

/-- What counts hold of the selected behaviors, entry by entry. -/
theorem total_filter_cons (selects : Behavior → Bool) (head : Behavior) (count : Nat)
    (rest : Counts) :
    total (((head, count) :: rest).filter fun entry => selects entry.1) =
      (if selects head then count else 0) + total (rest.filter fun entry => selects entry.1) := by
  cases isSelected : selects head <;> simp [total, isSelected]

/-- Counting adds one to what counts hold of the selected behaviors, if it is one of them. -/
theorem total_filter_add (selects : Behavior → Bool) (behavior : Behavior) (counts : Counts) :
    total ((add behavior counts).filter fun entry => selects entry.1) =
      total (counts.filter fun entry => selects entry.1) + if selects behavior then 1 else 0 := by
  induction counts with
  | nil => exact (total_filter_cons selects behavior 1 []).trans (Nat.add_comm _ _)
  | cons first rest inductionHypothesis =>
    obtain ⟨head, count⟩ := first
    rw [add]
    cases place : behavior.order head with
    | lt => exact (total_filter_cons selects behavior 1 _).trans (Nat.add_comm _ _)
    | eq =>
      obtain rfl := Std.LawfulEqCmp.eq_of_compare place
      rw [total_filter_cons, total_filter_cons]
      split <;> omega
    | gt => rw [total_filter_cons, total_filter_cons, inductionHypothesis, Nat.add_assoc]

/-! ## The number of one behavior -/

/-- The number of a behavior is not found in the entry of another one. -/
theorem lookup_cons_of_ne {behavior head : Behavior} (differs : behavior ≠ head) (count : Nat)
    (rest : Counts) :
    List.lookup behavior ((head, count) :: rest) = rest.lookup behavior := by
  rw [List.lookup_cons, beq_eq_false_iff_ne.mpr differs]

/-- Nothing is found of a behavior before all that are counted. -/
theorem lookup_eq_none_of_lt {behavior : Behavior} {counts : Counts}
    (later : ∀ entry ∈ counts, behavior.order entry.1 = .lt) : counts.lookup behavior = none := by
  rw [List.lookup_eq_none_iff]
  intro entry member
  exact bne_iff_ne.mpr (ne_of_order_eq_lt (later entry member))

/-- Counting changes the number of what is counted, by one, and no other. -/
theorem lookup_add (behavior other : Behavior) {counts : Counts}
    (ordered : counts.Pairwise fun left right => left.1.order right.1 = .lt) :
    (add behavior counts).lookup other =
      if other = behavior then some ((counts.lookup behavior).getD 0 + 1)
      else counts.lookup other := by
  induction counts with
  | nil =>
    by_cases same : other = behavior
    · subst same
      simp [add]
    · rw [if_neg same, add, lookup_cons_of_ne same]
  | cons first rest inductionHypothesis =>
    obtain ⟨head, count⟩ := first
    obtain ⟨before, orderedRest⟩ := List.pairwise_cons.mp ordered
    rw [add]
    cases place : behavior.order head with
    | lt =>
      have absent : List.lookup behavior ((head, count) :: rest) = none := by
        apply lookup_eq_none_of_lt
        intro entry member
        rcases List.mem_cons.mp member with rfl | later
        · exact place
        · exact Std.TransCmp.lt_trans place (before entry later)
      rw [absent]
      by_cases same : other = behavior
      · subst same
        simp
      · rw [if_neg same]
        exact lookup_cons_of_ne same _ _
    | eq =>
      obtain rfl := Std.LawfulEqCmp.eq_of_compare place
      by_cases same : other = behavior
      · subst same
        simp
      · rw [if_neg same, lookup_cons_of_ne same, lookup_cons_of_ne same]
    | gt =>
      have differs : behavior ≠ head :=
        (ne_of_order_eq_lt (Std.OrientedCmp.gt_iff_lt.mp place)).symm
      rw [lookup_cons_of_ne differs]
      by_cases isHead : other = head
      · subst isHead
        rw [if_neg differs.symm, List.lookup_cons_self, List.lookup_cons_self]
      · rw [lookup_cons_of_ne isHead, lookup_cons_of_ne isHead, inductionHypothesis orderedRest]

/-! ## Well-formed counts -/

namespace WellFormed

variable {counts : Counts}

/-- Counting a behavior keeps counts well-formed. -/
theorem add (wellFormed : WellFormed counts) {behavior : Behavior}
    (isKnown : Behavior.ofLabel behavior.label = behavior) :
    WellFormed (Counts.add behavior counts) where
  ordered := pairwise_add behavior wellFormed.ordered
  positive := by
    intro entry member
    rcases mem_or_counted_of_mem_add member with former | ⟨-, isPositive⟩
    · exact wellFormed.positive entry former
    · exact isPositive
  known := by
    intro entry member
    rcases mem_or_counted_of_mem_add member with former | ⟨isCounted, -⟩
    · exact wellFormed.known entry former
    · rw [isCounted, isKnown]

/-- The labels of counted behaviors differ. -/
theorem nodup_labels (wellFormed : WellFormed counts) :
    (counts.map fun entry => entry.1.label).Nodup := by
  apply List.pairwise_map.mpr
  apply wellFormed.ordered.imp_of_mem
  intro left right isLeft isRight isLess sameLabel
  apply ne_of_order_eq_lt isLess
  rw [← wellFormed.known left isLeft, sameLabel, wellFormed.known right isRight]

end WellFormed

/-! ## All occurrences -/

/-- As the order of counting does not matter, the first outcome may be counted last. -/
theorem of_cons (first : Outcome) (more : List Outcome) :
    of (first :: more) = add first.behavior (of more) := by
  rw [of_perm (List.perm_append_singleton first more).symm, of, List.foldl_append]
  rfl

/-- The counts of some outcomes are well-formed. -/
theorem wellFormed_of (outcomes : List Outcome) : WellFormed (of outcomes) := by
  induction outcomes with
  | nil => exact ⟨.nil, nofun, nofun⟩
  | cons first more inductionHypothesis =>
    rw [of_cons]
    exact inductionHypothesis.add (Behavior.ofLabel_label_ofLabel first.label)

/-- The counts of the selected behaviors sum to the number of outcomes that have one of them. -/
theorem total_filter_of (selects : Behavior → Bool) (outcomes : List Outcome) :
    total ((of outcomes).filter fun entry => selects entry.1) =
      outcomes.countP fun outcome => selects outcome.behavior := by
  induction outcomes with
  | nil => rfl
  | cons first more inductionHypothesis =>
    rw [of_cons, total_filter_add, inductionHypothesis, List.countP_cons]

/-- All counts sum to the number of outcomes. -/
theorem total_of (outcomes : List Outcome) : total (of outcomes) = outcomes.length := by
  have all := total_filter_of (fun _ => true) outcomes
  rwa [List.filter_eq_self.mpr fun _ _ => rfl, List.countP_true] at all

/-- The counts of some outcomes tell of each behavior how often it occurs. -/
theorem lookup_of (behavior : Behavior) (outcomes : List Outcome) :
    (of outcomes).lookup behavior = told (occurrences behavior outcomes) := by
  induction outcomes with
  | nil => rfl
  | cons first more inductionHypothesis =>
    have grows : occurrences behavior (first :: more) =
        occurrences behavior more + if first.behavior = behavior then 1 else 0 := by
      simp [occurrences, List.countP_cons]
    rw [of_cons, lookup_add _ _ (wellFormed_of more).ordered, grows]
    by_cases same : behavior = first.behavior
    · subst same
      rw [if_pos rfl, if_pos rfl, inductionHypothesis]
      cases occurrences first.behavior more <;> rfl
    · rw [if_neg same, if_neg (Ne.symm same), inductionHypothesis, Nat.add_zero]

/-- The counts of outcomes that were joined are the sums of those of the parts. -/
theorem lookup_of_append (behavior : Behavior) (left right : List Outcome) :
    (of (left ++ right)).lookup behavior =
      Option.merge (· + ·) ((of left).lookup behavior) ((of right).lookup behavior) := by
  have joined : occurrences behavior (left ++ right) =
      occurrences behavior left + occurrences behavior right := List.countP_append
  rw [lookup_of, lookup_of, lookup_of, joined]
  cases occurrences behavior left <;> cases occurrences behavior right <;> simp [told]

end Counts

end ConformanceReport
