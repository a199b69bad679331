import Mathlib.Data.List.Permutation
import ConformanceReport.Proofs.Run.LineContract
import ConformanceReport.Proofs.Summary.Sorting

/-!
# Reports can be read back

The text of a summary names cases and labels as they are, without quotes. As long as none of them
ends a line and no name of a case holds the separator behind it, nothing is lost: `Shown.read` finds
all that the summary was meant to show (`Shown.read_text`), and summaries with the same text show
the same (`Summary.text_loses_nothing`).
-/

namespace ConformanceReport

/-- What a report shows: the number of outcomes, the name of each case with its label, and the
verdict. -/
structure Shown where
  total : Nat
  cases : List (String × String)
  verdict : Verdict
  deriving DecidableEq, Repr

/-- What the report on a summary shows. -/
def Summary.shown (summary : Summary) : Shown where
  total := summary.total
  cases := summary.outcomes.map fun outcome => (outcome.caseId.shown, outcome.label)
  verdict := summary.verdict

/-- The line on an outcome can be taken apart: it is one line, and the name of its case does not
hold what separates it from the label. -/
structure Outcome.IsLegible (outcome : Outcome) : Prop where
  name : ∀ name, outcome.caseId = .name name → OneLine name ∧ ¬ [':', ' '] <:+: name.toList
  label : OneLine outcome.label

/-! ## A reader of reports -/

namespace Shown

/-- The number of outcomes on the first line. -/
def readTotal (line : List Char) : Option Nat := do
  let digits ← "Total result count: ".toList.isPrefixOf? line
  if digits ≠ [] ∧ digits.all Char.isDigit then some (Nat.ofDigitChars 10 digits 0) else none

/-- A name and what comes behind the first separator. -/
def splitName : List Char → Option (List Char × List Char)
  | [] => none
  | ':' :: ' ' :: label => some ([], label)
  | character :: more => (splitName more).map fun (name, label) => (character :: name, label)

/-- The name of a case and its label on the line of an outcome. -/
def readCase (line : List Char) : Option (String × String) := do
  let named ← "Case ".toList.isPrefixOf? line
  let (name, label) ← splitName named
  return (.ofList name, .ofList label)

/-- The verdict that the last line announces. -/
def readVerdict (line : List Char) : Option Verdict :=
  [.passed, .failed].find? fun verdict => verdict.marker.toList = line

/-- The cases and the verdict on the lines after the first one. Behind the end of the last line
there is nothing. -/
def readLines : List (List Char) → Option (List (String × String) × Verdict)
  | [] => none
  | line :: more =>
    if more = [[]] then (readVerdict line).map fun verdict => ([], verdict)
    else do
      let first ← readCase line
      let (cases, verdict) ← readLines more
      return (first :: cases, verdict)

/-- What a report shows, as far as it is one. -/
def read (text : String) : Option Shown :=
  match text.toList.splitOn '\n' with
  | [] => none
  | first :: more => do
    let total ← readTotal first
    let (cases, verdict) ← readLines more
    return ⟨total, cases, verdict⟩

/-! ## Lines that are read back -/

/-- A name without a separator is split from what is behind the first one. -/
theorem splitName_append {name : List Char} (clean : ¬ [':', ' '] <:+: name)
    (label : List Char) : splitName (name ++ ':' :: ' ' :: label) = some (name, label) := by
  induction name with
  | nil => rfl
  | cons character more inductionHypothesis =>
    rw [List.infix_cons_iff, not_or] at clean
    rw [List.cons_append, splitName, inductionHypothesis clean.2]
    · rfl
    -- A separator here would start in the name and, as a colon is no blank, end in it too.
    · rintro other rfl isBlank
      cases more with
      | nil => cases isBlank
      | cons next rest =>
        obtain rfl := (List.cons.inj isBlank).1
        exact clean.1 (List.prefix_append [':', ' '] rest)

/-- The number of outcomes is read back. -/
theorem readTotal_totalText (total : Nat) : readTotal (totalText total).toList = some total := by
  have isNumber : (toString total).toList = Nat.toDigits 10 total := Nat.toList_repr
  have areDigits : (Nat.toDigits 10 total).all Char.isDigit = true :=
    List.all_eq_true.mpr fun _ => Nat.isDigit_of_mem_toDigits (by decide) (by decide)
  unfold readTotal totalText
  rw [String.toList_append, List.isPrefixOf?_eq_some_iff_append_eq.mpr rfl, isNumber,
    Option.bind_eq_bind, Option.bind_some, if_pos ⟨Nat.toDigits_ne_nil, areDigits⟩,
    Nat.ofDigitChars_ten_toDigits]

/-- The verdict is read back. -/
theorem readVerdict_marker (verdict : Verdict) :
    readVerdict verdict.marker.toList = some verdict := by
  cases verdict <;> decide

end Shown

/-- A case is shown by a name that holds no separator. -/
theorem Outcome.IsLegible.caseId {outcome : Outcome} (legible : outcome.IsLegible) :
    OneLine outcome.caseId.shown ∧ ¬ [':', ' '] <:+: outcome.caseId.shown.toList := by
  cases isCase : outcome.caseId with
  | name name => exact legible.name name isCase
  | number value =>
    refine ⟨oneLine_toString_nat value.toNat, ?_⟩
    intro separated
    have isNumber : (CaseId.number value).shown.toList = Nat.toDigits 10 value.toNat :=
      Nat.toList_repr
    rw [isNumber] at separated
    have isDigit := Nat.isDigit_of_mem_toDigits (by decide) (by decide)
      (separated.mem (List.mem_cons_self))
    exact absurd isDigit (by decide)

/-- The line on a legible outcome is one line. -/
theorem Outcome.IsLegible.oneLine_shown {outcome : Outcome} (legible : outcome.IsLegible) :
    OneLine outcome.shown := by
  simp only [Outcome.shown, oneLine_append_iff]
  exact ⟨⟨⟨by decide, legible.caseId.1⟩, by decide⟩, legible.label⟩

namespace Shown

/-- The case and the label of a legible outcome are read back. -/
theorem readCase_shown {outcome : Outcome} (legible : outcome.IsLegible) :
    readCase outcome.shown.toList = some (outcome.caseId.shown, outcome.label) := by
  have isLine : outcome.shown.toList =
      "Case ".toList ++ (outcome.caseId.shown.toList ++ ':' :: ' ' :: outcome.label.toList) := by
    simp [Outcome.shown]
  rw [readCase, isLine, List.isPrefixOf?_eq_some_iff_append_eq.mpr rfl]
  simp [splitName_append legible.caseId.2]

/-- The lines on legible outcomes and the verdict behind them are read back. -/
theorem readLines_append {outcomes : List Outcome}
    (legible : ∀ outcome ∈ outcomes, outcome.IsLegible) (verdict : Verdict) :
    readLines (outcomes.map (fun outcome => outcome.shown.toList) ++
        [verdict.marker.toList, []]) =
      some (outcomes.map fun outcome => (outcome.caseId.shown, outcome.label), verdict) := by
  induction outcomes with
  | nil =>
    show readLines [verdict.marker.toList, []] = _
    rw [readLines, if_pos rfl, readVerdict_marker]
    rfl
  | cons outcome more inductionHypothesis =>
    obtain ⟨first, rest⟩ := List.forall_mem_cons.mp legible
    have notLast : more.map (fun outcome => outcome.shown.toList) ++
        [verdict.marker.toList, []] ≠ [[]] := by
      intro last
      have lengths := congrArg List.length last
      simp at lengths
    rw [List.map_cons, List.cons_append, readLines, if_neg notLast, readCase_shown first,
      inductionHypothesis rest]
    rfl

/-- All that a summary of legible outcomes shows is read back from its text. -/
theorem read_text {summary : Summary}
    (legible : ∀ outcome ∈ summary.outcomes, outcome.IsLegible) :
    read summary.text = some summary.shown := by
  have clean : ∀ text ∈ totalText summary.total ::
      (summary.outcomes.map Outcome.shown ++ [summary.verdict.marker]), OneLine text := by
    rw [List.forall_mem_cons, List.forall_mem_append, List.forall_mem_map,
      List.forall_mem_singleton]
    refine ⟨?_, fun outcome member => (legible outcome member).oneLine_shown, ?_⟩
    · exact oneLine_append_iff.mpr ⟨by decide, oneLine_toString_nat summary.total⟩
    · cases summary.verdict <;> decide
  rw [read, Summary.text_eq_join, splitOn_join_ended clean, List.map_cons, List.map_append,
    List.map_map, List.cons_append, List.append_assoc]
  dsimp only
  rw [readTotal_totalText]
  simp [readLines_append legible, Summary.shown, Function.comp_def]

end Shown

namespace Summary

/-- The text of a summary depends on what is shown and on nothing else. -/
theorem text_eq_of_shown_eq {first second : Summary} (same : first.shown = second.shown) :
    first.text = second.text := by
  have lines (summary : Summary) : summary.outcomes.map Outcome.shown =
      summary.shown.cases.map fun (name, label) => "Case " ++ name ++ ": " ++ label := by
    simp [shown, Outcome.shown]
  have sameTotal : first.total = second.total := congrArg Shown.total same
  have sameVerdict : first.verdict = second.verdict := congrArg Shown.verdict same
  rw [text_eq_join, text_eq_join, lines, lines, same, sameTotal, sameVerdict]

/-- From the text of a summary of legible outcomes one reader finds all that it shows. So two such
summaries have the same text exactly if they have the same total, the same verdict and the same
cases with the same labels in the same order, whatever the rules are. -/
theorem text_loses_nothing {left right : List Outcome}
    (leftLegible : ∀ outcome ∈ left, outcome.IsLegible)
    (rightLegible : ∀ outcome ∈ right, outcome.IsLegible) (leftRules rightRules : Rules) :
    let first := of left leftRules
    let second := of right rightRules
    Shown.read first.text = some first.shown ∧
      (first.text = second.text ↔
        first.total = second.total ∧ first.verdict = second.verdict ∧
          first.outcomes.map (fun outcome => (outcome.caseId.shown, outcome.label)) =
            second.outcomes.map fun outcome => (outcome.caseId.shown, outcome.label)) := by
  intro first second
  have isFirst : Shown.read first.text = some first.shown :=
    Shown.read_text fun outcome member => leftLegible outcome ((mem_sortByCase left).mp member)
  have isSecond : Shown.read second.text = some second.shown :=
    Shown.read_text fun outcome member => rightLegible outcome ((mem_sortByCase right).mp member)
  refine ⟨isFirst, ?_, ?_⟩
  · intro sameText
    rw [sameText, isSecond, Option.some_inj] at isFirst
    exact ⟨congrArg Shown.total isFirst.symm, congrArg Shown.verdict isFirst.symm,
      congrArg Shown.cases isFirst.symm⟩
  · rintro ⟨sameTotal, sameVerdict, sameCases⟩
    apply text_eq_of_shown_eq
    rw [shown, shown, sameTotal, sameVerdict, sameCases]

/-- A number and a name with the same digits show the same, and a separator in a label or a colon at
the end of a name does no harm. -/
theorem text_loses_nothing_of_colons :
    let left : List Outcome := [⟨.name "a:", "x: y"⟩, ⟨.number 17, "OK"⟩]
    let right : List Outcome := [⟨.name "17", "OK"⟩, ⟨.name "a:", "x: y"⟩]
    let strict : Rules := ⟨["OK"]⟩
    Shown.read (of left .standard).text = some ⟨2, [("17", "OK"), ("a:", "x: y")], .failed⟩ ∧
      (of left .standard).text = (of right strict).text := by
  intro left right strict
  have leftLegible : ∀ outcome ∈ left, outcome.IsLegible := by
    simp only [left, List.forall_mem_cons, List.not_mem_nil, false_implies, implies_true, and_true]
    refine ⟨⟨?_, by decide⟩, ⟨nofun, by decide⟩⟩
    rintro name ⟨⟩
    decide
  have rightLegible : ∀ outcome ∈ right, outcome.IsLegible := by
    simp only [right, List.forall_mem_cons, List.not_mem_nil, false_implies, implies_true, and_true]
    refine ⟨⟨?_, by decide⟩, ⟨?_, by decide⟩⟩
    all_goals
      rintro name ⟨⟩
      decide
  obtain ⟨isRead, sameText⟩ := text_loses_nothing leftLegible rightLegible .standard strict
  have isShown : (of left .standard).shown = ⟨2, [("17", "OK"), ("a:", "x: y")], .failed⟩ := by cbv
  rw [isShown] at isRead
  exact ⟨isRead, sameText.mpr ⟨rfl, by cbv, by cbv⟩⟩

end Summary

end ConformanceReport
