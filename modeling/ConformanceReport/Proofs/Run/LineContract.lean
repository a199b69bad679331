import ConformanceReport.Proofs.Outcome.Message
import ConformanceReport.Proofs.Run.ExitCode

/-!
# The lines of a report

A program that reads a report counts on its lines: one for each rejected file, the number of
outcomes, one for each outcome, and the marker of the verdict (`KeepsLineContract`). Names of files,
names of cases and labels are printed as they are, so a report keeps to this exactly if all that it
prints of them is on one line (`run_keepsLineContract_iff`).
-/

namespace ConformanceReport

/-- The line with the number of outcomes, without its end. -/
def totalText (total : Nat) : String :=
  "Total result count: " ++ toString total

/-- What lines a report consists of: one for each rejected file, the number of outcomes, one for
each outcome, and a marker. The marker of a verdict is a line for that verdict only. The numbers
count lines where no line holds an end of a line inside, as those of an output do; the texts that a
run prints (`printedTexts`) may hold some. -/
structure IsReport (rejected loaded : Nat) (verdict : Verdict) (lines : List Bytes) : Prop where
  parts : ∃ reports cases announced,
    lines = reports ++ utf8 (totalText loaded) :: (cases ++ [utf8 (Verdict.marker announced)]) ∧
      reports.length = rejected ∧ cases.length = loaded ∧
      (∀ line ∈ reports, utf8 "Error reading " <+: line) ∧
      ∀ line ∈ cases, utf8 "Case " <+: line
  marked : ∀ other, utf8 (Verdict.marker other) ∈ lines ↔ verdict = other

/-- The lines of an output are those of a report. -/
def KeepsLineContract (output : Bytes) (rejected loaded : Nat) (verdict : Verdict) : Prop :=
  ∃ lines, AreLines output lines ∧ IsReport rejected loaded verdict lines

/-- All that a report prints of a finding is on one line: the name of the case and the label of an
outcome, or the name of a rejected file and the error of the system that kept it from being read. -/
def Finding.IsPlain : Finding → Prop
  | .loaded _ outcome => OneLine outcome.caseId.shown ∧ OneLine outcome.label
  | .rejected name (.unreadable error) => OneLine name ∧ OneLine error.message
  | .rejected name (.malformed _) => OneLine name

/-- The report on a rejected file without its end. -/
def reportText (name : String) (rejection : Rejection) : String :=
  "Error reading " ++ name ++ ": " ++ rejection.message

/-- The report on a finding without its end, if it is a rejected file. -/
def Finding.reportText? : Finding → Option String
  | .loaded _ _ => none
  | .rejected name rejection => some (reportText name rejection)

/-- The reports on the rejected files among some findings, without their ends. -/
def reportTexts (findings : List Finding) : List String :=
  findings.filterMap Finding.reportText?

/-- The lines on the outcomes among some findings in order, without their ends. -/
def caseTexts (findings : List Finding) : List String :=
  (sortByCase (outcomesOf findings)).map Outcome.shown

/-- All texts that are printed with an end of a line after each. -/
def printedTexts (findings : List Finding) (rules : Rules) : List String :=
  reportTexts findings ++ totalText (outcomesOf findings).length ::
    (caseTexts findings ++ [(Summary.of (outcomesOf findings) rules).verdict.marker])

/-! ## The output as texts with their ends -/

/-- Texts with their ends are encoded as lines. -/
theorem utf8_join_ended (texts : List String) :
    utf8 (String.join (texts.map fun text => text ++ "\n")) = joinLines (texts.map utf8) := by
  have isNewline : utf8 "\n" = [newline] := by decide
  rw [utf8_join, joinLines, List.flatMap_def, List.map_map, List.map_map]
  simp only [Function.comp_def, utf8_append, isNewline]

/-- Lines after lines are lines. -/
theorem joinLines_append (first second : List Bytes) :
    joinLines (first ++ second) = joinLines first ++ joinLines second :=
  List.flatMap_append

/-- A report on a rejected file is its text with an end. -/
theorem Finding.diagnostic?_eq_map (finding : Finding) :
    finding.diagnostic? = finding.reportText?.map fun text => text ++ "\n" := by
  cases finding with
  | loaded name outcome => rfl
  | rejected name rejection =>
    simp [diagnostic?, pieces?, reportText?, reportText, String.join_cons, String.append_assoc]

/-- The reports of a scan are texts with their ends. -/
theorem diagnosticsOf_eq_map (findings : List Finding) :
    diagnosticsOf findings = (reportTexts findings).map fun text => text ++ "\n" := by
  rw [diagnosticsOf, reportTexts, List.map_filterMap]
  exact congrArg (findings.filterMap ·) (funext Finding.diagnostic?_eq_map)

/-- A summary is written as texts with their ends. -/
theorem Summary.text_eq_join (summary : Summary) :
    summary.text = String.join ((totalText summary.total ::
      (summary.outcomes.map Outcome.shown ++ [summary.verdict.marker])).map
        fun text => text ++ "\n") := by
  show totalText summary.total ++ "\n"
    ++ String.join (summary.outcomes.map fun outcome => outcome.shown ++ "\n")
    ++ summary.verdict.marker ++ "\n" = _
  simp only [List.map_cons, List.map_append, List.map_map, List.map_nil, String.join_cons,
    String.join_append, String.join_nil, String.append_empty, String.append_assoc,
    Function.comp_def]

/-- All that a run prints are texts with their ends. -/
theorem outputBytes_eq_joinLines (config : Config) (entries : List Entry) :
    outputBytes config entries =
      joinLines ((printedTexts (Finding.all config.filter entries) config.policy.rules).map
        utf8) := by
  generalize isFindings : Finding.all config.filter entries = findings
  have reports : diagnosticBytes findings = joinLines ((reportTexts findings).map utf8) := by
    rw [← utf8_join_ended, utf8_join, ← diagnosticsOf_eq_map, diagnosticBytes, List.flatMap_def]
  have report := (Summary.of (outcomesOf findings) config.policy.rules).text_eq_join
  rw [outputBytes, isFindings, reports, summaryBytes, report, utf8_join_ended, ← joinLines_append,
    ← List.map_append]
  rfl

/-! ## The texts as lines of a report -/

/-- The reports are as many as the rejected files. -/
theorem length_reportTexts (findings : List Finding) :
    (reportTexts findings).length = (diagnosticsOf findings).length := by
  rw [diagnosticsOf_eq_map, List.length_map]

/-- The lines on outcomes are as many as the outcomes. -/
theorem length_caseTexts (findings : List Finding) :
    (caseTexts findings).length = (outcomesOf findings).length := by
  rw [caseTexts, sortByCase, List.length_map, List.length_mergeSort]

/-- A text that goes on is encoded with what it starts with in front. -/
theorem utf8_prefix_append (left right : String) : utf8 left <+: utf8 (left ++ right) := by
  simp only [utf8_append, List.prefix_append]

/-- A report on a rejected file starts as such. -/
theorem prefix_of_mem_reportTexts {findings : List Finding} {text : String}
    (member : text ∈ reportTexts findings) : utf8 "Error reading " <+: utf8 text := by
  obtain ⟨finding, -, isText⟩ := List.mem_filterMap.mp member
  cases finding with
  | loaded name outcome => cases isText
  | rejected name rejection =>
    cases isText
    simp only [reportText, String.append_assoc]
    exact utf8_prefix_append _ _

/-- A line on an outcome starts as such. -/
theorem prefix_of_mem_caseTexts {findings : List Finding} {text : String}
    (member : text ∈ caseTexts findings) : utf8 "Case " <+: utf8 text := by
  obtain ⟨outcome, -, rfl⟩ := List.mem_map.mp member
  simp only [Outcome.shown, String.append_assoc]
  exact utf8_prefix_append _ _

/-- No marker starts as any other line of a report. -/
theorem Verdict.not_prefix_marker (verdict : Verdict) :
    ¬ utf8 "Error reading " <+: utf8 verdict.marker ∧
      ¬ utf8 "Total result count: " <+: utf8 verdict.marker ∧
      ¬ utf8 "Case " <+: utf8 verdict.marker := by
  cases verdict <;> decide

/-- The markers differ. -/
theorem Verdict.utf8_marker_inj {first second : Verdict} :
    utf8 first.marker = utf8 second.marker ↔ first = second := by
  cases first <;> cases second <;> decide

/-- The printed texts are what a report consists of, apart from what they hold inside. -/
theorem isReport_printedTexts (findings : List Finding) (rules : Rules) :
    IsReport (diagnosticsOf findings).length (outcomesOf findings).length
      (Summary.of (outcomesOf findings) rules).verdict
      ((printedTexts findings rules).map utf8) where
  parts := by
    refine ⟨(reportTexts findings).map utf8, (caseTexts findings).map utf8,
      (Summary.of (outcomesOf findings) rules).verdict, ?_, ?_, ?_, ?_, ?_⟩
    · simp [printedTexts]
    · rw [List.length_map, length_reportTexts]
    · rw [List.length_map, length_caseTexts]
    · exact List.forall_mem_map.mpr fun _ => prefix_of_mem_reportTexts
    · exact List.forall_mem_map.mpr fun _ => prefix_of_mem_caseTexts
  marked := by
    intro other
    obtain ⟨noReport, noTotal, noCase⟩ := other.not_prefix_marker
    have isTotal (total : Nat) : utf8 "Total result count: " <+: utf8 (totalText total) :=
      utf8_prefix_append _ _
    constructor
    · intro member
      obtain ⟨text, printed, same⟩ := List.mem_map.mp member
      rw [printedTexts, List.mem_append, List.mem_cons, List.mem_append, List.mem_singleton]
        at printed
      obtain isReport | rfl | isCase | rfl := printed
      · exact absurd (same ▸ prefix_of_mem_reportTexts isReport) noReport
      · exact absurd (same ▸ isTotal _) noTotal
      · exact absurd (same ▸ prefix_of_mem_caseTexts isCase) noCase
      · exact Verdict.utf8_marker_inj.mp same
    · rintro rfl
      exact List.mem_map_of_mem (by simp [printedTexts])

/-- A report has two lines beside those on files. -/
theorem IsReport.length_eq {rejected loaded : Nat} {verdict : Verdict} {lines : List Bytes}
    (isReport : IsReport rejected loaded verdict lines) :
    lines.length = rejected + loaded + 2 := by
  obtain ⟨reports, cases, announced, rfl, rfl, rfl, -, -⟩ := isReport.parts
  simp
  omega

/-! ## Texts that are on one line -/

/-- What is printed of a finding is on one line exactly if the finding is plain. -/
theorem Finding.isPlain_iff (finding : Finding) :
    finding.IsPlain ↔ (∀ text, finding.reportText? = some text → OneLine text) ∧
      ∀ outcome, finding.outcome? = some outcome → OneLine outcome.shown := by
  have isCase : OneLine "Case " := by decide
  have isError : OneLine "Error reading " := by decide
  have separator : OneLine ": " := by decide
  cases finding with
  | loaded name outcome =>
    simp [IsPlain, reportText?, outcome?, Outcome.shown, isCase, separator]
  | rejected name rejection =>
    cases rejection with
    | unreadable error =>
      simp [IsPlain, reportText?, reportText, outcome?, Rejection.message, isError, separator]
    | malformed refusal =>
      simp [IsPlain, reportText?, reportText, outcome?, Rejection.message, isError, separator,
        refusal.oneLine_message]

/-- All printed texts are on one line exactly if all findings are plain. -/
theorem oneLine_printedTexts_iff {findings : List Finding} {rules : Rules} :
    (∀ text ∈ printedTexts findings rules, OneLine text) ↔
      ∀ finding ∈ findings, finding.IsPlain := by
  have total : OneLine (totalText (outcomesOf findings).length) :=
    oneLine_append_iff.mpr ⟨by decide, oneLine_toString_nat _⟩
  have marker (verdict : Verdict) : OneLine verdict.marker := by
    cases verdict <;> decide
  simp only [printedTexts, List.forall_mem_append, List.forall_mem_cons, total, marker,
    List.not_mem_nil, false_implies, implies_true, true_and, and_true, reportTexts, caseTexts,
    List.forall_mem_map, sortByCase, List.mem_mergeSort]
  simp only [outcomesOf, List.forall_mem_filterMap, Finding.isPlain_iff, forall_and]

/-! ## Reports of runs -/

/-- A finding that has an outcome is a file that was loaded. -/
theorem Finding.eq_loaded_of_outcome? {finding : Finding} {outcome : Outcome}
    (found : finding.outcome? = some outcome) : ∃ name, finding = .loaded name outcome := by
  cases finding with
  | loaded name other =>
    cases found
    exact ⟨name, rfl⟩
  | rejected name rejection => cases found

/-- The printed texts keep to the contract exactly if all findings are plain. -/
theorem keepsLineContract_printedTexts_iff {findings : List Finding} {rules : Rules} :
    KeepsLineContract (joinLines ((printedTexts findings rules).map utf8))
        (diagnosticsOf findings).length (outcomesOf findings).length
        (Summary.of (outcomesOf findings) rules).verdict ↔
      ∀ finding ∈ findings, finding.IsPlain := by
  have printed := isReport_printedTexts findings rules
  rw [← oneLine_printedTexts_iff]
  constructor
  · rintro ⟨lines, areLines, isReport⟩ text member
    -- The numbers of lines agree, so no text can hold an end of a line that is not its own.
    have sameLength : lines.length = ((printedTexts findings rules).map utf8).length := by
      rw [isReport.length_eq, printed.length_eq]
    have clean := areLines.newline_not_mem sameLength
    exact newline_not_mem_utf8_iff.mp (clean _ (List.mem_map_of_mem member))
  · intro oneLine
    refine ⟨_, ⟨rfl, ?_⟩, printed⟩
    rw [List.forall_mem_map]
    exact fun text member => newline_not_mem_utf8_iff.mpr (oneLine text member)

/-- A run that ends well prints the lines of a report, with a marker for its verdict only, exactly
if each name of a file, name of a case and label that it prints is on one line. -/
theorem run_keepsLineContract_iff {arguments : Arguments} {files : FileView} {sink : Sink}
    {code : UInt32} (completes : (run arguments files sink).result = .ok code) :
    ∃ config entries, Settles arguments files config ∧
      files.list arguments.path = .ok ⟨entries, none⟩ ∧
      (run arguments files sink).sink.taken = sink.taken ++ outputBytes config entries ∧
      let findings := Finding.all config.filter entries
      (KeepsLineContract (outputBytes config entries) (diagnosticsOf findings).length
          (outcomesOf findings).length
          (Summary.of (outcomesOf findings) config.policy.rules).verdict ↔
        ∀ finding ∈ findings, finding.IsPlain) := by
  obtain ⟨config, entries, settles, listed, accepts, -⟩ := run_eq_ok_iff.mp completes
  refine ⟨config, entries, settles, listed, run_taken settles listed accepts, ?_⟩
  rw [outputBytes_eq_joinLines]
  exact keepsLineContract_printedTexts_iff

/-- A label with the marker of a pass on a line of its own is printed like that by a run that
fails. -/
theorem run_breaks_lineContract :
    let entry : Entry :=
      ⟨utf8 "a.json", .ok (utf8 "\x7b\"case\": 1, \"behavior\": \"x\\nTests passed ✅\"\x7d")⟩
    let files : FileView :=
      ⟨fun _ => .error .noEntry, fun _ => .ok ⟨[entry], none⟩, fun _ => false⟩
    let arguments : Arguments := ⟨utf8 "r", none, false, false, false⟩
    (run arguments files .unlimited).result = .ok 0 ∧
      (run arguments files .unlimited).sink.taken =
        utf8 "Total result count: 1\nCase 1: x\nTests passed ✅\nTests failed ❌\n" ∧
      ¬ KeepsLineContract (run arguments files .unlimited).sink.taken 0 1 .failed := by
  intro entry files arguments
  let outcome : Outcome := ⟨.number 1, "x\nTests passed ✅"⟩
  have accepted : Config.standard.filter.accepts entry.shownName = true := by decide +kernel
  have loads : (Finding.of entry).outcome? = some outcome := by decide +kernel
  have isFailed : (Summary.of [outcome] Config.standard.policy.rules).verdict = .failed := by
    decide +kernel
  obtain ⟨name, isLoaded⟩ := Finding.eq_loaded_of_outcome? loads
  have isFound : Finding.all Config.standard.filter [entry] = [.loaded name outcome] := by
    simp [Finding.all, accepted, isLoaded]
  have isOutcome : outcomesOf [.loaded name outcome] = [outcome] := rfl
  have noReport : diagnosticBytes [.loaded name outcome] = [] := rfl
  have settles : Settles arguments files .standard := .absent rfl
  have accepts : Sink.unlimited.Accepts (outputBytes .standard [entry]) :=
    ⟨Sink.fits_of_room_none _ _ rfl, by decide, by decide⟩
  have isCode (verdict : Verdict) : 0 = verdict.exitCode false := by
    cases verdict <;> rfl
  have completes : (run arguments files .unlimited).result = .ok 0 :=
    run_eq_ok_iff.mpr ⟨.standard, [entry], settles, rfl, accepts, isCode _⟩
  obtain ⟨config, entries, settles', listed, taken, law⟩ := run_keepsLineContract_iff completes
  obtain rfl := settles.unique settles'
  obtain rfl : [entry] = entries := by
    cases listed
    rfl
  dsimp only at law
  rw [isFound, isOutcome, isFailed] at law
  have isOutput := taken.trans (List.nil_append _)
  refine ⟨completes, ?_, ?_⟩
  · rw [isOutput, outputBytes, isFound, noReport, summaryBytes, isOutcome]
    decide +kernel
  · rw [isOutput]
    intro keeps
    have plain := law.mp keeps (.loaded name outcome) (List.mem_singleton_self _)
    exact absurd plain.2 (by decide)

end ConformanceReport
