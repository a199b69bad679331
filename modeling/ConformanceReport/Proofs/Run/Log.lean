import ConformanceReport.Proofs.Run.LineContract
import ConformanceReport.Proofs.Summary.Classification
import ConformanceReport.Proofs.Summary.Histogram

/-!
# The log agrees with the report

A log for debugging tells of every file, and then of the numbers that a run came to: they are
counted while the directory is scanned, over the labels, and over the sorted outcomes. The events
of a run that ends well are known one by one (`run_events`), and all their numbers fit together and
to what is printed (`LogAgrees`, `follow_log_agrees`).
-/

namespace ConformanceReport

namespace Event

/-- What a message tells of a file that was loaded. -/
def loaded? : Event → Option (String × Outcome)
  | .loaded name outcome => some (name, outcome)
  | _ => none

/-- What a message tells of a file that was rejected. -/
def rejected? : Event → Option (String × Rejection)
  | .rejected name rejection => some (name, rejection)
  | _ => none

/-- The numbers of loaded and of rejected files that a message tells. -/
def scanned? : Event → Option (Nat × Nat)
  | .scanned accepted refused => some (accepted, refused)
  | _ => none

/-- The behavior and the number of its occurrences that a message tells. -/
def counted? : Event → Option (Behavior × Nat)
  | .counted behavior count => some (behavior, count)
  | _ => none

/-- The verdict that a message tells, with the numbers of failing and of all outcomes. -/
def verdict? : Event → Option (Verdict × Nat × Nat)
  | .verdict judgment failing total => some (judgment, failing, total)
  | _ => none

/-- The exit code that a message warns of. -/
def exitCode? : Event → Option UInt32
  | .exitCode code => some code
  | _ => none

/-- An event before the first file is looked at. -/
inductive IsOpening : Event → Prop where
  | started : IsOpening .started
  | arguments (given : Arguments) : IsOpening (.arguments given)
  | configNamed (path : Path) : IsOpening (.configNamed path)
  | configFound : IsOpening .configFound
  | configAbsent : IsOpening .configAbsent
  | scanning (path : Path) : IsOpening (.scanning path)

end Event

/-- The texts to be printed after what a log tells: a report on each file that it tells of as
rejected, a number of outcomes, a text on each outcome that it tells of as loaded, in the order of
the cases, and the marker of a verdict. -/
def textsTold (log : List Event) (accepted : Nat) (judgment : Verdict) : List String :=
  (log.filterMap Event.rejected?).map (fun entry => reportText entry.1 entry.2) ++
    totalText accepted ::
      ((sortByCase ((log.filterMap Event.loaded?).map Prod.snd)).map Outcome.shown ++
        [judgment.marker])

/-- The log of a run, its output behind what was there before, and its exit code agree on how many
files were loaded and rejected, on how many outcomes fail, and on the verdict. -/
structure LogAgrees (rules : Rules) (before : Bytes) (finished : Finished)
    (accepted refused failing : Nat) (judgment : Verdict) : Prop where
  /-- One message tells the numbers of loaded and of rejected files. -/
  scanned : finished.log.filterMap Event.scanned? = [(accepted, refused)]
  loaded : (finished.log.filterMap Event.loaded?).length = accepted
  rejected : (finished.log.filterMap Event.rejected?).length = refused
  /-- One message tells the verdict and the numbers of failing and of all outcomes. -/
  judged : finished.log.filterMap Event.verdict? = [(judgment, failing, accepted)]
  /-- One report on each file told of as rejected, the number of outcomes, a text on each of these
  and the marker of the verdict are all that is printed. -/
  printed : finished.sink.taken =
    before ++ joinLines ((textsTold finished.log accepted judgment).map utf8)
  labels : ((finished.log.filterMap Event.counted?).map fun entry => entry.1.label).Nodup
  positive : ∀ entry ∈ finished.log.filterMap Event.counted?, 0 < entry.2
  counted : Counts.total (finished.log.filterMap Event.counted?) = accepted
  /-- All outcomes but those with an accepted label fail. -/
  unaccepted : failing + Counts.total ((finished.log.filterMap Event.counted?).filter
    fun entry => entry.1.label ∈ rules.passing) = accepted
  passed : judgment = .passed ↔ failing = 0
  warned : finished.log.filterMap Event.exitCode? = if finished.exitCode = 2 then [2] else []
  /-- The messages with these numbers are the last ones. -/
  messages : ∃ front, finished.log.map Event.message = front ++
    ("Loaded " ++ toString accepted ++ " results (" ++ toString refused ++ " rejected)") ::
      ((finished.log.filterMap Event.counted?).map
          (fun entry => entry.1.label ++ ": " ++ toString entry.2) ++
        ("Verdict: " ++ judgment.name ++ " (" ++ toString failing ++ " of " ++ toString accepted
            ++ " cases failing)") ::
          if finished.exitCode = 2 then ["Conformance verdict failed (exit code 2)"] else [])

/-! ## The events of a run -/

/-- The events of a run after its scan. -/
def closing (policy : Policy) (findings : List Finding) : List Event :=
  let outcomes := outcomesOf findings
  let summary := Summary.of outcomes policy.rules
  let code := summary.verdict.exitCode policy.failOnVerdict
  .scanned outcomes.length (diagnosticsOf findings).length ::
    ((Counts.of outcomes).map (fun entry => .counted entry.1 entry.2) ++
      .verdict summary.verdict summary.failures.length summary.total ::
        if code = 0 then [] else [.exitCode code])

/-- The events of a run: some before its scan, one for each file that is found, and those that tell
all numbers. -/
def eventsOf (opening : List Event) (policy : Policy) (findings : List Finding) : List Event :=
  opening ++ (findings.map Event.ofFinding ++ closing policy findings)

/-- A scan that was not stopped tells of each file and then of the numbers of all. -/
theorem Scanned.events_of_none {scanned : Scanned} (completed : scanned.failure = none) :
    let outcomes := outcomesOf scanned.findings
    scanned.events = scanned.findings.map Event.ofFinding ++
      .scanned outcomes.length (diagnosticsOf scanned.findings).length ::
        (Counts.of outcomes).map fun entry => .counted entry.1 entry.2 := by
  rw [events, completed]

/-- A run that ends well tells its verdict after what its scan tells. -/
theorem Summarized.conclude_events {summarized : Summarized} {policy : Policy} {summary : Summary}
    {code : UInt32} (isSummary : summarized.result = .ok summary)
    (isOk : (summarized.conclude policy).result = .ok code) :
    (summarized.conclude policy).events = summarized.scanned.events ++
      .verdict summary.verdict summary.failures.length summary.total ::
        if code = 0 then [] else [.exitCode code] := by
  rw [conclude, isSummary] at isOk ⊢
  dsimp only at isOk ⊢
  split at isOk
  · cases isOk
  · cases isOk
    rfl

/-- The configuration is resolved before the first file is looked at. -/
theorem isOpening_of_mem_resolveConfig {arguments : Arguments} {files : FileView} {event : Event}
    (member : event ∈ (resolveConfig arguments files).1) : event.IsOpening := by
  unfold resolveConfig at member
  split at member
  · next path _ =>
    obtain rfl := List.mem_singleton.mp member
    exact .configNamed path
  · split at member
    · cases member
    · obtain rfl := List.mem_singleton.mp member
      exact .configFound
    · obtain rfl := List.mem_singleton.mp member
      exact .configAbsent

/-- A run over a directory that ends well tells of every file that it finds and then of all its
numbers. -/
theorem scanAndReport_events {path : Path} {config : Config} {files : FileView} {sink : Sink}
    {entries : List Entry} {code : UInt32} (listed : files.list path = .ok ⟨entries, none⟩)
    (isOk : (scanAndReport path config files sink).result = .ok code) :
    (scanAndReport path config files sink).events =
      .scanning path :: ((Finding.all config.filter entries).map Event.ofFinding ++
        closing config.policy (Finding.all config.filter entries)) := by
  obtain ⟨accepts, isCode⟩ := (scanAndReport_of_whole listed).mp isOk
  have found := scanDirectory_findings listed accepts.fits_diagnostics
  have completed := scanDirectory_failure listed config.filter sink
  rw [if_pos accepts.fits_diagnostics] at completed
  have summarized := scanAndSummarize_result_of_accepts listed config accepts
  rw [scanAndReport, Ended.after, Summarized.conclude_events summarized isOk, scanAndSummarize,
    Scanned.summarize_scanned, Scanned.events_of_none completed, found, isCode, closing]
  simp only [List.append_assoc, List.cons_append, List.nil_append]

/-- The events of a run that ends well are some before its scan, one for each file that is found,
and then those that tell all its numbers. -/
theorem run_events {arguments : Arguments} {files : FileView} {sink : Sink} {config : Config}
    {entries : List Entry} {code : UInt32} (settles : Settles arguments files config)
    (listed : files.list arguments.path = .ok ⟨entries, none⟩)
    (completes : (run arguments files sink).result = .ok code) :
    ∃ opening : List Event, (∀ event ∈ opening, event.IsOpening) ∧
      (run arguments files sink).events = eventsOf opening
        (config.withArguments arguments).policy
        (Finding.all config.filter entries) := by
  have isOk := completes
  rw [(run_of_settles settles sink).2] at isOk
  have resolved : resolveConfig arguments files =
      ((resolveConfig arguments files).1, .ok config) :=
    Prod.ext rfl (resolveConfig_eq_ok_iff.mpr settles)
  refine ⟨[.started, .arguments arguments] ++ (resolveConfig arguments files).1 ++
    [.scanning arguments.path], ?_, ?_⟩
  · simp only [List.forall_mem_append, List.forall_mem_cons, List.not_mem_nil, false_implies,
      implies_true, and_true]
    exact ⟨⟨⟨.started, .arguments arguments⟩, fun _ => isOpening_of_mem_resolveConfig⟩,
      .scanning arguments.path⟩
  · have told := scanAndReport_events listed isOk
    unfold run
    rw [resolved]
    dsimp only [Ended.after]
    rw [told]
    simp only [eventsOf, List.append_assoc, List.cons_append, List.nil_append]
    rfl

/-! ## What the events tell -/

/-- After the scan, each number is told once, and the number of each behavior that occurs. -/
theorem filterMap_closing {α : Type} (view : Event → Option α) (policy : Policy)
    (findings : List Finding) :
    let outcomes := outcomesOf findings
    let summary := Summary.of outcomes policy.rules
    let code := summary.verdict.exitCode policy.failOnVerdict
    (closing policy findings).filterMap view =
      (view (.scanned outcomes.length (diagnosticsOf findings).length)).toList ++
        (((Counts.of outcomes).filterMap fun entry => view (.counted entry.1 entry.2)) ++
          ((view (.verdict summary.verdict summary.failures.length summary.total)).toList ++
            if code = 0 then [] else (view (.exitCode code)).toList)) := by
  intro outcomes summary code
  rw [closing, filterMap_cons_eq_append, List.filterMap_append, filterMap_cons_eq_append,
    List.filterMap_map]
  split
  · rfl
  · rw [filterMap_cons_eq_append, List.filterMap_nil, List.append_nil]
    rfl

section Told

variable {α : Type} {view : Event → Option α} {opening : List Event}
  (isOpening : ∀ event ∈ opening, event.IsOpening) (policy : Policy) (findings : List Finding)

include isOpening

/-- What is told in neither the opening nor the closing events is told while files are looked
at. -/
theorem filterMap_events_of_files (noOpening : ∀ event : Event, event.IsOpening → view event = none)
    (noClosing : (closing policy findings).filterMap view = []) :
    (eventsOf opening policy findings).filterMap view =
      findings.filterMap fun finding => view (.ofFinding finding) := by
  have nothing : opening.filterMap view = [] :=
    List.filterMap_eq_nil_iff.mpr fun event member => noOpening event (isOpening event member)
  rw [eventsOf, List.filterMap_append, List.filterMap_append, nothing, noClosing, List.append_nil,
    List.filterMap_map]
  rfl

/-- What is told neither in the opening events nor of files is told after the scan. -/
theorem filterMap_events_of_closing
    (noOpening : ∀ event : Event, event.IsOpening → view event = none)
    (noFile : ∀ finding, view (.ofFinding finding) = none) :
    (eventsOf opening policy findings).filterMap view =
      (closing policy findings).filterMap view := by
  have nothing : opening.filterMap view = [] :=
    List.filterMap_eq_nil_iff.mpr fun event member => noOpening event (isOpening event member)
  have noFiles : (findings.map Event.ofFinding).filterMap view = [] := by
    rw [List.filterMap_map]
    exact List.filterMap_eq_nil_iff.mpr fun finding _ => noFile finding
  rw [eventsOf, List.filterMap_append, List.filterMap_append, nothing, noFiles]
  rfl

/-- The outcomes of the files that are told of as loaded are those that are found. -/
theorem loaded?_events :
    ((eventsOf opening policy findings).filterMap Event.loaded?).map Prod.snd =
      outcomesOf findings := by
  rw [filterMap_events_of_files isOpening, List.map_filterMap, outcomesOf]
  · refine congrArg (findings.filterMap ·) (funext fun finding => ?_)
    cases finding <;> rfl
  · rintro _ ⟨⟩ <;> rfl
  · simp [filterMap_closing, Event.loaded?]

/-- The reports on the files that are told of as rejected are those of the findings. -/
theorem rejected?_events :
    ((eventsOf opening policy findings).filterMap Event.rejected?).map
        (fun entry => reportText entry.1 entry.2) = reportTexts findings := by
  rw [filterMap_events_of_files isOpening, List.map_filterMap, reportTexts]
  · refine congrArg (findings.filterMap ·) (funext fun finding => ?_)
    cases finding <;> rfl
  · rintro _ ⟨⟩ <;> rfl
  · simp [filterMap_closing, Event.rejected?]

/-- What is to be printed after the events is what is printed. -/
theorem textsTold_events :
    textsTold (eventsOf opening policy findings) (outcomesOf findings).length
        (Summary.of (outcomesOf findings) policy.rules).verdict =
      printedTexts findings policy.rules := by
  rw [textsTold, loaded?_events isOpening, rejected?_events isOpening, printedTexts, caseTexts]

/-- The numbers of outcomes and of reports are told once. -/
theorem scanned?_events :
    (eventsOf opening policy findings).filterMap Event.scanned? =
      [((outcomesOf findings).length, (diagnosticsOf findings).length)] := by
  rw [filterMap_events_of_closing isOpening, filterMap_closing]
  · simp [Event.scanned?]
  · rintro _ ⟨⟩ <;> rfl
  · rintro (_ | _) <;> rfl

/-- The counts of all behaviors are told. -/
theorem counted?_events :
    (eventsOf opening policy findings).filterMap Event.counted? =
      Counts.of (outcomesOf findings) := by
  rw [filterMap_events_of_closing isOpening, filterMap_closing]
  · simp [Event.counted?]
  · rintro _ ⟨⟩ <;> rfl
  · rintro (_ | _) <;> rfl

/-- The verdict is told once. -/
theorem verdict?_events :
    let summary := Summary.of (outcomesOf findings) policy.rules
    (eventsOf opening policy findings).filterMap Event.verdict? =
      [(summary.verdict, summary.failures.length, summary.total)] := by
  rw [filterMap_events_of_closing isOpening, filterMap_closing]
  · simp [Event.verdict?]
  · rintro _ ⟨⟩ <;> rfl
  · rintro (_ | _) <;> rfl

/-- The exit code is told unless it is zero. -/
theorem exitCode?_events :
    let code := (Summary.of (outcomesOf findings) policy.rules).verdict.exitCode
      policy.failOnVerdict
    (eventsOf opening policy findings).filterMap Event.exitCode? =
      if code = 0 then [] else [code] := by
  rw [filterMap_events_of_closing isOpening, filterMap_closing]
  · simp [Event.exitCode?]
  · rintro _ ⟨⟩ <;> rfl
  · rintro (_ | _) <;> rfl

end Told

/-! ## Logs for debugging -/

/-- Arguments that ask for a log for debugging are consistent. -/
theorem areConsistent_of_debugging {arguments : Arguments}
    (debugging : arguments.logLevel = .debugging) : arguments.areConsistent = true := by
  unfold Arguments.logLevel at debugging
  cases quiet : arguments.quiet with
  | false => simp [Arguments.areConsistent, quiet]
  | true =>
    rw [quiet] at debugging
    cases debugging

/-- A run that ends well with a log for debugging leaves all its events in the log. -/
theorem follow_of_debugging {arguments : Arguments} {files : FileView} {sink : Sink}
    {code : UInt32} (debugging : arguments.logLevel = .debugging)
    (completes : (run arguments files sink).result = .ok code) :
    follow arguments files sink =
      ⟨(run arguments files sink).sink, (run arguments files sink).events, "", code⟩ := by
  have all : ((run arguments files sink).events.filter fun event =>
      arguments.logLevel.holds event.level) = (run arguments files sink).events := by
    apply List.filter_eq_self.mpr
    intro event _
    rw [debugging]
    cases event <;> rfl
  rw [follow, if_pos (areConsistent_of_debugging debugging), Finished.ofRun, completes]
  simp only [all]

/-- The exit code is warned of exactly if it is two. -/
theorem Verdict.warning_eq (verdict : Verdict) (failOnVerdict : Bool) :
    let code := verdict.exitCode failOnVerdict
    (if code = 0 then [] else [code]) = if code = 2 then [2] else [] := by
  cases verdict <;> cases failOnVerdict <;> decide

/-- The messages after a scan tell its numbers, the counts, the verdict and a warning. -/
theorem map_message_closing (policy : Policy) (findings : List Finding) :
    let outcomes := outcomesOf findings
    let summary := Summary.of outcomes policy.rules
    (closing policy findings).map Event.message =
      ("Loaded " ++ toString outcomes.length ++ " results (" ++
          toString (diagnosticsOf findings).length ++ " rejected)") ::
        ((Counts.of outcomes).map (fun entry => entry.1.label ++ ": " ++ toString entry.2) ++
          ("Verdict: " ++ summary.verdict.name ++ " (" ++ toString summary.failures.length ++ " of "
              ++ toString summary.total ++ " cases failing)") ::
            if summary.verdict.exitCode policy.failOnVerdict = 2 then
              ["Conformance verdict failed (exit code 2)"] else []) := by
  intro outcomes summary
  have warning : (if summary.verdict.exitCode policy.failOnVerdict = 0 then []
      else [Event.exitCode (summary.verdict.exitCode policy.failOnVerdict)]).map Event.message =
        if summary.verdict.exitCode policy.failOnVerdict = 2 then
          ["Conformance verdict failed (exit code 2)"] else [] := by
    cases summary.verdict <;> cases policy.failOnVerdict <;> rfl
  rw [← warning, closing, List.map_cons, List.map_append, List.map_cons, List.map_map]
  rfl

/-- The log for debugging of a run that ends well agrees with its report and its exit code. -/
theorem follow_log_agrees {arguments : Arguments} {files : FileView} {sink : Sink} {code : UInt32}
    (debugging : arguments.logLevel = .debugging)
    (completes : (run arguments files sink).result = .ok code) :
    ∃ config accepted refused failing judgment, Settles arguments files config ∧
      (follow arguments files sink).exitCode = code ∧
      LogAgrees config.policy.rules sink.taken (follow arguments files sink) accepted refused
        failing judgment := by
  obtain ⟨config, entries, settles, listed, accepts, isCode⟩ := run_eq_ok_iff.mp completes
  obtain ⟨opening, isOpening, areEvents⟩ := run_events settles listed completes
  let findings := Finding.all config.filter entries
  let summary := Summary.of (outcomesOf findings) config.policy.rules
  let policy := (config.withArguments arguments).policy
  have areCounts := counted?_events isOpening policy findings
  have wellFormed := Counts.wellFormed_of (outcomesOf findings)
  rw [follow_of_debugging debugging completes, areEvents]
  refine ⟨config, (outcomesOf findings).length, (diagnosticsOf findings).length,
    summary.failures.length, summary.verdict, settles, rfl, ?_⟩
  constructor
  case scanned => exact scanned?_events isOpening policy findings
  case loaded => rw [← loaded?_events isOpening policy findings, List.length_map]
  case rejected =>
    rw [← length_reportTexts, ← rejected?_events isOpening policy findings, List.length_map]
  case judged => exact verdict?_events isOpening policy findings
  case printed =>
    have told : textsTold _ _ summary.verdict = _ := textsTold_events isOpening policy findings
    have written := run_taken settles listed accepts
    rw [outputBytes_eq_joinLines] at written
    rw [told]
    exact written
  case labels =>
    rw [areCounts]
    exact wellFormed.nodup_labels
  case positive =>
    rw [areCounts]
    exact wellFormed.positive
  case counted =>
    rw [areCounts]
    exact Counts.total_of (outcomesOf findings)
  case unaccepted =>
    rw [areCounts]
    exact Summary.length_failures_add_total (outcomesOf findings) config.policy.rules
  case passed =>
    rw [List.length_eq_zero_iff, Summary.failures_eq_nil_iff, Summary.verdict_of]
    exact Rules.verdict_eq_passed_iff
  case warned =>
    rw [exitCode?_events isOpening policy findings, isCode]
    exact Verdict.warning_eq _ _
  case messages =>
    rw [areCounts, eventsOf, List.map_append, List.map_append, map_message_closing,
      ← List.append_assoc, isCode]
    exact ⟨_, rfl⟩

/-- Among two rejected files, a page and the manifest, one outcome is loaded and fails. -/
theorem follow_log_agrees_among_rejected :
    let arguments : Arguments := ⟨utf8 "r", none, true, false, true⟩
    let broken : Entry := ⟨utf8 "b.json", .ok (utf8 "[")⟩
    let failed : Entry :=
      ⟨utf8 "a.json", .ok (utf8 "\x7b\"case\": 7, \"behavior\": \"WRONG CODE\"\x7d")⟩
    let page : Entry := ⟨utf8 "a.html", .ok (utf8 "FAILED")⟩
    let manifest : Entry := ⟨utf8 "index.json", .error .isDirectory⟩
    let locked : Entry := ⟨utf8 "c.json", .error .denied⟩
    let files : FileView :=
      ⟨fun _ => .error .noEntry, fun _ => .ok ⟨[broken, page, failed, manifest, locked], none⟩,
        fun _ => false⟩
    (follow arguments files .unlimited).exitCode = 2 ∧
      LogAgrees .standard [] (follow arguments files .unlimited) 1 2 1 .failed := by
  intro arguments broken failed page manifest locked files
  have completes : (run arguments files .unlimited).result = .ok 2 :=
    toOption_eq_some_iff.mp (by decide +kernel)
  obtain ⟨config, accepted, refused, failing, judgment, settles, isCode, agrees⟩ :=
    follow_log_agrees (rfl : arguments.logLevel = .debugging) completes
  obtain rfl := settles.unique (.absent rfl)
  have scanned : (follow arguments files .unlimited).log.filterMap Event.scanned? = [(1, 2)] := by
    decide +kernel
  have judged : (follow arguments files .unlimited).log.filterMap Event.verdict? =
      [(.failed, 1, 1)] := by
    decide +kernel
  obtain ⟨rfl, rfl⟩ := Prod.mk.inj (List.singleton_inj.mp (agrees.scanned.symm.trans scanned))
  have isJudged := Prod.mk.inj (List.singleton_inj.mp (agrees.judged.symm.trans judged))
  obtain ⟨rfl, isFailing⟩ := isJudged
  obtain ⟨rfl, -⟩ := Prod.mk.inj isFailing
  exact ⟨isCode, agrees⟩

end ConformanceReport
