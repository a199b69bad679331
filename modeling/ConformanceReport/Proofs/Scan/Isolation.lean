import ConformanceReport.Proofs.Results
import ConformanceReport.Proofs.Run.Output

/-!
# What each entry adds to a scan

An entry adds an outcome to a scan, or a report, or nothing, and which of them and what it says
depends on that entry alone (`Entry.outcome?`, `Entry.report?`). A scan that is not stopped yields
what its entries add, in the order of the listing and nothing else (`scanDirectory_exact`), so that
a file that cannot be loaded takes nothing away from the others.
-/

namespace ConformanceReport

namespace Entry

/-- The entry has the name of a result file. -/
def isResult (filter : Filter) (entry : Entry) : Bool :=
  filter.accepts entry.shownName

/-- The outcome that an entry adds to a scan: that of a result file that loads. -/
def outcome? (filter : Filter) (entry : Entry) : Option Outcome :=
  if entry.isResult filter then (Finding.judge entry.content).toOption else none

/-- The report that an entry adds to a scan: that on a result file that does not load. -/
def report? (filter : Filter) (entry : Entry) : Option String :=
  if entry.isResult filter then
    match Finding.judge entry.content with
    | .ok _ => none
    | .error rejection =>
      some ("Error reading " ++ entry.shownName ++ ": " ++ rejection.message ++ "\n")
  else none

/-- A result file adds either an outcome or a report, and another entry adds neither. -/
theorem length_outcome?_add_length_report? (filter : Filter) (entry : Entry) :
    (entry.outcome? filter).toList.length + (entry.report? filter).toList.length =
      if entry.isResult filter then 1 else 0 := by
  unfold outcome? report?
  cases entry.isResult filter with
  | false => rfl
  | true => cases Finding.judge entry.content <;> rfl

end Entry

/-- The bytes of the reports that some entries add to a scan. -/
def reportBytes (filter : Filter) (entries : List Entry) : Bytes :=
  (entries.filterMap (Entry.report? filter)).flatMap utf8

/-- A scan yields what the entries before one of them add, then what that one adds, and then what
the entries after it add. -/
structure Scanned.IsJoined (filter : Filter) (scanned : Scanned) (before : List Entry)
    (entry : Entry) (after : List Entry) : Prop where
  outcomes : outcomesOf scanned.findings =
    before.filterMap (Entry.outcome? filter) ++ ((entry.outcome? filter).toList ++
      after.filterMap (Entry.outcome? filter))
  reports : diagnosticsOf scanned.findings =
    before.filterMap (Entry.report? filter) ++ ((entry.report? filter).toList ++
      after.filterMap (Entry.report? filter))

/-! ## Findings by entry -/

/-- What is found in a result file is the outcome that it adds. -/
theorem Entry.outcome?_eq (filter : Filter) (entry : Entry) :
    entry.outcome? filter =
      if entry.isResult filter then (Finding.of entry).outcome? else none := by
  unfold outcome? Finding.of
  cases Finding.judge entry.content <;> rfl

/-- What is found in a result file is reported as the entry adds it. -/
theorem Entry.report?_eq (filter : Filter) (entry : Entry) :
    entry.report? filter =
      if entry.isResult filter then (Finding.of entry).diagnostic? else none := by
  unfold report? Finding.of
  cases Finding.judge entry.content with
  | ok outcome => rfl
  | error rejection =>
    simp [Finding.diagnostic?, Finding.pieces?, String.join_cons, String.append_assoc]

/-- The outcomes that are found are those that the entries add. -/
theorem outcomesOf_all (filter : Filter) (entries : List Entry) :
    outcomesOf (Finding.all filter entries) = entries.filterMap (Entry.outcome? filter) := by
  rw [outcomesOf, Finding.all, List.filterMap_map, List.filterMap_filter]
  exact congrArg (entries.filterMap ·) (funext fun entry => (entry.outcome?_eq filter).symm)

/-- The reports on what is found are those that the entries add. -/
theorem diagnosticsOf_all (filter : Filter) (entries : List Entry) :
    diagnosticsOf (Finding.all filter entries) = entries.filterMap (Entry.report? filter) := by
  rw [diagnosticsOf, Finding.all, List.filterMap_map, List.filterMap_filter]
  exact congrArg (entries.filterMap ·) (funext fun entry => (entry.report?_eq filter).symm)

/-- The outcomes and the reports together are as many as the result files. -/
theorem length_outcomes_add_length_reports (filter : Filter) (entries : List Entry) :
    (entries.filterMap (Entry.outcome? filter)).length +
        (entries.filterMap (Entry.report? filter)).length =
      entries.countP (Entry.isResult filter) := by
  induction entries with
  | nil => rfl
  | cons entry more inductionHypothesis =>
    have one := entry.length_outcome?_add_length_report? filter
    rw [filterMap_cons_eq_append, filterMap_cons_eq_append, List.length_append,
      List.length_append, List.countP_cons, ← inductionHypothesis, ← one]
    omega

/-! ## Scans -/

/-- A scan of a whole listing whose reports are all taken succeeds with what the entries add. -/
theorem scanDirectory_adds {path : Path} {files : FileView} {entries : List Entry}
    (listed : files.list path = .ok ⟨entries, none⟩) {filter : Filter} {sink : Sink}
    (room : sink.fits (reportBytes filter entries) = true) :
    (scanDirectory path filter files sink).failure = none ∧
      outcomesOf (scanDirectory path filter files sink).findings =
        entries.filterMap (Entry.outcome? filter) ∧
      diagnosticsOf (scanDirectory path filter files sink).findings =
        entries.filterMap (Entry.report? filter) ∧
      (scanDirectory path filter files sink).sink.taken =
        sink.taken ++ reportBytes filter entries := by
  have written : diagnosticBytes (Finding.all filter entries) = reportBytes filter entries := by
    rw [diagnosticBytes, diagnosticsOf_all, reportBytes]
  have fits := room
  rw [← written] at fits
  refine ⟨?_, ?_, ?_, ?_⟩
  · rw [scanDirectory_failure listed, if_pos fits]
    rfl
  · rw [scanDirectory_findings listed fits, outcomesOf_all]
  · rw [scanDirectory_findings listed fits, diagnosticsOf_all]
  · rw [scanDirectory_sink listed, written]
    exact sink.taken_take_of_fits _ room

/-- What the entries of a listing add is joined from what its parts add. -/
theorem Scanned.IsJoined.of_adds {filter : Filter} {scanned : Scanned} {before after : List Entry}
    {entry : Entry}
    (outcomes : outcomesOf scanned.findings =
      (before ++ entry :: after).filterMap (Entry.outcome? filter))
    (reports : diagnosticsOf scanned.findings =
      (before ++ entry :: after).filterMap (Entry.report? filter)) :
    scanned.IsJoined filter before entry after := by
  rw [List.filterMap_append, filterMap_cons_eq_append] at outcomes reports
  exact ⟨outcomes, reports⟩

/-- A scan of a whole listing whose reports are all taken yields the outcomes of the result files
that load and writes one report for each of those that do not, in the order of the listing; both
together are as many as the result files. If the content of one entry is replaced by whatever it
may be, what the entries before and after it add stays as it was. -/
theorem scanDirectory_exact {path : Path} {files : FileView} {entries : List Entry}
    (listed : files.list path = .ok ⟨entries, none⟩) (filter : Filter) {sink : Sink}
    (room : sink.fits (reportBytes filter entries) = true) :
    let scanned := scanDirectory path filter files sink
    scanned.failure = none ∧
      outcomesOf scanned.findings = entries.filterMap (Entry.outcome? filter) ∧
      diagnosticsOf scanned.findings = entries.filterMap (Entry.report? filter) ∧
      scanned.sink.taken = sink.taken ++ reportBytes filter entries ∧
      (outcomesOf scanned.findings).length + (diagnosticsOf scanned.findings).length =
        entries.countP (Entry.isResult filter) ∧
      ∀ before entry after content changed, entries = before ++ entry :: after →
        changed.list path = .ok ⟨before ++ { entry with content } :: after, none⟩ →
        sink.fits (reportBytes filter (before ++ { entry with content } :: after)) = true →
        let rescanned := scanDirectory path filter changed sink
        rescanned.failure = none ∧ scanned.IsJoined filter before entry after ∧
          rescanned.IsJoined filter before { entry with content } after ∧
          rescanned.sink.taken =
            sink.taken ++ reportBytes filter (before ++ { entry with content } :: after) := by
  intro scanned
  obtain ⟨succeeds, outcomes, reports, taken⟩ := scanDirectory_adds listed room
  refine ⟨succeeds, outcomes, reports, taken, ?_, ?_⟩
  · rw [outcomes, reports]
    exact length_outcomes_add_length_reports filter entries
  · rintro before entry after content changed rfl relisted room'
    obtain ⟨succeeds', outcomes', reports', taken'⟩ := scanDirectory_adds relisted room'
    exact ⟨succeeds', .of_adds outcomes reports, .of_adds outcomes' reports', taken'⟩

/-- A broken file and an unreadable one around a good one are reported, and the good one is
loaded. -/
theorem scanDirectory_loads_between_rejected :
    let broken : Entry := ⟨utf8 "b.json", .ok (utf8 "[")⟩
    let good : Entry := ⟨utf8 "a.json", .ok (utf8 "\x7b\"case\": 7, \"behavior\": \"OK\"\x7d")⟩
    let manifest : Entry := ⟨utf8 "index.json", .ok (utf8 "\x7b")⟩
    let locked : Entry := ⟨utf8 "c.json", .error .denied⟩
    let files : FileView :=
      ⟨fun _ => .error .noEntry, fun _ => .ok ⟨[broken, good, manifest, locked], none⟩,
        fun _ => false⟩
    let scanned := scanDirectory (utf8 "r") .standard files .unlimited
    scanned.failure = none ∧ outcomesOf scanned.findings = [⟨.number 7, "OK"⟩] ∧
      scanned.sink.taken =
        utf8 "Error reading b.json: EOF while parsing a list at line 1 column 1\n" ++
          utf8 "Error reading c.json: Permission denied (os error 13)\n" := by
  intro broken good manifest locked files scanned
  have listed : files.list (utf8 "r") = .ok ⟨[broken, good, manifest, locked], none⟩ := rfl
  have law := scanDirectory_exact listed .standard (Sink.fits_of_room_none .unlimited _ rfl)
  exact ⟨law.1, law.2.1.trans (by decide +kernel), law.2.2.2.1.trans (by decide +kernel)⟩

end ConformanceReport
