import ConformanceReport.Proofs.Scan.Diagnostics
import ConformanceReport.Run.Basic

/-!
# What a run writes, and when it ends well

A run over a directory writes the reports on rejected files and then the summary, `outputBytes`
altogether. It ends well exactly if the sink accepts these bytes (`scanAndReport_eq_ok_iff`), with
an exit code that comes from the verdict alone.
-/

namespace ConformanceReport

/-- The bytes of the summary of the outcomes among some findings. -/
def summaryBytes (findings : List Finding) (rules : Rules) : Bytes :=
  utf8 (Summary.of (outcomesOf findings) rules).text

/-- All bytes that a run over some entries writes. -/
def outputBytes (config : Config) (entries : List Entry) : Bytes :=
  let findings := Finding.all config.filter entries
  diagnosticBytes findings ++ summaryBytes findings config.policy.rules

/-- Whether a sink has room for some bytes and can be flushed twice after them. -/
def Sink.Accepts (sink : Sink) (bytes : Bytes) : Prop :=
  sink.fits bytes = true ∧ sink.flushes ≠ some 0 ∧ sink.flushes ≠ some 1

/-- A sink that accepts the whole output has room for the reports on rejected files. -/
theorem Sink.Accepts.fits_diagnostics {sink : Sink} {config : Config} {entries : List Entry}
    (accepts : sink.Accepts (outputBytes config entries)) :
    sink.fits (diagnosticBytes (Finding.all config.filter entries)) = true := by
  have fits := accepts.1
  rw [outputBytes, Sink.fits_append, Bool.and_eq_true] at fits
  exact fits.1

namespace Sink

variable (sink : Sink)

/-- Flushing takes no bytes and needs no room. -/
@[simp] theorem flush_taken : sink.flush.1.taken = sink.taken := by
  unfold flush
  split <;> rfl

/-- A flush fails exactly if none is left that succeeds. -/
theorem flush_snd : sink.flush.2 = if sink.flushes = some 0 then .error sink.stuck else .ok () := by
  unfold flush
  split <;> simp_all

/-- A second flush fails exactly if the first was the last that succeeds. -/
theorem flush_flush_snd (notStuck : sink.flushes ≠ some 0) :
    sink.flush.1.flush.2 = if sink.flushes = some 1 then .error sink.stuck else .ok () := by
  obtain ⟨taken, room, full, flushes, stuck⟩ := sink
  match flushes with
  | none => rfl
  | some 0 => exact absurd rfl notStuck
  | some 1 => rfl
  | some (flushes + 2) => simp [flush]

/-- The summary is written at once and flushed. -/
theorem report_eq (findings : List Finding) (rules : Rules) :
    sink.report (outcomesOf findings) rules =
      if sink.fits (summaryBytes findings rules) then
        ((sink.take (summaryBytes findings rules)).flush.1,
          (sink.take (summaryBytes findings rules)).flush.2.map
            fun _ => Summary.of (outcomesOf findings) rules)
      else (sink.take (summaryBytes findings rules), .error sink.full) := by
  rw [report, write, ← summaryBytes]
  cases sink.fits (summaryBytes findings rules) with
  | false => rfl
  | true =>
    simp only [if_true]
    cases (sink.take (summaryBytes findings rules)).flush with
    | mk flushed result => cases result <;> rfl

end Sink

/-! ## Scans -/

/-- A directory that cannot be opened ends a scan before anything is written. -/
theorem scanDirectory_of_error {path : Path} {files : FileView} {error : OsError}
    (failed : files.list path = .error error) (filter : Filter) (sink : Sink) :
    scanDirectory path filter files sink = ⟨[], sink, some (.directory path error)⟩ := by
  rw [scanDirectory, failed]

/-- A scan ends by a report that does not fit, or else by an error of the listing. -/
theorem scanDirectory_failure {path : Path} {files : FileView} {listing : Listing}
    (listed : files.list path = .ok listing) (filter : Filter) (sink : Sink) :
    (scanDirectory path filter files sink).failure =
      if sink.fits (diagnosticBytes (Finding.all filter listing.entries)) then
        listing.failure.map (.listing path)
      else some (.diagnostic sink.full) := by
  rw [scanDirectory, listed]
  dsimp only
  rw [Sink.diagnose_error]
  cases sink.fits (diagnosticBytes (Finding.all filter listing.entries)) <;> rfl

/-- A scan writes the reports on the rejected files and nothing else. -/
theorem scanDirectory_sink {path : Path} {files : FileView} {listing : Listing}
    (listed : files.list path = .ok listing) (filter : Filter) (sink : Sink) :
    (scanDirectory path filter files sink).sink =
      sink.take (diagnosticBytes (Finding.all filter listing.entries)) := by
  rw [scanDirectory, listed]
  exact sink.diagnose_sink _

/-- A scan that no report stops finds all there is. -/
theorem scanDirectory_findings {path : Path} {files : FileView} {listing : Listing}
    {filter : Filter} {sink : Sink} (listed : files.list path = .ok listing)
    (fits : sink.fits (diagnosticBytes (Finding.all filter listing.entries)) = true) :
    (scanDirectory path filter files sink).findings = Finding.all filter listing.entries := by
  rw [scanDirectory, listed]
  exact sink.diagnose_findings fits

/-! ## Summaries after a scan -/

/-- A scan that was stopped is followed by no summary. -/
theorem Scanned.summarize_of_failure {scanned : Scanned} {failure : Failure}
    (failed : scanned.failure = some failure) (rules : Rules) :
    scanned.summarize rules = ⟨scanned, scanned.sink, .error failure⟩ := by
  rw [summarize, failed]

/-- A scan that was not stopped is followed by the summary. -/
theorem Scanned.summarize_of_none {scanned : Scanned} (completed : scanned.failure = none)
    (rules : Rules) :
    scanned.summarize rules =
      ⟨scanned, (scanned.sink.report (outcomesOf scanned.findings) rules).1,
        (scanned.sink.report (outcomesOf scanned.findings) rules).2.mapError .summary⟩ := by
  rw [summarize, completed]

/-- Nothing happens to a scan when its summary is written. -/
@[simp] theorem Scanned.summarize_scanned (scanned : Scanned) (rules : Rules) :
    (scanned.summarize rules).scanned = scanned := by
  cases failure : scanned.failure with
  | some failure => rw [summarize_of_failure failure]
  | none => rw [summarize_of_none failure]

section Whole

variable {path : Path} {files : FileView} {entries : List Entry}
  (listed : files.list path = .ok ⟨entries, none⟩) (config : Config) (sink : Sink)

include listed

/-- Where the reports on the rejected files do not fit, there is no summary. -/
theorem scanAndSummarize_of_cut
    (cut : sink.fits (diagnosticBytes (Finding.all config.filter entries)) = false) :
    scanAndSummarize path config files sink =
      ⟨scanDirectory path config.filter files sink, sink.take (outputBytes config entries),
        .error (.diagnostic sink.full)⟩ := by
  have failure := scanDirectory_failure listed config.filter sink
  rw [cut, if_neg (by decide)] at failure
  rw [scanAndSummarize, Scanned.summarize_of_failure failure, scanDirectory_sink listed,
    outputBytes, Sink.take_append_of_not_fits _ _ _ cut]

/-- Where the reports on the rejected files fit, the summary is written after them. -/
theorem scanAndSummarize_of_fits
    (fits : sink.fits (diagnosticBytes (Finding.all config.filter entries)) = true) :
    let findings := Finding.all config.filter entries
    let reported := (sink.take (diagnosticBytes findings)).report (outcomesOf findings)
      config.policy.rules
    scanAndSummarize path config files sink =
      ⟨scanDirectory path config.filter files sink, reported.1,
        reported.2.mapError .summary⟩ := by
  have completed := scanDirectory_failure listed config.filter sink
  rw [fits, if_pos rfl] at completed
  rw [scanAndSummarize, Scanned.summarize_of_none completed, scanDirectory_sink listed,
    scanDirectory_findings listed fits]

/-- A scan of a whole listing and the summary after it are stopped by the first of three steps
that fails: a report on a rejected file, the summary, or the flush after it. -/
theorem scanAndSummarize_result :
    (scanAndSummarize path config files sink).result =
      if sink.fits (diagnosticBytes (Finding.all config.filter entries)) = false then
        .error (.diagnostic sink.full)
      else if sink.fits (outputBytes config entries) = false then .error (.summary sink.full)
      else if sink.flushes = some 0 then .error (.summary sink.stuck)
      else .ok (Summary.of (outcomesOf (Finding.all config.filter entries))
        config.policy.rules) := by
  rw [outputBytes, Sink.fits_append]
  cases fits : sink.fits (diagnosticBytes (Finding.all config.filter entries)) with
  | false => rw [scanAndSummarize_of_cut listed config sink fits, if_pos rfl]
  | true =>
    rw [scanAndSummarize_of_fits listed config sink fits, Sink.report_eq, Bool.true_and,
      if_neg (by decide : ¬ true = false)]
    cases (sink.take (diagnosticBytes (Finding.all config.filter entries))).fits
        (summaryBytes (Finding.all config.filter entries) config.policy.rules) with
    | false => rfl
    | true =>
      rw [if_pos rfl, if_neg (by decide : ¬ true = false), Sink.flush_snd, Sink.take_flushes,
        Sink.take_flushes, Sink.take_stuck, Sink.take_stuck]
      by_cases isStuck : sink.flushes = some 0
      · rw [if_pos isStuck, if_pos isStuck]
        rfl
      · rw [if_neg isStuck, if_neg isStuck]
        rfl

/-- A scan of a whole listing and the summary after it leave the sink with as much of the output as
there is room for. A flush was tried if all of it fits. -/
theorem scanAndSummarize_sink :
    (scanAndSummarize path config files sink).sink =
      if sink.fits (outputBytes config entries) then
        (sink.take (outputBytes config entries)).flush.1
      else sink.take (outputBytes config entries) := by
  cases fits : sink.fits (diagnosticBytes (Finding.all config.filter entries)) with
  | false =>
    have cut : sink.fits (outputBytes config entries) = false := by
      rw [outputBytes, Sink.fits_append, fits, Bool.false_and]
    rw [scanAndSummarize_of_cut listed config sink fits, cut, if_neg (by decide)]
  | true =>
    rw [scanAndSummarize_of_fits listed config sink fits, outputBytes, Sink.fits_append, fits,
      Sink.report_eq, Bool.true_and, Sink.take_take]
    cases (sink.take (diagnosticBytes (Finding.all config.filter entries))).fits
        (summaryBytes (Finding.all config.filter entries) config.policy.rules) <;> rfl

/-- Where the sink accepts the whole output, the summary is that of the outcomes found. -/
theorem scanAndSummarize_result_of_accepts {sink : Sink}
    (accepts : sink.Accepts (outputBytes config entries)) :
    (scanAndSummarize path config files sink).result =
      .ok (Summary.of (outcomesOf (Finding.all config.filter entries)) config.policy.rules) := by
  rw [scanAndSummarize_result listed, accepts.fits_diagnostics, accepts.1, if_neg (by decide),
    if_neg (by decide), if_neg accepts.2.1]

/-- A scan and its summary write the output, as far as there is room for it. -/
theorem scanAndSummarize_taken :
    (scanAndSummarize path config files sink).sink.taken =
      (sink.take (outputBytes config entries)).taken := by
  rw [scanAndSummarize_sink listed]
  split
  · exact Sink.flush_taken _
  · rfl

end Whole

/-! ## Runs over a directory -/

/-- A run whose summary was not written ends as the summary does. -/
theorem Summarized.conclude_of_error {summarized : Summarized} {failure : Failure}
    (failed : summarized.result = .error failure) (policy : Policy) :
    summarized.conclude policy =
      ⟨summarized.scanned.events, summarized.sink, .error failure⟩ := by
  rw [conclude, failed]

/-- A run whose summary was written ends with one more flush, and well if that succeeds. -/
theorem Summarized.conclude_result_of_ok {summarized : Summarized} {summary : Summary}
    (isOk : summarized.result = .ok summary) (policy : Policy) :
    (summarized.conclude policy).result =
      match summarized.sink.flush.2 with
      | .error error => .error (.flush error)
      | .ok () => .ok (summary.verdict.exitCode policy.failOnVerdict) := by
  rw [conclude, isOk]
  cases summarized.sink.flush with
  | mk flushed result => cases result <;> rfl

/-- The end of a run writes nothing. -/
theorem Summarized.conclude_taken (summarized : Summarized) (policy : Policy) :
    (summarized.conclude policy).sink.taken = summarized.sink.taken := by
  cases isResult : summarized.result with
  | error failure => rw [conclude_of_error isResult]
  | ok summary =>
    rw [← summarized.sink.flush_taken, conclude, isResult]
    cases summarized.sink.flush with
    | mk flushed result => cases result <;> rfl

/-- A run over a directory ends where its scan or its summary fails. -/
theorem scanAndReport_of_error {path : Path} {config : Config} {files : FileView} {sink : Sink}
    {failure : Failure}
    (failed : (scanAndSummarize path config files sink).result = .error failure) :
    (scanAndReport path config files sink).sink = (scanAndSummarize path config files sink).sink ∧
      (scanAndReport path config files sink).result = .error failure := by
  rw [scanAndReport, Summarized.conclude_of_error failed]
  exact ⟨rfl, rfl⟩

/-- A scan that was stopped ends the run. -/
theorem scanAndReport_of_failure {path : Path} {config : Config} {files : FileView} {sink : Sink}
    {failure : Failure}
    (failed : (scanDirectory path config.filter files sink).failure = some failure) :
    (scanAndReport path config files sink).sink =
        (scanDirectory path config.filter files sink).sink ∧
      (scanAndReport path config files sink).result = .error failure := by
  have summarized := Scanned.summarize_of_failure failed config.policy.rules
  have ended := scanAndReport_of_error (congrArg Summarized.result summarized)
  exact ⟨ended.1.trans (congrArg Summarized.sink summarized), ended.2⟩

/-- A run over a whole listing writes as much of its output as there is room for. -/
theorem scanAndReport_taken {path : Path} {files : FileView} {entries : List Entry}
    (listed : files.list path = .ok ⟨entries, none⟩) (config : Config) (sink : Sink) :
    (scanAndReport path config files sink).sink.taken =
      (sink.take (outputBytes config entries)).taken :=
  (Summarized.conclude_taken _ _).trans (scanAndSummarize_taken listed config sink)

/-- A run over a whole listing ends well exactly if the sink accepts the whole output, and then
with the exit code of the verdict. -/
theorem scanAndReport_of_whole {path : Path} {files : FileView} {entries : List Entry}
    (listed : files.list path = .ok ⟨entries, none⟩) {config : Config} {sink : Sink}
    {code : UInt32} :
    (scanAndReport path config files sink).result = .ok code ↔
      sink.Accepts (outputBytes config entries) ∧
        code = (Summary.of (outcomesOf (Finding.all config.filter entries))
          config.policy.rules).verdict.exitCode config.policy.failOnVerdict := by
  have summarized := scanAndSummarize_result listed config sink
  split at summarized
  · next full =>
    have notFits : sink.fits (outputBytes config entries) = false := by
      rw [outputBytes, Sink.fits_append, full, Bool.false_and]
    rw [(scanAndReport_of_error summarized).2]
    simp [Sink.Accepts, notFits]
  split at summarized
  · next notFits =>
    rw [(scanAndReport_of_error summarized).2]
    simp [Sink.Accepts, notFits]
  next fits =>
  have fits := eq_true_of_ne_false fits
  by_cases isStuck : sink.flushes = some 0
  · rw [if_pos isStuck] at summarized
    rw [(scanAndReport_of_error summarized).2]
    simp [Sink.Accepts, isStuck]
  rw [if_neg isStuck] at summarized
  have last := (sink.take (outputBytes config entries)).flush_flush_snd isStuck
  rw [Sink.take_flushes, Sink.take_stuck] at last
  rw [show (scanAndReport path config files sink).result = _ from
      Summarized.conclude_result_of_ok summarized config.policy,
    scanAndSummarize_sink listed, if_pos fits, last]
  by_cases isLast : sink.flushes = some 1
  · simp [Sink.Accepts, isLast]
  · simp [Sink.Accepts, isStuck, isLast, fits, eq_comm]

/-- A run over a directory that cannot be opened fails before anything is written. -/
theorem scanAndReport_of_unopened {path : Path} {files : FileView} {error : OsError}
    (failed : files.list path = .error error) (config : Config) (sink : Sink) :
    (scanAndReport path config files sink).sink = sink ∧
      ∃ failure, (scanAndReport path config files sink).result = .error failure := by
  have scanned := scanDirectory_of_error failed config.filter sink
  have ended := scanAndReport_of_failure (congrArg Scanned.failure scanned)
  exact ⟨ended.1.trans (congrArg Scanned.sink scanned), _, ended.2⟩

/-- A run over a listing that breaks off fails after the reports on what was listed before. -/
theorem scanAndReport_of_broken {path : Path} {files : FileView} {entries : List Entry}
    {error : OsError} (listed : files.list path = .ok ⟨entries, some error⟩) (config : Config)
    (sink : Sink) :
    (scanAndReport path config files sink).sink =
        sink.take (diagnosticBytes (Finding.all config.filter entries)) ∧
      ∃ failure, (scanAndReport path config files sink).result = .error failure := by
  have written := scanDirectory_sink listed config.filter sink
  have failure := scanDirectory_failure listed config.filter sink
  split at failure
  · have ended := scanAndReport_of_failure failure
    exact ⟨ended.1.trans written, _, ended.2⟩
  · have ended := scanAndReport_of_failure failure
    exact ⟨ended.1.trans written, _, ended.2⟩

/-- A run over a directory ends well exactly if the listing is whole and the sink accepts the
whole output, and then with the exit code of the verdict. -/
theorem scanAndReport_eq_ok_iff {path : Path} {config : Config} {files : FileView} {sink : Sink}
    {code : UInt32} :
    (scanAndReport path config files sink).result = .ok code ↔
      ∃ entries, files.list path = .ok ⟨entries, none⟩ ∧
        sink.Accepts (outputBytes config entries) ∧
        code = (Summary.of (outcomesOf (Finding.all config.filter entries))
          config.policy.rules).verdict.exitCode config.policy.failOnVerdict := by
  constructor
  · intro isOk
    cases listed : files.list path with
    | error error =>
      obtain ⟨-, failure, failed⟩ := scanAndReport_of_unopened listed config sink
      rw [failed] at isOk
      cases isOk
    | ok listing =>
      obtain ⟨entries, broken⟩ := listing
      cases broken with
      | some error =>
        obtain ⟨-, failure, failed⟩ := scanAndReport_of_broken listed config sink
        rw [failed] at isOk
        cases isOk
      | none =>
        exact ⟨entries, rfl, (scanAndReport_of_whole listed).mp isOk⟩
  · rintro ⟨entries, listed, accepted⟩
    exact (scanAndReport_of_whole listed).mpr accepted

end ConformanceReport
