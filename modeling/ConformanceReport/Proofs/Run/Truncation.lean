import ConformanceReport.Proofs.Run.Output

/-!
# Output that is cut off

A run over a directory writes through one sink, first the reports on rejected files and then the
summary. With limited room exactly the front part of that output is taken, wherever the limit
falls, and the error tells which of the two parts it fell into (`scanAndSummarize_limited`).
-/

namespace ConformanceReport

/-- A sink without a limit takes everything. -/
theorem Sink.taken_take_unlimited (bytes : Bytes) : (unlimited.take bytes).taken = bytes := by
  rw [taken_take_of_fits _ _ (fits_of_room_none _ _ rfl)]
  rfl

/-- Without a limit, a scan writes the diagnostics and the summary follows them. With room for `n`
bytes, the first `n` bytes of both together are written. The summary is returned exactly if there
is room for all and the flush succeeds; otherwise the error is that of a diagnostic if the limit
falls into the diagnostics, and that of the summary if not. A whole run writes the same bytes and
fails with the same error. -/
theorem scanAndSummarize_limited {path : Path} {files : FileView} {entries : List Entry}
    (listed : files.list path = .ok ⟨entries, none⟩) (config : Config) (before : Bytes) (n : Nat)
    (full : SinkError) (flushes : Option Nat) (stuck : SinkError) :
    let findings := Finding.all config.filter entries
    let diagnostics := diagnosticBytes findings
    let report := summaryBytes findings config.policy.rules
    let summary := Summary.of (outcomesOf findings) config.policy.rules
    let whole := scanAndSummarize path config files .unlimited
    let limited : Sink := ⟨before, some n, full, flushes, stuck⟩
    let cut := scanAndSummarize path config files limited
    (scanDirectory path config.filter files .unlimited).sink.taken = diagnostics ∧
    whole.sink.taken = diagnostics ++ report ∧
    whole.result = .ok summary ∧
    cut.sink.taken = before ++ (diagnostics ++ report).take n ∧
    cut.result = (
      if n < diagnostics.length then .error (.diagnostic full)
      else if n < diagnostics.length + report.length then .error (.summary full)
      else if flushes = some 0 then .error (.summary stuck)
      else .ok summary) ∧
    (scanAndReport path config files limited).sink.taken = cut.sink.taken ∧
    ∀ failure, cut.result = .error failure →
      (scanAndReport path config files limited).result = .error failure := by
  intro findings diagnostics report summary whole limited cut
  have isOutput : outputBytes config entries = diagnostics ++ report := rfl
  have noLimit (bytes : Bytes) : Sink.unlimited.fits bytes = true :=
    Sink.fits_of_room_none _ _ rfl
  refine ⟨?_, ?_, ?_, ?_, ?_, ?_, ?_⟩
  · rw [scanDirectory_sink listed]
    exact Sink.taken_take_unlimited diagnostics
  · rw [← isOutput, ← Sink.taken_take_unlimited (outputBytes config entries)]
    exact scanAndSummarize_taken listed config .unlimited
  · show (scanAndSummarize path config files .unlimited).result = .ok summary
    rw [scanAndSummarize_result listed, noLimit, noLimit]
    rfl
  · rw [← isOutput]
    refine (scanAndSummarize_taken listed config _).trans ?_
    exact Sink.taken_take_of_room _ _ rfl
  · have notFits (bytes : Bytes) : limited.fits bytes = false ↔ n < bytes.length := by
      simp [limited, Sink.fits]
    show (scanAndSummarize path config files limited).result = _
    rw [scanAndSummarize_result listed, isOutput]
    simp only [notFits, List.length_append]
    split
    · rfl
    split
    · rfl
    · rfl
  · rw [scanAndReport_taken listed]
    exact (scanAndSummarize_taken listed config limited).symm
  · exact fun failure failed => (scanAndReport_of_error failed).2

/-- Nine bytes are room for a part of the report on the only file, which cannot be read. -/
theorem scanAndSummarize_limited_to_nine :
    let unreadable : Entry := ⟨utf8 "a.json", .error .denied⟩
    let files : FileView :=
      ⟨fun _ => .error .noEntry, fun _ => .ok ⟨[unreadable], none⟩, fun _ => false⟩
    let cut := scanAndSummarize (utf8 "r") .standard files ⟨[], some 9, ⟨"full"⟩, none, ⟨"stuck"⟩⟩
    cut.sink.taken = utf8 "Error rea" ∧ cut.result = .error (.diagnostic ⟨"full"⟩) := by
  intro unreadable files cut
  have listed : files.list (utf8 "r") = .ok ⟨[unreadable], none⟩ := rfl
  have law := scanAndSummarize_limited listed .standard [] 9 ⟨"full"⟩ none ⟨"stuck"⟩
  exact ⟨law.2.2.2.1.trans (by decide +kernel),
    law.2.2.2.2.1.trans (if_pos (by decide +kernel))⟩

end ConformanceReport
