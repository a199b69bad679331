import ConformanceReport.Proofs.Output.Sink
import ConformanceReport.Scan.Diagnostics

/-!
# What a scan writes

The reports on rejected files come to one run of bytes, `diagnosticBytes`. A scan leaves its sink
as if these bytes had been written at once (`diagnose_sink`), and it is stopped exactly if they do
not fit (`diagnose_error`).
-/

namespace ConformanceReport

/-- The bytes that the report on a finding adds to the output, none for an outcome. -/
def Finding.written (finding : Finding) : Bytes :=
  (finding.diagnostic?.map utf8).getD []

/-- The bytes of all reports on some findings. -/
def diagnosticBytes (findings : List Finding) : Bytes :=
  (diagnosticsOf findings).flatMap utf8

/-- The reports on some findings are those on each, in order. -/
theorem diagnosticBytes_eq_flatMap (findings : List Finding) :
    diagnosticBytes findings = findings.flatMap Finding.written := by
  induction findings with
  | nil => rfl
  | cons finding more inductionHypothesis =>
    rw [List.flatMap_cons, ← inductionHypothesis]
    cases isReported : finding.diagnostic? with
    | none => simp [diagnosticBytes, diagnosticsOf, Finding.written, isReported]
    | some line => simp [diagnosticBytes, diagnosticsOf, Finding.written, isReported]

/-- The encoding of joined texts is made of theirs. -/
theorem utf8_join (texts : List String) : utf8 (String.join texts) = (texts.map utf8).flatten := by
  induction texts with
  | nil => simp
  | cons text more inductionHypothesis => simp [String.join_cons, inductionHypothesis]

namespace Sink

variable (sink : Sink)

/-- One finding is passed if the report on it fits, and stops the scan if not. -/
theorem diagnose_cons (finding : Finding) (more : List Finding) :
    sink.diagnose (finding :: more) =
      if sink.fits finding.written then ((sink.take finding.written).diagnose more).after finding
      else ⟨[finding], sink.take finding.written, some sink.full⟩ := by
  rw [diagnose]
  cases isReported : finding.pieces? with
  | none => simp [Finding.written, Finding.diagnostic?, isReported]
  | some pieces =>
    have isWritten : finding.written = (pieces.map utf8).flatten := by
      simp [Finding.written, Finding.diagnostic?, isReported, utf8_join]
    dsimp only
    rw [writeAll_eq_write, ← isWritten, write]
    cases sink.fits finding.written <;> rfl

/-- A scan leaves its sink as if all reports had been written at once. -/
theorem diagnose_sink (findings : List Finding) :
    (sink.diagnose findings).sink = sink.take (diagnosticBytes findings) := by
  rw [diagnosticBytes_eq_flatMap]
  induction findings generalizing sink with
  | nil => simp [diagnose]
  | cons finding more inductionHypothesis =>
    rw [diagnose_cons, List.flatMap_cons]
    cases fits : sink.fits finding.written with
    | false => simp [take_append_of_not_fits _ _ _ fits]
    | true =>
      rw [if_pos rfl, ← take_take]
      exact inductionHypothesis _

/-- A scan is stopped exactly if the reports do not all fit. -/
theorem diagnose_error (findings : List Finding) :
    (sink.diagnose findings).error =
      if sink.fits (diagnosticBytes findings) then none else some sink.full := by
  rw [diagnosticBytes_eq_flatMap]
  induction findings generalizing sink with
  | nil => simp [diagnose]
  | cons finding more inductionHypothesis =>
    rw [diagnose_cons, List.flatMap_cons, fits_append]
    cases sink.fits finding.written with
    | false => rfl
    | true => simpa [Reached.after] using inductionHypothesis (sink.take finding.written)

/-- A scan that is not stopped reaches all findings. -/
theorem diagnose_findings {findings : List Finding}
    (fits : sink.fits (diagnosticBytes findings) = true) :
    (sink.diagnose findings).findings = findings := by
  rw [diagnosticBytes_eq_flatMap] at fits
  induction findings generalizing sink with
  | nil => rfl
  | cons finding more inductionHypothesis =>
    rw [List.flatMap_cons, fits_append, Bool.and_eq_true] at fits
    rw [diagnose_cons, if_pos fits.1]
    exact congrArg (finding :: ·) (inductionHypothesis _ fits.2)

end Sink

end ConformanceReport
