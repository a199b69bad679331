import ConformanceReport.Outcome.Load
import ConformanceReport.Proofs.Text.Lines

/-!
# Refusals are worded on one line

Whatever a content is refused for, the wording is on one line (`Malformed.oneLine_message`). The
texts that it takes over from the content are quoted, with the ends of lines escaped.
-/

namespace ConformanceReport

/-! ## Numbers -/

/-- No digit ends a line. -/
theorem newline_ne_digitChar (digit : Nat) : '\n' ≠ digit.digitChar :=
  (Nat.digitChar_ne '\n' (by decide)).symm

/-- Digits are put in front of what holds no end of a line. -/
theorem newline_not_mem_toDigitsCore (base fuel number : Nat) {digits : List Char}
    (clean : '\n' ∉ digits) : '\n' ∉ Nat.toDigitsCore base fuel number digits := by
  induction fuel generalizing number digits with
  | zero => exact clean
  | succ fuel inductionHypothesis =>
    have digit := newline_ne_digitChar (number % base)
    rw [Nat.toDigitsCore]
    split
    · simp [digit, clean]
    · exact inductionHypothesis _ (by simp [digit, clean])

/-- The digits of a number hold no end of a line. -/
theorem newline_not_mem_toDigits (base number : Nat) : '\n' ∉ Nat.toDigits base number :=
  newline_not_mem_toDigitsCore _ _ _ (by simp)

/-- A natural number is written on one line. -/
theorem oneLine_toString_nat (number : Nat) : OneLine (toString number) := by
  show '\n' ∉ (Nat.repr number).toList
  rw [Nat.repr, String.toList_ofList]
  exact newline_not_mem_toDigits 10 number

/-- An integer is written on one line. -/
theorem oneLine_toString_int (number : Int) : OneLine (toString number) := by
  cases number with
  | ofNat number => exact oneLine_toString_nat number
  | negSucc number =>
    show OneLine ("-" ++ toString (number + 1))
    exact oneLine_append_iff.mpr ⟨by decide, oneLine_toString_nat _⟩

namespace Decimal

/-- The digits of a decimal are on one line. -/
theorem newline_not_mem_digitText (number : Nat) : '\n' ∉ (digitText number).toList := by
  rw [digitText, String.toList_ofList]
  exact newline_not_mem_toDigits 10 number

/-- A run of zeros is on one line. -/
theorem oneLine_zeros (count : Nat) : OneLine (zeros count) := by
  simp [OneLine, zeros, List.mem_replicate]

/-- A decimal in positional notation is on one line. -/
theorem Scaled.oneLine_positional (decimal : Scaled) : OneLine decimal.positional := by
  have clean := newline_not_mem_digitText decimal.digits
  have front (count : Nat) : '\n' ∉ (digitText decimal.digits).toList.take count :=
    fun member => clean (List.mem_of_mem_take member)
  have back (count : Nat) : '\n' ∉ (digitText decimal.digits).toList.drop count :=
    fun member => clean (List.mem_of_mem_drop member)
  unfold positional
  dsimp only
  split
  · simp only [oneLine_append_iff]
    exact ⟨⟨clean, oneLine_zeros _⟩, by decide⟩
  split
  · simp only [oneLine_append_iff]
    exact ⟨⟨by decide, oneLine_zeros _⟩, clean⟩
  · simp only [oneLine_append_iff]
    refine ⟨⟨?_, by decide⟩, ?_⟩
    · simpa [OneLine] using front _
    · simpa [OneLine] using back _

/-- A decimal in exponent notation is on one line. -/
theorem Scaled.oneLine_scientific (decimal : Scaled) : OneLine decimal.scientific := by
  have clean := newline_not_mem_digitText decimal.digits
  unfold scientific
  dsimp only
  simp only [oneLine_append_iff]
  refine ⟨⟨⟨?_, by decide⟩, ?_⟩, newline_not_mem_digitText _⟩
  · split
    · next first second more isDigits =>
      rw [isDigits] at clean
      simp only [List.mem_cons, not_or] at clean
      simp [OneLine, clean]
    · simpa [OneLine] using clean
  · split <;> decide

/-- A double is on one line in every layout that has its special texts there. -/
theorem Layout.oneLine_write {layout : Layout} (notANumber : OneLine layout.notANumber)
    (infinity : OneLine layout.infinity) (value : Float) : OneLine (layout.write value) := by
  have sign (negative : Prop) [Decidable negative] : OneLine (if negative then "-" else "") := by
    split <;> decide
  unfold write
  dsimp only
  split
  · exact notANumber
  split
  · exact oneLine_append_iff.mpr ⟨sign _, infinity⟩
  split
  · exact oneLine_append_iff.mpr ⟨sign _, by decide⟩
  · refine oneLine_append_iff.mpr ⟨sign _, ?_⟩
    split
    · exact Scaled.oneLine_positional _
    · exact Scaled.oneLine_scientific _

end Decimal

/-! ## Texts -/

/-- A character is quoted without an end of a line. -/
theorem Quoted.newline_not_mem_character (shown : Char) : '\n' ∉ character shown := by
  unfold character
  repeat' split
  all_goals try decide
  · have clean := newline_not_mem_toDigits 16 shown.toNat
    simp [digits, clean]
  · next noNewline _ _ _ => simp [Ne.symm noNewline]

/-- A quoted text is on one line. -/
theorem Quoted.oneLine_ofText (text : String) : OneLine (ofText text) := by
  simp [OneLine, ofText, Quoted.newline_not_mem_character]

namespace Outcome

open Json

/-- A kind is named on one line. -/
theorem oneLine_shown (kind : Kind) : OneLine (kind.shown messageLayout) := by
  cases kind with
  | null => decide
  | boolean value => cases value <;> decide
  | integer value =>
    show OneLine ("integer `" ++ toString value ++ "`")
    simp only [oneLine_append_iff]
    exact ⟨⟨by decide, oneLine_toString_int value⟩, by decide⟩
  | floating value =>
    show OneLine ("floating point `" ++ messageLayout.write value ++ "`")
    simp only [oneLine_append_iff]
    exact ⟨⟨by decide, Decimal.Layout.oneLine_write (by decide) (by decide) value⟩, by decide⟩
  | text value =>
    show OneLine ("string " ++ Quoted.ofText value)
    simp only [oneLine_append_iff]
    exact ⟨by decide, Quoted.oneLine_ofText value⟩
  | list => decide
  | object => decide

/-- A defect is worded on one line. -/
theorem Defect.oneLine_message (defect : Defect) : OneLine defect.message := by
  cases defect with
  | grammar cause =>
    show OneLine cause.message
    cases cause <;> simp [OneLine, Cause.message]
  | missing field => cases field <;> decide
  | duplicate field => cases field <;> decide
  | wrongLength length =>
    show OneLine ("invalid length " ++ toString length ++
      ", expected struct TestOutcome with 2 elements")
    simp only [oneLine_append_iff]
    exact ⟨⟨by decide, oneLine_toString_nat length⟩, by decide⟩
  | noCaseId => decide
  | wrongKind found wanted =>
    show OneLine ("invalid type: " ++ found.shown messageLayout ++ ", expected " ++ wanted.shown)
    simp only [oneLine_append_iff]
    refine ⟨⟨⟨by decide, oneLine_shown found⟩, by decide⟩, ?_⟩
    cases wanted <;> decide

/-- A refusal is worded on one line. -/
theorem Malformed.oneLine_message (malformed : Malformed) : OneLine malformed.message := by
  simp only [Malformed.message, oneLine_append_iff]
  exact ⟨⟨⟨⟨malformed.defect.oneLine_message, by decide⟩, oneLine_toString_nat _⟩, by decide⟩,
    oneLine_toString_nat _⟩

end Outcome

end ConformanceReport
