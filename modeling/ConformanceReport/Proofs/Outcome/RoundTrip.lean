import ConformanceReport.Proofs.Json.Written
import ConformanceReport.Proofs.Outcome.Acceptance

/-!
# Written outcomes are loaded again

What is written of an outcome is an object that holds that outcome and no other
(`holds_written`), so loading it gives the outcome back. The text of an identifier does not name
its variant; the form of the value alone tells a number from a name.
-/

namespace ConformanceReport

/-- An identifier is written as a value that denotes it. -/
theorem CaseId.caseIdText_written (caseId : CaseId) :
    Outcome.CaseIdText (utf8 caseId.written) caseId := by
  cases caseId with
  | number value => exact .number (Json.naturalLiteral_toString value.toNat)
  | name text => exact .name (Json.textLiteral_writeText text)

namespace Outcome

open Json

/-- The members of a written outcome. -/
def writtenMembers (outcome : Outcome) : List Member :=
  [⟨"case", utf8 outcome.caseId.written⟩, ⟨"behavior", utf8 (writeText outcome.label)⟩]

/-- A key and a value without anything between them but the colon are a member. -/
theorem memberForm_compact (name : String) {value : Bytes} (isValue : Form .value value) :
    MemberForm (utf8 (writeText name) ++ ascii ':' :: value) ⟨name, value⟩ := by
  have isMember := MemberForm.member (textLiteral_writeText name) blank_nil blank_nil isValue
  rwa [List.nil_append, List.nil_append] at isMember

/-- Two members with nothing between them but the separator are an object. -/
theorem objectForm_compact (name name' : String) {value value' : Bytes}
    (isValue : Form .value value) (isValue' : Form .value value') :
    ObjectForm (ascii '\x7b' :: (utf8 (writeText name) ++ ascii ':' :: (value ++
      ascii ',' :: (utf8 (writeText name') ++ ascii ':' :: (value' ++ [ascii '\x7d'])))))
      [⟨name, value⟩, ⟨name', value'⟩] := by
  have object := ObjectForm.members blank_nil (memberForm_compact name isValue)
    (.next blank_nil blank_nil (memberForm_compact name' isValue') (.close blank_nil))
  simpa using object

/-- An outcome is written as an object of its two members. -/
theorem objectForm_written (outcome : Outcome) :
    ObjectForm (utf8 outcome.written) outcome.writtenMembers := by
  have front : utf8 "\x7b\"case\":" =
      ascii '\x7b' :: (utf8 (writeText "case") ++ [ascii ':']) := by decide
  have middle : utf8 ",\"behavior\":" =
      ascii ',' :: (utf8 (writeText "behavior") ++ [ascii ':']) := by decide
  have back : utf8 "\x7d" = [ascii '\x7d'] := by decide
  have object := objectForm_compact "case" "behavior" outcome.caseId.caseIdText_written.isValue
    (.text (textLiteral_writeText outcome.label).textForm)
  simpa only [written, writtenMembers, utf8_append, front, middle, back, List.append_assoc,
    List.cons_append, List.nil_append] using object

/-- What is written of an outcome holds that outcome. -/
theorem holds_written (outcome : Outcome) : Holds (utf8 outcome.written) outcome := by
  have caseOnce : OccursOnce outcome.writtenMembers "case" (utf8 outcome.caseId.written) := by
    simp [OccursOnce, writtenMembers]
  have labelOnce :
      OccursOnce outcome.writtenMembers "behavior" (utf8 (writeText outcome.label)) := by
    simp [OccursOnce, writtenMembers]
  have holds := Holds.object blank_nil blank_nil outcome.objectForm_written caseOnce
    outcome.caseId.caseIdText_written labelOnce (textLiteral_writeText outcome.label)
  rwa [List.nil_append, List.append_nil] at holds

/-- An outcome is written as an object of its two members, and loading that gives the outcome
back, whatever characters its texts are made of and whichever kind of identifier it has. -/
theorem load_written (outcome : Outcome) :
    ObjectForm (utf8 outcome.written) outcome.writtenMembers ∧
      load (utf8 outcome.written) = .ok outcome :=
  ⟨outcome.objectForm_written, outcome.holds_written.load⟩

end Outcome

end ConformanceReport
