import ConformanceReport.Outcome.Load
import ConformanceReport.Proofs.Json.Number
import ConformanceReport.Proofs.Json.Text

/-!
# Texts that hold an outcome

`Holds` says which contents hold which outcome, without any reader: an object in which `case` and
`behavior` each occur exactly once among any other members, or a list of two values. The values of
other members have a form and nothing else. Both texts are JSON values (`ObjectForm.isValue`,
`PairForm.isValue`).
-/

namespace ConformanceReport.Outcome

open Json

/-- A member of an object: the text that its key denotes, and the bytes of its value. -/
structure Member where
  key : String
  value : Bytes
  deriving DecidableEq, Repr

/-- A member in a text. Its key has to denote a text, its value only has to have a form. -/
inductive MemberForm : Bytes → Member → Prop where
  | member {key between after value : Bytes} {name : String} (isKey : TextLiteral key name)
      (blankBetween : Blank between) (blankAfter : Blank after) (isValue : Form .value value) :
      MemberForm (key ++ (between ++ ascii ':' :: (after ++ value))) ⟨name, value⟩

/-- The members that follow a member of an object, up to the end of the object. -/
inductive LaterMembers : Bytes → List Member → Prop where
  | close {before : Bytes} (blank : Blank before) : LaterMembers (before ++ [ascii '\x7d']) []
  | next {before between text later : Bytes} {member : Member} {members : List Member}
      (blank : Blank before) (blankBetween : Blank between) (isMember : MemberForm text member)
      (isLater : LaterMembers later members) :
      LaterMembers (before ++ ascii ',' :: (between ++ (text ++ later))) (member :: members)

/-- An object and its members, in order. -/
inductive ObjectForm : Bytes → List Member → Prop where
  | empty {inside : Bytes} (blank : Blank inside) :
      ObjectForm (ascii '\x7b' :: (inside ++ [ascii '\x7d'])) []
  | members {before text later : Bytes} {member : Member} {members : List Member}
      (blank : Blank before) (isMember : MemberForm text member)
      (isLater : LaterMembers later members) :
      ObjectForm (ascii '\x7b' :: (before ++ (text ++ later))) (member :: members)

/-- A list of exactly two values. -/
inductive PairForm : Bytes → Bytes → Bytes → Prop where
  | pair {before between after inside first second : Bytes} (blank : Blank before)
      (blankBetween : Blank between) (blankAfter : Blank after) (blankInside : Blank inside)
      (isFirst : Form .value first) (isSecond : Form .value second) :
      PairForm (ascii '[' :: (before ++ (first ++ (between ++ ascii ',' ::
        (after ++ (second ++ (inside ++ [ascii ']']))))))) first second

/-- A value that denotes a case identifier: a plain integer of 64 bits, or a string. -/
inductive CaseIdText : Bytes → CaseId → Prop where
  | number {bytes : Bytes} {value : UInt64} (literal : NaturalLiteral bytes value.toNat) :
      CaseIdText bytes (.number value)
  | name {bytes : Bytes} {text : String} (literal : TextLiteral bytes text) :
      CaseIdText bytes (.name text)

/-- A key occurs exactly once among members, with a given value. -/
def OccursOnce (members : List Member) (key : String) (value : Bytes) : Prop :=
  members.filter (fun member => member.key = key) = [⟨key, value⟩]

/-- A content holds an outcome. -/
inductive Holds : Bytes → Outcome → Prop where
  | object {before object after caseText labelText : Bytes} {members : List Member}
      {caseId : CaseId} {label : String} (blankBefore : Blank before) (blankAfter : Blank after)
      (isObject : ObjectForm object members) (caseOnce : OccursOnce members "case" caseText)
      (isCase : CaseIdText caseText caseId)
      (labelOnce : OccursOnce members "behavior" labelText)
      (isLabel : TextLiteral labelText label) :
      Holds (before ++ (object ++ after)) ⟨caseId, label⟩
  | pair {before pair after caseText labelText : Bytes} {caseId : CaseId} {label : String}
      (blankBefore : Blank before) (blankAfter : Blank after)
      (isPair : PairForm pair caseText labelText) (isCase : CaseIdText caseText caseId)
      (isLabel : TextLiteral labelText label) :
      Holds (before ++ (pair ++ after)) ⟨caseId, label⟩

/-! ## The texts are JSON values -/

/-- A case identifier is a value. -/
theorem CaseIdText.isValue {bytes : Bytes} {caseId : CaseId} (isCase : CaseIdText bytes caseId) :
    Form .value bytes := by
  cases isCase with
  | number literal => exact .number literal.numberForm
  | name literal => exact .text literal.textForm

/-- A member is an entry of an object: a label and a value. -/
theorem MemberForm.exists_label {text before : Bytes} {member : Member} (blank : Blank before)
    (isMember : MemberForm text member) :
    ∃ label, before ++ text = label ++ member.value ∧ LabelForm .object label ∧
      Form .value member.value := by
  cases isMember with
  | member isKey blankBetween blankAfter isValue =>
    refine ⟨_, ?_, .member blank isKey.textForm blankBetween blankAfter, isValue⟩
    simp

/-- What follows a member is what follows the value of an entry. -/
theorem LaterMembers.isTail {text : Bytes} {members : List Member}
    (isLater : LaterMembers text members) : Form (.tail .object) text := by
  induction isLater with
  | close blank => exact .close blank
  | @next before between text later member members blank blankBetween isMember _
      inductionHypothesis =>
    obtain ⟨label, shape, isLabel, isValue⟩ := isMember.exists_label blankBetween
    have joined : between ++ (text ++ later) = label ++ (member.value ++ later) := by
      rw [← List.append_assoc, shape, List.append_assoc]
    rw [joined]
    exact .next blank isLabel isValue inductionHypothesis

/-- An object with its members is a value. -/
theorem ObjectForm.isValue {text : Bytes} {members : List Member}
    (isObject : ObjectForm text members) : Form .value text := by
  cases isObject with
  | @empty inside blank =>
    have isEmpty : Form .value (Bracket.object.opening :: (inside ++ [Bracket.object.closing])) :=
      .empty blank
    exact isEmpty
  | @members before text later member members blank isMember isLater =>
    obtain ⟨label, shape, isLabel, isValue⟩ := isMember.exists_label blank
    have joined : before ++ (text ++ later) = label ++ (member.value ++ later) := by
      rw [← List.append_assoc, shape, List.append_assoc]
    have isEntries : Form .value
        (Bracket.object.opening :: (label ++ (member.value ++ later))) :=
      .entries isLabel isValue isLater.isTail
    rw [joined]
    exact isEntries

/-- A list of two values is a value. -/
theorem PairForm.isValue {text first second : Bytes} (isPair : PairForm text first second) :
    Form .value text := by
  cases isPair with
  | @pair before between after inside _ _ blank blankBetween blankAfter blankInside isFirst
      isSecond =>
    have isEnd : Form (.tail .list) (inside ++ [Bracket.list.closing]) := .close blankInside
    have isEntries : Form .value (Bracket.list.opening :: (before ++ (first ++
        (between ++ ascii ',' :: (after ++ (second ++ (inside ++ [Bracket.list.closing]))))))) :=
      .entries (.item blank) isFirst (.next blankBetween (.item blankAfter) isSecond isEnd)
    exact isEntries

end ConformanceReport.Outcome
