import ConformanceReport.Proofs.Outcome.Defects
import ConformanceReport.Proofs.Outcome.Identifier

/-!
# Refused objects are blamed on their first defect

An object that is not accepted is refused with what it is blamed for (`RecordForm.isRefused`), and
the members that no outcome is read from do not change that (`first_defect_decides`). The members
before the first defect are taken, so the reader gets to the defect with what they hold.
-/

namespace ConformanceReport.Outcome

open Json

/-! ## Values that are refused -/

/-- A defect with a certain wording. -/
def Worded (message : String) (defect : Defect) : Prop :=
  defect.message = message

/-- Refusals of the grammar are worded by their cause. -/
theorem refused_grammatical {α : Type} {cause : Cause} {result : Except (Fault Cause) α}
    (refused : Refused (· = cause) result) :
    Refused (Worded cause.message) (grammatical result) := by
  obtain ⟨fault, rfl, rfl⟩ := refused
  exact ⟨_, rfl, rfl⟩

/-- A value of `case` is refused with its fault. -/
theorem CaseFault.refused {value before rest : Bytes} {message : String}
    (fault : CaseFault value message) (after : Bytes → Bytes) (blank : Blank before)
    (ends : Ends rest) :
    Refused (Worded message) (readCaseId after (before ++ (value ++ rest))) := by
  cases fault with
  | outOfRange isRefused =>
    exact (refused_grammatical (isRefused.meets blank ends)).bind_left _
  | noCaseId isRead noCase =>
    -- The whole value is read. If it were an identifier, its text would denote one.
    obtain ⟨found, isFound⟩ := isRead.meets blank ends
    refine Refused.bind_intro (grammatical_yields_iff.mpr isFound) fun _ => ?_
    dsimp only
    split
    · next caseId isCase =>
      obtain ⟨before', text, shape, blank', isText⟩ := readValue_caseId_sound isFound isCase
      obtain ⟨-, rfl, -⟩ := Form.unique blank blank' isRead.form isText.isValue ends ends shape
      exact absurd isText (noCase caseId)
    · exact ⟨_, rfl, rfl⟩

/-- A scalar is named by what it is read as. -/
theorem readKind_scalar {byte : UInt8} (noContainer : Bracket.opened? byte = none)
    (input : Bytes) :
    readKind (byte :: input) =
      readScalar (byte :: input) >>= fun scalar => .ok (kindOf scalar.value, scalar.rest) := by
  obtain ⟨noList, noObject⟩ := Bracket.opened?_eq_none_iff.mp noContainer
  rw [readKind, if_neg noList, if_neg noObject]

/-- Where a label has to stand, what does not start with a quote is refused. -/
theorem readLabel_other {before : Bytes} {byte : UInt8} (blank : Blank before)
    (significant : isBlank byte = false) (notQuote : byte ≠ ascii '"') (start : Bytes) :
    readLabel (before ++ byte :: start) = refuseKind .text (byte :: start) := by
  have found := skipBlank_append_cons blank significant start
  unfold readLabel
  split
  · next isNil =>
    rw [found] at isNil
    cases isNil
  next found' =>
  obtain ⟨rfl, rfl⟩ := List.cons.inj (found.symm.trans found')
  rw [if_neg notQuote]

/-- A value that is no string is refused by its kind where a label has to stand. -/
theorem OtherKind.refused {value before rest : Bytes} {kind : Kind} (isKind : OtherKind value kind)
    (blank : Blank before) (ends : Ends rest) :
    Refused (Worded ("invalid type: " ++ kind.shown messageLayout ++ ", expected a string"))
      (readLabel (before ++ (value ++ rest))) := by
  have named {byte : UInt8} {more after : Bytes} (significant : isBlank byte = false)
      (notQuote : byte ≠ ascii '"') (isNamed : readKind (byte :: more) = .ok (kind, after)) :
      Refused (Worded ("invalid type: " ++ kind.shown messageLayout ++ ", expected a string"))
        (readLabel (before ++ byte :: more)) := by
    rw [readLabel_other blank significant notQuote]
    refine Refused.bind_right (grammatical_eq_ok_iff.mpr isNamed) ⟨_, rfl, ?_⟩
    exact String.append_assoc
  have scalar {byte : UInt8} {more : Bytes} {found : Value} (significant : isBlank byte = false)
      (notQuote : byte ≠ ascii '"') (noContainer : Bracket.opened? byte = none)
      (isScalar : Yields (readScalar (byte :: more)) found rest) (isFound : kindOf found = kind) :
      Refused (Worded ("invalid type: " ++ kind.shown messageLayout ++ ", expected a string"))
        (readLabel (before ++ byte :: more)) := by
    obtain ⟨shorter, isOk⟩ := isScalar.eq_ok
    have isNamed : readKind (byte :: more) = .ok (kind, rest) := by
      rw [readKind_scalar noContainer, isOk, ← isFound]
      rfl
    exact named significant notQuote isNamed
  cases isKind with
  | null =>
    have isName : Yields (readScalar (utf8 "null" ++ rest)) .null rest :=
      readLiteralName_yields_iff.mpr ⟨rfl, rfl⟩
    exact scalar (by decide) (by decide) (by decide) isName rfl
  | boolean value =>
    have isName : Yields (readScalar (utf8 (toString value) ++ rest)) (.boolean value) rest := by
      cases value <;> exact readLiteralName_yields_iff.mpr ⟨rfl, rfl⟩
    cases value <;> exact scalar (by decide) (by decide) (by decide) isName rfl
  | number isNumber denotes =>
    have isScalar := readScalar_number_complete isNumber denotes ends
    obtain ⟨first, more, rfl, significant, noContainer, notQuote⟩ := isNumber.plain_head
    exact scalar significant notQuote noContainer isScalar rfl
  | list => exact named (by decide) (by decide) rfl
  | object => exact named (by decide) (by decide) rfl

/-- A value of `behavior` is refused with its fault. -/
theorem LabelFault.refused {value before rest : Bytes} {message : String}
    (fault : LabelFault value message) (blank : Blank before) (ends : Ends rest) :
    Refused (Worded message) (readLabel (before ++ (value ++ rest))) := by
  cases fault with
  | outOfRange isNumber exceeds =>
    have refused := readScalar_number_refused isNumber exceeds ends
    obtain ⟨first, more, rfl, significant, noContainer, notQuote⟩ := isNumber.plain_head
    rw [List.cons_append] at refused ⊢
    rw [readLabel_other blank significant notQuote, refuseKind,
      readKind_scalar noContainer]
    exact (refused_grammatical (refused.bind_left _)).bind_left _
  | wrongKind isKind => exact isKind.refused blank ends

/-! ## Members that are refused -/

/-- A member with a defect behind those that were taken is refused with it. -/
theorem Defective.refused {earlier : List Member} {member : Member} {message : String}
    {found : Found} {text rest : Bytes} (defective : Defective earlier member message)
    (takes : Takes earlier .none found) (isMember : MemberForm text member) (ends : Ends rest) :
    Refused (Worded message) (readOutcomeMember found (text ++ rest)) := by
  obtain ⟨afterKey, before, isKey, isColon, blank, -⟩ := isMember.parts rest
  refine Refused.bind_intro (grammatical_yields_iff.mpr isKey) fun _ => ?_
  dsimp only
  cases defective with
  -- A repeated key is refused as soon as it is read, the other defects behind the colon.
  | @duplicate member isField again =>
    split
    · next noField =>
      obtain ⟨noCase, noLabel⟩ := Field.ofKey?_eq_none_iff.mp noField
      rcases Member.isField_iff.mp isField with isCase | isLabel
      · exact absurd isCase noCase
      · exact absurd isLabel noLabel
    next field isField =>
    have isFieldKey := Field.ofKey?_eq_some_iff.mp isField
    rw [isFieldKey] at again ⊢
    rw [if_pos ((takes.has_iff field).mpr again)]
    exact ⟨_, rfl, rfl⟩
  | caseId isFirst fault =>
    have notFound : ¬ found.has .caseId := mt (takes.has_iff .caseId).mp isFirst
    have isField : Field.ofKey? "case" = some .caseId := rfl
    simp only [isField, if_neg notFound]
    refine Refused.bind_intro (grammatical_yields_iff.mpr isColon) fun _ => ?_
    exact (fault.refused afterObjectEnd blank ends).bind_left _
  | label isFirst fault =>
    have notFound : ¬ found.has .behavior := mt (takes.has_iff .behavior).mp isFirst
    have isField : Field.ofKey? "behavior" = some .behavior := rfl
    simp only [isField, if_neg notFound]
    refine Refused.bind_intro (grammatical_yields_iff.mpr isColon) fun _ => ?_
    exact (fault.refused blank ends).bind_left _

/-- A refused member refuses the object that it is the next member of. -/
theorem MembersFrom.refused {first : Bool} {text : Bytes} {member : Member} {members : List Member}
    {found : Found} {isCause : Defect → Prop} (isFrom : MembersFrom first text (member :: members))
    (refused : ∀ inner later, MemberForm inner member → Ends later →
      Refused isCause (readOutcomeMember found (inner ++ later))) (rest : Bytes) :
    Refused isCause (readOutcomeObject first found (text ++ rest)) := by
  obtain ⟨separator, inner, later, separates, isMember, isLater, rfl⟩ := isFrom.exists_member
  obtain ⟨fault, isFault, cause⟩ := refused inner (later ++ rest) isMember (isLater.ends rest)
  obtain ⟨more, rfl⟩ := isMember.head
  obtain ⟨length_le, isNext⟩ := nextMember_entry separates (more ++ (later ++ rest))
  refine ⟨fault, ?_, cause⟩
  rw [List.cons_append] at isFault
  rw [List.append_assoc, List.cons_append, List.cons_append, List.append_assoc,
    readOutcomeObject.eq_def]
  simp only [isNext, isFault]

/-- Without an identifier an outcome is not whole. -/
theorem Found.outcome_noCase {found : Found} (absent : ¬ found.has .caseId) :
    found.outcome = .error .caseId := by
  obtain ⟨_ | caseId, label⟩ := found
  · rfl
  · exact absurd rfl absent

/-- With an identifier but without a label an outcome is not whole. -/
theorem Found.outcome_noLabel {found : Found} (present : found.has .caseId)
    (absent : ¬ found.has .behavior) : found.outcome = .error .behavior := by
  obtain ⟨_ | caseId, _ | label⟩ := found
  · cases present
  · cases present
  · rfl
  · exact absurd rfl absent

/-- An object with a missing field is refused at its end. -/
theorem ObjectForm.missing {text : Bytes} {members : List Member}
    (isObject : ObjectForm (ascii '\x7b' :: text) members) {found : Found} {field : Field}
    (takes : Takes members .none found) (isMissing : found.outcome = .error field) (rest : Bytes) :
    Refused (· = .missing field) (readOutcomeObject true .none (text ++ rest)) := by
  have isFrom : MembersFrom true text (members ++ []) := by
    rw [List.append_nil]
    exact isObject
  obtain ⟨first, text', isEnd, reads⟩ := isFrom.advance takes
  obtain ⟨before, blank, rfl⟩ := isEnd.exists_close
  obtain ⟨shorter, isNext⟩ := nextMember_close first blank rest
  rw [reads, List.append_assoc, List.singleton_append, readOutcomeObject.eq_def]
  simp only [isNext, isMissing]
  exact ⟨_, rfl, rfl⟩

/-- An object is refused with what it is blamed for. -/
theorem Blamed.refused {text : Bytes} {members : List Member} {message : String}
    (blamed : Blamed members message) (isObject : ObjectForm (ascii '\x7b' :: text) members)
    (sound : SoundFields members) (rest : Bytes) :
    Refused (Worded message) (readOutcomeObject true .none (text ++ rest)) := by
  cases blamed with
  | @defect earlier later member _ shape clean defective =>
    subst shape
    obtain ⟨found, takes⟩ :=
      clean.takes fun previous isPrevious => sound previous (by simp [isPrevious])
    -- What stands before the first defect is taken, so the reader gets there.
    have isFrom : MembersFrom true text (earlier ++ member :: later) := isObject
    obtain ⟨first, text', isMore, reads⟩ := isFrom.advance takes
    rw [reads]
    exact isMore.refused (fun _ _ isMember ends => defective.refused takes isMember ends) rest
  | noCase clean absent =>
    obtain ⟨found, takes⟩ := clean.takes sound
    have isMissing := Found.outcome_noCase (mt (takes.has_iff .caseId).mp absent)
    obtain ⟨fault, isFault, cause⟩ := isObject.missing takes isMissing rest
    exact ⟨fault, isFault, congrArg Defect.message cause⟩
  | noLabel clean present absent =>
    obtain ⟨found, takes⟩ := clean.takes sound
    have isMissing := Found.outcome_noLabel ((takes.has_iff .caseId).mpr present)
      (mt (takes.has_iff .behavior).mp absent)
    obtain ⟨fault, isFault, cause⟩ := isObject.missing takes isMissing rest
    exact ⟨fault, isFault, congrArg Defect.message cause⟩

/-! ## Contents that are refused -/

/-- A content that is an object with sound fields, and the members of the object. What is no field
only has a form. -/
inductive RecordForm : Bytes → List Member → Prop where
  | object {before object after : Bytes} {members : List Member} (blankBefore : Blank before)
      (blankAfter : Blank after) (isObject : ObjectForm object members)
      (sound : SoundFields members) : RecordForm (before ++ (object ++ after)) members

/-- A content is refused with a message, in front of the place of the fault. -/
def IsRefused (content : Bytes) (message : String) : Prop :=
  ∃ malformed, load content = .error malformed ∧
    malformed.message = message ++ " at line " ++ toString malformed.position.line ++ " column " ++
      toString malformed.position.column

/-- A content is refused with one message. -/
theorem IsRefused.unique {content : Bytes} {message message' : String}
    (refused : IsRefused content message) (refused' : IsRefused content message') :
    message = message' := by
  obtain ⟨malformed, isError, isMessage⟩ := refused
  obtain ⟨malformed', isError', isMessage'⟩ := refused'
  obtain rfl := Except.error.inj (isError.symm.trans isError')
  rw [isMessage] at isMessage'
  simpa only [String.append_left_inj] using isMessage'

/-- What is refused is not loaded. -/
theorem IsRefused.not_loaded {content : Bytes} {message : String}
    (refused : IsRefused content message) (outcome : Outcome) : load content ≠ .ok outcome := by
  obtain ⟨malformed, isError, -⟩ := refused
  rw [isError]
  exact nofun

/-- An object is a record without insignificant bytes around it. -/
theorem ObjectForm.record {object : Bytes} {members : List Member}
    (isObject : ObjectForm object members) (sound : SoundFields members) :
    RecordForm object members := by
  have isRecord := RecordForm.object blank_nil blank_nil isObject sound
  rwa [List.nil_append, List.append_nil] at isRecord

/-- A record is refused with what it is blamed for. -/
theorem RecordForm.isRefused {content : Bytes} {members : List Member} {message : String}
    (isRecord : RecordForm content members) (blamed : Blamed members message) :
    IsRefused content message := by
  cases isRecord with
  | @object before object after _ blankBefore blankAfter isObject sound =>
    obtain ⟨more, rfl⟩ := isObject.head
    obtain ⟨fault, isFault, worded⟩ := blamed.refused isObject sound after
    have isFront : readFront (before ++ (ascii '\x7b' :: more ++ after)) = .error fault := by
      rw [readFront, List.cons_append, skipBlank_append_cons blankBefore (by decide)]
      exact isFault
    refine ⟨⟨fault.cause, fault.position (before ++ (ascii '\x7b' :: more ++ after))⟩, ?_, ?_⟩
    · rw [load, read, isFront]
      rfl
    · rw [← worded]
      rfl

/-- A record that is not accepted is blamed for something. -/
theorem RecordForm.exists_blamed {content : Bytes} {members : List Member}
    (isRecord : RecordForm content members) (notLoaded : ∀ outcome, load content ≠ .ok outcome) :
    ∃ message, Blamed members message := by
  cases isRecord with
  | object blankBefore blankAfter isObject sound =>
    obtain clean | ⟨earlier, member, later, message, shape, clean, defective⟩ :=
      clean_or_defect members
    · by_cases isCase : Occurs members "case"
      · by_cases isLabel : Occurs members "behavior"
        · obtain ⟨⟨_ | caseId, _ | label⟩, takes⟩ := clean.takes sound
          · cases (takes.has_iff .caseId).mpr isCase
          · cases (takes.has_iff .caseId).mpr isCase
          · cases (takes.has_iff .behavior).mpr isLabel
          · obtain ⟨⟨_, caseOnce, isIdentifier⟩, _, labelOnce, isText⟩ := takes_none_iff.mp takes
            have holds :=
              Holds.object blankBefore blankAfter isObject caseOnce isIdentifier labelOnce isText
            exact absurd holds.load (notLoaded _)
        · exact ⟨_, .noLabel clean isCase isLabel⟩
      · exact ⟨_, .noCase clean isCase⟩
    · exact ⟨message, .defect shape clean defective⟩

/-- What a record that is not accepted is refused with is decided by its first defect in the order
of its members, and without any defect by the field that is missing. Another record with the same
fields in the same order is refused with the same, whatever other members it has. -/
theorem first_defect_decides {content : Bytes} {members : List Member}
    (isRecord : RecordForm content members) (notLoaded : ∀ outcome, load content ≠ .ok outcome) :
    ∃ message, (∀ other, Blamed members other ↔ other = message) ∧ IsRefused content message ∧
      ∀ content' members', RecordForm content' members' →
        members'.filter Member.isField = members.filter Member.isField →
          IsRefused content' message := by
  obtain ⟨message, blamed⟩ := isRecord.exists_blamed notLoaded
  have refused := isRecord.isRefused blamed
  refine ⟨message, ?_, refused, ?_⟩
  · intro other
    constructor
    · intro blamed'
      exact (isRecord.isRefused blamed').unique refused
    · rintro rfl
      exact blamed
  · intro content' members' isRecord' sameFields
    rw [← blamed_filter_iff, ← sameFields, blamed_filter_iff] at blamed
    exact isRecord'.isRefused blamed

/-- Of a list as identifier, a second identifier and a missing label the list is blamed. -/
theorem first_defect_decides_among_three :
    let content := utf8 "\x7b\"case\":[],\"case\":\"a\"\x7d"
    let members : List Member := [⟨"case", utf8 "[]"⟩, ⟨"case", utf8 (writeText "a")⟩]
    RecordForm content members ∧ (∀ outcome, load content ≠ .ok outcome) ∧
      IsRefused content "data did not match any variant of untagged enum CaseId" ∧
      ∀ content', RecordForm content' (⟨"note", utf8 "1e999"⟩ :: members) →
        IsRefused content' "data did not match any variant of untagged enum CaseId" := by
  intro content members
  have list : Sound .read .value (nestingLimit - 1) (utf8 "[]") :=
    @Sound.empty 125 .list [] blank_nil
  have text : Sound .read .value (nestingLimit - 1) (utf8 (writeText "a")) :=
    .text (textLiteral_writeText "a")
  have sound : SoundFields members := by
    simp only [SoundFields, members, List.forall_mem_cons, List.not_mem_nil]
    exact ⟨fun _ => ⟨_, list⟩, fun _ => ⟨_, text⟩, by simp⟩
  have shape : content = ascii '\x7b' :: (utf8 (writeText "case") ++ ascii ':' :: (utf8 "[]" ++
      ascii ',' :: (utf8 (writeText "case") ++ ascii ':' ::
        (utf8 (writeText "a") ++ [ascii '\x7d'])))) := by decide +kernel
  have isRecord : RecordForm content members := by
    rw [shape]
    exact (objectForm_compact "case" "case" list.form text.form).record sound
  have noCase (caseId : CaseId) : ¬ CaseIdText (utf8 "[]") caseId := by
    intro isCase
    obtain ⟨first, more, same, -, noContainer⟩ := isCase.head
    obtain ⟨rfl, -⟩ := List.cons.inj same
    cases noContainer
  have blamed : Blamed members "data did not match any variant of untagged enum CaseId" :=
    .defect (List.nil_append _).symm clean_nil
      (.caseId (by simp [Occurs]) (.noCaseId list noCase))
  have notLoaded := (isRecord.isRefused blamed).not_loaded
  obtain ⟨message, isBlamed, refused, others⟩ := first_defect_decides isRecord notLoaded
  obtain rfl := (isBlamed _).mp blamed
  exact ⟨isRecord, notLoaded, refused, fun content' isRecord' => others content' _ isRecord' rfl⟩

/-! ## Numbers just within the range of doubles -/

/-- The greatest finite double. -/
def greatestDouble : Nat :=
  (2 ^ 53 - 1) * 2 ^ 971

/-- The power of ten that goes with the digits of a number. -/
def exactPower (literal : Literal) : Int :=
  let exponent : Int := match literal.exponent with
    | none => 0
    | some (true, digits) => -(decimalValue digits : Int)
    | some (false, digits) => decimalValue digits
  exponent - (literal.fraction.getD []).length

/-- A number of no greater magnitude than the greatest finite double. -/
def WithinDoubles (literal : Literal) : Prop :=
  decimalValue (literal.whole ++ literal.fraction.getD []) * 10 ^ (exactPower literal).toNat ≤
    greatestDouble * 10 ^ (-exactPower literal).toNat

/-- A number just below the greatest double, `17976931348623157081e289`. -/
def belowGreatest : Literal :=
  ⟨false, digitsOf (ascii '1' :: utf8 "7976931348623157081"), none,
    some (false, digitsOf (utf8 "289"))⟩

/-- How the number is written. -/
theorem numberForm_belowGreatest :
    NumberForm (utf8 "17976931348623157081e289") belowGreatest := by
  have all (digits : Bytes) (isDigits : ∀ byte ∈ digits, ascii '0' ≤ byte ∧ byte ≤ ascii '9') :
      Digits digits := isDigits
  have isWhole : WholeForm (ascii '1' :: utf8 "7976931348623157081") :=
    .digits (by decide) (by decide) (all _ (by decide +kernel))
  have isExponent : ExponentForm (ascii 'e' :: ([] ++ utf8 "289"))
      (some (false, digitsOf (utf8 "289"))) :=
    .present (.inl rfl) .absent (by decide +kernel) (all _ (by decide +kernel))
  have shape : utf8 "17976931348623157081e289" = minusSign false ++
      (ascii '1' :: utf8 "7976931348623157081" ++ ([] ++ ascii 'e' :: ([] ++ utf8 "289"))) := by
    decide +kernel
  rw [shape]
  exact .parts false isWhole .absent isExponent

/-- The product of the digits and the power of ten is rounded up past the greatest double. -/
theorem belowGreatest_exceeds : belowGreatest.denoted = .error 0 := by
  have isSignificand : belowGreatest.significand = (17976931348623157081, 0) := by decide +kernel
  have isPower : exponentValue 0 (digitsOf (utf8 "289")) = .inl 289 := by decide +kernel
  have overflow : scale (UInt64.toFloat 17976931348623157081) 289 4 = none :=
    Option.isNone_iff_eq_none.mp (by decide +kernel)
  rw [belowGreatest] at isSignificand
  simp [belowGreatest, Literal.denoted, Literal.floating, isSignificand, isPower, overflow,
    clampExponent]

/-- A number with an exponent is no identifier. -/
theorem belowGreatest_noCase (caseId : CaseId) :
    ¬ CaseIdText (utf8 "17976931348623157081e289") caseId := by
  intro isCase
  cases isCase with
  | number natural =>
    have same := congrArg Literal.exponent (numberForm_belowGreatest.unique natural.numberForm)
    cases same
  | name isText =>
    obtain ⟨body, shape, -⟩ := isText
    obtain ⟨first, more, shape', -, -, notQuote⟩ := numberForm_belowGreatest.plain_head
    rw [shape'] at shape
    exact notQuote (List.cons.inj shape).1

/-- As the value of `case` a number just below the greatest double is refused for its range and not
as being no identifier, though all numbers of the content are within the range of doubles. -/
theorem refused_within_doubles :
    let value := utf8 "17976931348623157081e289"
    let label := utf8 (writeText "OK")
    let content := utf8 "\x7b\"case\":17976931348623157081e289,\"behavior\":\"OK\"\x7d"
    ObjectForm content [⟨"case", value⟩, ⟨"behavior", label⟩] ∧
      (∃ literal, NumberForm value literal ∧ WithinDoubles literal) ∧ TextLiteral label "OK" ∧
      (∀ caseId, ¬ CaseIdText value caseId) ∧ (∀ outcome, load content ≠ .ok outcome) ∧
      IsRefused content "number out of range" ∧
      ¬ IsRefused content "data did not match any variant of untagged enum CaseId" := by
  intro value label content
  have within : WithinDoubles belowGreatest := by
    unfold WithinDoubles
    decide +kernel
  have isOut : Sound .refused .value (nestingLimit - 1) value :=
    .outOfRange numberForm_belowGreatest belowGreatest_exceeds
  have isLabel : TextLiteral label "OK" := textLiteral_writeText "OK"
  have shape : content = ascii '\x7b' :: (utf8 (writeText "case") ++ ascii ':' :: (value ++
      ascii ',' :: (utf8 (writeText "behavior") ++ ascii ':' :: (label ++ [ascii '\x7d'])))) := by
    decide +kernel
  have isObject : ObjectForm content [⟨"case", value⟩, ⟨"behavior", label⟩] := by
    rw [shape]
    exact objectForm_compact "case" "behavior" isOut.form (.text isLabel.textForm)
  have sound : SoundFields [⟨"case", value⟩, ⟨"behavior", label⟩] := by
    simp only [SoundFields, List.forall_mem_cons, List.not_mem_nil]
    exact ⟨fun _ => ⟨_, isOut⟩, fun _ => ⟨_, .text isLabel⟩, by simp⟩
  have blamed : Blamed [⟨"case", value⟩, ⟨"behavior", label⟩] "number out of range" :=
    .defect (List.nil_append _).symm clean_nil (.caseId (by simp [Occurs]) (.outOfRange isOut))
  have refused := (isObject.record sound).isRefused blamed
  refine ⟨isObject, ⟨_, numberForm_belowGreatest, within⟩, isLabel, belowGreatest_noCase,
    refused.not_loaded, refused, ?_⟩
  intro refused'
  exact absurd (refused.unique refused') (by decide)

end ConformanceReport.Outcome
