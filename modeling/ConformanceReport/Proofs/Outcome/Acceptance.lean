import ConformanceReport.Proofs.Outcome.Members

/-!
# A content is loaded exactly if it holds an outcome

`load_eq_ok_iff_holds` is the main law: loading succeeds with an outcome exactly on the contents
that hold it. Each reader has a law for what it accepts and one for what it does not miss, the
object by induction on its members.
-/

namespace ConformanceReport.Outcome

open Json

/-! ## Objects -/

/-- The members of an object, of which the first may have been read. -/
def MembersFrom : Bool → Bytes → List Member → Prop
  | true, text, members => ObjectForm (ascii '\x7b' :: text) members
  | false, text, members => LaterMembers text members

/-- An object may end at once. -/
theorem MembersFrom.close (first : Bool) {before : Bytes} (blank : Blank before) :
    MembersFrom first (before ++ [ascii '\x7d']) [] := by
  cases first with
  | true => exact ObjectForm.empty blank
  | false => exact LaterMembers.close blank

/-- A member stands behind what separates it from those before it. -/
theorem MembersFrom.member {first : Bool} {separator text later : Bytes} {member : Member}
    {members : List Member} (separates : Separates first separator)
    (isMember : MemberForm text member) (isLater : LaterMembers later members) :
    MembersFrom first (separator ++ (text ++ later)) (member :: members) := by
  cases separates with
  | first blank => exact ObjectForm.members blank isMember isLater
  | later blank blankBetween =>
    rw [List.append_assoc, List.cons_append]
    exact LaterMembers.next blank blankBetween isMember isLater

/-- Without members an object ends behind insignificant bytes. -/
theorem MembersFrom.exists_close {first : Bool} {text : Bytes}
    (isFrom : MembersFrom first text []) :
    ∃ before, Blank before ∧ text = before ++ [ascii '\x7d'] := by
  cases first with
  | true =>
    cases isFrom with
    | empty blank => exact ⟨_, blank, rfl⟩
  | false =>
    cases isFrom with
    | close blank => exact ⟨_, blank, rfl⟩

/-- The first member stands behind what separates it and in front of the later ones. -/
theorem MembersFrom.exists_member {first : Bool} {text : Bytes} {member : Member}
    {members : List Member} (isFrom : MembersFrom first text (member :: members)) :
    ∃ separator inner later, Separates first separator ∧ MemberForm inner member ∧
      LaterMembers later members ∧ text = separator ++ (inner ++ later) := by
  cases first with
  | true =>
    cases isFrom with
    | members blank isMember isLater => exact ⟨_, _, _, .first blank, isMember, isLater, rfl⟩
  | false =>
    cases isFrom with
    | next blank blankBetween isMember isLater =>
      exact ⟨_, _, _, .later blank blankBetween, isMember, isLater, by simp⟩

/-- Numbers end in front of what follows a member. -/
theorem LaterMembers.ends {text : Bytes} {members : List Member}
    (isLater : LaterMembers text members) (rest : Bytes) : Ends (text ++ rest) :=
  isLater.isTail.tail_ends rest

/-- A member starts at a quote. -/
theorem MemberForm.head {text : Bytes} {member : Member} (isMember : MemberForm text member) :
    ∃ more, text = ascii '"' :: more := by
  cases isMember with
  | member isKey =>
    obtain ⟨body, rfl, -⟩ := isKey
    exact ⟨_, rfl⟩

/-- What is read as the members of an object are members that lead to the outcome. -/
theorem readOutcomeObject_sound {first : Bool} {found : Found} {input rest : Bytes}
    {outcome : Outcome} (read : readOutcomeObject first found input = .ok (outcome, rest)) :
    ∃ text members, input = text ++ rest ∧ MembersFrom first text members ∧
      Takes members found ⟨some outcome.caseId, some outcome.label⟩ := by
  fun_induction readOutcomeObject first found input with
  | case1 => cases read
  | case2 first found input closed shorter isNext whole isWhole =>
    cases read
    obtain ⟨before, blank, rfl⟩ := nextMember_sound isNext
    refine ⟨_, [], by simp, .close first blank, takes_nil_iff.mpr ?_⟩
    exact (Found.outcome_eq_ok_iff.mp isWhole).symm
  | case3 => cases read
  | case4 => cases read
  | case5 first found input start length_le isNext member isMember inductionHypothesis =>
    obtain ⟨later, members, isRest, isLater, follows⟩ := inductionHypothesis read
    obtain ⟨separator, more, separates, rfl, rfl⟩ := nextMember_sound isNext
    obtain ⟨text, entry, shape, form, takes⟩ :=
      readOutcomeMember_sound ⟨member, isMember, rfl, rfl⟩
    refine ⟨_, _, ?_, .member separates form isLater, takes_cons_iff.mpr ⟨_, takes, follows⟩⟩
    rw [shape, isRest]
    simp

/-- The end of an object is read where both parts were found. -/
theorem readOutcomeObject_close {first : Bool} {found : Found} {before : Bytes} {outcome : Outcome}
    (blank : Blank before) (isWhole : found.outcome = .ok outcome) (rest : Bytes) :
    readOutcomeObject first found (before ++ ascii '\x7d' :: rest) = .ok (outcome, rest) := by
  obtain ⟨shorter, isNext⟩ := nextMember_close first blank rest
  rw [readOutcomeObject.eq_def]
  simp only [isNext, isWhole]

/-- A member is read in one step. -/
theorem readOutcomeObject_next {first : Bool} {found after : Found}
    {separator text later : Bytes} {member : Member} (separates : Separates first separator)
    (isMember : MemberForm text member) (takes : Takes [member] found after) (ends : Ends later) :
    readOutcomeObject first found (separator ++ (text ++ later)) =
      readOutcomeObject false after later := by
  have read := readOutcomeMember_complete isMember takes ends
  obtain ⟨more, rfl⟩ := isMember.head
  obtain ⟨length_le, isNext⟩ := nextMember_entry separates (more ++ later)
  rw [List.cons_append] at read ⊢
  obtain ⟨shorter, isOk⟩ := read.eq_ok
  rw [readOutcomeObject.eq_def]
  simp only [isNext, isOk]

/-- Members that can be taken are read one after the other, up to those that follow them. -/
theorem MembersFrom.advance {first : Bool} {text : Bytes} {taken more : List Member}
    {found after : Found} (isFrom : MembersFrom first text (taken ++ more))
    (takes : Takes taken found after) :
    ∃ first' text', MembersFrom first' text' more ∧
      ∀ rest, readOutcomeObject first found (text ++ rest) =
        readOutcomeObject first' after (text' ++ rest) := by
  induction taken generalizing first text found with
  | nil =>
    obtain rfl := takes_nil_iff.mp takes
    exact ⟨first, text, isFrom, fun _ => rfl⟩
  | cons member taken inductionHypothesis =>
    obtain ⟨separator, inner, later, separates, isMember, isLater, rfl⟩ := isFrom.exists_member
    obtain ⟨middle, takesMember, follows⟩ := takes_cons_iff.mp takes
    have isFrom' : MembersFrom false later (taken ++ more) := isLater
    obtain ⟨first', text', isMore, reads⟩ := inductionHypothesis isFrom' follows
    refine ⟨first', text', isMore, fun rest => ?_⟩
    rw [List.append_assoc, List.append_assoc,
      readOutcomeObject_next separates isMember takesMember (isLater.ends rest), reads]

/-- An object whose members lead to the outcome is read. -/
theorem ObjectForm.read {text : Bytes} {members : List Member}
    (isObject : ObjectForm (ascii '\x7b' :: text) members) {outcome : Outcome}
    (takes : Takes members .none ⟨some outcome.caseId, some outcome.label⟩) (rest : Bytes) :
    readOutcomeObject true .none (text ++ rest) = .ok (outcome, rest) := by
  have isFrom : MembersFrom true text (members ++ []) := by
    rw [List.append_nil]
    exact isObject
  obtain ⟨first, text', isEnd, reads⟩ := isFrom.advance takes
  obtain ⟨before, blank, rfl⟩ := isEnd.exists_close
  rw [reads, List.append_assoc, List.singleton_append]
  exact readOutcomeObject_close blank (Found.outcome_eq_ok_iff.mpr rfl) rest

/-! ## Lists -/

/-- A list ends exactly at its closing byte. -/
theorem readListEnd_eq_ok_iff {input rest : Bytes} :
    readListEnd input = .ok rest ↔
      ∃ before, Blank before ∧ input = before ++ ascii ']' :: rest := by
  constructor
  · intro read
    unfold readListEnd at read
    split at read
    · cases read
    next byte more found =>
    obtain ⟨-, before, blank, rfl⟩ := skipBlank_eq_cons_iff.mp found
    split at read
    · next isClosing =>
      cases read
      exact ⟨before, blank, by rw [isClosing]⟩
    split at read
    · split at read <;> cases read
    · cases read
  · rintro ⟨before, blank, rfl⟩
    rw [readListEnd, skipBlank_append_cons blank (by decide)]
    rfl

/-- What is read as the two values of a list are two values that denote the outcome. -/
theorem readOutcomeList_sound {input rest : Bytes} {outcome : Outcome}
    (read : readOutcomeList input = .ok (outcome, rest)) :
    ∃ text caseText labelText, input = text ++ rest ∧
      PairForm (ascii '[' :: text) caseText labelText ∧ CaseIdText caseText outcome.caseId ∧
      TextLiteral labelText outcome.label := by
  unfold readOutcomeList at read
  obtain ⟨next, isNext, read⟩ := bind_eq_ok_iff.mp read
  rw [grammatical_eq_ok_iff] at isNext
  cases next with
  | close => cases read
  | entry start length_le =>
  obtain ⟨separator, separates, rfl⟩ := nextItem_sound isNext
  obtain ⟨⟨caseId, afterCase, _⟩, isIdentifier, read⟩ := bind_eq_ok_iff.mp read
  obtain ⟨inside, caseText, isStart, blankInside, isCase⟩ := readCaseId_sound (.of_ok isIdentifier)
  obtain ⟨next, isNext', read⟩ := bind_eq_ok_iff.mp read
  rw [grammatical_eq_ok_iff] at isNext'
  cases next with
  | close => cases read
  | entry start' length_le' =>
  obtain ⟨separator', separates', isSecond⟩ := nextItem_sound isNext'
  obtain ⟨⟨label, afterLabel, _⟩, isString, read⟩ := bind_eq_ok_iff.mp read
  obtain ⟨inside', labelText, isStart', blankInside', isLabel⟩ :=
    readLabel_yields_iff.mp (.of_ok isString)
  obtain ⟨afterList, isEnd, read⟩ := bind_eq_ok_iff.mp read
  obtain ⟨before, blank, isRest⟩ := readListEnd_eq_ok_iff.mp (grammatical_eq_ok_iff.mp isEnd)
  cases read
  dsimp only at isStart isSecond isStart' isRest
  subst isRest isStart' isSecond isStart
  cases separates with
  | first blankBefore =>
  cases separates' with
  | later blankBetween blankAfter =>
  refine ⟨_, caseText, labelText, ?_, .pair (blank_append_iff.mpr ⟨blankBefore, blankInside⟩)
    blankBetween (blank_append_iff.mpr ⟨blankAfter, blankInside'⟩) blank isCase.isValue
    (.text isLabel.textForm), isCase, isLabel⟩
  simp

/-- A list is read in five steps. -/
theorem readOutcomeList_steps {input start afterCase start' afterLabel rest : Bytes}
    {caseId : CaseId} {label : String}
    (isFirst : ∃ length_le, nextItem true input = .ok (.entry start length_le))
    (isCase : Yields (readCaseId afterListEnd start) caseId afterCase)
    (isSecond : ∃ length_le, nextItem false afterCase = .ok (.entry start' length_le))
    (isLabel : Yields (readLabel start') label afterLabel)
    (isEnd : readListEnd afterLabel = .ok rest) :
    readOutcomeList input = .ok (⟨caseId, label⟩, rest) := by
  obtain ⟨_, isFirst⟩ := isFirst
  obtain ⟨_, isCase⟩ := isCase.eq_ok
  obtain ⟨_, isSecond⟩ := isSecond
  obtain ⟨_, isLabel⟩ := isLabel.eq_ok
  refine bind_eq_ok_iff.mpr ⟨_, grammatical_eq_ok_iff.mpr isFirst, ?_⟩
  refine bind_eq_ok_iff.mpr ⟨_, isCase, ?_⟩
  refine bind_eq_ok_iff.mpr ⟨_, grammatical_eq_ok_iff.mpr isSecond, ?_⟩
  refine bind_eq_ok_iff.mpr ⟨_, isLabel, ?_⟩
  exact bind_eq_ok_iff.mpr ⟨_, grammatical_eq_ok_iff.mpr isEnd, rfl⟩

/-- Two values that denote an outcome are read. -/
theorem PairForm.read {text caseText labelText : Bytes}
    (isPair : PairForm (ascii '[' :: text) caseText labelText) {outcome : Outcome}
    (isCase : CaseIdText caseText outcome.caseId) (isLabel : TextLiteral labelText outcome.label)
    (rest : Bytes) : readOutcomeList (text ++ rest) = .ok (outcome, rest) := by
  cases isPair with
  | @pair before between after inside _ _ blank blankBetween blankAfter blankInside =>
    obtain ⟨first, more, rfl, starts, -⟩ := isCase.head
    obtain ⟨labelMore, rfl⟩ : ∃ labelMore, labelText = ascii '"' :: labelMore := by
      obtain ⟨body, rfl, -⟩ := isLabel
      exact ⟨_, rfl⟩
    have isEnd : readListEnd (inside ++ ascii ']' :: rest) = .ok rest :=
      readListEnd_eq_ok_iff.mpr ⟨inside, blankInside, rfl⟩
    have isString : Yields (readLabel (ascii '"' :: (labelMore ++ (inside ++ ascii ']' :: rest))))
        outcome.label (inside ++ ascii ']' :: rest) :=
      readLabel_yields_iff.mpr ⟨[], _, rfl, blank_nil, isLabel⟩
    have isQuote : isBlank (ascii '"') = false := by decide
    have isSecond := nextItem_entry (.later blankBetween blankAfter) isQuote (by decide)
      (labelMore ++ (inside ++ ascii ']' :: rest))
    have ends : Ends (between ++ ascii ',' :: after ++
        ascii '"' :: (labelMore ++ (inside ++ ascii ']' :: rest))) := by
      rw [List.append_assoc]
      exact Ends.blank_append blankBetween (ends_cons_iff.mpr (by decide))
    have isIdentifier := readCaseId_complete afterListEnd blank_nil isCase ends
    have isFirst := nextItem_entry (.first blank) starts.1 (starts.2 .list) (more ++
      (between ++ ascii ',' :: after ++ ascii '"' :: (labelMore ++ (inside ++ ascii ']' :: rest))))
    simpa using readOutcomeList_steps isFirst isIdentifier isSecond isString isEnd

/-! ## Contents -/

/-- Nothing but insignificant bytes is demanded exactly where nothing else is left. -/
theorem demandEnd_eq_ok_iff {input : Bytes} : demandEnd input = .ok () ↔ Blank input := by
  rw [← skipBlank_eq_nil_iff, demandEnd]
  split
  · next isNil => simp [isNil]
  · next found => simp [found]

/-- An object starts with its opening byte. -/
theorem ObjectForm.head {text : Bytes} {members : List Member}
    (isObject : ObjectForm text members) : ∃ more, text = ascii '\x7b' :: more := by
  cases isObject with
  | empty => exact ⟨_, rfl⟩
  | members => exact ⟨_, rfl⟩

/-- A list starts with its opening byte. -/
theorem PairForm.head {text first second : Bytes} (isPair : PairForm text first second) :
    ∃ more, text = ascii '[' :: more := by
  cases isPair with
  | pair => exact ⟨_, rfl⟩

/-- What is read from the front of a content holds the outcome. -/
theorem readFront_sound {input rest : Bytes} {outcome : Outcome}
    (read : readFront input = .ok (outcome, rest)) (blankRest : Blank rest) :
    Holds input outcome := by
  unfold readFront at read
  split at read
  · cases read
  next byte more found =>
  obtain ⟨-, before, blank, rfl⟩ := skipBlank_eq_cons_iff.mp found
  split at read
  · next isList =>
    obtain ⟨text, caseText, labelText, rfl, isPair, isCase, isLabel⟩ := readOutcomeList_sound read
    rw [isList]
    exact .pair blank blankRest isPair isCase isLabel
  split at read
  · next isObject =>
    obtain ⟨text, members, rfl, form, takes⟩ := readOutcomeObject_sound read
    obtain ⟨⟨caseText, caseOnce, isCase⟩, labelText, labelOnce, isLabel⟩ :=
      takes_none_iff.mp takes
    rw [isObject]
    exact .object blank blankRest form caseOnce isCase labelOnce isLabel
  · exact absurd read (refuseKind_ne_ok _ _ _)

/-- What holds an outcome is read up to insignificant bytes. -/
theorem Holds.readFront {input : Bytes} {outcome : Outcome} (holds : Holds input outcome) :
    ∃ rest, Outcome.readFront input = .ok (outcome, rest) ∧ Blank rest := by
  cases holds with
  | @object before text after _ _ members caseId label blank blankAfter isObject caseOnce isCase
      labelOnce isLabel =>
    obtain ⟨more, rfl⟩ := isObject.head
    have takes := takes_none_iff.mpr ⟨⟨_, caseOnce, isCase⟩, _, labelOnce, isLabel⟩
    have read : readOutcomeObject true .none (more ++ after) = .ok (⟨caseId, label⟩, after) :=
      isObject.read takes after
    refine ⟨after, ?_, blankAfter⟩
    rw [Outcome.readFront, List.cons_append, skipBlank_append_cons blank (by decide)]
    exact read
  | @pair before text after _ _ caseId label blank blankAfter isPair isCase isLabel =>
    obtain ⟨more, rfl⟩ := isPair.head
    have read : readOutcomeList (more ++ after) = .ok (⟨caseId, label⟩, after) :=
      isPair.read isCase isLabel after
    refine ⟨after, ?_, blankAfter⟩
    rw [Outcome.readFront, List.cons_append, skipBlank_append_cons blank (by decide)]
    exact read

/-- A content that loads to an outcome holds it. -/
theorem Holds.of_load {content : Bytes} {outcome : Outcome}
    (loaded : Outcome.load content = .ok outcome) : Holds content outcome := by
  rw [Outcome.load, mapError_eq_ok_iff, Outcome.read] at loaded
  obtain ⟨⟨front, rest⟩, isFront, loaded⟩ := bind_eq_ok_iff.mp loaded
  obtain ⟨_, isEnd, loaded⟩ := bind_eq_ok_iff.mp loaded
  cases loaded
  exact readFront_sound isFront (demandEnd_eq_ok_iff.mp (grammatical_eq_ok_iff.mp isEnd))

/-- A content that holds an outcome loads to it. -/
theorem Holds.load {content : Bytes} {outcome : Outcome} (holds : Holds content outcome) :
    Outcome.load content = .ok outcome := by
  obtain ⟨rest, isFront, blank⟩ := holds.readFront
  have isEnd := grammatical_eq_ok_iff.mpr (demandEnd_eq_ok_iff.mpr blank)
  exact mapError_eq_ok_iff.mpr
    (bind_eq_ok_iff.mpr ⟨(outcome, rest), isFront, bind_eq_ok_iff.mpr ⟨(), isEnd, rfl⟩⟩)

/-- Loading succeeds with an outcome exactly on the contents that hold it. -/
theorem load_eq_ok_iff_holds {content : Bytes} {outcome : Outcome} :
    load content = .ok outcome ↔ Holds content outcome :=
  ⟨Holds.of_load, Holds.load⟩

end ConformanceReport.Outcome
