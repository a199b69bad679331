import ConformanceReport.Proofs.Json.Skip
import ConformanceReport.Proofs.Outcome.Grammar

/-!
# The members of an outcome

The identifier and the label are read exactly from the texts that denote them. The members of an
object are read one by one, and `Takes` says what some of them do to what was found so far. From
nothing found they lead to an outcome exactly if each of the two keys occurs once
(`takes_none_iff`).
-/

namespace ConformanceReport.Outcome

open Json

/-! ## Results of steps -/

/-- Defects of the grammar do not change what is yielded. -/
@[simp] theorem grammatical_yields_iff {α : Type} {input rest : Bytes} {value : α}
    {result : Except (Fault Cause) (Parsed α input)} :
    Yields (grammatical result) value rest ↔ Yields result value rest := by
  cases result with
  | error fault => simp [grammatical]
  | ok parsed => simp [grammatical]

/-- Defects of the grammar do not change a success. -/
@[simp] theorem grammatical_eq_ok_iff {α : Type} {value : α}
    {result : Except (Fault Cause) α} : grammatical result = .ok value ↔ result = .ok value :=
  mapError_eq_ok_iff

/-- A value of the wrong kind is always refused. -/
theorem refuseKind_ne_ok {α : Type} (wanted : Wanted) (input : Bytes) (value : α) :
    refuseKind wanted input ≠ .ok value := by
  intro isOk
  obtain ⟨_, _, isOk⟩ := bind_eq_ok_iff.mp isOk
  cases isOk

/-! ## The two values -/

/-- A value that denotes an identifier is read from a scalar that does. -/
theorem readValue_caseId_sound {room : Nat} {input rest : Bytes} {value : Value} {caseId : CaseId}
    (read : Yields (readValue room input) value rest)
    (isCase : CaseId.ofJson? value = some caseId) :
    ∃ before text, input = before ++ (text ++ rest) ∧ Blank before ∧ CaseIdText text caseId := by
  cases value with
  | number number =>
    obtain ⟨before, start, rfl, blank, isScalar⟩ := readValue_scalar_sound read (by simp) (by simp)
    cases number with
    | natural number =>
      cases isCase
      obtain ⟨text, rfl, literal⟩ := (readScalar_sound isScalar).1 number rfl
      exact ⟨before, text, rfl, blank, .number literal⟩
    | negative => cases isCase
    | floating => cases isCase
  | text text =>
    obtain ⟨before, start, rfl, blank, isScalar⟩ := readValue_scalar_sound read (by simp) (by simp)
    cases isCase
    obtain ⟨bytes, rfl, literal⟩ := (readScalar_sound isScalar).2 text rfl
    exact ⟨before, bytes, rfl, blank, .name literal⟩
  | null => cases isCase
  | boolean => cases isCase
  | list => cases isCase
  | object => cases isCase

/-- An identifier is read from a scalar alone. -/
theorem readCaseId_sound {after : Bytes → Bytes} {input rest : Bytes} {caseId : CaseId}
    (read : Yields (readCaseId after input) caseId rest) :
    ∃ before text, input = before ++ (text ++ rest) ∧ Blank before ∧ CaseIdText text caseId := by
  unfold readCaseId at read
  obtain ⟨value, afterValue, _, isValue, read⟩ := Yields.bind_parsed_iff.mp read
  dsimp only at read
  split at read
  · next found isCase =>
    obtain ⟨rfl, rfl⟩ : found = caseId ∧ afterValue = rest := Yields.ok_iff.mp read
    exact readValue_caseId_sound (grammatical_yields_iff.mp isValue) isCase
  · simp at read

/-- The first byte of an identifier is no bracket. -/
theorem CaseIdText.head {text : Bytes} {caseId : CaseId} (isCase : CaseIdText text caseId) :
    ∃ first more, text = first :: more ∧ StartsValue first ∧ Bracket.opened? first = none := by
  cases isCase with
  | number literal =>
    obtain ⟨first, more, shape, range⟩ := literal.1.head
    have isNumber : (digit? first).isSome := by simp [digit?_eq_some_iff.mpr ⟨range, rfl⟩]
    exact ⟨first, more, shape, startsValue_of_number (.inr isNumber)⟩
  | name literal =>
    obtain ⟨body, shape, -⟩ := literal
    exact ⟨_, _, shape, ⟨by decide, by intro bracket; cases bracket <;> decide⟩, by decide⟩

/-- An identifier is read as a scalar. -/
theorem CaseIdText.readScalar {text rest : Bytes} {caseId : CaseId}
    (isCase : CaseIdText text caseId) (ends : Ends rest) :
    ∃ value, Yields (Json.readScalar (text ++ rest)) value rest ∧
      CaseId.ofJson? value = some caseId := by
  cases isCase with
  | number literal => exact ⟨_, readScalar_natural_complete literal ends, rfl⟩
  | name literal => exact ⟨_, readScalar_text_complete literal rest, rfl⟩

/-- An identifier is read as a value that denotes it. -/
theorem readValue_caseId_complete (room : Nat) {before text rest : Bytes} {caseId : CaseId}
    (blank : Blank before) (isCase : CaseIdText text caseId) (ends : Ends rest) :
    ∃ value, Yields (readValue room (before ++ (text ++ rest))) value rest ∧
      CaseId.ofJson? value = some caseId := by
  obtain ⟨value, isScalar, isIdentifier⟩ := isCase.readScalar ends
  obtain ⟨first, more, rfl, starts, noBracket⟩ := isCase.head
  exact ⟨value, readValue_scalar_complete room blank starts.1 noBracket isScalar, isIdentifier⟩

/-- Every identifier is read. -/
theorem readCaseId_complete (after : Bytes → Bytes) {before text rest : Bytes} {caseId : CaseId}
    (blank : Blank before) (isCase : CaseIdText text caseId) (ends : Ends rest) :
    Yields (readCaseId after (before ++ (text ++ rest))) caseId rest := by
  obtain ⟨value, isValue, isIdentifier⟩ :=
    readValue_caseId_complete (nestingLimit - 1) blank isCase ends
  refine Yields.bind_intro (grammatical_yields_iff.mpr isValue) fun _ => ?_
  simp [isIdentifier]

/-- A label is read exactly from a string that denotes it. -/
theorem readLabel_yields_iff {input rest : Bytes} {label : String} :
    Yields (readLabel input) label rest ↔
      ∃ before text, input = before ++ (text ++ rest) ∧ Blank before ∧ TextLiteral text label := by
  constructor
  · intro read
    unfold readLabel at read
    split at read
    · simp at read
    next byte more found =>
    obtain ⟨-, before, blank, rfl⟩ := skipBlank_eq_cons_iff.mp found
    split at read
    · next isQuote =>
      obtain ⟨text, _, _, isText, read⟩ := Yields.bind_parsed_iff.mp read
      obtain ⟨rfl, rfl⟩ := Yields.ok_iff.mp read
      obtain ⟨body, rfl, denotes⟩ := readText_yields_iff.mp (grammatical_yields_iff.mp isText)
      exact ⟨before, _, by simp [isQuote], blank, body, rfl, denotes⟩
    · obtain ⟨_, isOk, -⟩ := read
      exact absurd isOk (refuseKind_ne_ok _ _ _)
  · rintro ⟨before, _, rfl, blank, body, rfl, denotes⟩
    have isQuote : isBlank (ascii '"') = false := by decide
    have found := skipBlank_append_cons blank isQuote (body ++ [ascii '"'] ++ rest)
    rw [List.cons_append]
    unfold readLabel
    split
    · next isNil =>
      rw [found] at isNil
      cases isNil
    next found' =>
    obtain ⟨rfl, rfl⟩ := List.cons.inj (found.symm.trans found')
    have isText : Yields (readText (body ++ [ascii '"'] ++ rest)) label rest :=
      readText_yields_iff.mpr ⟨body, by simp, denotes⟩
    rw [if_pos rfl]
    exact Yields.bind_intro (grammatical_yields_iff.mpr isText) fun _ =>
      Yields.ok_iff.mpr ⟨rfl, rfl⟩

/-! ## Members -/

/-- What members with one key do to a value that may have been found: nothing if the key does not
occur, and if it occurs once and nothing was found before, its value is found. -/
def Fills {α : Type} (denotes : Bytes → α → Prop) (key : String) (members : List Member)
    (found after : Option α) : Prop :=
  (members.filter (fun member => member.key = key) = [] ∧ after = found) ∨
    ∃ text value, OccursOnce members key text ∧ denotes text value ∧ found = none ∧
      after = some value

/-- What members of an object do to what was found so far. -/
structure Takes (members : List Member) (found after : Found) : Prop where
  caseId : Fills CaseIdText "case" members found.caseId after.caseId
  label : Fills TextLiteral "behavior" members found.label after.label

/-- No members find nothing. -/
theorem fills_nil_iff {α : Type} {denotes : Bytes → α → Prop} {key : String}
    {found after : Option α} : Fills denotes key [] found after ↔ after = found := by
  simp [Fills, OccursOnce]

/-- A member with another key finds nothing. -/
theorem fills_other_iff {α : Type} {denotes : Bytes → α → Prop} {key : String} {member : Member}
    {members : List Member} {found after : Option α} (other : member.key ≠ key) :
    Fills denotes key (member :: members) found after ↔ Fills denotes key members found after := by
  simp [Fills, OccursOnce, other]

/-- A member with the key finds its value, if nothing was found before and nothing is after. -/
theorem fills_same_iff {α : Type} {denotes : Bytes → α → Prop} {key : String} {text : Bytes}
    {members : List Member} {found after : Option α} :
    Fills denotes key (⟨key, text⟩ :: members) found after ↔
      ∃ value, denotes text value ∧ found = none ∧
        Fills denotes key members (some value) after := by
  constructor
  · rintro (⟨absent, -⟩ | ⟨_, value, once, isValue, rfl, rfl⟩)
    · simp at absent
    · simp only [OccursOnce, decide_true, List.filter_cons_of_pos, List.cons.injEq,
        Member.mk.injEq, true_and] at once
      obtain ⟨rfl, absent⟩ := once
      exact ⟨value, isValue, rfl, .inl ⟨absent, rfl⟩⟩
  · rintro ⟨value, isValue, rfl, ⟨absent, rfl⟩ | ⟨_, _, _, _, contradictory, _⟩⟩
    · exact .inr ⟨text, value, by simp [OccursOnce, absent], isValue, rfl, rfl⟩
    · cases contradictory

/-- Members one after the other do what they do together. -/
theorem fills_cons_iff {α : Type} {denotes : Bytes → α → Prop} {key : String} {member : Member}
    {members : List Member} {found after : Option α} :
    Fills denotes key (member :: members) found after ↔
      ∃ middle, Fills denotes key [member] found middle ∧
        Fills denotes key members middle after := by
  by_cases same : member.key = key
  · obtain ⟨name, text⟩ := member
    subst same
    simp only [fills_same_iff, fills_nil_iff]
    constructor
    · rintro ⟨value, isValue, isNone, follows⟩
      exact ⟨some value, ⟨value, isValue, isNone, rfl⟩, follows⟩
    · rintro ⟨_, ⟨value, isValue, isNone, rfl⟩, follows⟩
      exact ⟨value, isValue, isNone, follows⟩
  · simp only [fills_other_iff same, fills_nil_iff]
    simp

/-- What was found is determined by its two parts. -/
@[ext] theorem Found.ext {found after : Found} (caseId : found.caseId = after.caseId)
    (label : found.label = after.label) : found = after := by
  cases found
  cases after
  simp_all

/-- No members find nothing. -/
theorem takes_nil_iff {found after : Found} : Takes [] found after ↔ after = found := by
  constructor
  · rintro ⟨caseId, label⟩
    exact Found.ext (fills_nil_iff.mp caseId) (fills_nil_iff.mp label)
  · rintro rfl
    exact ⟨fills_nil_iff.mpr rfl, fills_nil_iff.mpr rfl⟩

/-- Members are taken one after the other. -/
theorem takes_cons_iff {member : Member} {members : List Member} {found after : Found} :
    Takes (member :: members) found after ↔
      ∃ middle, Takes [member] found middle ∧ Takes members middle after := by
  constructor
  · rintro ⟨caseId, label⟩
    obtain ⟨middleCase, isCase, caseFollows⟩ := fills_cons_iff.mp caseId
    obtain ⟨middleLabel, isLabel, labelFollows⟩ := fills_cons_iff.mp label
    exact ⟨⟨middleCase, middleLabel⟩, ⟨isCase, isLabel⟩, caseFollows, labelFollows⟩
  · rintro ⟨middle, ⟨isCase, isLabel⟩, caseFollows, labelFollows⟩
    exact ⟨fills_cons_iff.mpr ⟨_, isCase, caseFollows⟩,
      fills_cons_iff.mpr ⟨_, isLabel, labelFollows⟩⟩

/-- From nothing found, members lead to an outcome exactly if each of the two keys occurs once
with a value that denotes its part. -/
theorem takes_none_iff {members : List Member} {caseId : CaseId} {label : String} :
    Takes members .none ⟨some caseId, some label⟩ ↔
      (∃ text, OccursOnce members "case" text ∧ CaseIdText text caseId) ∧
        ∃ text, OccursOnce members "behavior" text ∧ TextLiteral text label := by
  constructor
  · rintro ⟨⟨-, impossible⟩ | ⟨caseText, _, caseOnce, isCase, -, sameCase⟩, isLabel⟩
    · cases impossible
    cases sameCase
    obtain ⟨-, impossible⟩ | ⟨labelText, _, labelOnce, isLabel, -, sameLabel⟩ := isLabel
    · cases impossible
    cases sameLabel
    exact ⟨⟨caseText, caseOnce, isCase⟩, labelText, labelOnce, isLabel⟩
  · rintro ⟨⟨caseText, caseOnce, isCase⟩, labelText, labelOnce, isLabel⟩
    exact ⟨.inr ⟨caseText, caseId, caseOnce, isCase, rfl, rfl⟩,
      .inr ⟨labelText, label, labelOnce, isLabel, rfl, rfl⟩⟩

/-- The outcome that was found has both parts. -/
theorem Found.outcome_eq_ok_iff {found : Found} {outcome : Outcome} :
    found.outcome = .ok outcome ↔ found = ⟨some outcome.caseId, some outcome.label⟩ := by
  obtain ⟨caseId, label⟩ := found
  cases caseId <;> cases label <;> simp [Found.outcome]
  · constructor
    · rintro rfl
      exact ⟨rfl, rfl⟩
    · rintro ⟨rfl, rfl⟩
      rfl

/-- The two keys have their fields, and no other key has one. -/
theorem Field.ofKey?_eq_none_iff {key : String} :
    Field.ofKey? key = none ↔ key ≠ "case" ∧ key ≠ "behavior" := by
  unfold Field.ofKey?
  split
  · next isCase => simp [isCase]
  split
  · next isLabel => simp [isLabel]
  · next noCase noLabel => simp [noCase, noLabel]

/-- A field is that of its own key alone. -/
theorem Field.ofKey?_eq_some_iff {key : String} {field : Field} :
    Field.ofKey? key = some field ↔ key = field.key := by
  unfold Field.ofKey?
  split
  · next isCase =>
    subst isCase
    cases field <;> decide
  split
  · next isLabel =>
    subst isLabel
    cases field <;> decide
  · next noCase noLabel => cases field <;> simp [Field.key, noCase, noLabel]

/-- What is read as a member is one, and it is taken. -/
theorem readOutcomeMember_sound {found after : Found} {more rest : Bytes}
    (read : Yields (readOutcomeMember found (ascii '"' :: more)) after rest) :
    ∃ text member, ascii '"' :: more = text ++ rest ∧ MemberForm text member ∧
      Takes [member] found after := by
  unfold readOutcomeMember at read
  obtain ⟨key, afterKey, _, isKey, read⟩ := Yields.bind_parsed_iff.mp read
  obtain ⟨body, rfl, denotes⟩ := readKey_yields_iff.mp (grammatical_yields_iff.mp isKey)
  have literal : TextLiteral (ascii '"' :: (body ++ [ascii '"'])) key := ⟨body, rfl, denotes⟩
  dsimp only at read
  split at read
  · next noField =>
    obtain ⟨_, afterColon, _, isColon, read⟩ := Yields.bind_parsed_iff.mp read
    obtain ⟨_, afterValue, _, isSkipped, read⟩ := Yields.bind_parsed_iff.mp read
    obtain ⟨rfl, rfl⟩ : found = after ∧ afterValue = rest := Yields.ok_iff.mp read
    obtain ⟨between, blankBetween, rfl⟩ :=
      readColon_yields_iff.mp (grammatical_yields_iff.mp isColon)
    obtain ⟨before, value, rfl, blank, isValue⟩ :=
      skipValue_sound (grammatical_yields_iff.mp isSkipped)
    obtain ⟨noCase, noLabel⟩ := Field.ofKey?_eq_none_iff.mp noField
    refine ⟨_, ⟨key, value⟩, ?_, .member literal blankBetween blank isValue,
      (fills_other_iff noCase).mpr (fills_nil_iff.mpr rfl),
      (fills_other_iff noLabel).mpr (fills_nil_iff.mpr rfl)⟩
    simp
  next field isField =>
  obtain rfl := Field.ofKey?_eq_some_iff.mp isField
  split at read
  · simp at read
  next absent =>
  obtain ⟨_, afterColon, _, isColon, read⟩ := Yields.bind_parsed_iff.mp read
  obtain ⟨between, blankBetween, rfl⟩ := readColon_yields_iff.mp (grammatical_yields_iff.mp isColon)
  cases field with
  | caseId =>
    obtain ⟨caseId, afterValue, _, isIdentifier, read⟩ := Yields.bind_parsed_iff.mp read
    obtain ⟨rfl, rfl⟩ : (⟨some caseId, found.label⟩ : Found) = after ∧ afterValue = rest :=
      Yields.ok_iff.mp read
    obtain ⟨before, text, rfl, blank, isCase⟩ := readCaseId_sound isIdentifier
    have isNone : found.caseId = none := by simpa [Found.has] using absent
    refine ⟨_, ⟨"case", text⟩, ?_, .member literal blankBetween blank isCase.isValue,
      fills_same_iff.mpr ⟨caseId, isCase, isNone, fills_nil_iff.mpr rfl⟩,
      (fills_other_iff (by simp)).mpr (fills_nil_iff.mpr rfl)⟩
    simp
  | behavior =>
    obtain ⟨label, afterValue, _, isString, read⟩ := Yields.bind_parsed_iff.mp read
    obtain ⟨rfl, rfl⟩ : (⟨found.caseId, some label⟩ : Found) = after ∧ afterValue = rest :=
      Yields.ok_iff.mp read
    obtain ⟨before, text, rfl, blank, isLabel⟩ := readLabel_yields_iff.mp isString
    have isNone : found.label = none := by simpa [Found.has] using absent
    refine ⟨_, ⟨"behavior", text⟩, ?_, .member literal blankBetween blank (.text isLabel.textForm),
      (fills_other_iff (by simp)).mpr (fills_nil_iff.mpr rfl),
      fills_same_iff.mpr ⟨label, isLabel, isNone, fills_nil_iff.mpr rfl⟩⟩
    simp

/-- A member is read by its key, a colon and what stands in front of its value. -/
theorem MemberForm.parts {text : Bytes} {member : Member} (isMember : MemberForm text member)
    (rest : Bytes) :
    ∃ afterKey before, Yields (readKey (text ++ rest)) member.key afterKey ∧
      Yields (readColon afterKey) () (before ++ (member.value ++ rest)) ∧ Blank before ∧
      Form .value member.value := by
  cases isMember with
  | @member key between before value name isKey blankBetween blank isValue =>
    obtain ⟨body, rfl, denotes⟩ := isKey
    refine ⟨between ++ ascii ':' :: (before ++ (value ++ rest)), before, ?_,
      readColon_yields_iff.mpr ⟨between, blankBetween, rfl⟩, blank, isValue⟩
    exact readKey_yields_iff.mpr ⟨body, by simp, denotes⟩

/-- Every member that can be taken is read. -/
theorem readOutcomeMember_complete {found after : Found} {text rest : Bytes} {member : Member}
    (isMember : MemberForm text member) (takes : Takes [member] found after) (ends : Ends rest) :
    Yields (readOutcomeMember found (text ++ rest)) after rest := by
  obtain ⟨afterKey, before, isKey, isColon, blank, isValue⟩ := isMember.parts rest
  obtain ⟨name, value⟩ := member
  obtain ⟨isCase, isLabel⟩ := takes
  refine Yields.bind_intro (grammatical_yields_iff.mpr isKey) fun _ => ?_
  dsimp only at isValue isColon ⊢
  split
  · next noField =>
    obtain ⟨noCase, noLabel⟩ := Field.ofKey?_eq_none_iff.mp noField
    rw [fills_other_iff noCase, fills_nil_iff] at isCase
    rw [fills_other_iff noLabel, fills_nil_iff] at isLabel
    obtain rfl : after = found := Found.ext isCase isLabel
    refine Yields.bind_intro (grammatical_yields_iff.mpr isColon) fun _ => ?_
    refine Yields.bind_intro
      (grammatical_yields_iff.mpr (skipValue_complete blank isValue ends)) fun _ => ?_
    exact Yields.ok_iff.mpr ⟨rfl, rfl⟩
  next field isField =>
  obtain rfl := Field.ofKey?_eq_some_iff.mp isField
  cases field with
  | caseId =>
    obtain ⟨caseId, isText, isNone, follows⟩ := fills_same_iff.mp isCase
    rw [fills_nil_iff] at follows
    rw [fills_other_iff (by simp [Field.key]), fills_nil_iff] at isLabel
    obtain rfl : after = ⟨some caseId, found.label⟩ := Found.ext follows isLabel
    rw [if_neg (by simp [Found.has, isNone])]
    refine Yields.bind_intro (grammatical_yields_iff.mpr isColon) fun _ => ?_
    refine Yields.bind_intro (readCaseId_complete afterObjectEnd blank isText ends) fun _ => ?_
    exact Yields.ok_iff.mpr ⟨rfl, rfl⟩
  | behavior =>
    obtain ⟨label, isText, isNone, follows⟩ := fills_same_iff.mp isLabel
    rw [fills_nil_iff] at follows
    rw [fills_other_iff (by simp [Field.key]), fills_nil_iff] at isCase
    obtain rfl : after = ⟨found.caseId, some label⟩ := Found.ext isCase follows
    rw [if_neg (by simp [Found.has, isNone])]
    refine Yields.bind_intro (grammatical_yields_iff.mpr isColon) fun _ => ?_
    refine Yields.bind_intro (readLabel_yields_iff.mpr ⟨before, value, rfl, blank, isText⟩)
      fun _ => ?_
    exact Yields.ok_iff.mpr ⟨rfl, rfl⟩

end ConformanceReport.Outcome
