import ConformanceReport.Proofs.Json.Unique
import ConformanceReport.Proofs.Outcome.RoundTrip

/-!
# Which values are case identifiers

An identifier is read from a plain integer of 64 bits or from a string, and from no other value,
whether the value stands alone or as the case of an outcome (`CaseId.decoding_exact`). A content
frames one value as its case and one label (`Frames.unique`), since a text is cut into members in
one way.
-/

namespace ConformanceReport

namespace Outcome

open Json

/-! ## Members of a text -/

/-- A text is cut behind its first member in one way, and that member is the only one. -/
theorem MemberForm.unique {text text' rest rest' : Bytes} {member member' : Member}
    (isMember : MemberForm text member) (isMember' : MemberForm text' member') (ends : Ends rest)
    (ends' : Ends rest') (same : text ++ rest = text' ++ rest') :
    member = member' ∧ rest = rest' := by
  cases isMember with
  | @member key between after value name isKey blankBetween blankAfter isValue =>
  cases isMember' with
  | @member key' between' after' value' name' isKey' blankBetween' blankAfter' isValue' =>
    have colonEnds {before : Bytes} (blank : Blank before) (more : Bytes) :
        Ends (before ++ ascii ':' :: more) :=
      Ends.blank_append blank (ends_cons_iff.mpr (by decide))
    have isColon : isBlank (ascii ':') = false := by decide
    simp only [List.append_assoc, List.cons_append] at same
    obtain ⟨-, rfl, afterKey⟩ := Form.unique blank_nil blank_nil (.text isKey.textForm)
      (.text isKey'.textForm) (colonEnds blankBetween _) (colonEnds blankBetween' _) same
    obtain ⟨-, -, afterColon⟩ := blankBetween.unique blankBetween' isColon isColon afterKey
    obtain ⟨-, rfl, rfl⟩ :=
      Form.unique blankAfter blankAfter' isValue isValue' ends ends' afterColon
    exact ⟨congrArg (Member.mk · value) (isKey.unique isKey'), rfl⟩

/-- A text has one list of members. -/
theorem MembersFrom.unique {first : Bool} {text text' rest rest' : Bytes}
    {members members' : List Member} (isFrom : MembersFrom first text members)
    (isFrom' : MembersFrom first text' members') (same : text ++ rest = text' ++ rest') :
    members = members' := by
  induction members generalizing first text text' members' with
  | nil =>
    obtain ⟨before, blank, rfl⟩ := isFrom.exists_close
    cases members' with
    | nil => rfl
    | cons member' members' =>
      obtain ⟨separator', inner', later', separates', isMember', -, rfl⟩ := isFrom'.exists_member
      obtain ⟨more', rfl⟩ := isMember'.head
      simp only [List.append_assoc, List.cons_append] at same
      exact absurd same (separates'.not_close blank)
  | cons member members inductionHypothesis =>
    obtain ⟨separator, inner, later, separates, isMember, isLater, rfl⟩ := isFrom.exists_member
    obtain ⟨more, rfl⟩ := isMember.head
    cases members' with
    | nil =>
      obtain ⟨before', blank', rfl⟩ := isFrom'.exists_close
      simp only [List.append_assoc, List.cons_append] at same
      exact absurd same.symm (separates.not_close blank')
    | cons member' members' =>
      obtain ⟨separator', inner', later', separates', isMember', isLater', rfl⟩ :=
        isFrom'.exists_member
      obtain ⟨more', rfl⟩ := isMember'.head
      simp only [List.append_assoc, List.cons_append] at same
      have isQuote : isBlank (ascii '"') = false := by decide
      obtain ⟨rfl, follows⟩ := isMember.unique isMember' (isLater.ends rest) (isLater'.ends rest')
        (separates.unique separates' isQuote isQuote same)
      have isFromLater : MembersFrom false later members := isLater
      exact congrArg (member :: ·) (inductionHypothesis isFromLater isLater' follows)

/-- An object has one list of members. -/
theorem ObjectForm.unique {text : Bytes} {members members' : List Member}
    (isObject : ObjectForm text members) (isObject' : ObjectForm text members') :
    members = members' := by
  obtain ⟨more, rfl⟩ := isObject.head
  have isFrom : MembersFrom true more members := isObject
  have isFrom' : MembersFrom true more members' := isObject'
  exact isFrom.unique isFrom' (rfl : more ++ [] = more ++ [])

/-- A list of two values has these two values only. -/
theorem PairForm.unique {text first second first' second' : Bytes}
    (isPair : PairForm text first second) (isPair' : PairForm text first' second') :
    first = first' ∧ second = second' := by
  generalize same : text = text' at isPair'
  cases isPair with
  | @pair before between after inside _ _ blank blankBetween blankAfter blankInside isFirst
      isSecond =>
  cases isPair' with
  | @pair before' between' after' inside' _ _ blank' blankBetween' blankAfter' blankInside'
      isFirst' isSecond' =>
    have commaEnds {before : Bytes} (blank : Blank before) (more : Bytes) :
        Ends (before ++ ascii ',' :: more) :=
      Ends.blank_append blank (ends_cons_iff.mpr (by decide))
    have closeEnds {before : Bytes} (blank : Blank before) : Ends (before ++ [ascii ']']) :=
      Ends.blank_append blank (ends_cons_iff.mpr (by decide))
    have isComma : isBlank (ascii ',') = false := by decide
    obtain ⟨-, rfl, afterFirst⟩ := Form.unique blank blank' isFirst isFirst'
      (commaEnds blankBetween _) (commaEnds blankBetween' _) (List.cons.inj same).2
    obtain ⟨-, -, afterComma⟩ := blankBetween.unique blankBetween' isComma isComma afterFirst
    obtain ⟨-, rfl, -⟩ := Form.unique blankAfter blankAfter' isSecond isSecond'
      (closeEnds blankInside) (closeEnds blankInside') afterComma
    exact ⟨rfl, rfl⟩

/-! ## Values as the case of an outcome -/

/-- A content gives a value as the case of an outcome with a label: an object in which `case` and
`behavior` each occur exactly once among any other members, or a list of the two values. -/
inductive Frames (value : Bytes) (label : String) : Bytes → Prop where
  | object {before object after labelText : Bytes} {members : List Member}
      (blankBefore : Blank before) (blankAfter : Blank after)
      (isObject : ObjectForm object members) (caseOnce : OccursOnce members "case" value)
      (labelOnce : OccursOnce members "behavior" labelText)
      (isLabel : TextLiteral labelText label) : Frames value label (before ++ (object ++ after))
  | pair {before pair after labelText : Bytes} (blankBefore : Blank before)
      (blankAfter : Blank after) (isPair : PairForm pair value labelText)
      (isLabel : TextLiteral labelText label) : Frames value label (before ++ (pair ++ after))

/-- A key that occurs once has one value. -/
theorem OccursOnce.unique {members : List Member} {key : String} {value value' : Bytes}
    (once : OccursOnce members key value) (once' : OccursOnce members key value') :
    value = value' := by
  unfold OccursOnce at once once'
  rw [once] at once'
  simpa using once'

/-- A content gives one value as its case, with one label. -/
theorem Frames.unique {value value' content : Bytes} {label label' : String}
    (frames : Frames value label content) (frames' : Frames value' label' content) :
    value = value' ∧ label = label' := by
  generalize same : content = content' at frames'
  cases frames with
  | object blankBefore blankAfter isObject caseOnce labelOnce isLabel =>
    cases frames' with
    | object blankBefore' blankAfter' isObject' caseOnce' labelOnce' isLabel' =>
      obtain ⟨-, rfl, -⟩ := Form.unique blankBefore blankBefore' isObject.isValue
        isObject'.isValue blankAfter.ends blankAfter'.ends same
      obtain rfl := isObject.unique isObject'
      obtain rfl := labelOnce.unique labelOnce'
      exact ⟨caseOnce.unique caseOnce', isLabel.unique isLabel'⟩
    | pair blankBefore' blankAfter' isPair' =>
      obtain ⟨-, rfl, -⟩ := Form.unique blankBefore blankBefore' isObject.isValue
        isPair'.isValue blankAfter.ends blankAfter'.ends same
      obtain ⟨more, rfl⟩ := isObject.head
      obtain ⟨more', impossible⟩ := isPair'.head
      exact absurd (List.cons.inj impossible).1 (by decide)
  | pair blankBefore blankAfter isPair isLabel =>
    cases frames' with
    | object blankBefore' blankAfter' isObject' =>
      obtain ⟨-, rfl, -⟩ := Form.unique blankBefore blankBefore' isPair.isValue
        isObject'.isValue blankAfter.ends blankAfter'.ends same
      obtain ⟨more, rfl⟩ := isPair.head
      obtain ⟨more', impossible⟩ := isObject'.head
      exact absurd (List.cons.inj impossible).1 (by decide)
    | pair blankBefore' blankAfter' isPair' isLabel' =>
      obtain ⟨-, rfl, -⟩ := Form.unique blankBefore blankBefore' isPair.isValue
        isPair'.isValue blankAfter.ends blankAfter'.ends same
      obtain ⟨rfl, rfl⟩ := isPair.unique isPair'
      exact ⟨rfl, isLabel.unique isLabel'⟩

/-- A content with an identifier as its case holds that outcome. -/
theorem Frames.holds {value content : Bytes} {label : String} {caseId : CaseId}
    (frames : Frames value label content) (isCase : CaseIdText value caseId) :
    Holds content ⟨caseId, label⟩ := by
  cases frames with
  | object blankBefore blankAfter isObject caseOnce labelOnce isLabel =>
    exact .object blankBefore blankAfter isObject caseOnce isCase labelOnce isLabel
  | pair blankBefore blankAfter isPair isLabel =>
    exact .pair blankBefore blankAfter isPair isCase isLabel

/-- What holds an outcome gives its identifier as the case. -/
theorem Holds.frames {content : Bytes} {outcome : Outcome} (holds : Holds content outcome) :
    ∃ value, Frames value outcome.label content ∧ CaseIdText value outcome.caseId := by
  cases holds with
  | object blankBefore blankAfter isObject caseOnce isCase labelOnce isLabel =>
    exact ⟨_, .object blankBefore blankAfter isObject caseOnce labelOnce isLabel, isCase⟩
  | pair blankBefore blankAfter isPair isCase isLabel =>
    exact ⟨_, .pair blankBefore blankAfter isPair isLabel, isCase⟩

/-- A content loads exactly if its case is an identifier, to an outcome with its label. -/
theorem Frames.load_eq_ok_iff {value content : Bytes} {label : String} {outcome : Outcome}
    (frames : Frames value label content) :
    Outcome.load content = .ok outcome ↔
      CaseIdText value outcome.caseId ∧ label = outcome.label := by
  constructor
  · intro loaded
    obtain ⟨value', frames', isCase⟩ := (Holds.of_load loaded).frames
    obtain ⟨rfl, rfl⟩ := frames.unique frames'
    exact ⟨isCase, rfl⟩
  · rintro ⟨isCase, rfl⟩
    exact (frames.holds isCase).load

end Outcome

namespace CaseId

open Json Outcome

/-! ## Values that stand alone -/

/-- An identifier is loaded exactly from a text that denotes it, between insignificant bytes. -/
theorem load_eq_ok_iff {content : Bytes} {caseId : CaseId} :
    load content = .ok caseId ↔
      ∃ before text after, content = before ++ (text ++ after) ∧ Blank before ∧ Blank after ∧
        CaseIdText text caseId := by
  constructor
  · intro loaded
    unfold load at loaded
    split at loaded
    · cases loaded
    next value isValue =>
    split at loaded
    · cases loaded
    next found isCase =>
    cases isEnd : demandEnd value.rest with
    | error fault =>
      rw [isEnd] at loaded
      cases loaded
    | ok _ =>
      rw [isEnd] at loaded
      cases loaded
      obtain ⟨before, text, shape, blank, isText⟩ := readValue_caseId_sound (.of_ok isValue) isCase
      exact ⟨before, text, value.rest, shape, blank, demandEnd_eq_ok_iff.mp isEnd, isText⟩
  · rintro ⟨before, text, after, rfl, blank, blankAfter, isText⟩
    obtain ⟨value, isValue, isCase⟩ :=
      readValue_caseId_complete nestingLimit blank isText blankAfter.ends
    obtain ⟨shorter, isOk⟩ := isValue.eq_ok
    simp only [load, isOk, isCase, demandEnd_eq_ok_iff.mpr blankAfter]
    rfl

/-- An identifier is loaded from a single value exactly if the value denotes it. -/
theorem load_value_eq_ok_iff {value : Bytes} {caseId : CaseId} (isValue : Form .value value) :
    load value = .ok caseId ↔ CaseIdText value caseId := by
  rw [load_eq_ok_iff]
  constructor
  · rintro ⟨before, text, after, shape, blank, blankAfter, isText⟩
    have same : [] ++ (value ++ []) = before ++ (text ++ after) := by
      rw [List.nil_append, List.append_nil, shape]
    obtain ⟨-, rfl, -⟩ := Form.unique blank_nil blank isValue isText.isValue blank_nil.ends
      blankAfter.ends same
    exact isText
  · intro isText
    exact ⟨[], value, [], by simp, blank_nil, blank_nil, isText⟩

/-- A plain integer that denotes an identifier is a number of 64 bits. -/
theorem caseIdText_number_iff {value : Bytes} {word : UInt64} :
    CaseIdText value (.number word) ↔ NaturalLiteral value word.toNat := by
  constructor
  · rintro ⟨literal⟩
    exact literal
  · exact .number

/-- A string denotes a name. -/
theorem caseIdText_name_iff {value : Bytes} {text : String} :
    CaseIdText value (.name text) ↔ TextLiteral value text := by
  constructor
  · intro isName
    cases isName with
    | name literal => exact literal
  · exact .name

/-- What denotes no identifier is refused. -/
theorem exists_refusal {value : Bytes} (isValue : Form .value value)
    (noCase : ∀ caseId, ¬ CaseIdText value caseId) : ∃ refusal, load value = .error refusal := by
  cases loaded : load value with
  | error refusal => exact ⟨refusal, rfl⟩
  | ok caseId => exact absurd ((load_value_eq_ok_iff isValue).mp loaded) (noCase caseId)

/-- A single value decodes to an identifier exactly, and to one in every place. It is a number
exactly if it is a plain integer of at most 64 bits, which is then shown as it was written, and a
name exactly if it is a string, of which the text is shown. Every other value is refused: a number
with a sign, a fraction or an exponent, whatever it amounts to, and all that is neither a plain
integer of 64 bits nor a string. As the case of an outcome the value decodes as it does alone. -/
theorem decoding_exact {value : Bytes} (isValue : Form .value value) :
    (∀ number : Nat,
        (∃ word : UInt64, word.toNat = number ∧ load value = .ok (.number word)) ↔
          NaturalLiteral value number ∧ number ≤ 2 ^ 64 - 1) ∧
      (∀ word, load value = .ok (.number word) → utf8 (shown (.number word)) = value) ∧
      (∀ text, load value = .ok (.name text) ↔ TextLiteral value text) ∧
      (∀ text, shown (.name text) = text) ∧
      (∀ literal, NumberForm value literal →
        literal.negative = true ∨ literal.fraction ≠ none ∨ literal.exponent ≠ none →
          ∃ refusal, load value = .error refusal) ∧
      ((∀ number ≤ 2 ^ 64 - 1, ¬ NaturalLiteral value number) →
        (∀ text, ¬ TextLiteral value text) → ∃ refusal, load value = .error refusal) ∧
      ∀ content label, Frames value label content →
        (Outcome.load content).toOption =
          (load value).toOption.map fun caseId => ⟨caseId, label⟩ := by
  refine ⟨?_, ?_, ?_, fun _ => rfl, ?_, ?_, ?_⟩
  · intro number
    constructor
    · rintro ⟨word, rfl, loaded⟩
      rw [load_value_eq_ok_iff isValue, caseIdText_number_iff] at loaded
      exact ⟨loaded, Nat.le_pred_of_lt word.toNat_lt⟩
    · rintro ⟨literal, fits⟩
      have same : (UInt64.ofNat number).toNat = number := by
        rw [UInt64.toNat_ofNat']
        exact Nat.mod_eq_of_lt (by omega)
      refine ⟨.ofNat number, same, ?_⟩
      rw [load_value_eq_ok_iff isValue, caseIdText_number_iff, same]
      exact literal
  · intro word loaded
    rw [load_value_eq_ok_iff isValue, caseIdText_number_iff] at loaded
    exact loaded.eq_toString.symm
  · intro text
    rw [load_value_eq_ok_iff isValue, caseIdText_name_iff]
  · intro literal isNumber notPlain
    -- A number has one set of parts, and those of a plain integer are the digits alone.
    apply exists_refusal isValue
    intro caseId isCase
    cases isCase with
    | number natural =>
      obtain rfl := isNumber.unique natural.numberForm
      simp at notPlain
    | name isText =>
      obtain ⟨body, rfl, -⟩ := isText
      obtain ⟨first, more, shape, starts⟩ := isNumber.head
      obtain ⟨rfl, -⟩ := List.cons.inj shape
      exact absurd starts (by decide)
  · intro noNumber noText
    apply exists_refusal isValue
    intro caseId isCase
    cases isCase with
    | @number word natural => exact noNumber word.toNat (Nat.le_pred_of_lt word.toNat_lt) natural
    | @name text isText => exact noText text isText
  · intro content label frames
    apply Option.ext
    intro outcome
    rw [toOption_eq_some_iff, frames.load_eq_ok_iff, Option.map_eq_some_iff]
    constructor
    · rintro ⟨isCase, rfl⟩
      exact ⟨outcome.caseId,
        toOption_eq_some_iff.mpr ((load_value_eq_ok_iff isValue).mpr isCase), rfl⟩
    · rintro ⟨caseId, loaded, rfl⟩
      rw [toOption_eq_some_iff, load_value_eq_ok_iff isValue] at loaded
      exact ⟨loaded, rfl⟩

/-- The greatest number of 64 bits is one, alone and in a file, but a zero with a sign is none. -/
theorem decoding_exact_at_limits :
    let greatest := utf8 "18446744073709551615"
    Form .value greatest ∧ NaturalLiteral greatest (2 ^ 64 - 1) ∧
      load greatest = .ok (.number 18446744073709551615) ∧
      (Outcome.load (utf8 "\x7b\"case\":18446744073709551615,\"behavior\":\"OK\"\x7d")).toOption =
        some ⟨.number 18446744073709551615, "OK"⟩ ∧
      Form .value (utf8 "-0") ∧ ∃ refusal, load (utf8 "-0") = .error refusal := by
  intro greatest
  have isGreatest : utf8 (toString (18446744073709551615 : UInt64).toNat) = greatest := by
    decide +kernel
  have isWritten : utf8 (Outcome.mk (.number 18446744073709551615) "OK").written =
      utf8 "\x7b\"case\":18446744073709551615,\"behavior\":\"OK\"\x7d" := by decide +kernel
  obtain ⟨value, frames, isCase⟩ := (holds_written ⟨.number 18446744073709551615, "OK"⟩).frames
  have literal := caseIdText_number_iff.mp isCase
  obtain rfl : value = greatest := literal.eq_toString.trans isGreatest
  rw [isWritten] at frames
  have isValue : Form .value greatest := .number literal.numberForm
  obtain ⟨isNumber, -, -, -, -, -, isFramed⟩ := decoding_exact isValue
  obtain ⟨word, isWord, loaded⟩ := (isNumber (2 ^ 64 - 1)).mpr ⟨literal, Nat.le_refl _⟩
  obtain rfl : word = 18446744073709551615 := UInt64.toNat_inj.mp isWord
  have inFile := isFramed _ _ frames
  rw [loaded] at inFile
  have negative : NumberForm (utf8 "-0") ⟨true, [0], none, none⟩ :=
    .parts true .zero .absent .absent
  have isValue' : Form .value (utf8 "-0") := .number negative
  obtain ⟨-, -, -, -, refuses, -, -⟩ := decoding_exact isValue'
  exact ⟨isValue, literal, loaded, inFile, isValue', refuses _ negative (.inl rfl)⟩

end CaseId

end ConformanceReport
