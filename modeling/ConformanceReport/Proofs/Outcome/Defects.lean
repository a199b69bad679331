import Mathlib.Data.List.Induction
import ConformanceReport.Proofs.Json.Sound
import ConformanceReport.Proofs.Outcome.Members

/-!
# The first defect of an object

`Blamed` says by the members alone what an object is refused with: the first defect in the order of
the members, or the field that is missing. Only the two fields matter to that
(`blamed_filter_iff`). Members without a defect are those that are taken (`Clean.takes`), as long as
the values of the fields are sound.
-/

namespace ConformanceReport.Outcome

open Json

/-! ## Defects -/

/-- Whether an outcome is read from a member. -/
def Member.isField (member : Member) : Bool :=
  member.key = "case" || member.key = "behavior"

/-- A key occurs among members. -/
def Occurs (members : List Member) (key : String) : Prop :=
  ∃ member ∈ members, member.key = key

/-- A value that is no string, and the kind that it is named by. A scalar is named by what it
denotes, a container by its opening byte. -/
inductive OtherKind : Bytes → Kind → Prop where
  | null : OtherKind (utf8 "null") .null
  | boolean (value : Bool) : OtherKind (utf8 (toString value)) (.boolean value)
  | number {bytes : Bytes} {literal : Literal} {number : Number}
      (isNumber : NumberForm bytes literal) (denotes : literal.denoted = .ok number) :
      OtherKind bytes (kindOf (.number number))
  | list {more : Bytes} : OtherKind (ascii '[' :: more) .list
  | object {more : Bytes} : OtherKind (ascii '\x7b' :: more) .object

/-- What a value of `case` is refused with. The value is read as a whole before it is judged, so a
number without a denotation comes first, at whatever depth it stands. -/
inductive CaseFault (value : Bytes) : String → Prop where
  | outOfRange (isRefused : Sound .refused .value (nestingLimit - 1) value) :
      CaseFault value "number out of range"
  | noCaseId (isRead : Sound .read .value (nestingLimit - 1) value)
      (noCase : ∀ caseId, ¬ CaseIdText value caseId) :
      CaseFault value "data did not match any variant of untagged enum CaseId"

/-- What a value of `behavior` is refused with. Nothing inside of a container is looked at. -/
inductive LabelFault (value : Bytes) : String → Prop where
  | outOfRange {literal : Literal} {left : Nat} (isNumber : NumberForm value literal)
      (exceeds : literal.denoted = .error left) : LabelFault value "number out of range"
  | wrongKind {kind : Kind} (isKind : OtherKind value kind) :
      LabelFault value ("invalid type: " ++ kind.shown messageLayout ++ ", expected a string")

/-- A member has a defect behind those before it, and is refused with a message. A key that occurs
again is a defect whatever its value. -/
inductive Defective (earlier : List Member) : Member → String → Prop where
  | duplicate {member : Member} (isField : member.isField) (again : Occurs earlier member.key) :
      Defective earlier member ("duplicate field `" ++ member.key ++ "`")
  | caseId {value : Bytes} {message : String} (isFirst : ¬ Occurs earlier "case")
      (fault : CaseFault value message) : Defective earlier ⟨"case", value⟩ message
  | label {value : Bytes} {message : String} (isFirst : ¬ Occurs earlier "behavior")
      (fault : LabelFault value message) : Defective earlier ⟨"behavior", value⟩ message

/-- No member has a defect behind those before it. -/
def Clean (members : List Member) : Prop :=
  ∀ earlier member later message, members = earlier ++ member :: later →
    ¬ Defective earlier member message

/-- What an object is refused with: its first defect, or without one the field that is missing, the
identifier before the label. -/
inductive Blamed (members : List Member) : String → Prop where
  | defect {earlier later : List Member} {member : Member} {message : String}
      (shape : members = earlier ++ member :: later) (clean : Clean earlier)
      (defective : Defective earlier member message) : Blamed members message
  | noCase (clean : Clean members) (absent : ¬ Occurs members "case") :
      Blamed members "missing field `case`"
  | noLabel (clean : Clean members) (present : Occurs members "case")
      (absent : ¬ Occurs members "behavior") : Blamed members "missing field `behavior`"

/-! ## Only the fields matter -/

/-- The two keys make a member a field. -/
theorem Member.isField_iff {member : Member} :
    member.isField = true ↔ member.key = "case" ∨ member.key = "behavior" := by
  simp [isField]

/-- The key of a field occurs among the fields if it occurs at all. -/
theorem occurs_filter_iff (members : List Member) {key : String}
    (isField : key = "case" ∨ key = "behavior") :
    Occurs (members.filter Member.isField) key ↔ Occurs members key := by
  constructor
  · rintro ⟨member, isMember, isKey⟩
    exact ⟨member, (List.mem_filter.mp isMember).1, isKey⟩
  · rintro ⟨member, isMember, rfl⟩
    exact ⟨member, List.mem_filter.mpr ⟨isMember, Member.isField_iff.mpr isField⟩, rfl⟩

/-- A defect is one of a field. -/
theorem Defective.isField {earlier : List Member} {member : Member} {message : String}
    (defective : Defective earlier member message) : member.isField = true := by
  cases defective with
  | duplicate isField => exact isField
  | caseId => rfl
  | label => rfl

/-- Whether a member has a defect depends on the keys before it that are those of fields. -/
theorem Defective.of_occurs {earlier earlier' : List Member} {member : Member} {message : String}
    (same : ∀ key, key = "case" ∨ key = "behavior" → (Occurs earlier key ↔ Occurs earlier' key))
    (defective : Defective earlier member message) : Defective earlier' member message := by
  cases defective with
  | duplicate isField again =>
    exact .duplicate isField ((same _ (Member.isField_iff.mp isField)).mp again)
  | caseId isFirst fault => exact .caseId (mt (same _ (.inl rfl)).mpr isFirst) fault
  | label isFirst fault => exact .label (mt (same _ (.inr rfl)).mpr isFirst) fault

/-- Whether a member has a defect depends on the fields before it alone. -/
theorem defective_filter_iff {earlier : List Member} {member : Member} {message : String} :
    Defective (earlier.filter Member.isField) member message ↔ Defective earlier member message :=
  ⟨.of_occurs fun _ isField => occurs_filter_iff earlier isField,
    .of_occurs fun _ isField => (occurs_filter_iff earlier isField).symm⟩

/-- The fields are cut at a field where the members are. -/
theorem exists_split_of_filter {members earlier later : List Member} {member : Member}
    (shape : members.filter Member.isField = earlier ++ member :: later) :
    ∃ earlier' later', members = earlier' ++ member :: later' ∧
      earlier'.filter Member.isField = earlier := by
  obtain ⟨before, behind, rfl, isBefore, isBehind⟩ := List.filter_eq_append_iff.mp shape
  obtain ⟨between, later', rfl, others, -, -⟩ := List.filter_eq_cons_iff.mp isBehind
  refine ⟨before ++ between, later', by simp, ?_⟩
  rw [List.filter_append, isBefore, List.filter_eq_nil_iff.mpr others, List.append_nil]

/-- Members have no defect exactly if the fields among them have none. -/
theorem clean_filter_iff {members : List Member} :
    Clean (members.filter Member.isField) ↔ Clean members := by
  constructor
  · rintro clean earlier member later message rfl defective
    refine clean (earlier.filter Member.isField) member (later.filter Member.isField) message ?_
      (defective_filter_iff.mpr defective)
    rw [List.filter_append, List.filter_cons_of_pos defective.isField]
  · intro clean earlier member later message shape defective
    obtain ⟨earlier', later', shape', rfl⟩ := exists_split_of_filter shape
    exact clean earlier' member later' message shape' (defective_filter_iff.mp defective)

/-- An object is refused with the same as its fields alone. -/
theorem blamed_filter_iff {members : List Member} {message : String} :
    Blamed (members.filter Member.isField) message ↔ Blamed members message := by
  have isCase := occurs_filter_iff members (.inl (rfl : "case" = "case"))
  have isLabel := occurs_filter_iff members (.inr (rfl : "behavior" = "behavior"))
  constructor
  · intro blamed
    cases blamed with
    | defect shape clean defective =>
      obtain ⟨earlier, later, shape', rfl⟩ := exists_split_of_filter shape
      exact .defect shape' (clean_filter_iff.mp clean) (defective_filter_iff.mp defective)
    | noCase clean absent => exact .noCase (clean_filter_iff.mp clean) (mt isCase.mpr absent)
    | noLabel clean present absent =>
      exact .noLabel (clean_filter_iff.mp clean) (isCase.mp present) (mt isLabel.mpr absent)
  · intro blamed
    cases blamed with
    | @defect earlier later member _ shape clean defective =>
      have shape' : members.filter Member.isField =
          earlier.filter Member.isField ++ member :: later.filter Member.isField := by
        rw [shape, List.filter_append, List.filter_cons_of_pos defective.isField]
      exact .defect shape' (clean_filter_iff.mpr clean) (defective_filter_iff.mpr defective)
    | noCase clean absent => exact .noCase (clean_filter_iff.mpr clean) (mt isCase.mp absent)
    | noLabel clean present absent =>
      exact .noLabel (clean_filter_iff.mpr clean) (isCase.mpr present) (mt isLabel.mp absent)

/-! ## The first defect -/

/-- Where there is no member there is no defect. -/
theorem clean_nil : Clean [] := by
  intro earlier member later message shape
  simp at shape

/-- A last member without a defect leaves all without one. -/
theorem Clean.concat {members : List Member} {last : Member} (clean : Clean members)
    (noDefect : ∀ message, ¬ Defective members last message) : Clean (members ++ [last]) := by
  intro earlier member later message shape
  obtain ⟨more, rfl, isLast⟩ | ⟨more, rfl, isLater⟩ := List.append_eq_append_iff.mp shape
  · cases more with
    | nil =>
      obtain ⟨rfl, -⟩ := List.cons.inj isLast
      rw [List.append_nil]
      exact noDefect message
    | cons => simp at isLast
  · cases more with
    | nil =>
      obtain ⟨rfl, -⟩ := List.cons.inj isLater
      rw [List.append_nil] at noDefect
      exact noDefect message
    | cons first more =>
      obtain ⟨rfl, -⟩ := List.cons.inj isLater
      exact clean earlier member more message rfl

/-- Among members with a defect there is one with the first. -/
theorem clean_or_defect (members : List Member) :
    Clean members ∨ ∃ earlier member later message, members = earlier ++ member :: later ∧
      Clean earlier ∧ Defective earlier member message := by
  -- From the end: whether a member has a defect depends on all members before it.
  induction members using List.reverseRecOn with
  | nil => exact .inl clean_nil
  | append_singleton members last inductionHypothesis =>
    obtain clean | ⟨earlier, member, later, message, rfl, clean, defective⟩ := inductionHypothesis
    · by_cases hasDefect : ∃ message, Defective members last message
      · obtain ⟨message, defective⟩ := hasDefect
        exact .inr ⟨members, last, [], message, rfl, clean, defective⟩
      · exact .inl (clean.concat (not_exists.mp hasDefect))
    · exact .inr ⟨earlier, member, later ++ [last], message, by simp, clean, defective⟩

/-! ## Sound fields -/

/-- The values of the fields are sound within the room that an object leaves. -/
def SoundFields (members : List Member) : Prop :=
  ∀ member ∈ members, member.isField → ∃ fate, Sound fate .value (nestingLimit - 1) member.value

/-- A sound value of `case` denotes an identifier or is refused. -/
theorem caseIdText_or_fault {fate : Fate} {value : Bytes}
    (sound : Sound fate .value (nestingLimit - 1) value) :
    (∃ caseId, CaseIdText value caseId) ∨ ∃ message, CaseFault value message := by
  by_cases isCase : ∃ caseId, CaseIdText value caseId
  · exact .inl isCase
  · cases fate with
    | read => exact .inr ⟨_, .noCaseId sound (not_exists.mp isCase)⟩
    | refused => exact .inr ⟨_, .outOfRange sound⟩

/-- A sound value of `behavior` denotes a label or is refused. -/
theorem textLiteral_or_fault {fate : Fate} {room : Nat} {value : Bytes}
    (sound : Sound fate .value room value) :
    (∃ label, TextLiteral value label) ∨ ∃ message, LabelFault value message := by
  have container (bracket : Bracket) (more : Bytes) :
      ∃ message, LabelFault (bracket.opening :: more) message := by
    cases bracket with
    | list => exact ⟨_, .wrongKind .list⟩
    | object => exact ⟨_, .wrongKind .object⟩
  cases sound with
  | name known =>
    simp only [List.mem_cons, List.not_mem_nil, or_false] at known
    rcases known with rfl | rfl | rfl
    · exact .inr ⟨_, .wrongKind .null⟩
    · exact .inr ⟨_, .wrongKind (.boolean true)⟩
    · exact .inr ⟨_, .wrongKind (.boolean false)⟩
  | number isNumber denotes => exact .inr ⟨_, .wrongKind (.number isNumber denotes)⟩
  | outOfRange isNumber exceeds => exact .inr ⟨_, .outOfRange isNumber exceeds⟩
  | text isText => exact .inl ⟨_, isText⟩
  | empty => exact .inr (container _ _)
  | entries => exact .inr (container _ _)

/-- The key of a field fills its part if it never occurs again and its first value denotes
something. -/
theorem Clean.fills {α : Type} {denotes : Bytes → α → Prop} {key : String} {members : List Member}
    (clean : Clean members) (isField : key = "case" ∨ key = "behavior")
    (denoted : ∀ earlier value later, members = earlier ++ ⟨key, value⟩ :: later →
      ¬ Occurs earlier key → ∃ found, denotes value found) :
    ∃ found, Fills denotes key members none found := by
  cases isFilter : members.filter (fun member => member.key = key) with
  | nil => exact ⟨none, .inl ⟨isFilter, rfl⟩⟩
  | cons member others =>
    obtain ⟨earlier, later, rfl, absent, isKey, isLater⟩ := List.filter_eq_cons_iff.mp isFilter
    obtain ⟨name, value⟩ := member
    obtain rfl : key = name := (of_decide_eq_true isKey).symm
    -- The first occurrence of the key denotes something, and a second one would be a defect.
    cases others with
    | nil =>
      have isFirst : ¬ Occurs earlier key := by
        rintro ⟨previous, isPrevious, same⟩
        exact absent previous isPrevious (decide_eq_true same)
      obtain ⟨found, isFound⟩ := denoted earlier value later rfl isFirst
      exact ⟨some found, .inr ⟨value, found, isFilter, isFound, rfl, rfl⟩⟩
    | cons again others =>
      obtain ⟨between, behind, rfl, -, isAgain, -⟩ := List.filter_eq_cons_iff.mp isLater
      have same : again.key = key := of_decide_eq_true isAgain
      have isFieldAgain : again.isField := by
        rw [Member.isField_iff, same]
        exact isField
      have occurs : Occurs (earlier ++ ⟨key, value⟩ :: between) again.key :=
        ⟨⟨key, value⟩, by simp, same.symm⟩
      exact absurd (.duplicate isFieldAgain occurs) (clean _ again behind _ (by simp))

/-- Members without a defect are taken. -/
theorem Clean.takes {members : List Member} (clean : Clean members) (sound : SoundFields members) :
    ∃ found, Takes members .none found := by
  obtain ⟨caseId, isCase⟩ : ∃ found, Fills CaseIdText "case" members none found := by
    refine clean.fills (.inl rfl) fun earlier value later shape isFirst => ?_
    obtain ⟨fate, isSound⟩ := sound ⟨"case", value⟩ (by simp [shape]) rfl
    obtain isCase | ⟨message, fault⟩ := caseIdText_or_fault isSound
    · exact isCase
    · exact absurd (.caseId isFirst fault) (clean _ _ _ message shape)
  obtain ⟨label, isLabel⟩ : ∃ found, Fills TextLiteral "behavior" members none found := by
    refine clean.fills (.inr rfl) fun earlier value later shape isFirst => ?_
    obtain ⟨fate, isSound⟩ := sound ⟨"behavior", value⟩ (by simp [shape]) rfl
    obtain isLabel | ⟨message, fault⟩ := textLiteral_or_fault isSound
    · exact isLabel
    · exact absurd (.label isFirst fault) (clean _ _ _ message shape)
  exact ⟨⟨caseId, label⟩, isCase, isLabel⟩

/-- A part is found exactly if its key occurs. -/
theorem Fills.isSome_iff {α : Type} {denotes : Bytes → α → Prop} {key : String}
    {members : List Member} {found : Option α} (fills : Fills denotes key members none found) :
    found.isSome ↔ Occurs members key := by
  obtain ⟨absent, rfl⟩ | ⟨text, value, once, -, -, rfl⟩ := fills
  · simp only [Option.isSome_none, Bool.false_eq_true, false_iff]
    rintro ⟨member, isMember, isKey⟩
    exact List.filter_eq_nil_iff.mp absent member isMember (decide_eq_true isKey)
  · simp only [Option.isSome_some, true_iff]
    have isMember : (⟨key, text⟩ : Member) ∈ members.filter (fun member => member.key = key) := by
      rw [once]
      exact List.mem_cons_self
    exact ⟨_, (List.mem_filter.mp isMember).1, rfl⟩

/-- A field is found exactly if its key occurs. -/
theorem Takes.has_iff {members : List Member} {found : Found} (takes : Takes members .none found)
    (field : Field) : found.has field ↔ Occurs members field.key := by
  cases field with
  | caseId => exact takes.caseId.isSome_iff
  | behavior => exact takes.label.isSome_iff

end ConformanceReport.Outcome
