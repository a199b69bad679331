import ConformanceReport.Proofs.Json.Value

/-!
# Passing over a value accepts exactly the grammar

What `skipFrom` still has to see is a stack of open containers, innermost first. `Left` says which
texts complete such a stack, and `skipFrom` succeeds exactly on them (`skipFrom_sound`,
`skipFrom_complete`). With nothing open that is one value, nested to any depth
(`skipValue_sound`, `skipValue_complete`).
-/

namespace ConformanceReport.Json

/-! ## Brackets -/

namespace Bracket

/-- A byte opens a container exactly if it is the opening byte of one. -/
theorem opened?_eq_some_iff {byte : UInt8} {bracket : Bracket} :
    opened? byte = some bracket ↔ byte = bracket.opening := by
  unfold opened?
  split
  · next isList =>
    subst isList
    cases bracket <;> decide
  split
  · next isObject =>
    subst isObject
    cases bracket <;> decide
  · next noList noObject => cases bracket <;> simp [opening, noList, noObject]

/-- The opening bytes open their containers. -/
@[simp] theorem opened?_opening (bracket : Bracket) : opened? bracket.opening = some bracket :=
  opened?_eq_some_iff.mpr rfl

/-- Opening bytes are significant. -/
@[simp] theorem isBlank_opening (bracket : Bracket) : isBlank bracket.opening = false := by
  cases bracket <;> decide

/-- Closing bytes are significant. -/
@[simp] theorem isBlank_closing (bracket : Bracket) : isBlank bracket.closing = false := by
  cases bracket <;> decide

/-- No closing byte is a separator. -/
theorem closing_ne_separator (bracket : Bracket) : ascii ',' ≠ bracket.closing := by
  cases bracket <;> decide

/-- Numbers end in front of a closing byte. -/
theorem ends_closing (bracket : Bracket) (rest : Bytes) : Ends (bracket.closing :: rest) := by
  rw [ends_cons_iff]
  cases bracket <;> decide

end Bracket

/-! ## First bytes of parts -/

/-- A byte at which a value starts: significant, and not the end of a container. -/
def StartsValue (byte : UInt8) : Prop :=
  isBlank byte = false ∧ ∀ bracket : Bracket, byte ≠ bracket.closing

/-- A minus sign or a digit opens no container and starts a value. -/
theorem startsValue_of_number {byte : UInt8}
    (isNumber : byte = ascii '-' ∨ (digit? byte).isSome) :
    StartsValue byte ∧ Bracket.opened? byte = none := by
  have notDigit : byte = ascii '-' ∨ (byte ≠ ascii ']' ∧ byte ≠ ascii '\x7d' ∧ byte ≠ ascii '[' ∧
      byte ≠ ascii '\x7b') := by
    refine isNumber.imp_right fun isDigit => ⟨?_, ?_, ?_, ?_⟩ <;> rintro rfl <;>
      exact absurd isDigit (by decide)
  rcases isNumber with rfl | isDigit
  · exact ⟨⟨by decide, by intro bracket; cases bracket <;> decide⟩, by decide⟩
  · rcases notDigit with rfl | ⟨noListEnd, noObjectEnd, noList, noObject⟩
    · exact absurd isDigit (by decide)
    · refine ⟨⟨isBlank_of_digit isDigit, ?_⟩, by simp [Bracket.opened?, noList, noObject]⟩
      intro bracket
      cases bracket with
      | list => exact noListEnd
      | object => exact noObjectEnd

/-- The first byte of a number opens neither a container nor a string. -/
theorem NumberForm.plain_head {bytes : Bytes} {literal : Literal}
    (form : NumberForm bytes literal) :
    ∃ first more, bytes = first :: more ∧ isBlank first = false ∧ Bracket.opened? first = none ∧
      first ≠ ascii '"' := by
  obtain ⟨first, more, shape, isNumber⟩ := form.head
  obtain ⟨starts, noContainer⟩ := startsValue_of_number isNumber
  refine ⟨first, more, shape, starts.1, noContainer, ?_⟩
  rintro rfl
  exact absurd isNumber (by decide)

/-- Every value starts with a byte at which values start. -/
theorem Form.value_head {value : Bytes} (form : Form .value value) :
    ∃ first more, value = first :: more ∧ StartsValue first := by
  cases form with
  | name known =>
    simp only [List.mem_cons, List.not_mem_nil, or_false] at known
    rcases known with rfl | rfl | rfl
    all_goals exact ⟨_, _, rfl, by decide, by intro bracket; cases bracket <;> decide⟩
  | number isNumber =>
    obtain ⟨first, more, shape, starts⟩ := isNumber.head
    exact ⟨first, more, shape, (startsValue_of_number starts).1⟩
  | text isText =>
    obtain ⟨body, shape, -⟩ := isText
    exact ⟨_, _, shape, by decide, by intro bracket; cases bracket <;> decide⟩
  | @empty bracket =>
    refine ⟨_, _, rfl, bracket.isBlank_opening, ?_⟩
    intro other
    cases bracket <;> cases other <;> decide
  | @entries bracket =>
    refine ⟨_, _, rfl, bracket.isBlank_opening, ?_⟩
    intro other
    cases bracket <;> cases other <;> decide

/-- Numbers end in front of what follows the value of an entry. -/
theorem Form.tail_ends {bracket : Bracket} {tail : Bytes} (form : Form (.tail bracket) tail)
    (rest : Bytes) : Ends (tail ++ rest) := by
  cases form with
  | close blank =>
    rw [List.append_assoc, List.singleton_append]
    exact Ends.blank_append blank (bracket.ends_closing rest)
  | next blank =>
    rw [List.append_assoc]
    exact Ends.blank_append blank (ends_cons_iff.mpr (by decide))

namespace LabelForm

/-- Insignificant bytes in front of an entry belong to it. -/
theorem blank_append {bracket : Bracket} {before label : Bytes} (blank : Blank before)
    (form : LabelForm bracket label) : LabelForm bracket (before ++ label) := by
  cases form with
  | item more => exact .item (blank_append_iff.mpr ⟨blank, more⟩)
  | member more isKey blankBetween blankAfter =>
    rw [← List.append_assoc]
    exact .member (blank_append_iff.mpr ⟨blank, more⟩) isKey blankBetween blankAfter

/-- Insignificant bytes in front of a value belong to its label. -/
theorem append_blank {bracket : Bracket} {label after : Bytes} (form : LabelForm bracket label)
    (blank : Blank after) : LabelForm bracket (label ++ after) := by
  cases form with
  | item more => exact .item (blank_append_iff.mpr ⟨more, blank⟩)
  | member more isKey blankBetween blankAfter =>
    simp only [List.append_assoc, List.cons_append]
    exact .member more isKey blankBetween (blank_append_iff.mpr ⟨blankAfter, blank⟩)

/-- The insignificant bytes at the front of an entry can be left out. -/
theorem skipBlank_append {bracket : Bracket} {label : Bytes} (form : LabelForm bracket label)
    {byte : UInt8} (starts : StartsValue byte) (rest : Bytes) :
    ∃ label' first more, skipBlank (label ++ byte :: rest) = label' ++ byte :: rest ∧
      label' ++ byte :: rest = first :: more ∧ LabelForm bracket label' ∧
      first ≠ bracket.closing := by
  cases form with
  | item blank =>
    exact ⟨[], byte, rest, skipBlank_append_cons blank starts.1 rest, rfl, .item blank_nil,
      starts.2 _⟩
  | @member before key between after blank isKey blankBetween blankAfter =>
    obtain ⟨body, rfl, isBody⟩ := isKey
    refine ⟨_, _, _, ?_, rfl, .member blank_nil ⟨body, rfl, isBody⟩ blankBetween blankAfter,
      by decide⟩
    rw [List.append_assoc, Json.skipBlank_append blank]
    exact skipBlank_cons (by decide) _

end LabelForm

/-! ## Keys and separators -/

/-- What is passed over as a key and its colon has their form. -/
theorem skipKey_sound {input rest : Bytes} (read : Yields (skipKey input) () rest) :
    ∃ label, input = label ++ rest ∧ LabelForm .object label := by
  unfold skipKey at read
  split at read
  · simp at read
  next byte more found =>
  obtain ⟨-, before, blank, rfl⟩ := skipBlank_eq_cons_iff.mp found
  split at read
  · simp at read
  next isQuote =>
  simp only [ne_eq, Decidable.not_not] at isQuote
  obtain ⟨_, afterKey, _, isKey, read⟩ := Yields.bind_parsed_iff.mp read
  obtain ⟨_, afterColon, _, isColon, read⟩ := Yields.bind_parsed_iff.mp read
  obtain rfl : afterColon = rest := (Yields.ok_iff.mp read).2
  obtain ⟨body, rfl, isBody⟩ := skipText_sound isKey
  obtain ⟨between, blankBetween, shape⟩ := readColon_yields_iff.mp isColon
  dsimp only at shape
  subst shape
  refine ⟨_, ?_, .member blank ⟨body, rfl, isBody⟩ blankBetween blank_nil⟩
  simp [isQuote]

/-- A key and its colon are passed over. -/
theorem skipKey_complete {before key between rest : Bytes} (blank : Blank before)
    (isKey : TextForm key) (blankBetween : Blank between) :
    Yields (skipKey (before ++ (key ++ (between ++ ascii ':' :: rest)))) () rest := by
  obtain ⟨body, rfl, isBody⟩ := isKey
  have isQuote : isBlank (ascii '"') = false := by decide
  have found : skipBlank (before ++ (ascii '"' :: (body ++ [ascii '"']) ++
      (between ++ ascii ':' :: rest))) =
      ascii '"' :: (body ++ ascii '"' :: (between ++ ascii ':' :: rest)) := by
    rw [skipBlank_append blank]
    simpa using skipBlank_cons isQuote _
  unfold skipKey
  split
  · next isNil =>
    rw [found] at isNil
    cases isNil
  next byte more found' =>
  rw [found, List.cons.injEq] at found'
  obtain ⟨rfl, rfl⟩ := found'
  rw [if_neg (by simp)]
  refine Yields.bind_intro (skipText_complete isBody _) fun _ => ?_
  refine Yields.bind_intro (readColon_yields_iff.mpr ⟨between, blankBetween, rfl⟩) fun _ => ?_
  exact Yields.ok_iff.mpr ⟨rfl, rfl⟩

/-- What stands in front of a value is the label of its entry. -/
theorem skipToValue_sound {bracket : Bracket} {input rest : Bytes}
    (read : MaybeYields (skipToValue bracket input) () rest) :
    ∃ label, input = label ++ rest ∧ LabelForm bracket label := by
  cases bracket with
  | list =>
    obtain ⟨-, rfl⟩ := MaybeYields.ok_iff.mp read
    exact ⟨[], rfl, .item blank_nil⟩
  | object =>
    obtain ⟨_, isOk, -, rfl⟩ := read
    obtain ⟨key, isKey, isOk⟩ := bind_eq_ok_iff.mp isOk
    cases isOk
    exact skipKey_sound ⟨key, isKey, rfl, rfl⟩

/-- The label of an entry is passed over, up to insignificant bytes in front of the value. -/
theorem skipToValue_complete {bracket : Bracket} {label : Bytes} (form : LabelForm bracket label)
    (rest : Bytes) :
    ∃ after, Blank after ∧
      MaybeYields (skipToValue bracket (label ++ rest)) () (after ++ rest) := by
  cases form with
  | item blank => exact ⟨label, blank, MaybeYields.ok_iff.mpr ⟨rfl, rfl⟩⟩
  | @member before key between after blank isKey blankBetween blankAfter =>
    have shape : before ++ (key ++ (between ++ ascii ':' :: after)) ++ rest =
        before ++ (key ++ (between ++ ascii ':' :: (after ++ rest))) := by simp
    obtain ⟨shorter, isOk⟩ := (skipKey_complete blank isKey blankBetween).eq_ok
    rw [shape]
    exact ⟨after, blankAfter, _, bind_eq_ok_iff.mpr ⟨_, isOk, rfl⟩, rfl, rfl⟩

/-- A container ends exactly at its closing byte. -/
theorem skipToNext_close_iff {first : Bool} {bracket : Bracket} {input rest : Bytes} :
    (∃ shorter, skipToNext first bracket input = .ok (.close rest shorter)) ↔
      ∃ before, Blank before ∧ input = before ++ bracket.closing :: rest := by
  constructor
  · rintro ⟨shorter, read⟩
    unfold skipToNext at read
    split at read
    · cases read
    next byte more found =>
    obtain ⟨-, before, blank, rfl⟩ := skipBlank_eq_cons_iff.mp found
    split at read
    · next isClosing =>
      cases read
      exact ⟨before, blank, by rw [isClosing]⟩
    split at read
    · obtain ⟨_, _, read⟩ := bind_eq_ok_iff.mp read
      cases read
    split at read
    · obtain ⟨_, _, read⟩ := bind_eq_ok_iff.mp read
      cases read
    · cases read
  · rintro ⟨before, blank, rfl⟩
    have found := skipBlank_append_cons blank bracket.isBlank_closing rest
    unfold skipToNext
    split
    · next isNil =>
      rw [found] at isNil
      cases isNil
    next byte more found' =>
    obtain ⟨rfl, rfl⟩ := List.cons.inj (found.symm.trans found')
    rw [if_pos rfl]
    exact ⟨skipBlank_shorter found, rfl⟩

/-- What is found as the first entry of a container is one. -/
theorem skipToNext_first_sound {bracket : Bracket} {input start : Bytes}
    {length_le : start.length ≤ input.length}
    (read : skipToNext true bracket input = .ok (.entry start length_le)) :
    ∃ label, input = label ++ start ∧ LabelForm bracket label := by
  unfold skipToNext at read
  split at read
  · cases read
  next byte more found =>
  obtain ⟨-, before, blank, rfl⟩ := skipBlank_eq_cons_iff.mp found
  split at read
  · cases read
  rw [if_pos rfl] at read
  obtain ⟨value, isValue, read⟩ := bind_eq_ok_iff.mp read
  cases read
  obtain ⟨label, shape, form⟩ := skipToValue_sound ⟨value, isValue, rfl, rfl⟩
  have joined := congrArg (before ++ ·) shape
  exact ⟨before ++ label, by simpa using joined, form.blank_append blank⟩

/-- The first entry of a container is found, up to insignificant bytes in front of its value. -/
theorem skipToNext_first_complete {bracket : Bracket} {label : Bytes}
    (form : LabelForm bracket label) {byte : UInt8} (starts : StartsValue byte) (rest : Bytes) :
    ∃ after length_le, Blank after ∧
      skipToNext true bracket (label ++ byte :: rest) =
        .ok (.entry (after ++ byte :: rest) length_le) := by
  obtain ⟨label', first, more, found, isFirst, form', noClosing⟩ :=
    form.skipBlank_append starts rest
  obtain ⟨after, blank, isValue⟩ := skipToValue_complete form' (byte :: rest)
  rw [isFirst] at found isValue
  obtain ⟨⟨_, _, length_le⟩, isOk, rfl, rfl⟩ := isValue
  unfold skipToNext
  split
  · next isNil =>
    rw [found] at isNil
    cases isNil
  next other more' found' =>
  obtain ⟨rfl, rfl⟩ := List.cons.inj (found.symm.trans found')
  rw [if_neg noClosing, if_pos rfl, isOk]
  exact ⟨after, Nat.le_trans length_le (length_le_of_skipBlank found), blank, rfl⟩

/-- What is found as a later entry of a container is one, after a separator. -/
theorem skipToNext_later_sound {bracket : Bracket} {input start : Bytes}
    {length_le : start.length ≤ input.length}
    (read : skipToNext false bracket input = .ok (.entry start length_le)) :
    ∃ before label, Blank before ∧ input = before ++ ascii ',' :: (label ++ start) ∧
      LabelForm bracket label := by
  unfold skipToNext at read
  split at read
  · cases read
  next byte more found =>
  obtain ⟨-, before, blank, rfl⟩ := skipBlank_eq_cons_iff.mp found
  split at read
  · cases read
  rw [if_neg (by decide)] at read
  split at read
  · next isSeparator =>
    obtain ⟨value, isValue, read⟩ := bind_eq_ok_iff.mp read
    cases read
    obtain ⟨label, shape, form⟩ := skipToValue_sound ⟨value, isValue, rfl, rfl⟩
    have joined := congrArg (before ++ byte :: ·) shape
    exact ⟨before, label, blank, by simpa [isSeparator] using joined, form⟩
  · cases read

/-- A later entry of a container is found, up to insignificant bytes in front of its value. -/
theorem skipToNext_later_complete {bracket : Bracket} {before label : Bytes}
    (blank : Blank before) (form : LabelForm bracket label) (rest : Bytes) :
    ∃ after length_le, Blank after ∧
      skipToNext false bracket (before ++ ascii ',' :: (label ++ rest)) =
        .ok (.entry (after ++ rest) length_le) := by
  obtain ⟨after, blankAfter, isValue⟩ := skipToValue_complete form rest
  obtain ⟨⟨_, _, length_le⟩, isOk, rfl, rfl⟩ := isValue
  have significant : isBlank (ascii ',') = false := by decide
  have found := skipBlank_append_cons blank significant (label ++ rest)
  unfold skipToNext
  split
  · next isNil =>
    rw [found] at isNil
    cases isNil
  next byte more found' =>
  obtain ⟨rfl, rfl⟩ := List.cons.inj (found.symm.trans found')
  rw [if_neg bracket.closing_ne_separator, if_neg (by decide), if_pos rfl, isOk]
  exact ⟨after, Nat.le_trans length_le (Nat.le_of_lt (skipBlank_shorter found)), blankAfter, rfl⟩

/-! ## Scalars -/

/-- What is passed over as a scalar has the form of a value. -/
theorem skipScalar_sound {input rest : Bytes} (read : Yields (skipScalar input) () rest) :
    ∃ value, input = value ++ rest ∧ Form .value value := by
  unfold skipScalar at read
  split at read
  · simp at read
  next byte more =>
  split at read
  · next isQuote =>
    obtain ⟨_, afterText, _, isText, read⟩ := Yields.bind_parsed_iff.mp read
    obtain rfl : afterText = rest := (Yields.ok_iff.mp read).2
    obtain ⟨body, rfl, isBody⟩ := skipText_sound isText
    exact ⟨_, by simp [isQuote], .text ⟨body, rfl, isBody⟩⟩
  next notQuote =>
  split at read
  · obtain ⟨number, literal, shape, form⟩ := skipNumber_sound read
    exact ⟨number, shape, .number form⟩
  · next noNumber =>
    obtain ⟨scalar, afterScalar, _, isScalar, read⟩ := Yields.bind_parsed_iff.mp read
    obtain rfl : afterScalar = rest := (Yields.ok_iff.mp read).2
    obtain ⟨name, known, shape⟩ :=
      readScalar_name_sound notQuote (Bool.eq_false_iff.mpr noNumber) isScalar
    exact ⟨utf8 name, shape, .name known⟩

/-- A string is passed over. -/
theorem skipScalar_text {text : Bytes} (form : TextForm text) (rest : Bytes) :
    Yields (skipScalar (text ++ rest)) () rest := by
  obtain ⟨body, rfl, isBody⟩ := form
  rw [List.cons_append, skipScalar, if_pos rfl, List.append_assoc, List.singleton_append]
  exact Yields.bind_intro (skipText_complete isBody rest) fun _ => Yields.ok_iff.mpr ⟨rfl, rfl⟩

/-- A number is passed over if what follows does not go on with it. -/
theorem skipScalar_number {number rest : Bytes} {literal : Literal}
    (form : NumberForm number literal) (ends : Ends rest) :
    Yields (skipScalar (number ++ rest)) () rest := by
  obtain ⟨first, more, rfl, isNumber⟩ := form.head
  have notQuote : first ≠ ascii '"' := by
    rintro rfl
    exact absurd isNumber (by decide)
  have skipped := skipNumber_complete form ends
  rw [List.cons_append] at skipped ⊢
  rwa [skipScalar, if_neg notQuote, if_pos (by simpa using isNumber)]

/-- A literal name is passed over. -/
theorem skipScalar_name {name : String} (known : name ∈ ["null", "true", "false"])
    (rest : Bytes) : Yields (skipScalar (utf8 name ++ rest)) () rest := by
  obtain ⟨value, read⟩ := readScalar_name_complete known rest
  obtain ⟨first, more, shape, notQuote, noNumber⟩ : ∃ first more, utf8 name = first :: more ∧
      first ≠ ascii '"' ∧ ¬ (first = ascii '-' || (digit? first).isSome) := by
    simp only [List.mem_cons, List.not_mem_nil, or_false] at known
    rcases known with rfl | rfl | rfl
    all_goals exact ⟨_, _, rfl, by decide, by decide⟩
  rw [shape, List.cons_append] at read ⊢
  rw [skipScalar, if_neg notQuote, if_neg noNumber]
  exact Yields.bind_intro read fun _ => Yields.ok_iff.mpr ⟨rfl, rfl⟩

/-! ## One step of the stack -/

/-- A scalar is passed over in one step. -/
theorem skipFrom_scalar {pending : List Bracket} {input more rest : Bytes} {byte : UInt8}
    (found : skipBlank input = byte :: more) (noContainer : Bracket.opened? byte = none)
    (read : Yields (skipScalar (byte :: more)) () rest) :
    skipFrom .value pending input = skipFrom .separator pending rest := by
  obtain ⟨shorter, isOk⟩ := read.eq_ok
  rw [skipFrom.eq_def]
  dsimp only
  split
  · next isNil =>
    rw [found] at isNil
    cases isNil
  next found' =>
  obtain ⟨rfl, rfl⟩ := List.cons.inj (found.symm.trans found')
  simp only [noContainer, isOk]

/-- An empty container is passed over in one step. -/
theorem skipFrom_empty {pending : List Bracket} {bracket : Bracket} {input more rest : Bytes}
    (found : skipBlank input = bracket.opening :: more)
    (closes : ∃ shorter, skipToNext true bracket more = .ok (.close rest shorter)) :
    skipFrom .value pending input = skipFrom .separator pending rest := by
  obtain ⟨shorter, isOk⟩ := closes
  rw [skipFrom.eq_def]
  dsimp only
  split
  · next isNil =>
    rw [found] at isNil
    cases isNil
  next found' =>
  obtain ⟨rfl, rfl⟩ := List.cons.inj (found.symm.trans found')
  simp only [Bracket.opened?_opening, isOk]

/-- The first entry of a container puts the container on the stack. -/
theorem skipFrom_enter {pending : List Bracket} {bracket : Bracket} {input more start : Bytes}
    {length_le : start.length ≤ more.length} (found : skipBlank input = bracket.opening :: more)
    (enters : skipToNext true bracket more = .ok (.entry start length_le)) :
    skipFrom .value pending input = skipFrom .value (bracket :: pending) start := by
  rw [skipFrom.eq_def]
  dsimp only
  split
  · next isNil =>
    rw [found] at isNil
    cases isNil
  next found' =>
  obtain ⟨rfl, rfl⟩ := List.cons.inj (found.symm.trans found')
  simp only [Bracket.opened?_opening, enters]

/-- The end of a container takes it off the stack. -/
theorem skipFrom_close {outer : List Bracket} {bracket : Bracket} {input rest : Bytes}
    (closes : ∃ shorter, skipToNext false bracket input = .ok (.close rest shorter)) :
    skipFrom .separator (bracket :: outer) input = skipFrom .separator outer rest := by
  obtain ⟨shorter, isOk⟩ := closes
  rw [skipFrom.eq_def]
  simp only [isOk]

/-- A later entry of a container leaves the stack as it is. -/
theorem skipFrom_next {outer : List Bracket} {bracket : Bracket} {input start : Bytes}
    {length_le : start.length ≤ input.length}
    (enters : skipToNext false bracket input = .ok (.entry start length_le)) :
    skipFrom .separator (bracket :: outer) input = skipFrom .value (bracket :: outer) start := by
  rw [skipFrom.eq_def]
  simp only [enters]

/-! ## The whole stack -/

/-- What completes the `pending` containers, innermost first, after a value that may be awaited. -/
inductive Left : Awaited → List Bracket → Bytes → Prop where
  | done : Left .separator [] []
  | tail {bracket : Bracket} {outer : List Bracket} {tail more : Bytes}
      (isTail : Form (.tail bracket) tail) (others : Left .separator outer more) :
      Left .separator (bracket :: outer) (tail ++ more)
  | value {pending : List Bracket} {before value more : Bytes} (blank : Blank before)
      (isValue : Form .value value) (others : Left .separator pending more) :
      Left .value pending (before ++ (value ++ more))

/-- What is passed over completes the open containers. -/
theorem skipFrom_sound {awaited : Awaited} {pending : List Bracket} {input rest : Bytes}
    (skipped : skipFrom awaited pending input = .ok rest) :
    ∃ text, input = text ++ rest ∧ Left awaited pending text := by
  fun_induction skipFrom awaited pending input with
  | case1 input =>
    cases skipped
    exact ⟨[], rfl, .done⟩
  | case2 => cases skipped
  | case3 input bracket outer next shorter read inductionHypothesis =>
    obtain ⟨more, rfl, others⟩ := inductionHypothesis skipped
    obtain ⟨before, blank, rfl⟩ := skipToNext_close_iff.mp ⟨shorter, read⟩
    exact ⟨_, by simp, .tail (.close blank) others⟩
  | case4 input bracket outer start length_le read inductionHypothesis =>
    obtain ⟨text, rfl, others⟩ := inductionHypothesis skipped
    obtain ⟨before, label, blank, rfl, isLabel⟩ := skipToNext_later_sound read
    cases others with
    | value blankBefore isValue others =>
      cases others with
      | tail isTail others =>
        exact ⟨_, by simp, .tail (.next blank (isLabel.append_blank blankBefore) isValue isTail)
          others⟩
  | case5 => cases skipped
  | case6 => cases skipped
  | case7 input pending byte more found bracket opened next shorter read inductionHypothesis =>
    obtain ⟨text, rfl, others⟩ := inductionHypothesis skipped
    obtain ⟨inside, blankInside, rfl⟩ := skipToNext_close_iff.mp ⟨shorter, read⟩
    obtain ⟨-, before, blank, rfl⟩ := skipBlank_eq_cons_iff.mp found
    obtain rfl := Bracket.opened?_eq_some_iff.mp opened
    have isEmpty : Form .value (bracket.opening :: (inside ++ [bracket.closing])) :=
      .empty blankInside
    exact ⟨_, by simp, .value blank isEmpty others⟩
  | case8 input pending byte more found bracket opened start length_le read inductionHypothesis =>
    obtain ⟨text, rfl, others⟩ := inductionHypothesis skipped
    obtain ⟨label, rfl, isLabel⟩ := skipToNext_first_sound read
    obtain ⟨-, before, blank, rfl⟩ := skipBlank_eq_cons_iff.mp found
    obtain rfl := Bracket.opened?_eq_some_iff.mp opened
    cases others with
    | value blankBefore isValue others =>
      cases others with
      | tail isTail others =>
        exact ⟨_, by simp,
          .value blank (.entries (isLabel.append_blank blankBefore) isValue isTail) others⟩
  | case9 => cases skipped
  | case10 input pending byte more found noContainer scalar read inductionHypothesis =>
    obtain ⟨text, shape, others⟩ := inductionHypothesis skipped
    obtain ⟨value, isScalar, isValue⟩ := skipScalar_sound ⟨scalar, read, rfl, rfl⟩
    obtain ⟨-, before, blank, rfl⟩ := skipBlank_eq_cons_iff.mp found
    exact ⟨_, by rw [isScalar, shape]; simp, .value blank isValue others⟩

/-- What it means that a part of a text is passed over, whatever stands before and after it. -/
def Passes : Part → Bytes → Prop
  | .value, text => ∀ pending before rest, Blank before → Ends rest →
    skipFrom .value pending (before ++ (text ++ rest)) = skipFrom .separator pending rest
  | .tail bracket, text => ∀ outer rest,
    skipFrom .separator (bracket :: outer) (text ++ rest) = skipFrom .separator outer rest

/-- A value that is no container is passed over. -/
theorem Passes.scalar {value : Bytes} (isScalar : ∃ first more, value = first :: more ∧
      isBlank first = false ∧ Bracket.opened? first = none)
    (skipped : ∀ rest, Ends rest → Yields (skipScalar (value ++ rest)) () rest) :
    Passes .value value := by
  intro pending before rest blank ends
  obtain ⟨first, more, rfl, significant, noContainer⟩ := isScalar
  exact skipFrom_scalar (skipBlank_append_cons blank significant _) noContainer (skipped rest ends)

/-- Every part of the grammar is passed over. -/
theorem Form.passes {part : Part} {text : Bytes} (form : Form part text) : Passes part text := by
  induction form with
  | name known =>
    refine .scalar ?_ fun rest _ => skipScalar_name known rest
    simp only [List.mem_cons, List.not_mem_nil, or_false] at known
    rcases known with rfl | rfl | rfl
    all_goals exact ⟨_, _, rfl, by decide, by decide⟩
  | number isNumber =>
    refine .scalar ?_ fun rest ends => skipScalar_number isNumber ends
    obtain ⟨first, more, shape, significant, noContainer, -⟩ := isNumber.plain_head
    exact ⟨first, more, shape, significant, noContainer⟩
  | text isText =>
    refine .scalar ?_ fun rest _ => skipScalar_text isText rest
    obtain ⟨body, rfl, -⟩ := isText
    exact ⟨_, _, rfl, by decide, by decide⟩
  | @empty bracket inside blankInside =>
    intro pending before rest blank ends
    have found := skipBlank_append_cons blank bracket.isBlank_opening
      ((inside ++ [bracket.closing]) ++ rest)
    exact skipFrom_empty found (skipToNext_close_iff.mpr ⟨inside, blankInside, by simp⟩)
  | @entries bracket label value tail isLabel isValue isTail passesValue passesTail =>
    intro pending before rest blank ends
    obtain ⟨first, more, rfl, starts⟩ := isValue.value_head
    obtain ⟨after, length_le, blankAfter, enters⟩ :=
      skipToNext_first_complete isLabel starts (more ++ (tail ++ rest))
    have found := skipBlank_append_cons blank bracket.isBlank_opening
      (label ++ first :: (more ++ (tail ++ rest)))
    calc skipFrom .value pending (before ++ (bracket.opening :: (label ++ (first :: more ++ tail))
          ++ rest))
        = skipFrom .value pending (before ++ bracket.opening ::
          (label ++ first :: (more ++ (tail ++ rest)))) := by simp
      _ = skipFrom .value (bracket :: pending) (after ++ first :: (more ++ (tail ++ rest))) :=
        skipFrom_enter found enters
      _ = skipFrom .separator (bracket :: pending) (tail ++ rest) :=
        passesValue (bracket :: pending) after (tail ++ rest) blankAfter (isTail.tail_ends rest)
      _ = skipFrom .separator pending rest := passesTail pending rest
  | @close bracket before blank =>
    intro outer rest
    exact skipFrom_close (skipToNext_close_iff.mpr ⟨before, blank, by simp⟩)
  | @next bracket before label value tail blank isLabel isValue isTail passesValue passesTail =>
    intro outer rest
    obtain ⟨after, length_le, blankAfter, enters⟩ :=
      skipToNext_later_complete blank isLabel (value ++ (tail ++ rest))
    calc skipFrom .separator (bracket :: outer) (before ++ ascii ',' :: (label ++ (value ++ tail))
          ++ rest)
        = skipFrom .separator (bracket :: outer) (before ++ ascii ',' ::
          (label ++ (value ++ (tail ++ rest)))) := by simp
      _ = skipFrom .value (bracket :: outer) (after ++ (value ++ (tail ++ rest))) :=
        skipFrom_next enters
      _ = skipFrom .separator (bracket :: outer) (tail ++ rest) :=
        passesValue (bracket :: outer) after (tail ++ rest) blankAfter (isTail.tail_ends rest)
      _ = skipFrom .separator outer rest := passesTail outer rest

/-- What completes the open containers is passed over. -/
theorem skipFrom_complete {awaited : Awaited} {pending : List Bracket} {text rest : Bytes}
    (left : Left awaited pending text) (ends : Ends rest) :
    skipFrom awaited pending (text ++ rest) = .ok rest := by
  induction left with
  | done => simp [skipFrom]
  | tail isTail _ inductionHypothesis =>
    rw [List.append_assoc, isTail.passes, inductionHypothesis]
  | @value pending before value more blank isValue others inductionHypothesis =>
    have endsMore : Ends (more ++ rest) := by
      cases others with
      | done => exact ends
      | tail isTail _ =>
        rw [List.append_assoc]
        exact isTail.tail_ends _
    rw [List.append_assoc, List.append_assoc, isValue.passes pending before _ blank endsMore,
      inductionHypothesis]

/-! ## One value -/

/-- What is passed over is a value of the grammar, after insignificant bytes. -/
theorem skipValue_sound {input rest : Bytes} (read : Yields (skipValue input) () rest) :
    ∃ before value, input = before ++ (value ++ rest) ∧ Blank before ∧ Form .value value := by
  unfold skipValue at read
  split at read
  · simp at read
  next skipped =>
  obtain rfl := (Yields.ok_iff.mp read).2
  obtain ⟨text, rfl, left⟩ := skipFrom_sound skipped
  cases left with
  | @value _ before value more blank isValue others =>
    cases others
    exact ⟨before, value, by simp, blank, isValue⟩

/-- Every value of the grammar is passed over, after insignificant bytes. -/
theorem skipValue_complete {before value rest : Bytes} (blank : Blank before)
    (form : Form .value value) (ends : Ends rest) :
    Yields (skipValue (before ++ (value ++ rest))) () rest := by
  have skipped : skipFrom .value [] (before ++ (value ++ rest)) = .ok rest := by
    simpa using skipFrom_complete (Left.value blank form .done) ends
  unfold skipValue
  split
  · next failed =>
    rw [skipped] at failed
    cases failed
  · next isOk =>
    obtain rfl := Except.ok.inj (skipped.symm.trans isOk)
    exact Yields.ok_iff.mpr ⟨rfl, rfl⟩

end ConformanceReport.Json
