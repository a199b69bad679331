import ConformanceReport.Proofs.Json.Number
import ConformanceReport.Proofs.Json.Text

/-!
# Scalars and the bytes between values

A scalar is told by its first byte, so each kind has its own law. The colon after a key and what
stands next inside a container are here too: `nextItem` and `nextMember` find an entry exactly
behind what separates it from those before it (`Separates`).
-/

namespace ConformanceReport.Json

/-! ## First bytes -/

/-- The insignificant bytes are four. -/
theorem isBlank_iff {byte : UInt8} :
    isBlank byte = true ↔
      byte = ascii ' ' ∨ byte = ascii '\n' ∨ byte = ascii '\t' ∨ byte = ascii '\r' := by
  simp [isBlank, or_assoc]

/-- A digit is significant. -/
theorem isBlank_of_digit {byte : UInt8} (isDigit : (digit? byte).isSome) :
    isBlank byte = false := by
  rw [Bool.eq_false_iff]
  intro blank
  rcases isBlank_iff.mp blank with rfl | rfl | rfl | rfl <;> exact absurd isDigit (by decide)

/-- Only the first byte decides whether a number goes on. -/
theorem ends_cons_iff {byte : UInt8} {rest : Bytes} :
    Ends (byte :: rest) ↔
      digit? byte = none ∧ byte ≠ ascii '.' ∧ byte ≠ ascii 'e' ∧ byte ≠ ascii 'E' := by
  simp [Ends]

/-- A number ends in front of insignificant bytes, and in front of what ends it without them. -/
theorem Ends.blank_append {before rest : Bytes} (blank : Blank before) (ends : Ends rest) :
    Ends (before ++ rest) := by
  cases before with
  | nil => exact ends
  | cons byte more =>
    rw [List.cons_append, ends_cons_iff]
    rcases isBlank_iff.mp (blank byte List.mem_cons_self) with rfl | rfl | rfl | rfl <;> decide

/-- The first byte of a number is a minus sign or a digit. -/
theorem NumberForm.head {bytes : Bytes} {literal : Literal} (form : NumberForm bytes literal) :
    ∃ first more, bytes = first :: more ∧ (first = ascii '-' ∨ (digit? first).isSome) := by
  cases form with
  | parts negative isWhole =>
    cases negative with
    | true => exact ⟨_, _, rfl, .inl rfl⟩
    | false =>
      obtain ⟨first, more, rfl, range⟩ := isWhole.head
      exact ⟨_, _, rfl, .inr (by simp [digit?_eq_some_iff.mpr ⟨range, rfl⟩])⟩

/-! ## Names -/

/-- The bytes of a name are read exactly if they stand there. -/
theorem readName_yields_iff {expected input rest : Bytes} :
    MaybeYields (readName expected input) () rest ↔ input = expected ++ rest := by
  induction expected generalizing input with
  | nil =>
    rw [readName]
    simp
  | cons letter more inductionHypothesis =>
    cases input with
    | nil => simp [readName]
    | cons byte following =>
      rw [readName, List.cons_append, List.cons.injEq, ← inductionHypothesis]
      split
      · next same =>
        cases read : readName more following with
        | error fault => simp [bind, Except.bind]
        | ok name => simp [bind, Except.bind, same]
      · next other => simp [other]

/-- A literal name is read exactly if the bytes after its first stand there. -/
theorem readLiteralName_yields_iff {name : String} {value found : Value} {first : UInt8}
    {input rest : Bytes} :
    Yields (readLiteralName name value first input) found rest ↔
      found = value ∧ input = (utf8 name).drop 1 ++ rest := by
  unfold readLiteralName
  rw [MaybeYields.bind_iff, ← readName_yields_iff]
  constructor
  · rintro ⟨_, _, _, read, yields⟩
    obtain ⟨rfl, rfl⟩ := Yields.ok_iff.mp yields
    exact ⟨rfl, read⟩
  · rintro ⟨rfl, read⟩
    obtain ⟨⟨_, _, length_le⟩, isOk, rfl, rfl⟩ := read
    exact ⟨(), _, length_le, ⟨_, isOk, rfl, rfl⟩, Yields.ok_iff.mpr ⟨rfl, rfl⟩⟩

/-! ## Scalars -/

/-- Any other scalar than a string or a number is one of three names. -/
theorem readScalar_name_sound {byte : UInt8} {input rest : Bytes} {value : Value}
    (notQuote : byte ≠ ascii '"') (noNumber : (byte = ascii '-' || (digit? byte).isSome) = false)
    (read : Yields (readScalar (byte :: input)) value rest) :
    ∃ name ∈ ["null", "true", "false"], byte :: input = utf8 name ++ rest := by
  rw [readScalar] at read
  split at read
  · next isN =>
    obtain ⟨-, rfl⟩ := readLiteralName_yields_iff.mp read
    exact ⟨"null", by simp, by rw [isN]; rfl⟩
  split at read
  · next isT =>
    obtain ⟨-, rfl⟩ := readLiteralName_yields_iff.mp read
    exact ⟨"true", by simp, by rw [isT]; rfl⟩
  split at read
  · next isF =>
    obtain ⟨-, rfl⟩ := readLiteralName_yields_iff.mp read
    exact ⟨"false", by simp, by rw [isF]; rfl⟩
  · simp [noNumber] at read

/-- The three names are read. -/
theorem readScalar_name_complete {name : String} (known : name ∈ ["null", "true", "false"])
    (rest : Bytes) : ∃ value, Yields (readScalar (utf8 name ++ rest)) value rest := by
  simp only [List.mem_cons, List.not_mem_nil, or_false] at known
  rcases known with rfl | rfl | rfl
  · exact ⟨_, readLiteralName_yields_iff.mpr ⟨rfl, rfl⟩⟩
  · exact ⟨_, readLiteralName_yields_iff.mpr ⟨rfl, rfl⟩⟩
  · exact ⟨_, readLiteralName_yields_iff.mpr ⟨rfl, rfl⟩⟩

/-- A number is read if a number starts there. -/
theorem readScalar_number {byte : UInt8} {input : Bytes}
    (isNumber : byte = ascii '-' ∨ (digit? byte).isSome) :
    readScalar (byte :: input) =
      readNumber (byte :: input) >>= fun number => .ok (number.map .number) := by
  have other : byte ≠ ascii 'n' ∧ byte ≠ ascii 't' ∧ byte ≠ ascii 'f' := by
    refine ⟨?_, ?_, ?_⟩ <;> rintro rfl <;> exact absurd isNumber (by decide)
  rw [readScalar, if_neg other.1, if_neg other.2.1, if_neg other.2.2,
    if_pos (by simpa using isNumber)]

/-- A string is read if a string starts there. -/
theorem readScalar_text {input : Bytes} :
    readScalar (ascii '"' :: input) =
      readText input >>= fun text => .ok ((text.behind (ascii '"')).map .text) := by
  rw [readScalar, if_neg (by decide), if_neg (by decide), if_neg (by decide), if_neg (by decide),
    if_pos rfl]

/-- What is read as an integer without sign is a plain integer, and what is read as a string is a
string that denotes it. -/
theorem readScalar_sound {input rest : Bytes} {value : Value}
    (read : Yields (readScalar input) value rest) :
    (∀ number, value = .number (.natural number) →
      ∃ bytes, input = bytes ++ rest ∧ NaturalLiteral bytes number.toNat) ∧
    (∀ text, value = .text text → ∃ bytes, input = bytes ++ rest ∧ TextLiteral bytes text) := by
  unfold readScalar at read
  split at read
  · simp at read
  next byte more =>
  split at read
  · obtain ⟨rfl, -⟩ := readLiteralName_yields_iff.mp read
    simp
  split at read
  · obtain ⟨rfl, -⟩ := readLiteralName_yields_iff.mp read
    simp
  split at read
  · obtain ⟨rfl, -⟩ := readLiteralName_yields_iff.mp read
    simp
  split at read
  · obtain ⟨found, _, _, isNumber, read⟩ := Yields.bind_parsed_iff.mp read
    simp only [Yields.ok_iff, Parsed.map_value, Parsed.map_rest] at read
    obtain ⟨rfl, rfl⟩ := read
    refine ⟨?_, by simp⟩
    rintro number ⟨⟩
    exact readNumber_natural_sound isNumber
  split at read
  · next isQuote =>
    obtain ⟨found, _, _, isText, read⟩ := Yields.bind_parsed_iff.mp read
    simp only [Yields.ok_iff, Parsed.map_value, Parsed.map_rest, Parsed.behind_value,
      Parsed.behind_rest] at read
    obtain ⟨rfl, rfl⟩ := read
    refine ⟨by simp, ?_⟩
    rintro text ⟨⟩
    obtain ⟨body, rfl, denotes⟩ := readText_yields_iff.mp isText
    exact ⟨_, by simp [isQuote], body, rfl, denotes⟩
  · simp at read

/-- A number is read as what it denotes. -/
theorem readScalar_number_complete {bytes rest : Bytes} {literal : Literal} {number : Number}
    (form : NumberForm bytes literal) (denotes : literal.denoted = .ok number) (ends : Ends rest) :
    Yields (readScalar (bytes ++ rest)) (.number number) rest := by
  have read := readNumber_complete form denotes ends
  obtain ⟨first, more, rfl, isNumber⟩ := form.head
  rw [List.cons_append] at read ⊢
  rw [readScalar_number isNumber]
  exact Yields.bind_intro read fun _ => Yields.ok_iff.mpr ⟨rfl, rfl⟩

/-- A number without a denotation is refused. -/
theorem readScalar_number_refused {bytes rest : Bytes} {literal : Literal} {left : Nat}
    (form : NumberForm bytes literal) (exceeds : literal.denoted = .error left)
    (ends : Ends rest) : Refused (· = .numberOutOfRange) (readScalar (bytes ++ rest)) := by
  have refused := readNumber_refused form exceeds ends
  obtain ⟨first, more, rfl, isNumber⟩ := form.head
  rw [List.cons_append] at refused ⊢
  rw [readScalar_number isNumber]
  exact refused.bind_left _

/-- A plain integer that fits a 64-bit word is read as itself. -/
theorem readScalar_natural_complete {bytes rest : Bytes} {number : UInt64}
    (literal : NaturalLiteral bytes number.toNat) (ends : Ends rest) :
    Yields (readScalar (bytes ++ rest)) (.number (.natural number)) rest :=
  readScalar_number_complete literal.numberForm literal.denoted ends

/-- A string is read as what it denotes. -/
theorem readScalar_text_complete {bytes : Bytes} {text : String} (literal : TextLiteral bytes text)
    (rest : Bytes) : Yields (readScalar (bytes ++ rest)) (.text text) rest := by
  obtain ⟨body, rfl, denotes⟩ := literal
  rw [List.cons_append, readScalar_text, List.append_assoc, List.singleton_append]
  refine Yields.bind_intro (readText_yields_iff.mpr ⟨body, rfl, denotes⟩) fun _ => ?_
  simp

/-- A value that is no container is read as a scalar, after insignificant bytes. -/
theorem readValue_scalar_sound {room : Nat} {input rest : Bytes} {value : Value}
    (read : Yields (readValue room input) value rest) (noList : ∀ items, value ≠ .list items)
    (noObject : ∀ members, value ≠ .object members) :
    ∃ before start, input = before ++ start ∧ Blank before ∧
      Yields (readScalar start) value rest := by
  rw [readValue.eq_def] at read
  dsimp only at read
  split at read
  · simp at read
  next byte more found =>
  obtain ⟨-, before, blank, rfl⟩ := skipBlank_eq_cons_iff.mp found
  split at read
  · split at read
    · simp at read
    · obtain ⟨items, _, _, isItems, read⟩ := Yields.bind_parsed_iff.mp read
      exact absurd (Yields.ok_iff.mp read).1.symm (noList items)
  split at read
  · split at read
    · simp at read
    · obtain ⟨members, _, _, isMembers, read⟩ := Yields.bind_parsed_iff.mp read
      exact absurd (Yields.ok_iff.mp read).1.symm (noObject members)
  · obtain ⟨scalar, afterScalar, _, isScalar, read⟩ := Yields.bind_parsed_iff.mp read
    obtain ⟨rfl, rfl⟩ : scalar = value ∧ afterScalar = rest := Yields.ok_iff.mp read
    exact ⟨before, _, rfl, blank, isScalar⟩

/-- A byte opens no container exactly if it is none of the two brackets. -/
theorem Bracket.opened?_eq_none_iff {byte : UInt8} :
    opened? byte = none ↔ byte ≠ ascii '[' ∧ byte ≠ ascii '\x7b' := by
  unfold opened?
  split
  · next isList => simp [isList]
  split
  · next isObject => simp [isObject]
  · next noList noObject => simp [noList, noObject]

/-- A value that starts at no bracket is a scalar, whatever room there is for containers. -/
theorem readValue_scalar (room : Nat) {input start : Bytes} {byte : UInt8}
    (found : skipBlank input = byte :: start) (noContainer : Bracket.opened? byte = none) :
    readValue room input =
      readScalar (byte :: start) >>= fun scalar => .ok (scalar.behindBlank found) := by
  obtain ⟨noList, noObject⟩ := Bracket.opened?_eq_none_iff.mp noContainer
  rw [readValue.eq_def]
  dsimp only
  split
  · next isNil =>
    rw [found] at isNil
    cases isNil
  next found' =>
  obtain ⟨rfl, rfl⟩ := List.cons.inj (found.symm.trans found')
  rw [if_neg noList, if_neg noObject]

/-- A scalar is read as a value wherever containers may be read. -/
theorem readValue_scalar_complete (room : Nat) {before start rest : Bytes} {byte : UInt8}
    {value : Value} (blank : Blank before) (significant : isBlank byte = false)
    (noContainer : Bracket.opened? byte = none)
    (isScalar : Yields (readScalar (byte :: start)) value rest) :
    Yields (readValue room (before ++ byte :: start)) value rest := by
  rw [readValue_scalar room (skipBlank_append_cons blank significant start) noContainer]
  exact Yields.bind_intro isScalar fun _ => Yields.ok_iff.mpr ⟨rfl, rfl⟩

/-! ## Between the parts of a container -/

/-- A key is read exactly as the text that it denotes, from its quote to the closing one. -/
theorem readKey_yields_iff {input rest : Bytes} {key : String} :
    Yields (readKey (ascii '"' :: input)) key rest ↔
      ∃ body, input = body ++ ascii '"' :: rest ∧ Denotes body key.toList := by
  rw [← readText_yields_iff, readKey]
  constructor
  · intro read
    obtain ⟨text, afterText, _, isText, isKey⟩ := Yields.bind_parsed_iff.mp read
    obtain ⟨rfl, rfl⟩ : text = key ∧ afterText = rest := Yields.ok_iff.mp isKey
    exact isText
  · intro isText
    exact Yields.bind_intro isText fun _ => Yields.ok_iff.mpr ⟨rfl, rfl⟩

/-- A colon is found exactly after insignificant bytes. -/
theorem readColon_yields_iff {input rest : Bytes} :
    Yields (readColon input) () rest ↔
      ∃ between, Blank between ∧ input = between ++ ascii ':' :: rest := by
  unfold readColon
  split
  · next isNil =>
    simp only [Yields.error_iff, false_iff]
    rintro ⟨between, blank, rfl⟩
    rw [skipBlank_append_cons blank (by decide)] at isNil
    cases isNil
  · next byte more found =>
    obtain ⟨-, before, blank, rfl⟩ := skipBlank_eq_cons_iff.mp found
    split
    · next isColon =>
      simp only [Yields.ok_iff, Parsed.behindBlank_value, Parsed.behindBlank_rest,
        Parsed.single_value, Parsed.single_rest, true_and]
      constructor
      · rintro rfl
        exact ⟨before, blank, by rw [isColon]⟩
      · rintro ⟨between, blankBetween, shape⟩
        rw [shape, skipBlank_append_cons blankBetween (by decide)] at found
        exact ((List.cons.inj found).2).symm
    · next noColon =>
      simp only [Yields.error_iff, false_iff]
      rintro ⟨between, blankBetween, shape⟩
      rw [shape, skipBlank_append_cons blankBetween (by decide)] at found
      exact noColon ((List.cons.inj found).1).symm

/-- What stands in front of an entry: insignificant bytes, and a separator among them in front of
all but the first. -/
inductive Separates : Bool → Bytes → Prop where
  | first {before : Bytes} (blank : Blank before) : Separates true before
  | later {before between : Bytes} (blank : Blank before) (blankBetween : Blank between) :
      Separates false (before ++ ascii ',' :: between)

/-- What stands next inside an object is its end, or the quote of a key. -/
theorem nextMember_sound {first : Bool} {input : Bytes} {next : Next input}
    (read : nextMember first input = .ok next) :
    match next with
    | .close rest _ => ∃ before, Blank before ∧ input = before ++ ascii '\x7d' :: rest
    | .entry start _ => ∃ separator more, Separates first separator ∧ start = ascii '"' :: more ∧
        input = separator ++ start := by
  unfold nextMember at read
  split at read
  · cases read
  next byte more found =>
  obtain ⟨-, before, blank, rfl⟩ := skipBlank_eq_cons_iff.mp found
  split at read
  · next isClosing =>
    cases read
    exact ⟨before, blank, by rw [isClosing]⟩
  split at read
  · next isFirst =>
    split at read
    · next isQuote =>
      cases read
      subst isFirst
      exact ⟨before, more, .first blank, by rw [isQuote], rfl⟩
    · cases read
  next isLater =>
  split at read
  · cases read
  next isSeparator =>
  simp only [ne_eq, Decidable.not_not] at isSeparator
  split at read
  · cases read
  next quote start following =>
  obtain ⟨-, between, blankBetween, rfl⟩ := skipBlank_eq_cons_iff.mp following
  split at read
  · next isQuote =>
    cases read
    obtain rfl : first = false := Bool.eq_false_iff.mpr isLater
    refine ⟨_, start, .later blank blankBetween, by rw [isQuote], ?_⟩
    simp [isSeparator]
  split at read <;> cases read

/-- The closing byte of an object is found after insignificant bytes. -/
theorem nextMember_close (first : Bool) {before : Bytes} (blank : Blank before) (rest : Bytes) :
    ∃ shorter, nextMember first (before ++ ascii '\x7d' :: rest) = .ok (.close rest shorter) := by
  have significant : isBlank (ascii '\x7d') = false := by decide
  have found := skipBlank_append_cons blank significant rest
  unfold nextMember
  split
  · next isNil =>
    rw [found] at isNil
    cases isNil
  next found' =>
  obtain ⟨rfl, rfl⟩ := List.cons.inj (found.symm.trans found')
  rw [if_pos rfl]
  exact ⟨skipBlank_shorter found, rfl⟩

/-- The quote of a key is found behind what separates it. -/
theorem nextMember_entry {first : Bool} {separator : Bytes} (separates : Separates first separator)
    (rest : Bytes) :
    ∃ length_le, nextMember first (separator ++ ascii '"' :: rest) =
      .ok (.entry (ascii '"' :: rest) length_le) := by
  have isQuote : isBlank (ascii '"') = false := by decide
  cases separates with
  | first blank =>
    have found := skipBlank_append_cons blank isQuote rest
    unfold nextMember
    split
    · next isNil =>
      rw [found] at isNil
      cases isNil
    next found' =>
    obtain ⟨rfl, rfl⟩ := List.cons.inj (found.symm.trans found')
    rw [if_neg (by decide), if_pos rfl, if_pos rfl]
    exact ⟨length_le_of_skipBlank found, rfl⟩
  | @later before between blank blankBetween =>
    have significant : isBlank (ascii ',') = false := by decide
    have found := skipBlank_append_cons blank significant (between ++ ascii '"' :: rest)
    have following := skipBlank_append_cons blankBetween isQuote rest
    rw [List.append_assoc, List.cons_append]
    unfold nextMember
    split
    · next isNil =>
      rw [found] at isNil
      cases isNil
    next found' =>
    obtain ⟨rfl, rfl⟩ := List.cons.inj (found.symm.trans found')
    rw [if_neg (by decide), if_neg (by decide), if_neg (by simp)]
    split
    · next isNil =>
      rw [following] at isNil
      cases isNil
    next following' =>
    obtain ⟨rfl, rfl⟩ := List.cons.inj (following.symm.trans following')
    rw [if_pos rfl]
    exact ⟨by simp only [List.length_append, List.length_cons]; omega, rfl⟩

/-- What stands next inside a list is its end, or the first byte of an item. -/
theorem nextItem_sound {first : Bool} {input : Bytes} {next : Next input}
    (read : nextItem first input = .ok next) :
    match next with
    | .close rest _ => ∃ before, Blank before ∧ input = before ++ ascii ']' :: rest
    | .entry start _ => ∃ separator, Separates first separator ∧ input = separator ++ start := by
  unfold nextItem at read
  split at read
  · cases read
  next byte more found =>
  obtain ⟨-, before, blank, rfl⟩ := skipBlank_eq_cons_iff.mp found
  split at read
  · next isClosing =>
    cases read
    exact ⟨before, blank, by rw [isClosing]⟩
  split at read
  · next isFirst =>
    cases read
    subst isFirst
    exact ⟨before, .first blank, rfl⟩
  next isLater =>
  split at read
  · cases read
  next isSeparator =>
  simp only [ne_eq, Decidable.not_not] at isSeparator
  split at read
  · cases read
  next item start following =>
  obtain ⟨-, between, blankBetween, rfl⟩ := skipBlank_eq_cons_iff.mp following
  split at read
  · cases read
  · cases read
    obtain rfl : first = false := Bool.eq_false_iff.mpr isLater
    refine ⟨_, .later blank blankBetween, ?_⟩
    simp [isSeparator]

/-- The closing byte of a list is found after insignificant bytes. -/
theorem nextItem_close (first : Bool) {before : Bytes} (blank : Blank before) (rest : Bytes) :
    ∃ shorter, nextItem first (before ++ ascii ']' :: rest) = .ok (.close rest shorter) := by
  have significant : isBlank (ascii ']') = false := by decide
  have found := skipBlank_append_cons blank significant rest
  unfold nextItem
  split
  · next isNil =>
    rw [found] at isNil
    cases isNil
  next found' =>
  obtain ⟨rfl, rfl⟩ := List.cons.inj (found.symm.trans found')
  rw [if_pos rfl]
  exact ⟨skipBlank_shorter found, rfl⟩

/-- An item is found behind what separates it. -/
theorem nextItem_entry {first : Bool} {separator : Bytes} (separates : Separates first separator)
    {byte : UInt8} (significant : isBlank byte = false) (noClosing : byte ≠ ascii ']')
    (rest : Bytes) :
    ∃ length_le, nextItem first (separator ++ byte :: rest) =
      .ok (.entry (byte :: rest) length_le) := by
  cases separates with
  | first blank =>
    have found := skipBlank_append_cons blank significant rest
    unfold nextItem
    split
    · next isNil =>
      rw [found] at isNil
      cases isNil
    next found' =>
    obtain ⟨rfl, rfl⟩ := List.cons.inj (found.symm.trans found')
    rw [if_neg noClosing, if_pos rfl]
    exact ⟨length_le_of_skipBlank found, rfl⟩
  | @later before between blank blankBetween =>
    have isSeparator : isBlank (ascii ',') = false := by decide
    have found := skipBlank_append_cons blank isSeparator (between ++ byte :: rest)
    have following := skipBlank_append_cons blankBetween significant rest
    rw [List.append_assoc, List.cons_append]
    unfold nextItem
    split
    · next isNil =>
      rw [found] at isNil
      cases isNil
    next found' =>
    obtain ⟨rfl, rfl⟩ := List.cons.inj (found.symm.trans found')
    rw [if_neg (by decide), if_neg (by decide), if_neg (by simp)]
    split
    · next isNil =>
      rw [following] at isNil
      cases isNil
    next following' =>
    obtain ⟨rfl, rfl⟩ := List.cons.inj (following.symm.trans following')
    rw [if_neg noClosing]
    exact ⟨by simp only [List.length_append, List.length_cons]; omega, rfl⟩

end ConformanceReport.Json
