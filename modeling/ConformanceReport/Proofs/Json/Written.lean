import ConformanceReport.Json.Written
import ConformanceReport.Proofs.Json.Text

/-!
# Written scalars are in the grammar

A text is written as a string that denotes it (`textLiteral_writeText`), and a natural number as
the plain integer of that value (`naturalLiteral_toString`). The first is shown character by
character over the three ways to write one, the second digit by digit from the front.
-/

namespace ConformanceReport.Json

/-! ## Strings -/

/-- A character is written by a short escape that stands for it, by its number if it is another
control character, and as it is otherwise. -/
theorem writtenCharacter_cases (character : Char) :
    (∃ letter, (letter, character) ∈ shortEscapes ∧
        writtenCharacter character = ['\\', letter]) ∨
      (character.toNat < 0x20 ∧ writtenCharacter character = controlEscape character) ∨
      PlainCharacter character ∧ writtenCharacter character = [character] := by
  unfold writtenCharacter
  split
  · next isQuote => exact .inl ⟨'"', by simp [isQuote, shortEscapes], rfl⟩
  next notQuote =>
  split
  · next isBackslash => exact .inl ⟨'\\', by simp [isBackslash, shortEscapes], rfl⟩
  next notBackslash =>
  split
  · next isBackspace => exact .inl ⟨'b', by simp [isBackspace, shortEscapes], rfl⟩
  split
  · next isFormFeed => exact .inl ⟨'f', by simp [isFormFeed, shortEscapes], rfl⟩
  split
  · next isNewline => exact .inl ⟨'n', by simp [isNewline, shortEscapes], rfl⟩
  split
  · next isReturn => exact .inl ⟨'r', by simp [isReturn, shortEscapes], rfl⟩
  split
  · next isTab => exact .inl ⟨'t', by simp [isTab, shortEscapes], rfl⟩
  split
  · next isControl => exact .inr (.inl ⟨isControl, rfl⟩)
  · next notControl =>
    exact .inr (.inr ⟨⟨Nat.le_of_not_lt notControl, notQuote, notBackslash⟩, rfl⟩)

/-- The letter of a short escape is encoded in one byte. -/
theorem utf8EncodeChar_of_shortEscape {letter character : Char}
    (known : (letter, character) ∈ shortEscapes) :
    String.utf8EncodeChar letter = [ascii letter] := by
  have all : ∀ escape ∈ shortEscapes, String.utf8EncodeChar escape.1 = [ascii escape.1] := by
    decide
  exact all _ known

/-- A hexadecimal digit is written as one. -/
theorem hexDigit?_digitChar {digit : Nat} (small : digit < 16) :
    hexDigit? (ascii digit.digitChar) = some digit := by
  revert digit
  decide

/-- A control character is written with two zeros and the two digits of its number. -/
theorem controlEscape_eq {character : Char} (isControl : character.toNat < 0x20) :
    controlEscape character = ['\\', 'u', '0', '0', (character.toNat / 16).digitChar,
      (character.toNat % 16).digitChar] := by
  have all : ∀ number < 0x20,
      List.replicate (4 - (Quoted.digits 16 number).length) '0' ++ Quoted.digits 16 number =
        ['0', '0', (number / 16).digitChar, (number % 16).digitChar] := by
    decide
  simp [controlEscape, all _ isControl]

/-- The escape of a control character stands for it. -/
theorem escapeForm_controlEscape {character : Char} (isControl : character.toNat < 0x20) :
    ∃ escape, (controlEscape character).flatMap String.utf8EncodeChar = ascii '\\' :: escape ∧
      EscapeForm escape character := by
  have oneByte : ∀ digit < 16,
      String.utf8EncodeChar digit.digitChar = [ascii digit.digitChar] := by
    decide
  have upper : character.toNat / 16 < 16 := by omega
  have lower : character.toNat % 16 < 16 := Nat.mod_lt _ (by decide)
  have hexadecimal : HexForm [ascii '0', ascii '0', ascii (character.toNat / 16).digitChar,
      ascii (character.toNat % 16).digitChar] character.toNat := by
    have quad := HexForm.quad (hexDigit?_digitChar (by decide : 0 < 16))
      (hexDigit?_digitChar (by decide : 0 < 16)) (hexDigit?_digitChar upper)
      (hexDigit?_digitChar lower)
    have value : ((0 * 16 + 0) * 16 + character.toNat / 16) * 16 + character.toNat % 16 =
        character.toNat := by omega
    rwa [value] at quad
  have stands := EscapeForm.unit hexadecimal (.inl (by omega))
  rw [Char.ofNat_toNat] at stands
  refine ⟨_, ?_, stands⟩
  rw [controlEscape_eq isControl]
  simp only [List.flatMap_cons, List.flatMap_nil, oneByte _ upper, oneByte _ lower]
  rfl

/-- What a character is written as denotes it in front of what follows. -/
theorem denotes_writtenCharacter (character : Char) {body : Bytes} {more : List Char}
    (rest : Denotes body more) :
    Denotes ((writtenCharacter character).flatMap String.utf8EncodeChar ++ body)
      (character :: more) := by
  obtain ⟨letter, known, isWritten⟩ | ⟨isControl, isWritten⟩ | ⟨plain, isWritten⟩ :=
    writtenCharacter_cases character
  · have isEscape : ['\\', letter].flatMap String.utf8EncodeChar ++ body =
        ascii '\\' :: ([ascii letter] ++ body) := by
      simp only [List.flatMap_cons, utf8EncodeChar_of_shortEscape known]
      rfl
    rw [isWritten, isEscape]
    exact .escape (.short known) rest
  · obtain ⟨escape, isEscape, stands⟩ := escapeForm_controlEscape isControl
    rw [isWritten, isEscape, List.cons_append]
    exact .escape stands rest
  · rw [isWritten, List.flatMap_singleton]
    exact .plain plain.1 plain.2.1 plain.2.2 rest

/-- What characters are written as denotes them. -/
theorem denotes_flatMap_writtenCharacter (characters : List Char) :
    Denotes ((characters.flatMap writtenCharacter).flatMap String.utf8EncodeChar) characters := by
  induction characters with
  | nil => exact .nil
  | cons character more inductionHypothesis =>
    rw [List.flatMap_cons, List.flatMap_append]
    exact denotes_writtenCharacter character inductionHypothesis

/-- A text is written as a string that denotes it. -/
theorem textLiteral_writeText (text : String) : TextLiteral (utf8 (writeText text)) text := by
  have quote : String.utf8EncodeChar '"' = [ascii '"'] := by decide
  refine ⟨_, ?_, denotes_flatMap_writtenCharacter text.toList⟩
  simp [utf8, writeText, quote]

/-! ## Numbers -/

/-- The bytes of decimal digits. -/
theorem digitByte {digit : Nat} (small : digit < 10) :
    (ascii '0' ≤ ascii digit.digitChar ∧ ascii digit.digitChar ≤ ascii '9') ∧
      (ascii digit.digitChar).toNat - 48 = digit ∧
      (0 < digit → ascii '1' ≤ ascii digit.digitChar) ∧
      String.utf8EncodeChar digit.digitChar = [ascii digit.digitChar] := by
  revert digit
  decide

/-- A single digit is a plain integer. -/
theorem naturalLiteral_digit {digit : Nat} (small : digit < 10) :
    NaturalLiteral [ascii digit.digitChar] digit := by
  obtain ⟨⟨-, greatest⟩, value, least, -⟩ := digitByte small
  refine ⟨?_, by simp [decimalValue, digitsOf, value]⟩
  cases digit with
  | zero => exact .zero
  | succ digit => exact .digits (least (Nat.succ_pos digit)) greatest (by simp [Digits])

/-- A digit behind a plain integer that is not zero makes a longer one. -/
theorem NaturalLiteral.push {bytes : Bytes} {value digit : Nat}
    (literal : NaturalLiteral bytes value) (positive : 0 < value) (small : digit < 10) :
    NaturalLiteral (bytes ++ [ascii digit.digitChar]) (value * 10 + digit) := by
  obtain ⟨whole, rfl⟩ := literal
  obtain ⟨range, isDigit, -, -⟩ := digitByte small
  refine ⟨?_, by simp [decimalValue, digitsOf, isDigit]⟩
  cases whole with
  | zero => exact absurd positive (by decide)
  | digits least greatest all =>
    refine .digits least greatest fun byte member => ?_
    obtain isOld | isNew := List.mem_append.mp member
    · exact all byte isOld
    · rw [List.mem_singleton.mp isNew]
      exact range

/-- The decimal digits of a number are the plain integer of its value. -/
theorem naturalLiteral_toDigits (number : Nat) :
    NaturalLiteral ((Nat.toDigits 10 number).flatMap String.utf8EncodeChar) number := by
  induction number using Nat.strongRecOn with
  | ind number inductionHypothesis =>
    by_cases small : number < 10
    · rw [Nat.toDigits_of_lt_base small, List.flatMap_singleton, (digitByte small).2.2.2]
      exact naturalLiteral_digit small
    · have last : number % 10 < 10 := Nat.mod_lt _ (by decide)
      have front := inductionHypothesis (number / 10) (by omega)
      have pushed := front.push (by omega) last
      have value : number / 10 * 10 + number % 10 = number := Nat.div_add_mod' number 10
      rw [value] at pushed
      rw [Nat.toDigits_of_base_le (by decide) (Nat.le_of_not_lt small), List.flatMap_append,
        List.flatMap_singleton, (digitByte last).2.2.2]
      exact pushed

/-- A number is written as the plain integer of its value. -/
theorem naturalLiteral_toString (number : Nat) :
    NaturalLiteral (utf8 (toString number)) number := by
  rw [utf8, Nat.toString_eq_ofList_toDigits, String.toList_ofList]
  exact naturalLiteral_toDigits number

end ConformanceReport.Json
