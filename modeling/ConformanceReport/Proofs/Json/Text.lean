import ConformanceReport.Proofs.Json.Reading
import ConformanceReport.Proofs.Text.Utf8

/-!
# Strings are read as they are written

`readText` yields a text exactly on the strings that denote it (`readText_yields_iff`), and
`skipText` passes over exactly the strings of the right form (`skipText_sound`,
`skipText_complete`). Reading first gathers the bytes that a string denotes and decodes them
afterwards. Since no encoded character starts inside another one, a text comes out only if each
character stands in the string as a whole, plain or escaped.
-/

namespace ConformanceReport.Json

/-! ## Escapes -/

/-- Four bytes are a code unit exactly if they are hexadecimal digits. -/
theorem hexQuad_yields_iff {input rest : Bytes} {code : Nat} :
    Yields (hexQuad input) code rest ↔ ∃ digits, input = digits ++ rest ∧ HexForm digits code := by
  constructor
  · intro read
    unfold hexQuad at read
    split at read
    · split at read
      · simp only [Yields.ok_iff] at read
        obtain ⟨rfl, rfl⟩ := read
        exact ⟨_, rfl, .quad (by assumption) (by assumption) (by assumption) (by assumption)⟩
      · simp at read
    · simp at read
  · rintro ⟨digits, rfl, isFirst, isSecond, isThird, isFourth⟩
    simp [hexQuad, isFirst, isSecond, isThird, isFourth]

/-- The one-letter escapes are those of the grammar. -/
theorem shortEscape?_eq_some_iff {byte : UInt8} {character : Char} :
    shortEscape? byte = some character ↔
      ∃ letter, byte = ascii letter ∧ (letter, character) ∈ shortEscapes := by
  constructor
  · intro known
    unfold shortEscape? at known
    repeat' split at known
    all_goals
      simp only [Option.some.injEq, reduceCtorEq] at known
    all_goals
      subst known
      exact ⟨_, by assumption, by simp [shortEscapes]⟩
  · rintro ⟨letter, rfl, known⟩
    simp only [shortEscapes, List.mem_cons, Prod.mk.injEq, List.not_mem_nil, or_false] at known
    rcases known with ⟨rfl, rfl⟩ | ⟨rfl, rfl⟩ | ⟨rfl, rfl⟩ | ⟨rfl, rfl⟩ | ⟨rfl, rfl⟩ | ⟨rfl, rfl⟩ |
      ⟨rfl, rfl⟩ | ⟨rfl, rfl⟩ <;> rfl

/-- The first half of a surrogate pair by its value. -/
theorem isLeadingUnit_iff {code : Nat} :
    isLeadingUnit code = true ↔ 0xD800 ≤ code ∧ code ≤ 0xDBFF := by
  simp [isLeadingUnit]

/-- The second half of a surrogate pair by its value. -/
theorem isTrailingUnit_iff {code : Nat} :
    isTrailingUnit code = true ↔ 0xDC00 ≤ code ∧ code ≤ 0xDFFF := by
  simp [isTrailingUnit]

/-- The second half of a surrogate pair is read where it is written. -/
theorem readTrailing_yields_iff {leading : Nat} {input rest : Bytes} {character : Char} :
    Yields (readTrailing leading input) character rest ↔
      ∃ digits trailing, input = ascii '\\' :: ascii 'u' :: (digits ++ rest) ∧
        HexForm digits trailing ∧ (0xDC00 ≤ trailing ∧ trailing ≤ 0xDFFF) ∧
        pairedScalar leading trailing = character := by
  constructor
  · intro read
    unfold readTrailing at read
    split at read
    · simp at read
    next backslash afterBackslash =>
    split at read
    · simp at read
    next isBackslash =>
    split at read
    · simp at read
    next letter digits =>
    split at read
    · simp at read
    next isLetter =>
    simp only [ne_eq, Decidable.not_not] at isBackslash isLetter
    subst isBackslash isLetter
    obtain ⟨code, afterUnit, shorter, isUnit, read⟩ := Yields.bind_parsed_iff.mp read
    obtain ⟨quad, rfl, hexadecimal⟩ := hexQuad_yields_iff.mp isUnit
    dsimp only at read
    split at read
    · next isTrailing =>
      simp only [Yields.ok_iff, Parsed.map_value, Parsed.map_rest, Parsed.behind_value,
        Parsed.behind_rest] at read
      obtain ⟨rfl, rfl⟩ := read
      exact ⟨quad, code, rfl, hexadecimal, isTrailingUnit_iff.mp isTrailing, rfl⟩
    · simp at read
  · rintro ⟨digits, trailing, rfl, hexadecimal, isTrailing, rfl⟩
    rw [← isTrailingUnit_iff] at isTrailing
    simp only [readTrailing, ne_eq, not_true_eq_false, if_false]
    refine Yields.bind_intro (hexQuad_yields_iff.mpr ⟨digits, rfl, hexadecimal⟩) fun shorter => ?_
    simp [isTrailing, Parsed.map, Parsed.replace, Parsed.behind]

/-- What is read as an escape is one. -/
theorem readEscape_sound {input rest : Bytes} {character : Char}
    (read : Yields (readEscape input) character rest) :
    ∃ escape, input = escape ++ rest ∧ EscapeForm escape character := by
  unfold readEscape at read
  split at read
  · simp at read
  next letter digits =>
  split at read
  · next isShort =>
    simp only [Yields.ok_iff] at read
    obtain ⟨rfl, rfl⟩ := read
    obtain ⟨name, rfl, known⟩ := shortEscape?_eq_some_iff.mp isShort
    exact ⟨[ascii name], rfl, .short known⟩
  split at read
  · simp at read
  next isLetter =>
  simp only [ne_eq, Decidable.not_not] at isLetter
  subst isLetter
  obtain ⟨code, afterUnit, shorter, isUnit, read⟩ := Yields.bind_parsed_iff.mp read
  obtain ⟨quad, rfl, hexadecimal⟩ := hexQuad_yields_iff.mp isUnit
  dsimp only at read
  split at read
  · simp at read
  next notTrailing =>
  rw [isTrailingUnit_iff] at notTrailing
  split at read
  · next isLeading =>
    obtain ⟨second, afterSecond, shorter', isSecond, read⟩ := Yields.bind_parsed_iff.mp read
    obtain ⟨digits, trailing, rfl, hexadecimal', isTrailing, rfl⟩ :=
      readTrailing_yields_iff.mp isSecond
    simp only [Yields.ok_iff, Parsed.behind_value, Parsed.behind_rest, Parsed.andThen_value,
      Parsed.andThen_rest] at read
    obtain ⟨rfl, rfl⟩ := read
    refine ⟨ascii 'u' :: (quad ++ ascii '\\' :: ascii 'u' :: digits), by simp, ?_⟩
    exact .pair hexadecimal hexadecimal' (isLeadingUnit_iff.mp isLeading) isTrailing
  · next notLeading =>
    rw [isLeadingUnit_iff] at notLeading
    simp only [Yields.ok_iff, Parsed.map_value, Parsed.map_rest, Parsed.behind_value,
      Parsed.behind_rest] at read
    obtain ⟨rfl, rfl⟩ := read
    exact ⟨ascii 'u' :: quad, rfl, .unit hexadecimal (by omega)⟩

/-- Every escape is read. -/
theorem readEscape_complete {input escape rest : Bytes} {character : Char}
    (shape : input = escape ++ rest) (form : EscapeForm escape character) :
    Yields (readEscape input) character rest := by
  subst shape
  cases form with
  | @short letter _ known =>
    have isShort : shortEscape? (ascii letter) = some character :=
      shortEscape?_eq_some_iff.mpr ⟨letter, rfl, known⟩
    simp [readEscape, isShort, Parsed.single]
  | @unit digits code hexadecimal noSurrogate =>
    have isLetter : shortEscape? (ascii 'u') = none := rfl
    simp only [readEscape, List.cons_append, isLetter, ne_eq, not_true_eq_false, if_false]
    refine Yields.bind_intro (hexQuad_yields_iff.mpr ⟨digits, rfl, hexadecimal⟩) fun shorter => ?_
    rw [if_neg (by rw [isTrailingUnit_iff]; simp only; omega),
      if_neg (by rw [isLeadingUnit_iff]; simp only; omega)]
    simp [Parsed.map, Parsed.replace, Parsed.behind]
  | @pair first second leading trailing isFirst isSecond isLeading isTrailing =>
    have isLetter : shortEscape? (ascii 'u') = none := rfl
    simp only [readEscape, List.cons_append, isLetter, ne_eq, not_true_eq_false, if_false]
    refine Yields.bind_intro
      (hexQuad_yields_iff.mpr ⟨first, List.append_assoc .., isFirst⟩) fun shorter => ?_
    rw [if_neg (by rw [isTrailingUnit_iff]; simp only; omega),
      if_pos (by rw [isLeadingUnit_iff]; exact isLeading)]
    refine Yields.bind_intro
      (readTrailing_yields_iff.mpr ⟨second, trailing, rfl, isSecond, isTrailing, rfl⟩)
      fun shorter => ?_
    simp [Parsed.behind, Parsed.andThen, pairedScalar]

/-! ## The bytes that a string stands for -/

/-- The part of a string between its quotes, and the bytes that it stands for before they are
decoded. -/
inductive StandsFor : Bytes → Bytes → Prop where
  | nil : StandsFor [] []
  | byte {byte : UInt8} {body bytes : Bytes} (printable : isControl byte = false)
      (notQuote : byte ≠ ascii '"') (notBackslash : byte ≠ ascii '\\')
      (rest : StandsFor body bytes) : StandsFor (byte :: body) (byte :: bytes)
  | escape {escape body bytes : Bytes} {character : Char} (stands : EscapeForm escape character)
      (rest : StandsFor body bytes) :
      StandsFor (ascii '\\' :: (escape ++ body)) (String.utf8EncodeChar character ++ bytes)

/-- What was found before stands in front of the bytes up to the closing quote. -/
theorem readDenoted_sound {found input bytes rest : Bytes}
    (read : Yields (readDenoted found input) bytes rest) :
    ∃ body denoted, input = body ++ ascii '"' :: rest ∧ StandsFor body denoted ∧
      bytes = found.reverse ++ denoted := by
  fun_induction readDenoted found input with
  | case1 => simp at read
  | case2 found afterQuote =>
    simp only [Yields.ok_iff, Parsed.single_value, Parsed.single_rest] at read
    obtain ⟨rfl, rfl⟩ := read
    exact ⟨[], [], rfl, .nil, by simp⟩
  | case3 => simp at read
  | case4 => simp at read
  | case5 found afterByte character readCharacter parsed readRest notQuote
      inductionHypothesis =>
    simp only [Yields.ok_iff, Parsed.behind_value, Parsed.behind_rest, Parsed.andThen_value,
      Parsed.andThen_rest] at read
    obtain ⟨rfl, rfl⟩ := read
    obtain ⟨escape, shape, stands⟩ := readEscape_sound (.of_ok readCharacter)
    obtain ⟨body, denoted, shape', standsFor, all⟩ := inductionHypothesis (.of_ok readRest)
    refine ⟨ascii '\\' :: (escape ++ body), _, ?_, .escape stands standsFor, ?_⟩
    · simpa [← shape'] using shape
    · rw [all]
      simp
  | case6 => simp at read
  | case7 => simp at read
  | case8 found byte afterByte notQuote notBackslash printable parsed readRest
      inductionHypothesis =>
    simp only [Yields.ok_iff, Parsed.behind_value, Parsed.behind_rest] at read
    obtain ⟨rfl, rfl⟩ := read
    obtain ⟨body, denoted, shape, standsFor, all⟩ := inductionHypothesis (.of_ok readRest)
    refine ⟨byte :: body, byte :: denoted, ?_, ?_, ?_⟩
    · simpa using shape
    · exact .byte (by simpa using printable) notQuote notBackslash standsFor
    · rw [all]
      simp

/-- Every string is read up to its closing quote. -/
theorem readDenoted_complete {body denoted : Bytes} (standsFor : StandsFor body denoted)
    (found rest : Bytes) :
    Yields (readDenoted found (body ++ ascii '"' :: rest)) (found.reverse ++ denoted) rest := by
  induction standsFor generalizing found with
  | nil =>
    rw [List.nil_append, readDenoted]
    simp
  | @byte byte body bytes printable notQuote notBackslash standsFor inductionHypothesis =>
    obtain ⟨shorter, read⟩ := (inductionHypothesis (byte :: found)).eq_ok
    rw [List.cons_append, readDenoted, if_neg notQuote, if_neg notBackslash,
      if_neg (by simp [printable]), read]
    simp
  | @escape escape body bytes character stands standsFor inductionHypothesis =>
    obtain ⟨shorter, readCharacter⟩ :=
      (readEscape_complete (List.append_assoc escape body (ascii '"' :: rest)) stands).eq_ok
    obtain ⟨shorter', read⟩ :=
      (inductionHypothesis ((String.utf8EncodeChar character).reverse ++ found)).eq_ok
    rw [List.cons_append, readDenoted, if_neg (by decide), if_pos rfl, readCharacter]
    simp [read]

/-! ## The characters that a string stands for -/

/-- A byte that may stand in a string for itself. -/
def PlainByte (byte : UInt8) : Prop :=
  isControl byte = false ∧ byte ≠ ascii '"' ∧ byte ≠ ascii '\\'

/-- A character that may stand in a string for itself. -/
def PlainCharacter (character : Char) : Prop :=
  0x20 ≤ character.toNat ∧ character ≠ '"' ∧ character ≠ '\\'

/-- Bytes outside seven bits are plain. -/
theorem plainByte_of_le {byte : UInt8} (large : 0x80 ≤ byte.toNat) : PlainByte byte := by
  refine ⟨?_, ?_, ?_⟩
  · simp only [isControl, UInt8.lt_iff_toNat_lt, UInt8.reduceToNat, decide_eq_false_iff_not]
    omega
  · rintro rfl
    exact absurd large (by decide)
  · rintro rfl
    exact absurd large (by decide)

/-- A byte of seven bits is plain exactly if its character is. -/
theorem plainByte_ofNat_iff {character : Char} (small : character.toNat < 0x80) :
    PlainByte (UInt8.ofNat character.toNat) ↔ PlainCharacter character := by
  have number : (UInt8.ofNat character.toNat).toNat = character.toNat := by
    rw [UInt8.toNat_ofNat']
    omega
  have quote : character = '"' ↔ character.toNat = 34 := Char.toNat_inj.symm
  have backslash : character = '\\' ↔ character.toNat = 92 := Char.toNat_inj.symm
  have quoteByte : (ascii '"').toNat = 34 := rfl
  have backslashByte : (ascii '\\').toNat = 92 := rfl
  simp only [PlainByte, PlainCharacter, isControl, UInt8.lt_iff_toNat_lt, UInt8.reduceToNat, number,
    decide_eq_false_iff_not, Nat.not_lt, ne_eq, ← UInt8.toNat_inj, quote, backslash, quoteByte,
    backslashByte]

/-- A plain character is made of plain bytes. -/
theorem PlainCharacter.bytes {character : Char} (plain : PlainCharacter character) {byte : UInt8}
    (member : byte ∈ String.utf8EncodeChar character) : PlainByte byte := by
  by_cases small : character.toNat < 0x80
  · rw [Utf8.utf8EncodeChar_of_lt small, List.mem_singleton] at member
    rw [member]
    exact (plainByte_ofNat_iff small).mpr plain
  · exact plainByte_of_le (Utf8.le_of_mem_utf8EncodeChar (Nat.le_of_not_lt small) member)

/-- A character is plain if the first of its bytes is. -/
theorem plainCharacter_of_first {character : Char} {lead : UInt8} {tail : Bytes}
    (encoded : String.utf8EncodeChar character = lead :: tail) (plain : PlainByte lead) :
    PlainCharacter character := by
  by_cases small : character.toNat < 0x80
  · rw [Utf8.utf8EncodeChar_of_lt small, List.cons.injEq] at encoded
    exact (plainByte_ofNat_iff small).mp (encoded.1 ▸ plain)
  · refine ⟨by omega, ?_, ?_⟩
    · rintro rfl
      exact small (by decide)
    · rintro rfl
      exact small (by decide)

/-- Plain bytes stand for themselves. -/
theorem StandsFor.plain_append {plain body bytes : Bytes} (all : ∀ byte ∈ plain, PlainByte byte)
    (standsFor : StandsFor body bytes) : StandsFor (plain ++ body) (plain ++ bytes) := by
  induction plain with
  | nil => exact standsFor
  | cons byte more inductionHypothesis =>
    obtain ⟨printable, notQuote, notBackslash⟩ := all byte List.mem_cons_self
    exact .byte printable notQuote notBackslash
      (inductionHypothesis fun other member => all other (List.mem_cons_of_mem _ member))

/-- A byte that continues a character stands for itself, since an escape starts a character. -/
theorem StandsFor.tail_append {tail body bytes : Bytes}
    (all : ∀ byte ∈ tail, Utf8.isTail byte = true)
    (standsFor : StandsFor body (tail ++ bytes)) :
    ∃ more, body = tail ++ more ∧ StandsFor more bytes := by
  induction tail generalizing body with
  | nil => exact ⟨body, rfl, standsFor⟩
  | cons byte tail inductionHypothesis =>
    have isTail := all byte List.mem_cons_self
    rw [List.cons_append] at standsFor
    generalize denoted : byte :: (tail ++ bytes) = all' at standsFor
    cases standsFor with
    | nil => cases denoted
    | byte _ _ _ others =>
      cases denoted
      obtain ⟨more, rfl, following⟩ :=
        inductionHypothesis (fun other member => all other (List.mem_cons_of_mem _ member)) others
      exact ⟨more, rfl, following⟩
    | @escape _ _ _ character =>
      have encoded := Utf8.encoded_utf8EncodeChar character
      obtain ⟨lead, rest, shape⟩ := List.exists_cons_of_ne_nil
        (String.utf8EncodeChar_ne_nil (c := character))
      rw [shape, List.cons_append, List.cons.injEq] at denoted
      rw [shape, ← denoted.1] at encoded
      rw [encoded.lead_not_tail] at isTail
      cases isTail

/-- Two encoded texts that start with characters start with the same one. -/
theorem utf8EncodeChar_append_inj {left right : Char} {leftRest rightRest : Bytes}
    (same : String.utf8EncodeChar left ++ leftRest = String.utf8EncodeChar right ++ rightRest) :
    left = right ∧ leftRest = rightRest := by
  have pieces := congrArg Utf8.pieces same
  rw [Utf8.pieces_utf8EncodeChar_append, Utf8.pieces_utf8EncodeChar_append, List.cons.injEq,
    Utf8.Piece.scalar.injEq] at pieces
  obtain ⟨rfl, -⟩ := pieces
  exact ⟨rfl, List.append_cancel_left same⟩

/-- A string denotes characters exactly if it stands for the bytes that encode them. -/
theorem standsFor_flatMap_iff {body : Bytes} {characters : List Char} :
    StandsFor body (characters.flatMap String.utf8EncodeChar) ↔ Denotes body characters := by
  constructor
  · intro standsFor
    induction characters generalizing body with
    | nil =>
      generalize denoted : [].flatMap String.utf8EncodeChar = bytes at standsFor
      cases standsFor with
      | nil => exact .nil
      | byte => cases denoted
      | escape => simp [String.utf8EncodeChar_ne_nil] at denoted
    | cons character more inductionHypothesis =>
      have encoded := Utf8.encoded_utf8EncodeChar character
      rw [List.flatMap_cons] at standsFor
      generalize denoted :
        String.utf8EncodeChar character ++ more.flatMap String.utf8EncodeChar = bytes at standsFor
      cases standsFor with
      | nil => simp [String.utf8EncodeChar_ne_nil] at denoted
      | byte printable notQuote notBackslash others =>
        obtain ⟨lead, tail, shape⟩ := List.exists_cons_of_ne_nil
          (String.utf8EncodeChar_ne_nil (c := character))
        rw [shape, List.cons_append, List.cons.injEq] at denoted
        obtain ⟨rfl, rfl⟩ := denoted
        rw [shape] at encoded
        obtain ⟨body, rfl, following⟩ := others.tail_append encoded.tail_isTail
        obtain ⟨large, isNoQuote, isNoBackslash⟩ :=
          plainCharacter_of_first shape ⟨printable, notQuote, notBackslash⟩
        rw [← List.cons_append, ← shape]
        exact .plain large isNoQuote isNoBackslash (inductionHypothesis following)
      | escape stands others =>
        obtain ⟨rfl, rfl⟩ := utf8EncodeChar_append_inj denoted
        exact .escape stands (inductionHypothesis others)
  · intro denotes
    induction denotes with
    | nil => exact .nil
    | plain printable notQuote notBackslash _ inductionHypothesis =>
      rw [List.flatMap_cons]
      exact inductionHypothesis.plain_append fun _ member =>
        PlainCharacter.bytes ⟨printable, notQuote, notBackslash⟩ member
    | escape stands _ inductionHypothesis =>
      rw [List.flatMap_cons]
      exact .escape stands inductionHypothesis

/-- A string is read exactly as the text that it denotes. -/
theorem readText_yields_iff {input rest : Bytes} {text : String} :
    Yields (readText input) text rest ↔
      ∃ body, input = body ++ ascii '"' :: rest ∧ Denotes body text.toList := by
  unfold readText
  rw [Yields.bind_parsed_iff]
  constructor
  · rintro ⟨bytes, middle, shorter, read, decoded⟩
    obtain ⟨body, denoted, rfl, standsFor, rfl⟩ := readDenoted_sound read
    dsimp only at decoded
    split at decoded
    · next found isText =>
      simp only [Yields.ok_iff, Parsed.replace_value, Parsed.replace_rest] at decoded
      obtain ⟨rfl, rfl⟩ := decoded
      rw [Utf8.decode?_eq_some_iff] at isText
      rw [isText] at standsFor
      exact ⟨body, rfl, standsFor_flatMap_iff.mp standsFor⟩
    · simp at decoded
  · rintro ⟨body, rfl, denotes⟩
    have read := readDenoted_complete (standsFor_flatMap_iff.mpr denotes) [] rest
    obtain ⟨shorter, -⟩ := read.eq_ok
    refine ⟨_, rest, shorter, read, ?_⟩
    have isText : Utf8.decode? (text.toList.flatMap String.utf8EncodeChar) = some text :=
      Utf8.decode?_eq_some_iff.mpr rfl
    simp [isText]

/-! ## Strings of which only the form matters -/

/-- A byte that may stand for itself by its value. -/
theorem isControl_eq_false_iff {byte : UInt8} : isControl byte = false ↔ 0x20 ≤ byte := by
  simp [isControl]

/-- What is passed over has the form of a string. -/
theorem skipText_sound {input rest : Bytes} (read : Yields (skipText input) () rest) :
    ∃ body, input = body ++ ascii '"' :: rest ∧ BodyForm body := by
  fun_induction skipText input with
  | case1 => simp at read
  | case2 afterQuote =>
    simp only [Yields.ok_iff, Parsed.single_rest, true_and] at read
    subst read
    exact ⟨[], rfl, .nil⟩
  | case3 => simp at read
  | case4 => simp at read
  | case5 letter afterLetter isShort skipped readRest _ inductionHypothesis =>
    simp only [Yields.ok_iff, Parsed.behind_rest, true_and] at read
    subst read
    obtain ⟨body, shape, form⟩ := inductionHypothesis (.of_ok readRest)
    obtain ⟨character, isCharacter⟩ := Option.isSome_iff_exists.mp isShort
    obtain ⟨name, rfl, known⟩ := shortEscape?_eq_some_iff.mp isCharacter
    exact ⟨ascii '\\' :: ascii name :: body, by simpa using shape, .short known form⟩
  | case6 => simp at read
  | case7 => simp at read
  | case8 => simp at read
  | case9 letter afterLetter _ isLetter unit readUnit skipped readRest _ inductionHypothesis =>
    simp only [Yields.ok_iff, Parsed.behind_rest, Parsed.andThen_rest, true_and] at read
    subst read
    simp only [ne_eq, Decidable.not_not] at isLetter
    subst isLetter
    obtain ⟨body, shape, form⟩ := inductionHypothesis (.of_ok readRest)
    obtain ⟨digits, shape', hexadecimal⟩ := hexQuad_yields_iff.mp (.of_ok readUnit)
    refine ⟨ascii '\\' :: ascii 'u' :: (digits ++ body), ?_, .unit hexadecimal form⟩
    simpa [← shape] using shape'
  | case10 => simp at read
  | case11 => simp at read
  | case12 byte afterByte notQuote notBackslash printable skipped readRest inductionHypothesis =>
    simp only [Yields.ok_iff, Parsed.behind_rest, true_and] at read
    subst read
    obtain ⟨body, shape, form⟩ := inductionHypothesis (.of_ok readRest)
    rw [Bool.not_eq_true, isControl_eq_false_iff] at printable
    exact ⟨byte :: body, by simpa using shape, .plain printable notQuote notBackslash form⟩

/-- Everything of the form of a string is passed over. -/
theorem skipText_complete {body : Bytes} (form : BodyForm body) (rest : Bytes) :
    Yields (skipText (body ++ ascii '"' :: rest)) () rest := by
  induction form with
  | nil =>
    simp [skipText.eq_def]
  | plain printable notQuote notBackslash _ inductionHypothesis =>
    obtain ⟨shorter, read⟩ := inductionHypothesis.eq_ok
    rw [← isControl_eq_false_iff] at printable
    rw [List.cons_append, skipText.eq_def]
    simp [notQuote, notBackslash, printable, read]
  | @short letter character body known _ inductionHypothesis =>
    obtain ⟨shorter, read⟩ := inductionHypothesis.eq_ok
    have isShort : shortEscape? (ascii letter) = some character :=
      shortEscape?_eq_some_iff.mpr ⟨letter, rfl, known⟩
    rw [List.cons_append, List.cons_append, skipText, if_neg (by decide), if_pos rfl]
    simp [isShort, read]
  | @unit digits body code hexadecimal _ inductionHypothesis =>
    obtain ⟨shorter, read⟩ := inductionHypothesis.eq_ok
    obtain ⟨shorter', readUnit⟩ := (hexQuad_yields_iff.mpr
      ⟨digits, List.append_assoc digits body (ascii '"' :: rest), hexadecimal⟩).eq_ok
    have isLetter : shortEscape? (ascii 'u') = none := rfl
    rw [List.cons_append, List.cons_append, skipText, if_neg (by decide), if_pos rfl]
    simp [isLetter, readUnit, read]

/-- The form of a string is what a string that denotes a text has. -/
theorem Denotes.bodyForm {body : Bytes} {characters : List Char}
    (denotes : Denotes body characters) : BodyForm body := by
  induction denotes with
  | nil => exact .nil
  | @plain character body _ printable notQuote notBackslash _ inductionHypothesis =>
    have plain : ∀ byte ∈ String.utf8EncodeChar character, PlainByte byte := fun _ member =>
      PlainCharacter.bytes ⟨printable, notQuote, notBackslash⟩ member
    generalize String.utf8EncodeChar character = bytes at plain
    induction bytes with
    | nil => exact inductionHypothesis
    | cons byte more following =>
      obtain ⟨isPrintable, isNoQuote, isNoBackslash⟩ := plain byte List.mem_cons_self
      rw [isControl_eq_false_iff] at isPrintable
      exact .plain isPrintable isNoQuote isNoBackslash
        (following fun other member => plain other (List.mem_cons_of_mem _ member))
  | escape stands _ inductionHypothesis =>
    cases stands with
    | short known => exact .short known inductionHypothesis
    | unit hexadecimal => exact .unit hexadecimal inductionHypothesis
    | @pair first second _ _ isFirst isSecond =>
      simpa using BodyForm.unit isFirst (.unit isSecond inductionHypothesis)

/-- A string that denotes a text has the form of a string. -/
theorem TextLiteral.textForm {bytes : Bytes} {text : String} (literal : TextLiteral bytes text) :
    TextForm bytes := by
  obtain ⟨body, shape, denotes⟩ := literal
  exact ⟨body, shape, denotes.bodyForm⟩

end ConformanceReport.Json
