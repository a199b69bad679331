import ConformanceReport.Text.Utf8

/-!
# Decoding undoes encoding

`Encoded` gives the byte sequences of single characters by the ranges of their bytes. Cutting off
a piece finds a character exactly where such a sequence stands, so that strict decoding yields a
text exactly on the encoding of that text (`decode?_eq_some_iff`). What is known of first and later
bytes (`Encoded.lead_not_tail`, `Encoded.tail_isTail`) says that no encoding starts inside another.
-/

namespace ConformanceReport.Utf8

/-- A continuing byte by its value. -/
theorem isTail_iff {byte : UInt8} :
    isTail byte = true ↔ 0x80 ≤ byte.toNat ∧ byte.toNat ≤ 0xBF := by
  simp [isTail, UInt8.le_iff_toNat_le]

/-- The second byte of a long sequence by its value: a continuing byte, within a narrower range
after four of the lead bytes. -/
theorem allowsSecond_iff {lead second : UInt8} :
    allowsSecond lead second = true ↔
      0x80 ≤ second.toNat ∧ second.toNat ≤ 0xBF ∧
        (lead.toNat = 0xE0 → 0xA0 ≤ second.toNat) ∧ (lead.toNat = 0xED → second.toNat ≤ 0x9F) ∧
        (lead.toNat = 0xF0 → 0x90 ≤ second.toNat) ∧ (lead.toNat = 0xF4 → second.toNat ≤ 0x8F) := by
  simp only [allowsSecond, isTail, UInt8.le_iff_toNat_le, ← UInt8.toNat_inj, UInt8.reduceToNat]
  repeat' split
  all_goals simp only [Bool.and_eq_true, decide_eq_true_eq]
  all_goals omega

/-- A second byte that is allowed continues a sequence. -/
theorem isTail_of_allowsSecond {lead second : UInt8} (allowed : allowsSecond lead second = true) :
    isTail second = true := by
  rw [allowsSecond_iff] at allowed
  rw [isTail_iff]
  omega

/-- The bytes of one character. -/
inductive Encoded : Bytes → Char → Prop where
  | one {byte : UInt8} (upper : byte.toNat < 0x80) : Encoded [byte] (Char.ofNat byte.toNat)
  | two {lead second : UInt8} (lower : 0xC2 ≤ lead.toNat) (upper : lead.toNat < 0xE0)
      (secondTail : isTail second = true) :
      Encoded [lead, second] (Char.ofNat (lead.toNat % 32 * 64 + payload second))
  | three {lead second third : UInt8} (lower : 0xE0 ≤ lead.toNat) (upper : lead.toNat < 0xF0)
      (allowed : allowsSecond lead second = true) (thirdTail : isTail third = true) :
      Encoded [lead, second, third]
        (Char.ofNat ((lead.toNat % 16 * 64 + payload second) * 64 + payload third))
  | four {lead second third fourth : UInt8} (lower : 0xF0 ≤ lead.toNat)
      (upper : lead.toNat < 0xF5) (allowed : allowsSecond lead second = true)
      (thirdTail : isTail third = true) (fourthTail : isTail fourth = true) :
      Encoded [lead, second, third, fourth]
        (Char.ofNat (((lead.toNat % 8 * 64 + payload second) * 64 + payload third) * 64
          + payload fourth))

/-- The number of a character that is given by a valid number. -/
theorem val_ofNat {value : Nat} (valid : value.isValidChar) :
    (Char.ofNat value).val.toNat = value := by
  rw [Char.ofNat, dif_pos valid]
  rfl

/-- No other bytes encode a character. -/
theorem Encoded.eq_utf8EncodeChar {bytes : Bytes} {character : Char}
    (encoded : Encoded bytes character) : bytes = String.utf8EncodeChar character := by
  cases encoded with
  | @one byte upper =>
    have valid : byte.toNat.isValidChar := by unfold Nat.isValidChar; omega
    simp only [String.utf8EncodeChar, val_ofNat valid]
    rw [if_pos (by omega)]
    simp
  | @two lead second lower upper secondTail =>
    rw [isTail_iff] at secondTail
    unfold payload
    have valid : (lead.toNat % 32 * 64 + second.toNat % 64).isValidChar := by
      unfold Nat.isValidChar; omega
    simp only [String.utf8EncodeChar, val_ofNat valid]
    rw [if_neg (by omega), if_pos (by omega)]
    simp only [List.cons.injEq, ← UInt8.toNat_inj, UInt8.toNat_ofNat', and_true]
    omega
  | @three lead second third lower upper allowed thirdTail =>
    rw [allowsSecond_iff] at allowed
    rw [isTail_iff] at thirdTail
    unfold payload
    have valid :
        ((lead.toNat % 16 * 64 + second.toNat % 64) * 64 + third.toNat % 64).isValidChar := by
      unfold Nat.isValidChar; omega
    simp only [String.utf8EncodeChar, val_ofNat valid]
    rw [if_neg (by omega), if_neg (by omega), if_pos (by omega)]
    simp only [List.cons.injEq, ← UInt8.toNat_inj, UInt8.toNat_ofNat', and_true]
    omega
  | @four lead second third fourth lower upper allowed thirdTail fourthTail =>
    rw [allowsSecond_iff] at allowed
    rw [isTail_iff] at thirdTail fourthTail
    unfold payload
    have valid : (((lead.toNat % 8 * 64 + second.toNat % 64) * 64 + third.toNat % 64) * 64
        + fourth.toNat % 64).isValidChar := by
      unfold Nat.isValidChar; omega
    simp only [String.utf8EncodeChar, val_ofNat valid]
    rw [if_neg (by omega), if_neg (by omega), if_neg (by omega)]
    simp only [List.cons.injEq, ← UInt8.toNat_inj, UInt8.toNat_ofNat', and_true]
    omega

/-- Every character has its bytes among the encoded ones. -/
theorem encoded_utf8EncodeChar (character : Char) :
    Encoded (String.utf8EncodeChar character) character := by
  have valid : character.val.toNat.isValidChar := character.valid
  have same : Char.ofNat character.val.toNat = character := Char.ofNat_toNat character
  unfold Nat.isValidChar at valid
  generalize character.val.toNat = value at valid same
  subst same
  unfold String.utf8EncodeChar
  rw [val_ofNat valid]
  have second : ∀ number : Nat, isTail (UInt8.ofNat (number % 64 + 128)) = true := by
    intro number
    rw [isTail_iff, UInt8.toNat_ofNat']
    omega
  dsimp only
  split
  · have encoded := @Encoded.one (UInt8.ofNat value) (by rw [UInt8.toNat_ofNat']; omega)
    rwa [UInt8.toNat_ofNat', Nat.mod_eq_of_lt (by omega)] at encoded
  split
  · have encoded := @Encoded.two (UInt8.ofNat (value / 64 % 32 + 192))
      (UInt8.ofNat (value % 64 + 128)) (by rw [UInt8.toNat_ofNat']; omega)
      (by rw [UInt8.toNat_ofNat']; omega) (second value)
    have number : (UInt8.ofNat (value / 64 % 32 + 192)).toNat % 32 * 64
        + payload (UInt8.ofNat (value % 64 + 128)) = value := by
      simp only [payload, UInt8.toNat_ofNat']
      omega
    rwa [number] at encoded
  split
  · have encoded := @Encoded.three (UInt8.ofNat (value / 4096 % 16 + 224))
      (UInt8.ofNat (value / 64 % 64 + 128)) (UInt8.ofNat (value % 64 + 128))
      (by rw [UInt8.toNat_ofNat']; omega) (by rw [UInt8.toNat_ofNat']; omega)
      (by simp only [allowsSecond_iff, UInt8.toNat_ofNat']; omega) (second value)
    have number : ((UInt8.ofNat (value / 4096 % 16 + 224)).toNat % 16 * 64
        + payload (UInt8.ofNat (value / 64 % 64 + 128))) * 64
        + payload (UInt8.ofNat (value % 64 + 128)) = value := by
      simp only [payload, UInt8.toNat_ofNat']
      omega
    rwa [number] at encoded
  · have encoded := @Encoded.four (UInt8.ofNat (value / 262144 % 8 + 240))
      (UInt8.ofNat (value / 4096 % 64 + 128)) (UInt8.ofNat (value / 64 % 64 + 128))
      (UInt8.ofNat (value % 64 + 128))
      (by rw [UInt8.toNat_ofNat']; omega) (by rw [UInt8.toNat_ofNat']; omega)
      (by simp only [allowsSecond_iff, UInt8.toNat_ofNat']; omega) (second (value / 64))
      (second value)
    have number : (((UInt8.ofNat (value / 262144 % 8 + 240)).toNat % 8 * 64
        + payload (UInt8.ofNat (value / 4096 % 64 + 128))) * 64
        + payload (UInt8.ofNat (value / 64 % 64 + 128))) * 64
        + payload (UInt8.ofNat (value % 64 + 128)) = value := by
      simp only [payload, UInt8.toNat_ofNat']
      omega
    rwa [number] at encoded

/-- The first byte of a character continues nothing. -/
theorem Encoded.lead_not_tail {lead : UInt8} {tail : Bytes} {character : Char}
    (encoded : Encoded (lead :: tail) character) : isTail lead = false := by
  rw [Bool.eq_false_iff, ne_eq, isTail_iff]
  cases encoded <;> omega

/-- The later bytes of a character all continue it. -/
theorem Encoded.tail_isTail {lead : UInt8} {tail : Bytes} {character : Char}
    (encoded : Encoded (lead :: tail) character) : ∀ byte ∈ tail, isTail byte = true := by
  cases encoded with
  | one => simp
  | two _ _ secondTail => simpa using secondTail
  | three _ _ allowed thirdTail => simp [isTail_of_allowsSecond allowed, thirdTail]
  | four _ _ allowed thirdTail fourthTail =>
    simp [isTail_of_allowsSecond allowed, thirdTail, fourthTail]

/-- Where a character stands, it is cut off as a piece. -/
theorem Encoded.split_eq {lead : UInt8} {tail : Bytes} {character : Char}
    (encoded : Encoded (lead :: tail) character) (rest : Bytes) :
    split lead (tail ++ rest) = (.scalar character, rest) := by
  unfold split
  simp only [UInt8.lt_iff_toNat_lt, UInt8.reduceToNat]
  cases encoded with
  | one upper => rw [if_pos upper, List.nil_append]
  | two lower upper secondTail =>
    rw [if_neg (by omega), if_neg (by omega), if_pos upper]
    simp [secondTail]
  | three lower upper allowed thirdTail =>
    rw [if_neg (by omega), if_neg (by omega), if_neg (by omega), if_pos upper]
    simp [allowed, thirdTail]
  | four lower upper allowed thirdTail fourthTail =>
    rw [if_neg (by omega), if_neg (by omega), if_neg (by omega), if_neg (by omega), if_pos upper]
    simp [allowed, thirdTail, fourthTail]

/-- A piece that is a character stands for the bytes that encode it. -/
theorem encoded_of_split {lead : UInt8} {rest after : Bytes} {character : Char}
    (cut : split lead rest = (.scalar character, after)) :
    ∃ tail, rest = tail ++ after ∧ Encoded (lead :: tail) character := by
  unfold split at cut
  simp only [UInt8.lt_iff_toNat_lt, UInt8.reduceToNat] at cut
  repeat' split at cut
  all_goals
    simp only [Prod.mk.injEq, Piece.scalar.injEq, reduceCtorEq, false_and] at cut
  all_goals
    obtain ⟨rfl, rfl⟩ := cut
  · exact ⟨[], rfl, .one (by assumption)⟩
  · exact ⟨[_], rfl, .two (by omega) (by omega) (by assumption)⟩
  · exact ⟨[_, _], rfl, .three (by omega) (by omega) (by assumption) (by assumption)⟩
  · exact ⟨[_, _, _], rfl,
      .four (by omega) (by omega) (by assumption) (by assumption) (by assumption)⟩

/-- A character of seven bits is its own byte. -/
theorem utf8EncodeChar_of_lt {character : Char} (small : character.toNat < 0x80) :
    String.utf8EncodeChar character = [UInt8.ofNat character.toNat] := by
  simp only [String.utf8EncodeChar]
  exact if_pos (Nat.le_of_lt_succ small)

/-- No byte of another character has seven bits. -/
theorem le_of_mem_utf8EncodeChar {character : Char} (large : 0x80 ≤ character.toNat) {byte : UInt8}
    (member : byte ∈ String.utf8EncodeChar character) : 0x80 ≤ byte.toNat := by
  have encoded := encoded_utf8EncodeChar character
  generalize String.utf8EncodeChar character = bytes at encoded member
  cases encoded with
  | one upper =>
    unfold Char.toNat at large
    rw [val_ofNat (by unfold Nat.isValidChar; omega)] at large
    omega
  | two lower upper secondTail =>
    rw [isTail_iff] at secondTail
    simp only [List.mem_cons, List.not_mem_nil, or_false] at member
    rcases member with rfl | rfl <;> omega
  | three lower upper allowed thirdTail =>
    rw [allowsSecond_iff] at allowed
    rw [isTail_iff] at thirdTail
    simp only [List.mem_cons, List.not_mem_nil, or_false] at member
    rcases member with rfl | rfl | rfl <;> omega
  | four lower upper allowed thirdTail fourthTail =>
    rw [allowsSecond_iff] at allowed
    rw [isTail_iff] at thirdTail fourthTail
    simp only [List.mem_cons, List.not_mem_nil, or_false] at member
    rcases member with rfl | rfl | rfl | rfl <;> omega

/-- The pieces of an encoded character and what follows it. -/
theorem pieces_utf8EncodeChar_append (character : Char) (rest : Bytes) :
    pieces (String.utf8EncodeChar character ++ rest) = .scalar character :: pieces rest := by
  have encoded := encoded_utf8EncodeChar character
  obtain ⟨lead, tail, bytes⟩ := List.exists_cons_of_ne_nil String.utf8EncodeChar_ne_nil
  rw [bytes] at encoded ⊢
  rw [List.cons_append, pieces, encoded.split_eq]

/-- The pieces of an encoded text are its characters. -/
theorem pieces_flatMap_utf8EncodeChar (characters : List Char) :
    pieces (characters.flatMap String.utf8EncodeChar) = characters.map .scalar := by
  induction characters with
  | nil => simp [pieces]
  | cons character more inductionHypothesis =>
    rw [List.flatMap_cons, pieces_utf8EncodeChar_append, inductionHypothesis, List.map_cons]

/-- A byte sequence without broken parts encodes the characters of its pieces. -/
theorem eq_flatMap_of_mapM_pieces {bytes : Bytes} {characters : List Char}
    (complete : (pieces bytes).mapM Piece.scalar? = some characters) :
    bytes = characters.flatMap String.utf8EncodeChar := by
  fun_induction pieces bytes generalizing characters with
  | case1 =>
    cases complete
    rfl
  | case2 lead rest inductionHypothesis =>
    rw [List.mapM_cons] at complete
    simp only [Option.bind_eq_bind, Option.bind_eq_some_iff, Option.pure_def,
      Option.some.injEq] at complete
    obtain ⟨first, isFirst, more, isMore, rfl⟩ := complete
    cases cut : split lead rest with
    | mk piece after =>
      rw [cut] at isFirst isMore inductionHypothesis
      cases piece with
      | broken => cases isFirst
      | scalar character =>
        cases isFirst
        obtain ⟨tail, rfl, encoded⟩ := encoded_of_split cut
        rw [List.flatMap_cons, ← encoded.eq_utf8EncodeChar, ← inductionHypothesis isMore,
          List.cons_append]

/-- Strict decoding yields a text exactly on the encoding of that text. -/
theorem decode?_eq_some_iff {bytes : Bytes} {text : String} :
    decode? bytes = some text ↔ bytes = utf8 text := by
  unfold decode?
  rw [Option.map_eq_some_iff]
  constructor
  · rintro ⟨characters, complete, rfl⟩
    rw [eq_flatMap_of_mapM_pieces complete, utf8, String.toList_ofList]
  · rintro rfl
    refine ⟨text.toList, ?_, String.ofList_toList⟩
    rw [utf8, pieces_flatMap_utf8EncodeChar]
    induction text.toList with
    | nil => rfl
    | cons character more inductionHypothesis =>
      rw [List.map_cons, List.mapM_cons, inductionHypothesis]
      rfl

/-- Different texts have different encodings. -/
theorem utf8_inj {left right : String} : utf8 left = utf8 right ↔ left = right := by
  constructor
  · intro same
    have isLeft : decode? (utf8 left) = some left := decode?_eq_some_iff.mpr rfl
    have isRight : decode? (utf8 left) = some right := decode?_eq_some_iff.mpr same
    exact Option.some.inj (isLeft.symm.trans isRight)
  · rintro rfl
    rfl

end ConformanceReport.Utf8
