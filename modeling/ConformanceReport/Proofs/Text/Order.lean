import ConformanceReport.Proofs.Text.Utf8

/-!
# Encoding keeps the order of texts

A longer encoding starts with a greater byte and is that of a greater code point
(`Encoded.ranges`). Encodings of one length hold the digits of their code points to the base 64,
the most significant one first (`partsBelow_of_held_lt`). So the encodings of two characters part
before either ends, and the smaller code point has the smaller byte there
(`partsBelow_utf8EncodeChar`). Texts therefore compare by their bytes as they compare by their code
points (`compare_utf8`), also where they differ in the middle of a character.
-/

namespace ConformanceReport

/-- The code points of a text, in order. -/
def codePoints (text : String) : List Nat :=
  text.toList.map Char.toNat

/-- Comparing lists of numbers is comparing them lexicographically. -/
theorem compare_eq_lt_iff_lex {left right : List Nat} :
    compare left right = .lt ↔ List.Lex (· < ·) left right := by
  induction left generalizing right with
  | nil => cases right <;> simp
  | cons first more inductionHypothesis =>
    cases right with
    | nil => simp
    | cons second others =>
      rw [List.compare_cons_cons, Ordering.then_eq_lt, Nat.compare_eq_lt, Nat.compare_eq_eq,
        inductionHypothesis, List.cons_lex_cons_iff]

namespace Utf8

/-! ## Byte sequences that part -/

/-- Two byte sequences part before either ends, and the first one has the smaller byte there. -/
def PartsBelow : Bytes → Bytes → Prop
  | byte :: more, other :: others => byte < other ∨ byte = other ∧ PartsBelow more others
  | _, _ => False

/-- Sequences that part compare by the bytes where they do, whatever follows either of them. -/
theorem PartsBelow.compare_append {bytes others : Bytes} (parts : PartsBelow bytes others)
    (more rest : Bytes) : compare (bytes ++ more) (others ++ rest) = .lt := by
  induction bytes generalizing others with
  | nil => cases parts
  | cons byte tail inductionHypothesis =>
    cases others with
    | nil => cases parts
    | cons other otherTail =>
      rw [List.cons_append, List.cons_append, List.compare_cons_cons]
      rcases parts with less | ⟨rfl, later⟩
      · rw [Std.compare_eq_lt.mpr less, Ordering.lt_then]
      · rw [Std.compare_self, Ordering.eq_then, inductionHypothesis later]

/-- Sequences with a common start compare by what follows it. -/
theorem compare_append_left (bytes left right : Bytes) :
    compare (bytes ++ left) (bytes ++ right) = compare left right := by
  induction bytes with
  | nil => rfl
  | cons byte more inductionHypothesis =>
    rw [List.cons_append, List.cons_append, List.compare_cons_cons, Std.compare_self,
      Ordering.eq_then, inductionHypothesis]

/-! ## The code point that an encoding holds -/

/-- What the first byte of an encoding holds of the code point, by the bytes behind it. -/
def leadPayload (lead : UInt8) : Bytes → Nat
  | [] => lead.toNat
  | [_] => lead.toNat % 32
  | [_, _] => lead.toNat % 16
  | _ => lead.toNat % 8

/-- The number that continuing bytes hold behind what is held before them. -/
def held (high : Nat) : Bytes → Nat
  | [] => high
  | byte :: more => held (high * 64 + payload byte) more

/-- A continuing byte is known by its payload. -/
theorem toNat_of_isTail {byte : UInt8} (continues : isTail byte = true) :
    byte.toNat = 0x80 + payload byte ∧ payload byte < 64 := by
  rw [isTail_iff] at continues
  unfold payload
  omega

/-- The code point of a character is the number that its bytes hold. -/
theorem Encoded.toNat_eq {lead : UInt8} {tail : Bytes} {character : Char}
    (encoded : Encoded (lead :: tail) character) :
    character.toNat = held (leadPayload lead tail) tail := by
  cases encoded with
  | one upper => exact val_ofNat (by unfold Nat.isValidChar; omega)
  | two lower upper secondTail => exact val_ofNat (by unfold Nat.isValidChar payload; omega)
  | three lower upper allowed thirdTail =>
    rw [allowsSecond_iff] at allowed
    exact val_ofNat (by unfold Nat.isValidChar payload; omega)
  | four lower upper allowed thirdTail fourthTail =>
    rw [allowsSecond_iff] at allowed
    exact val_ofNat (by unfold Nat.isValidChar payload; omega)

/-- The number of bytes, the first byte and the code point of an encoding go together. -/
theorem Encoded.ranges {lead : UInt8} {tail : Bytes} {character : Char}
    (encoded : Encoded (lead :: tail) character) :
    (tail.length = 0 ∧ lead.toNat = leadPayload lead tail ∧ lead.toNat < 0x80 ∧
        character.toNat < 0x80) ∨
      (tail.length = 1 ∧ lead.toNat = 0xC0 + leadPayload lead tail ∧ lead.toNat < 0xE0 ∧
        0x80 ≤ character.toNat ∧ character.toNat < 0x800) ∨
      (tail.length = 2 ∧ lead.toNat = 0xE0 + leadPayload lead tail ∧ lead.toNat < 0xF0 ∧
        0x800 ≤ character.toNat ∧ character.toNat < 0x10000) ∨
      (tail.length = 3 ∧ lead.toNat = 0xF0 + leadPayload lead tail ∧
        0x10000 ≤ character.toNat) := by
  rw [encoded.toNat_eq]
  cases encoded with
  | one upper => exact .inl ⟨rfl, rfl, upper, upper⟩
  | two lower upper secondTail =>
    have second := toNat_of_isTail secondTail
    refine .inr (.inl ⟨rfl, ?_⟩)
    simp only [leadPayload, held]
    omega
  | three lower upper allowed thirdTail =>
    have second := toNat_of_isTail (isTail_of_allowsSecond allowed)
    have third := toNat_of_isTail thirdTail
    rw [allowsSecond_iff] at allowed
    refine .inr (.inr (.inl ⟨rfl, ?_⟩))
    simp only [leadPayload, held]
    omega
  | four lower upper allowed thirdTail fourthTail =>
    have second := toNat_of_isTail (isTail_of_allowsSecond allowed)
    have third := toNat_of_isTail thirdTail
    have fourth := toNat_of_isTail fourthTail
    rw [allowsSecond_iff] at allowed
    refine .inr (.inr (.inr ⟨rfl, ?_⟩))
    simp only [leadPayload, held]
    omega

/-- Of as many continuing bytes, those that hold the smaller number part below the others, if not
what is held before them is the smaller already. -/
theorem partsBelow_of_held_lt {high otherHigh : Nat} {tail others : Bytes}
    (tailContinues : ∀ byte ∈ tail, isTail byte = true)
    (othersContinue : ∀ byte ∈ others, isTail byte = true)
    (sameLength : tail.length = others.length) (less : held high tail < held otherHigh others) :
    high < otherHigh ∨ high = otherHigh ∧ PartsBelow tail others := by
  induction tail generalizing high otherHigh others with
  | nil =>
    obtain rfl := List.length_eq_zero_iff.mp sameLength.symm
    exact .inl less
  | cons byte more inductionHypothesis =>
    obtain ⟨other, otherMore, rfl⟩ := List.exists_cons_of_length_eq_add_one sameLength.symm
    rw [List.forall_mem_cons] at tailContinues othersContinue
    have digit := toNat_of_isTail tailContinues.1
    have otherDigit := toNat_of_isTail othersContinue.1
    -- The first digit joins what is held before the rest.
    rcases inductionHypothesis tailContinues.2 othersContinue.2 (Nat.succ.inj sameLength) less with
      lessBefore | ⟨sameBefore, later⟩
    · simp only [PartsBelow, UInt8.lt_iff_toNat_lt]
      omega
    · exact .inr ⟨by omega, .inr ⟨UInt8.toNat_inj.mp (by omega), later⟩⟩

/-- The encoding of the smaller code point parts below that of the greater one. -/
theorem Encoded.partsBelow {lead other : UInt8} {tail others : Bytes} {first second : Char}
    (isFirst : Encoded (lead :: tail) first) (isSecond : Encoded (other :: others) second)
    (less : first.toNat < second.toNat) : PartsBelow (lead :: tail) (other :: others) := by
  have firstRanges := isFirst.ranges
  have secondRanges := isSecond.ranges
  rcases Nat.lt_trichotomy tail.length others.length with shorter | sameLength | longer
  · exact .inl (UInt8.lt_iff_toNat_lt.mpr (by omega))
  · rw [isFirst.toNat_eq, isSecond.toNat_eq] at less
    rcases partsBelow_of_held_lt isFirst.tail_isTail isSecond.tail_isTail sameLength less with
      lessLead | ⟨sameLead, parts⟩
    · exact .inl (UInt8.lt_iff_toNat_lt.mpr (by omega))
    · exact .inr ⟨UInt8.toNat_inj.mp (by omega), parts⟩
  · -- A longer encoding would be that of a greater code point.
    omega

/-- A character is encoded in at least one byte. -/
theorem exists_utf8EncodeChar_eq_cons (character : Char) :
    ∃ lead tail, String.utf8EncodeChar character = lead :: tail :=
  List.exists_cons_of_ne_nil String.utf8EncodeChar_ne_nil

/-- Characters are encoded in the order of their code points. -/
theorem partsBelow_utf8EncodeChar {first second : Char} (less : first.toNat < second.toNat) :
    PartsBelow (String.utf8EncodeChar first) (String.utf8EncodeChar second) := by
  have isFirst := encoded_utf8EncodeChar first
  have isSecond := encoded_utf8EncodeChar second
  obtain ⟨lead, tail, bytes⟩ := exists_utf8EncodeChar_eq_cons first
  obtain ⟨other, others, otherBytes⟩ := exists_utf8EncodeChar_eq_cons second
  rw [bytes] at isFirst ⊢
  rw [otherBytes] at isSecond ⊢
  exact isFirst.partsBelow isSecond less

/-! ## Texts -/

/-- Encoded texts compare by their first characters, and then by what follows these. -/
theorem compare_utf8EncodeChar_append (first second : Char) (more others : Bytes) :
    compare (String.utf8EncodeChar first ++ more) (String.utf8EncodeChar second ++ others) =
      (compare first.toNat second.toNat).then (compare more others) := by
  rcases Nat.lt_trichotomy first.toNat second.toNat with less | same | greater
  · rw [(partsBelow_utf8EncodeChar less).compare_append, Nat.compare_eq_lt.mpr less,
      Ordering.lt_then]
  · obtain rfl := Char.toNat_inj.mp same
    rw [compare_append_left, Std.compare_self, Ordering.eq_then]
  · have swapped := (partsBelow_utf8EncodeChar greater).compare_append others more
    rw [Std.OrientedCmp.gt_of_lt swapped, Nat.compare_eq_gt.mpr greater, Ordering.gt_then]

/-- Encoded characters compare as their code points do. -/
theorem compare_flatMap_utf8EncodeChar (left right : List Char) :
    compare (left.flatMap String.utf8EncodeChar) (right.flatMap String.utf8EncodeChar) =
      compare (left.map Char.toNat) (right.map Char.toNat) := by
  induction left generalizing right with
  | nil =>
    cases right with
    | nil => rfl
    | cons second others =>
      obtain ⟨lead, tail, bytes⟩ := exists_utf8EncodeChar_eq_cons second
      rw [List.flatMap_cons, bytes]
      rfl
  | cons first more inductionHypothesis =>
    cases right with
    | nil =>
      obtain ⟨lead, tail, bytes⟩ := exists_utf8EncodeChar_eq_cons first
      rw [List.flatMap_cons, bytes]
      rfl
    | cons second others =>
      rw [List.flatMap_cons, List.flatMap_cons, compare_utf8EncodeChar_append,
        inductionHypothesis, List.map_cons, List.map_cons, List.compare_cons_cons]

/-- Texts compare by their bytes as they compare by their code points. -/
theorem compare_utf8 (left right : String) :
    compare (utf8 left) (utf8 right) = compare (codePoints left) (codePoints right) :=
  compare_flatMap_utf8EncodeChar left.toList right.toList

end Utf8

end ConformanceReport
