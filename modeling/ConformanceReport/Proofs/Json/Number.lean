import ConformanceReport.Proofs.Json.Reading

/-!
# Numbers are read as they are written

A number goes on as long as it can, so a number of the grammar is read as a whole only if what
follows it (`Ends`) does not go on with it. What is read always has the form of a number. A plain
integer denotes itself exactly if it fits a 64-bit word (`readNumber_natural_sound`,
`NaturalLiteral.denoted`): the digits are added up to the bound and not beyond.
-/

namespace ConformanceReport.Json

/-! ## Digits -/

/-- Text that does not start with a digit. -/
def NoDigit (bytes : Bytes) : Prop :=
  ∀ byte ∈ bytes.head?, digit? byte = none

/-- Text with which no number goes on. -/
def Ends (bytes : Bytes) : Prop :=
  ∀ byte ∈ bytes.head?,
    digit? byte = none ∧ byte ≠ ascii '.' ∧ byte ≠ ascii 'e' ∧ byte ≠ ascii 'E'

/-- A digit by its value. -/
theorem digit?_eq_some_iff {byte : UInt8} {digit : Nat} :
    digit? byte = some digit ↔
      (ascii '0' ≤ byte ∧ byte ≤ ascii '9') ∧ byte.toNat - 48 = digit := by
  by_cases range : ascii '0' ≤ byte ∧ byte ≤ ascii '9'
  · simp [digit?, range]
  · simp [digit?, range, -not_and]

/-- Taking digits takes all of them. -/
theorem spanDigits_append {digits rest : Bytes} (all : Digits digits) (noDigit : NoDigit rest) :
    spanDigits (digits ++ rest) = (digitsOf digits, rest) := by
  induction digits with
  | nil =>
    cases rest with
    | nil => rfl
    | cons byte more =>
      have stops : digit? byte = none := noDigit byte rfl
      simp [spanDigits, stops, digitsOf]
  | cons byte more inductionHypothesis =>
    have isDigit : digit? byte = some (byte.toNat - 48) :=
      digit?_eq_some_iff.mpr ⟨all byte List.mem_cons_self, rfl⟩
    have following :=
      inductionHypothesis fun other member => all other (List.mem_cons_of_mem _ member)
    simp [spanDigits, isDigit, following, digitsOf]

/-- What is taken as digits are digits. -/
theorem exists_digits (input : Bytes) :
    ∃ digits, input = digits ++ (spanDigits input).2 ∧ Digits digits ∧
      (spanDigits input).1 = digitsOf digits := by
  induction input with
  | nil => exact ⟨[], rfl, by simp [Digits], rfl⟩
  | cons byte rest inductionHypothesis =>
    cases isDigit : digit? byte with
    | none => exact ⟨[], by simp [spanDigits, isDigit], by simp [Digits], by
        simp [spanDigits, isDigit, digitsOf]⟩
    | some digit =>
      obtain ⟨digits, shape, all, values⟩ := inductionHypothesis
      obtain ⟨range, rfl⟩ := digit?_eq_some_iff.mp isDigit
      refine ⟨byte :: digits, ?_, ?_, ?_⟩
      · simpa [spanDigits, isDigit] using shape
      · simpa [Digits, range] using all
      · simp [spanDigits, isDigit, values, digitsOf]

/-! ## The parts of a number -/

/-- What is read as a whole part is one. -/
theorem readWhole_sound {atEnd : Cause} {input rest : Bytes} {digits : List Nat}
    (read : Yields (readWhole atEnd input) digits rest) :
    ∃ whole, input = whole ++ rest ∧ WholeForm whole ∧ digitsOf whole = digits := by
  unfold readWhole at read
  split at read
  · simp at read
  next byte more =>
  split at read
  · simp at read
  · next isZero =>
    split at read
    · simp only [Yields.ok_iff, Parsed.single_value, Parsed.single_rest] at read
      obtain ⟨rfl, rfl⟩ := read
      obtain ⟨⟨lower, upper⟩, value⟩ := digit?_eq_some_iff.mp isZero
      have zero : byte = ascii '0' := by
        have lowerValue : 48 ≤ byte.toNat := UInt8.le_iff_toNat_le.mp lower
        rw [← UInt8.toNat_inj]
        show byte.toNat = 48
        omega
      exact ⟨[byte], rfl, zero ▸ .zero, by simp [digitsOf, value]⟩
    · simp at read
  · next first notZero isDigit =>
    simp only [Yields.ok_iff, Parsed.map_value, Parsed.map_rest, Optional.behindRequired,
      optionalDigits] at read
    obtain ⟨rfl, rfl⟩ := read
    obtain ⟨digits, shape, all, values⟩ := exists_digits more
    obtain ⟨⟨lower, upper⟩, value⟩ := digit?_eq_some_iff.mp isDigit
    refine ⟨byte :: digits, by simpa using shape, .digits ?_ upper all, ?_⟩
    · rw [UInt8.le_iff_toNat_le] at lower ⊢
      have lowerValue : 48 ≤ byte.toNat := lower
      have notZero' : first ≠ 0 := notZero
      show 49 ≤ byte.toNat
      omega
    · simp [digitsOf, value] at values ⊢
      exact values.symm

/-- A whole part is read as far as its digits go. -/
theorem readWhole_complete (atEnd : Cause) {whole rest : Bytes} (form : WholeForm whole)
    (noDigit : NoDigit rest) : Yields (readWhole atEnd (whole ++ rest)) (digitsOf whole) rest := by
  cases form with
  | zero =>
    have noDigits : Digits [] := by simp [Digits]
    have taken : spanDigits rest = ([], rest) := spanDigits_append noDigits noDigit
    have isZero : digit? (ascii '0') = some 0 := rfl
    simp only [List.cons_append, List.nil_append, readWhole, isZero, taken]
    simp [digitsOf, ascii]
  | @digits first more lower upper all =>
    have isDigit : digit? first = some (first.toNat - 48) := by
      refine digit?_eq_some_iff.mpr ⟨⟨UInt8.le_trans (by decide) lower, upper⟩, rfl⟩
    have notZero : first.toNat - 48 ≠ 0 := by
      have lowerValue : 49 ≤ first.toNat := UInt8.le_iff_toNat_le.mp lower
      omega
    have taken := spanDigits_append all noDigit
    rw [List.cons_append, readWhole]
    split
    · next isNone => simp [isDigit] at isNone
    · next isZero => simp [isDigit, notZero] at isZero
    · next value _ isValue =>
      rw [isDigit, Option.some.injEq] at isValue
      simp [Optional.behindRequired, optionalDigits, taken, digitsOf, isValue]

/-- What is read as a fraction is one. -/
theorem readFraction_sound {atEnd : Cause} {input rest : Bytes} {digits : Option (List Nat)}
    (read : MaybeYields (readFraction atEnd input) digits rest) :
    ∃ fraction, input = fraction ++ rest ∧ FractionForm fraction digits := by
  unfold readFraction at read
  split at read
  · simp only [MaybeYields.ok_iff, Optional.nothing_value, Optional.nothing_rest] at read
    obtain ⟨rfl, rfl⟩ := read
    exact ⟨[], rfl, .absent⟩
  next byte more =>
  split at read
  · simp only [MaybeYields.ok_iff, Optional.nothing_value, Optional.nothing_rest] at read
    obtain ⟨rfl, rfl⟩ := read
    exact ⟨[], rfl, .absent⟩
  next isPoint =>
  split at read
  · simp at read
  next someDigit =>
  simp only [MaybeYields.ok_iff, Optional.behind_value, Optional.behind_rest, Optional.map_value,
    Optional.map_rest, optionalDigits] at read
  obtain ⟨rfl, rfl⟩ := read
  simp only [ne_eq, Decidable.not_not] at isPoint
  obtain ⟨digits, shape, all, values⟩ := exists_digits more
  refine ⟨ascii '.' :: digits, ?_, ?_⟩
  · rw [isPoint]
    simpa using shape
  · rw [values] at someDigit ⊢
    refine .present ?_ all
    rintro rfl
    exact someDigit rfl

/-- A fraction is read as far as its digits go. -/
theorem readFraction_complete (atEnd : Cause) {fraction rest : Bytes} {digits : Option (List Nat)}
    (form : FractionForm fraction digits) (noDigit : NoDigit rest)
    (noPoint : ∀ byte ∈ rest.head?, byte ≠ ascii '.') :
    MaybeYields (readFraction atEnd (fraction ++ rest)) digits rest := by
  cases form with
  | absent =>
    cases rest with
    | nil => simp [readFraction]
    | cons byte more =>
      rw [List.nil_append, readFraction, if_pos (noPoint byte rfl)]
      simp
  | @present digits someDigit all =>
    have taken := spanDigits_append all noDigit
    have nonempty : ¬ (spanDigits (digits ++ rest)).1.isEmpty := by
      simpa [taken, digitsOf] using someDigit
    rw [List.cons_append, readFraction, if_neg (by simp), if_neg nonempty]
    simp [optionalDigits, taken]

/-- The sign of an exponent is taken if it is there. -/
theorem exists_sign (input : Bytes) :
    ∃ sign, input = sign ++ (exponentSign input).2 ∧ SignForm sign (exponentSign input).1 := by
  unfold exponentSign
  split
  · exact ⟨[], rfl, .absent⟩
  next byte more =>
  split
  · next isMinus => exact ⟨[ascii '-'], by rw [isMinus]; rfl, .minus⟩
  split
  · next isPlus => exact ⟨[ascii '+'], by rw [isPlus]; rfl, .plus⟩
  · exact ⟨[], rfl, .absent⟩

/-- A sign in front of digits is taken. -/
theorem exponentSign_append {sign digits : Bytes} {negative : Bool} (form : SignForm sign negative)
    (someDigit : digits ≠ []) (all : Digits digits) (rest : Bytes) :
    exponentSign (sign ++ (digits ++ rest)) = (negative, digits ++ rest) := by
  cases form with
  | absent =>
    obtain ⟨first, more, rfl⟩ := List.exists_cons_of_ne_nil someDigit
    have range := all first List.mem_cons_self
    have noMinus : first ≠ ascii '-' := by
      rintro rfl
      exact absurd range (by decide)
    have noPlus : first ≠ ascii '+' := by
      rintro rfl
      exact absurd range (by decide)
    simp [exponentSign, noMinus, noPlus]
  | plus => rfl
  | minus => rfl

/-- What is read as an exponent is one. -/
theorem readExponent_sound {atEnd : Cause} {input rest : Bytes}
    {parts : Option (Bool × List Nat)}
    (read : MaybeYields (readExponent atEnd input) parts rest) :
    ∃ exponent, input = exponent ++ rest ∧ ExponentForm exponent parts := by
  unfold readExponent at read
  split at read
  · simp only [MaybeYields.ok_iff, Optional.nothing_value, Optional.nothing_rest] at read
    obtain ⟨rfl, rfl⟩ := read
    exact ⟨[], rfl, .absent⟩
  next byte more =>
  split at read
  · simp only [MaybeYields.ok_iff, Optional.nothing_value, Optional.nothing_rest] at read
    obtain ⟨rfl, rfl⟩ := read
    exact ⟨[], rfl, .absent⟩
  next isMark =>
  dsimp only at read
  split at read
  · simp at read
  next someDigit =>
  simp only [MaybeYields.ok_iff, Optional.behind_value, Optional.behind_rest, Optional.map_value,
    Optional.map_rest, optionalExponent] at read
  obtain ⟨rfl, rfl⟩ := read
  obtain ⟨sign, shape, signed⟩ := exists_sign more
  obtain ⟨digits, shape', all, values⟩ := exists_digits (exponentSign more).2
  refine ⟨byte :: (sign ++ digits), ?_, ?_⟩
  · rw [List.cons_append, List.append_assoc, ← shape', ← shape]
  · rw [values] at someDigit ⊢
    refine .present ?_ signed ?_ all
    · simp only [ne_eq, Bool.and_eq_true, decide_eq_true_eq] at isMark
      exact Decidable.or_iff_not_not_and_not.mpr isMark
    · rintro rfl
      exact someDigit rfl

/-- An exponent is read as far as its digits go. -/
theorem readExponent_complete (atEnd : Cause) {exponent rest : Bytes}
    {parts : Option (Bool × List Nat)} (form : ExponentForm exponent parts) (ends : Ends rest) :
    MaybeYields (readExponent atEnd (exponent ++ rest)) parts rest := by
  cases form with
  | absent =>
    cases rest with
    | nil => simp [readExponent]
    | cons byte more =>
      obtain ⟨-, -, lower, upper⟩ := ends byte rfl
      rw [List.nil_append, readExponent, if_pos (by simp [lower, upper])]
      simp
  | @present mark sign digits negative marked signed someDigit all =>
    have taken := spanDigits_append all fun byte member => (ends byte member).1
    have signTaken := exponentSign_append signed someDigit all rest
    have nonempty : ¬ (spanDigits (exponentSign (sign ++ (digits ++ rest))).2).1.isEmpty := by
      simpa [signTaken, taken, digitsOf] using someDigit
    rw [List.cons_append, List.append_assoc, readExponent,
      if_neg (by rcases marked with rfl | rfl <;> decide)]
    dsimp only
    rw [if_neg nonempty]
    simp [optionalExponent, signTaken, taken]

/-! ## Whole numbers -/

/-- The first byte of a whole part is a digit. -/
theorem WholeForm.head {whole : Bytes} (form : WholeForm whole) :
    ∃ first more, whole = first :: more ∧ ascii '0' ≤ first ∧ first ≤ ascii '9' := by
  cases form with
  | zero => exact ⟨_, _, rfl, by decide, by decide⟩
  | digits lower upper _ => exact ⟨_, _, rfl, UInt8.le_trans (by decide) lower, upper⟩

/-- An exponent and what follows it start with no digit and no point. -/
theorem ExponentForm.head_append {exponent rest : Bytes} {parts : Option (Bool × List Nat)}
    (form : ExponentForm exponent parts) (ends : Ends rest) :
    ∀ byte ∈ (exponent ++ rest).head?, digit? byte = none ∧ byte ≠ ascii '.' := by
  cases form with
  | absent =>
    intro byte member
    exact ⟨(ends byte member).1, (ends byte member).2.1⟩
  | present marked =>
    intro byte member
    simp only [List.cons_append, List.head?_cons, Option.mem_def, Option.some.injEq] at member
    subst member
    rcases marked with rfl | rfl <;> exact ⟨rfl, by decide⟩

/-- A fraction and what follows it start with no digit. -/
theorem FractionForm.noDigit_append {fraction rest : Bytes} {digits : Option (List Nat)}
    (form : FractionForm fraction digits) (noDigit : NoDigit rest) :
    NoDigit (fraction ++ rest) := by
  cases form with
  | absent => exact noDigit
  | present =>
    intro byte member
    simp only [List.cons_append, List.head?_cons, Option.mem_def, Option.some.injEq] at member
    subst member
    rfl

/-- What is read after a sign is the rest of a number. -/
theorem readUnsigned_sound {atEnd : Cause} {negative : Bool} {input rest : Bytes}
    {literal : Literal} (read : Yields (readUnsigned atEnd negative input) literal rest) :
    ∃ number, input = number ++ rest ∧ NumberForm (minusSign negative ++ number) literal := by
  unfold readUnsigned at read
  obtain ⟨digits, _, _, isWhole, read⟩ := Yields.bind_parsed_iff.mp read
  obtain ⟨fractionDigits, _, _, isFraction, read⟩ := MaybeYields.bind_iff.mp read
  obtain ⟨exponentParts, last, _, isExponent, read⟩ := MaybeYields.bind_iff.mp read
  obtain ⟨whole, rfl, wholeForm, rfl⟩ := readWhole_sound isWhole
  obtain ⟨fraction, rfl, fractionForm⟩ := readFraction_sound isFraction
  obtain ⟨exponent, rfl, exponentForm⟩ := readExponent_sound isExponent
  obtain ⟨rfl, rfl⟩ : _ = literal ∧ last = rest := Yields.ok_iff.mp read
  exact ⟨whole ++ (fraction ++ exponent), by simp,
    .parts negative wholeForm fractionForm exponentForm⟩

/-- The parts of a number are read as far as they go. -/
theorem readUnsigned_complete (atEnd : Cause) (negative : Bool)
    {whole fraction exponent rest : Bytes} {fractionDigits : Option (List Nat)}
    {exponentParts : Option (Bool × List Nat)} (isWhole : WholeForm whole)
    (isFraction : FractionForm fraction fractionDigits)
    (isExponent : ExponentForm exponent exponentParts) (ends : Ends rest) :
    Yields (readUnsigned atEnd negative (whole ++ (fraction ++ (exponent ++ rest))))
      ⟨negative, digitsOf whole, fractionDigits, exponentParts⟩ rest := by
  have following := isExponent.head_append ends
  have noDigit : NoDigit (exponent ++ rest) := fun byte member => (following byte member).1
  refine Yields.bind_intro
    (readWhole_complete atEnd isWhole (isFraction.noDigit_append noDigit)) fun _ => ?_
  refine MaybeYields.bind_intro (readFraction_complete atEnd isFraction noDigit
    fun byte member => (following byte member).2) fun _ => ?_
  refine MaybeYields.bind_intro (readExponent_complete atEnd isExponent ends) fun _ => ?_
  exact Yields.ok_iff.mpr ⟨rfl, rfl⟩

/-- What is read as a number is one. -/
theorem readLiteral_sound {atEnd : Cause} {input rest : Bytes} {literal : Literal}
    (read : Yields (readLiteral atEnd input) literal rest) :
    ∃ number, input = number ++ rest ∧ NumberForm number literal := by
  unfold readLiteral at read
  split at read
  · simp at read
  next byte more =>
  split at read
  · next isMinus =>
    obtain ⟨_, _, _, readRest, read⟩ := Yields.bind_parsed_iff.mp read
    simp only [Yields.ok_iff, Parsed.behind_value, Parsed.behind_rest] at read
    obtain ⟨rfl, rfl⟩ := read
    obtain ⟨number, rfl, form⟩ := readUnsigned_sound readRest
    exact ⟨ascii '-' :: number, by rw [isMinus]; rfl, form⟩
  · obtain ⟨number, shape, form⟩ := readUnsigned_sound read
    exact ⟨number, shape, form⟩

/-- A number is read as a whole if what follows does not go on with it. -/
theorem readLiteral_complete (atEnd : Cause) {number rest : Bytes} {literal : Literal}
    (form : NumberForm number literal) (ends : Ends rest) :
    Yields (readLiteral atEnd (number ++ rest)) literal rest := by
  cases form with
  | @parts negative whole fraction exponent _ _ isWhole isFraction isExponent =>
    have unsigned := readUnsigned_complete atEnd negative isWhole isFraction isExponent ends
    cases negative with
    | true =>
      rw [List.append_assoc, List.append_assoc, List.append_assoc]
      show Yields (readLiteral atEnd (ascii '-' :: (whole ++ (fraction ++ (exponent ++ rest)))))
        _ rest
      rw [readLiteral, if_pos rfl]
      refine Yields.bind_intro unsigned fun _ => ?_
      simp
    | false =>
      obtain ⟨first, more, rfl, lower, -⟩ := isWhole.head
      have noMinus : first ≠ ascii '-' := by
        rintro rfl
        exact absurd lower (by decide)
      rw [List.append_assoc, List.append_assoc, List.append_assoc]
      show Yields (readLiteral atEnd (first :: (more ++ (fraction ++ (exponent ++ rest))))) _ rest
      rw [readLiteral, if_neg noMinus]
      exact unsigned

/-- What is passed over as a number has the form of one. -/
theorem skipNumber_sound {input rest : Bytes} (read : Yields (skipNumber input) () rest) :
    ∃ number literal, input = number ++ rest ∧ NumberForm number literal := by
  obtain ⟨literal, _, _, isLiteral, read⟩ := Yields.bind_parsed_iff.mp read
  simp only [Yields.ok_iff, Parsed.replace_rest, true_and] at read
  subst read
  obtain ⟨number, shape, form⟩ := readLiteral_sound isLiteral
  exact ⟨number, literal, shape, form⟩

/-- Every number is passed over as a whole if what follows does not go on with it. -/
theorem skipNumber_complete {number rest : Bytes} {literal : Literal}
    (form : NumberForm number literal) (ends : Ends rest) :
    Yields (skipNumber (number ++ rest)) () rest := by
  refine Yields.bind_intro (readLiteral_complete .invalidNumber form ends) fun _ => ?_
  simp

/-! ## Plain integers -/

/-- Adding digits to a number never makes it less. -/
theorem le_foldl_digits (number : Nat) (digits : List Nat) :
    number ≤ digits.foldl (fun value digit => value * 10 + digit) number := by
  induction digits generalizing number with
  | nil => exact Nat.le_refl _
  | cons digit more inductionHypothesis =>
    have following := inductionHypothesis (number * 10 + digit)
    rw [List.foldl_cons]
    omega

/-- All digits are added exactly if the number that they write fits a 64-bit word. -/
theorem accumulate_eq_nil_iff {number value : Nat} {digits : List Nat}
    (fits : number < UInt64.size) :
    accumulate number digits = (value, []) ↔
      digits.foldl (fun value digit => value * 10 + digit) number = value ∧
        value < UInt64.size := by
  induction digits generalizing number with
  | nil =>
    simp only [accumulate, Prod.mk.injEq, and_true, List.foldl_nil]
    constructor
    · rintro rfl
      exact ⟨rfl, fits⟩
    · exact And.left
  | cons digit more inductionHypothesis =>
    rw [accumulate, List.foldl_cons]
    split
    · next fitsMore => exact inductionHypothesis fitsMore
    · next tooLarge =>
      have least := le_foldl_digits (number * 10 + digit) more
      simp only [Prod.mk.injEq, reduceCtorEq, and_false, false_iff]
      rintro ⟨rfl, small⟩
      omega

/-- The number of decimal digits is the sum that is built up from zero. -/
theorem accumulate_zero_eq_nil_iff {value : Nat} {digits : List Nat} :
    accumulate 0 digits = (value, []) ↔ decimalValue digits = value ∧ value < UInt64.size :=
  accumulate_eq_nil_iff (by decide)

/-- No double is an integer of a 64-bit word. -/
theorem Literal.floating_ne_natural {literal : Literal} {value : UInt64} :
    literal.floating ≠ .ok (.natural value) := by
  unfold Literal.floating Literal.signed
  dsimp only
  repeat' split
  all_goals simp

/-- Only a plain integer denotes an integer without sign. -/
theorem Literal.denoted_eq_natural_iff {literal : Literal} {value : UInt64} :
    literal.denoted = .ok (.natural value) ↔
      literal.negative = false ∧ literal.fraction = none ∧ literal.exponent = none ∧
        decimalValue literal.whole = value.toNat := by
  unfold Literal.denoted
  split
  · next sum noFraction noExponent added =>
    obtain ⟨rfl, fits⟩ := accumulate_zero_eq_nil_iff.mp added
    cases literal.negative with
    | false =>
      simp only [noFraction, noExponent, Bool.not_false, if_true, Except.ok.injEq,
        Number.natural.injEq, true_and]
      constructor
      · rintro rfl
        exact (Nat.mod_eq_of_lt fits).symm
      · intro same
        rw [same]
        exact UInt64.ofNat_toNat
    | true =>
      simp only [Bool.not_true, Bool.false_eq_true, if_false, Literal.signed]
      split <;> simp
  · next other =>
    simp only [Literal.floating_ne_natural, false_iff]
    rintro ⟨-, noFraction, noExponent, sum⟩
    refine other value.toNat noFraction noExponent (accumulate_zero_eq_nil_iff.mpr ⟨sum, ?_⟩)
    exact value.toNat_lt

/-- What is read as an integer without sign is a plain integer that fits a 64-bit word. -/
theorem readNumber_natural_sound {input rest : Bytes} {value : UInt64}
    (read : Yields (readNumber input) (.natural value) rest) :
    ∃ number, input = number ++ rest ∧ NaturalLiteral number value.toNat := by
  unfold readNumber at read
  obtain ⟨literal, _, _, isLiteral, read⟩ := Yields.bind_parsed_iff.mp read
  dsimp only at read
  split at read
  · next denoted =>
    simp only [Yields.ok_iff, Parsed.replace_value, Parsed.replace_rest] at read
    obtain ⟨rfl, rfl⟩ := read
    obtain ⟨number, rfl, form⟩ := readLiteral_sound isLiteral
    obtain ⟨plain, noFraction, noExponent, sum⟩ := Literal.denoted_eq_natural_iff.mp denoted
    cases form with
    | parts negative isWhole isFraction isExponent =>
      dsimp only at plain noFraction noExponent sum
      subst plain noFraction noExponent
      cases isFraction
      cases isExponent
      exact ⟨_, rfl, by simpa [minusSign] using isWhole, by simpa [minusSign] using sum⟩
  · simp at read

/-- A number is read as what it denotes. -/
theorem readNumber_complete {bytes rest : Bytes} {literal : Literal} {number : Number}
    (form : NumberForm bytes literal) (denotes : literal.denoted = .ok number) (ends : Ends rest) :
    Yields (readNumber (bytes ++ rest)) number rest := by
  refine Yields.bind_intro (readLiteral_complete .endInValue form ends) fun _ => ?_
  simp [denotes]

/-- A number without a denotation is refused as out of range. -/
theorem readNumber_refused {bytes rest : Bytes} {literal : Literal} {left : Nat}
    (form : NumberForm bytes literal) (exceeds : literal.denoted = .error left)
    (ends : Ends rest) : Refused (· = .numberOutOfRange) (readNumber (bytes ++ rest)) := by
  refine Refused.bind_intro (readLiteral_complete .endInValue form ends) fun _ => ?_
  simp [exceeds]

/-- A plain integer has neither a sign nor a fraction nor an exponent. -/
theorem NaturalLiteral.numberForm {bytes : Bytes} {value : Nat}
    (literal : NaturalLiteral bytes value) :
    NumberForm bytes ⟨false, digitsOf bytes, none, none⟩ := by
  simpa [minusSign] using NumberForm.parts false literal.1 .absent .absent

/-- A plain integer that fits a 64-bit word denotes itself. -/
theorem NaturalLiteral.denoted {bytes : Bytes} {value : UInt64}
    (literal : NaturalLiteral bytes value.toNat) :
    Literal.denoted ⟨false, digitsOf bytes, none, none⟩ = .ok (.natural value) :=
  Literal.denoted_eq_natural_iff.mpr ⟨rfl, rfl, rfl, literal.2⟩

end ConformanceReport.Json
