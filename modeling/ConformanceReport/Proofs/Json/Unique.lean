import Mathlib.Data.Nat.Digits.Defs
import ConformanceReport.Proofs.Json.Skip
import ConformanceReport.Proofs.Json.Written

/-!
# Texts are read in one way

A reader stops at one place only, so a text is cut into values in one way (`Form.unique`), and a
string or a number of the grammar has one meaning. A plain integer is even known by its value:
it is what that value is written as (`NaturalLiteral.eq_toString`).
-/

namespace ConformanceReport.Json

/-- A result yields one value and one rest. -/
theorem Yields.unique {κ α : Type} {input rest rest' : Bytes} {value value' : α}
    {result : Except (Fault κ) (Parsed α input)} (first : Yields result value rest)
    (second : Yields result value' rest') : value = value' ∧ rest = rest' := by
  obtain ⟨parsed, rfl, rfl, rfl⟩ := first
  exact Yields.ok_iff.mp second

/-- A text is cut at its first significant byte in one way. -/
theorem Blank.unique {before before' rest rest' : Bytes} {byte byte' : UInt8} (blank : Blank before)
    (blank' : Blank before') (significant : isBlank byte = false)
    (significant' : isBlank byte' = false)
    (same : before ++ byte :: rest = before' ++ byte' :: rest') :
    before = before' ∧ byte = byte' ∧ rest = rest' := by
  have found := skipBlank_append_cons blank significant rest
  rw [same, skipBlank_append_cons blank' significant' rest'] at found
  rw [found] at same
  obtain ⟨rfl, rfl⟩ := List.cons.inj found
  exact ⟨List.append_cancel_right same, rfl, rfl⟩

/-- A text is cut behind what separates an entry in one way. -/
theorem Separates.unique {first : Bool} {separator separator' rest rest' : Bytes}
    {byte byte' : UInt8} (separates : Separates first separator)
    (separates' : Separates first separator') (significant : isBlank byte = false)
    (significant' : isBlank byte' = false)
    (same : separator ++ byte :: rest = separator' ++ byte' :: rest') :
    byte :: rest = byte' :: rest' := by
  cases separates with
  | first blank =>
    cases separates' with
    | first blank' =>
      obtain ⟨-, rfl, rfl⟩ := blank.unique blank' significant significant' same
      rfl
  | later blank blankBetween =>
    cases separates' with
    | later blank' blankBetween' =>
      have isComma : isBlank (ascii ',') = false := by decide
      simp only [List.append_assoc, List.cons_append] at same
      obtain ⟨-, -, afterComma⟩ := blank.unique blank' isComma isComma same
      obtain ⟨-, rfl, rfl⟩ :=
        blankBetween.unique blankBetween' significant significant' afterComma
      rfl

/-- Where an object ends no further member stands. -/
theorem Separates.not_close {first : Bool} {before separator rest rest' : Bytes}
    (blank : Blank before) (separates : Separates first separator) :
    before ++ ascii '\x7d' :: rest ≠ separator ++ ascii '"' :: rest' := by
  intro same
  have isClosing : isBlank (ascii '\x7d') = false := by decide
  cases separates with
  | first blank' =>
    have impossible := (blank.unique blank' isClosing (by decide) same).2.1
    exact absurd impossible (by decide)
  | later blank' =>
    rw [List.append_assoc, List.cons_append] at same
    have impossible := (blank.unique blank' isClosing (by decide) same).2.1
    exact absurd impossible (by decide)

/-- Numbers end in front of insignificant bytes up to the end of a text. -/
theorem Blank.ends {after : Bytes} (blank : Blank after) : Ends after := by
  have nothing : Ends [] := by simp [Ends]
  have ends := Ends.blank_append blank nothing
  rwa [List.append_nil] at ends

/-- A text is cut into a first value and what follows it in one way. -/
theorem Form.unique {before before' value value' rest rest' : Bytes} (blank : Blank before)
    (blank' : Blank before') (form : Form .value value) (form' : Form .value value')
    (ends : Ends rest) (ends' : Ends rest')
    (same : before ++ (value ++ rest) = before' ++ (value' ++ rest')) :
    before = before' ∧ value = value' ∧ rest = rest' := by
  have first := skipValue_complete blank form ends
  rw [same] at first
  obtain rfl := (first.unique (skipValue_complete blank' form' ends')).2
  obtain ⟨byte, more, rfl, starts⟩ := form.value_head
  obtain ⟨byte', more', rfl, starts'⟩ := form'.value_head
  rw [List.cons_append, List.cons_append] at same
  obtain ⟨rfl, rfl, rests⟩ := blank.unique blank' starts.1 starts'.1 same
  rw [List.append_cancel_right rests]
  exact ⟨rfl, rfl, rfl⟩

/-- A string denotes one text. -/
theorem TextLiteral.unique {bytes : Bytes} {text text' : String} (literal : TextLiteral bytes text)
    (literal' : TextLiteral bytes text') : text = text' := by
  obtain ⟨body, rfl, denotes⟩ := literal
  obtain ⟨body', same, denotes'⟩ := literal'
  obtain rfl := List.append_cancel_right (List.cons.inj same).2
  have first : Yields (readText (body ++ [ascii '"'])) text [] :=
    readText_yields_iff.mpr ⟨body, rfl, denotes⟩
  exact (first.unique (readText_yields_iff.mpr ⟨body, rfl, denotes'⟩)).1

/-- A number has one sign, one whole part, one fraction and one exponent. -/
theorem NumberForm.unique {bytes : Bytes} {literal literal' : Literal}
    (form : NumberForm bytes literal) (form' : NumberForm bytes literal') : literal = literal' := by
  have ends : Ends [] := by simp [Ends]
  exact ((readLiteral_complete .endInValue form ends).unique
    (readLiteral_complete .endInValue form' ends)).1

/-! ## Plain integers -/

/-- Digits are the values of their bytes. -/
theorem eq_of_digitsOf_eq {left right : Bytes} (isLeft : Digits left) (isRight : Digits right)
    (same : digitsOf left = digitsOf right) : left = right := by
  induction left generalizing right with
  | nil => exact (List.map_eq_nil_iff.mp same.symm).symm
  | cons byte more inductionHypothesis =>
    cases right with
    | nil => cases same
    | cons byte' more' =>
      obtain ⟨sameByte, sameMore⟩ := List.cons.inj same
      dsimp only at sameByte
      obtain ⟨⟨lower, -⟩, isMore⟩ := List.forall_mem_cons.mp isLeft
      obtain ⟨⟨lower', -⟩, isMore'⟩ := List.forall_mem_cons.mp isRight
      have least : 48 ≤ byte.toNat := UInt8.le_iff_toNat_le.mp lower
      have least' : 48 ≤ byte'.toNat := UInt8.le_iff_toNat_le.mp lower'
      have value : byte.toNat = byte'.toNat := by omega
      rw [UInt8.toNat_inj.mp value, inductionHypothesis isMore isMore' sameMore]

/-- The number that digits write has these digits, the last one first. -/
theorem decimalValue_eq_ofDigits (digits : List Nat) :
    decimalValue digits = Nat.ofDigits 10 digits.reverse := by
  rw [Nat.ofDigits_eq_foldr, List.foldr_reverse, decimalValue]
  congr 1
  funext value digit
  rw [Nat.mul_comm, Nat.add_comm]
  rfl

/-- A whole part is made of digits. -/
theorem WholeForm.digits_all {whole : Bytes} (form : WholeForm whole) : Digits whole := by
  cases form with
  | zero => simp [Digits, ascii]
  | digits least greatest all =>
    exact List.forall_mem_cons.mpr ⟨⟨UInt8.le_trans (by decide) least, greatest⟩, all⟩

/-- The first digit of a whole part is zero only in a single zero. -/
theorem WholeForm.digits_decimalValue {whole : Bytes} (form : WholeForm whole)
    (notZero : whole ≠ [ascii '0']) :
    Nat.digits 10 (decimalValue (digitsOf whole)) = (digitsOf whole).reverse := by
  rw [decimalValue_eq_ofDigits]
  apply Nat.digits_ofDigits 10 (by decide)
  · intro digit member
    rw [List.mem_reverse] at member
    obtain ⟨byte, isByte, rfl⟩ := List.mem_map.mp member
    have upper : byte.toNat ≤ 57 := UInt8.le_iff_toNat_le.mp (form.digits_all byte isByte).2
    omega
  · intro _
    rw [List.getLast_reverse]
    cases form with
    | zero => exact absurd rfl notZero
    | @digits first more least =>
      have lower : 49 ≤ first.toNat := UInt8.le_iff_toNat_le.mp least
      show first.toNat - 48 ≠ 0
      omega

/-- A plain integer that is not written as a single zero is not zero. -/
theorem WholeForm.decimalValue_ne_zero {whole : Bytes} (form : WholeForm whole)
    (notZero : whole ≠ [ascii '0']) : decimalValue (digitsOf whole) ≠ 0 := by
  intro isZero
  have digits := form.digits_decimalValue notZero
  rw [isZero, Nat.digits_zero, eq_comm, List.reverse_eq_nil_iff] at digits
  obtain ⟨first, more, rfl, -⟩ := form.head
  cases digits

/-- A plain integer is known by its value. -/
theorem NaturalLiteral.unique {left right : Bytes} {value : Nat}
    (isLeft : NaturalLiteral left value) (isRight : NaturalLiteral right value) : left = right := by
  obtain ⟨wholeLeft, rfl⟩ := isLeft
  obtain ⟨wholeRight, same⟩ := isRight
  have zero : decimalValue (digitsOf [ascii '0']) = 0 := rfl
  by_cases leftZero : left = [ascii '0']
  · subst leftZero
    by_contra differ
    exact wholeRight.decimalValue_ne_zero (Ne.symm differ) (same.trans zero)
  by_cases rightZero : right = [ascii '0']
  · subst rightZero
    exact absurd (same.symm.trans zero) (wholeLeft.decimalValue_ne_zero leftZero)
  have digits := wholeLeft.digits_decimalValue leftZero
  rw [← same, wholeRight.digits_decimalValue rightZero] at digits
  exact eq_of_digitsOf_eq wholeLeft.digits_all wholeRight.digits_all
    (List.reverse_inj.mp digits).symm

/-- A plain integer is what its value is written as. -/
theorem NaturalLiteral.eq_toString {bytes : Bytes} {value : Nat}
    (literal : NaturalLiteral bytes value) : bytes = utf8 (toString value) :=
  literal.unique (naturalLiteral_toString value)

end ConformanceReport.Json
