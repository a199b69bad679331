import ConformanceReport.Outcome.Basic
import ConformanceReport.Proofs.Text.Order

/-!
# The orders of identifiers and behaviors are linear

Both orders compare encodings of texts in the end, and different texts have different encodings.
So what neither comes before nor after something is that thing itself. Encoding keeps the order of
texts, so that names come in the order of their code points (`CaseId.order_linear`).
-/

namespace ConformanceReport

/-- What comes before something is another thing. -/
theorem ne_of_order_eq_lt {α : Type} {order : α → α → Ordering} [Std.ReflCmp order]
    {left right : α} (isLess : order left right = .lt) : left ≠ right := by
  have differ : order left right ≠ .eq := by simp [isLess]
  exact Std.ReflCmp.ne_of_cmp_ne_eq differ

/-! ## Identifiers -/

namespace CaseId

/-- Numbers are compared by their values. -/
theorem order_number (left right : UInt64) :
    order (.number left) (.number right) = compare left right := rfl

/-- Names are compared by the bytes that encode them. -/
theorem order_name (left right : String) :
    order (.name left) (.name right) = compare (utf8 left) (utf8 right) := rfl

instance : Std.OrientedCmp order where
  eq_swap {left right} := by
    cases left <;> cases right
    case number.number =>
      rw [order_number, order_number]
      exact Std.OrientedCmp.eq_swap
    case name.name =>
      rw [order_name, order_name]
      exact Std.OrientedCmp.eq_swap
    all_goals rfl

instance : Std.TransCmp order where
  isLE_trans {first second third} := by
    cases first <;> cases second <;> cases third
    case number.number.number =>
      rw [order_number, order_number, order_number]
      exact Std.TransCmp.isLE_trans
    case name.name.name =>
      rw [order_name, order_name, order_name]
      exact Std.TransCmp.isLE_trans
    all_goals simp [order]

instance : Std.LawfulEqCmp order where
  eq_of_compare {left right} same := by
    cases left <;> cases right
    case number.number =>
      rw [order_number] at same
      exact congrArg _ (Std.LawfulEqCmp.eq_of_compare same)
    case name.name =>
      rw [order_name] at same
      exact congrArg _ (Utf8.utf8_inj.mp (Std.LawfulEqCmp.eq_of_compare same))
    all_goals cases same

/-- Identifiers of which neither comes after the other are the same. -/
theorem eq_of_isLE {left right : CaseId} (precedes : (left.order right).isLE = true)
    (follows : (right.order left).isLE = true) : left = right :=
  Std.LawfulEqCmp.eq_of_compare (Std.OrientedCmp.isLE_antisymm precedes follows)

/-- Where each of three identifiers compares alike to the next one, so does the first to the
last. -/
theorem order_trans {found : Ordering} {first second third : CaseId}
    (left : first.order second = found) (right : second.order third = found) :
    first.order third = found := by
  cases found with
  | lt => exact Std.TransCmp.lt_trans left right
  | eq => exact Std.TransCmp.eq_trans left right
  | gt => exact Std.TransCmp.gt_trans left right

/-- Of two identifiers one does not come after the other. -/
theorem order_total (left right : CaseId) :
    (left.order right).isLE = true ∨ (right.order left).isLE = true := by
  have turned : left.order right = (right.order left).swap := Std.OrientedCmp.eq_swap
  rw [turned]
  cases right.order left <;> simp

/-- Numbers come in the order of the natural numbers that they stand for. -/
theorem order_number_toNat (left right : UInt64) :
    order (.number left) (.number right) = compare left.toNat right.toNat := by
  simp only [order_number, compare, compareOfLessAndEq, UInt64.lt_iff_toNat_lt, ← UInt64.toNat_inj]

/-- Names come in the order of their code points. -/
theorem order_name_codePoints (left right : String) :
    order (.name left) (.name right) = compare (codePoints left) (codePoints right) := by
  rw [order_name, Utf8.compare_utf8]

/-- Identifiers are ordered linearly: their order is transitive and total, it turns round with its
sides, and only equal identifiers are equal in it; as a partial order it is the same one. Numbers
come before names and in the order of their values. Names are compared by the bytes that encode
them, which is comparing them by their code points: one comes before another exactly if it does
lexicographically. -/
theorem order_linear :
    (∀ (found : Ordering) (first second third : CaseId), first.order second = found →
        second.order third = found → first.order third = found) ∧
      (∀ first second third : CaseId, (first.order second).isLE = true →
        (second.order third).isLE = true → (first.order third).isLE = true) ∧
      (∀ left right : CaseId, (left.order right).isLE = true ∨ (right.order left).isLE = true) ∧
      (∀ left right : CaseId, left.order right = (right.order left).swap) ∧
      (∀ left right : CaseId, left.order right = .eq ↔ left = right) ∧
      (∀ left right : CaseId, left.order? right = some (left.order right)) ∧
      (∀ (value : UInt64) (text : String), order (.number value) (.name text) = .lt) ∧
      (∀ left right : UInt64,
        order (.number left) (.number right) = compare left.toNat right.toNat) ∧
      ∀ left right : String,
        order (.name left) (.name right) = compare (utf8 left) (utf8 right) ∧
          compare (utf8 left) (utf8 right) = compare (codePoints left) (codePoints right) ∧
          (order (.name left) (.name right) = .lt ↔
            List.Lex (· < ·) (codePoints left) (codePoints right)) := by
  refine ⟨fun _ _ _ _ => order_trans, fun _ _ _ => Std.TransCmp.isLE_trans, order_total,
    fun _ _ => Std.OrientedCmp.eq_swap, fun _ _ => Std.LawfulEqCmp.compare_eq_iff_eq,
    fun _ _ => rfl, fun _ _ => rfl, order_number_toNat, fun left right => ?_⟩
  refine ⟨order_name left right, Utf8.compare_utf8 left right, ?_⟩
  rw [order_name_codePoints, compare_eq_lt_iff_lex]

/-- Two names that part within a character, a name behind a start of it, a number before a greater
one and before a name, and a character of four bytes behind the last one of three. -/
theorem order_linear_within_characters :
    (order (.name "é") (.name "ê") = .lt ∧ order (.name "ê") (.name "ê1") = .lt ∧
        order (.name "é") (.name "ê1") = .lt) ∧
      (order (.number 2) (.number 10)).isLE = true ∧
      (order (.number 2) (.name "1.1.10")).isLE = true ∧
      order (.name "\uffff") (.name "😀") = .lt := by
  obtain ⟨trans, transLE, -, -, -, -, -, -, ofNames⟩ := order_linear
  have parts : order (.name "é") (.name "ê") = .lt := by decide +kernel
  have starts : order (.name "ê") (.name "ê1") = .lt := by decide +kernel
  have less : (order (.number 2) (.number 10)).isLE = true := by decide
  refine ⟨⟨parts, starts, trans .lt _ _ _ parts starts⟩, less,
    transLE _ (.number 10) _ less (by decide), ?_⟩
  obtain ⟨byBytes, byCodePoints, -⟩ := ofNames "\uffff" "😀"
  rw [byBytes, byCodePoints]
  decide +kernel

end CaseId

/-! ## Behaviors -/

namespace Behavior

/-- Behaviors are compared by their ranks, and then by their labels. -/
theorem order_eq_compareLex :
    order = compareLex (compareOn rank) (compareOn fun behavior => utf8 behavior.label) := rfl

instance : Std.TransCmp order := by
  rw [order_eq_compareLex]
  infer_instance

/-- A behavior is known by its rank and its label. -/
theorem eq_of_rank_eq_of_label_eq {left right : Behavior} (sameRank : left.rank = right.rank)
    (sameLabel : left.label = right.label) : left = right := by
  cases left <;> cases right <;> simp_all [rank, label]

instance : Std.LawfulEqCmp order where
  compare_self := Std.ReflCmp.compare_self
  eq_of_compare {left right} same := by
    rw [order, Ordering.then_eq_eq] at same
    exact eq_of_rank_eq_of_label_eq (Std.LawfulEqCmp.eq_of_compare same.1)
      (Utf8.utf8_inj.mp (Std.LawfulEqCmp.eq_of_compare same.2))

end Behavior

end ConformanceReport
