/-!
# TOML values

The tree that a TOML document denotes. Each value carries its span: where it stands in the text,
in characters. Entries of a table keep the order of the document. Equality of values is decidable.
-/

namespace ConformanceReport

namespace Toml

/-- A part of a text, from a first character up to but not including a last one. -/
structure Span where
  start : Nat
  stop : Nat
  deriving DecidableEq, Repr

/-- A TOML value. Dates and times are told apart from other values only, so that their content
does not matter. -/
inductive Value where
  | text (span : Span) (value : String)
  | integer (span : Span) (value : Int)
  | floating (span : Span) (value : Float)
  | boolean (span : Span) (value : Bool)
  | moment (span : Span)
  | list (span : Span) (items : List Value)
  | table (span : Span) (entries : List (String × Value))

/-- Where a value stands. -/
def Value.span : Value → Span
  | .text span _ => span
  | .integer span _ => span
  | .floating span _ => span
  | .boolean span _ => span
  | .moment span => span
  | .list span _ => span
  | .table span _ => span

mutual

/-- Whether two values are the same, also in where they stand. -/
def Value.same : Value → Value → Bool
  | .text span value, .text other value' => span = other && value = value'
  | .integer span value, .integer other value' => span = other && value = value'
  | .floating span value, .floating other value' => span = other && value = value'
  | .boolean span value, .boolean other value' => span = other && value = value'
  | .moment span, .moment other => span = other
  | .list span items, .list other items' => span = other && sameItems items items'
  | .table span entries, .table other entries' => span = other && sameEntries entries entries'
  | _, _ => false

/-- Whether two lists hold the same values. -/
def sameItems : List Value → List Value → Bool
  | [], [] => true
  | item :: more, item' :: more' => item.same item' && sameItems more more'
  | _, _ => false

/-- Whether two tables have the same entries in the same order. -/
def sameEntries : List (String × Value) → List (String × Value) → Bool
  | [], [] => true
  | entry :: more, entry' :: more' => sameEntry entry entry' && sameEntries more more'
  | _, _ => false

/-- Whether two entries have the same key and value. -/
def sameEntry : String × Value → String × Value → Bool
  | (key, value), (key', value') => key = key' && value.same value'

end

mutual

/-- Values are the same exactly if they are equal. -/
theorem Value.same_iff : (left right : Value) → (left.same right = true ↔ left = right)
  | .text _ _, right => by cases right <;> simp [Value.same]
  | .integer _ _, right => by cases right <;> simp [Value.same]
  | .floating _ _, right => by cases right <;> simp [Value.same]
  | .boolean _ _, right => by cases right <;> simp [Value.same]
  | .moment _, right => by cases right <;> simp [Value.same]
  | .list _ items, right => by cases right <;> simp [Value.same, sameItems_iff items]
  | .table _ entries, right => by cases right <;> simp [Value.same, sameEntries_iff entries]

theorem sameItems_iff : (left right : List Value) → (sameItems left right = true ↔ left = right)
  | [], right => by cases right <;> simp [sameItems]
  | item :: more, right => by
    cases right <;> simp [sameItems, Value.same_iff item, sameItems_iff more]

theorem sameEntries_iff :
    (left right : List (String × Value)) → (sameEntries left right = true ↔ left = right)
  | [], right => by cases right <;> simp [sameEntries]
  | entry :: more, right => by
    cases right <;> simp [sameEntries, sameEntry_iff entry, sameEntries_iff more]

theorem sameEntry_iff :
    (left right : String × Value) → (sameEntry left right = true ↔ left = right)
  | (key, value), (key', value') => by simp [sameEntry, Value.same_iff value]

end

instance : DecidableEq Value := fun left right => decidable_of_iff _ (Value.same_iff left right)

end Toml

end ConformanceReport
