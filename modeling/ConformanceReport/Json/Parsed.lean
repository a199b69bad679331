import ConformanceReport.Json.Fault

/-!
# Results of readers

A reader takes a value from the front of an input and returns it with the rest, which is shorter
than the input. Results for parts of an input are put together here, so that readers need not
count bytes themselves. The insignificant bytes between the parts of a text are here too.
-/

namespace ConformanceReport

namespace Json

/-- A value read from the front of an input, with a rest that is shorter than the input. -/
structure Parsed (α : Type) (input : Bytes) where
  value : α
  rest : Bytes
  shorter : rest.length < input.length

/-- A value that may stand for nothing at the front of an input, with the rest. -/
structure Optional (α : Type) (input : Bytes) where
  value : α
  rest : Bytes
  length_le : rest.length ≤ input.length

/-- A reader of values from the front of an input. -/
abbrev Reader (κ α : Type) :=
  (input : Bytes) → Except (Fault κ) (Parsed α input)

/-- The insignificant bytes between the parts of a JSON text. -/
def isBlank (byte : UInt8) : Bool :=
  byte = ascii ' ' || byte = ascii '\n' || byte = ascii '\t' || byte = ascii '\r'

/-- What follows the insignificant bytes at the front. -/
def skipBlank (input : Bytes) : Bytes :=
  input.dropWhile isBlank

/-- Skipping never lengthens the input. -/
theorem skipBlank_length_le (input : Bytes) : (skipBlank input).length ≤ input.length := by
  induction input with
  | nil => exact Nat.le_refl _
  | cons byte rest inductionHypothesis =>
    unfold skipBlank at *
    rw [List.dropWhile_cons]
    split
    · exact Nat.le_succ_of_le inductionHypothesis
    · exact Nat.le_refl _

/-- What follows a significant byte is shorter than the input. -/
theorem skipBlank_shorter {input rest : Bytes} {byte : UInt8}
    (found : skipBlank input = byte :: rest) : rest.length < input.length := by
  have bound := skipBlank_length_le input
  rw [found] at bound
  exact bound

namespace Optional

/-- Nothing was read. -/
def nothing {α : Type} (value : α) (input : Bytes) : Optional α input :=
  ⟨value, input, Nat.le_refl _⟩

/-- A value that is made from the one that was read. -/
def map {α β : Type} {input : Bytes} (change : α → β) (optional : Optional α input) :
    Optional β input :=
  ⟨change optional.value, optional.rest, optional.length_le⟩

/-- A value that follows a first byte. -/
def behind {α : Type} {rest : Bytes} (byte : UInt8) (optional : Optional α rest) :
    Optional α (byte :: rest) :=
  ⟨optional.value, optional.rest, Nat.le_succ_of_le optional.length_le⟩

end Optional

namespace Parsed

/-- A value that a first byte stands for. -/
def single {α : Type} (value : α) (byte : UInt8) (rest : Bytes) : Parsed α (byte :: rest) :=
  ⟨value, rest, Nat.lt_succ_self _⟩

/-- Another value for the same part of the input. -/
def replace {α β : Type} {input : Bytes} (parsed : Parsed α input) (value : β) :
    Parsed β input :=
  ⟨value, parsed.rest, parsed.shorter⟩

/-- A value that is made from the one that was read. -/
def map {α β : Type} {input : Bytes} (change : α → β) (parsed : Parsed α input) :
    Parsed β input :=
  parsed.replace (change parsed.value)

/-- The result as one that might have been for nothing. -/
def optional {α : Type} {input : Bytes} (parsed : Parsed α input) : Optional α input :=
  ⟨parsed.value, parsed.rest, Nat.le_of_lt parsed.shorter⟩

/-- A value that follows a first byte. -/
def behind {α : Type} {rest : Bytes} (byte : UInt8) (parsed : Parsed α rest) :
    Parsed α (byte :: rest) :=
  ⟨parsed.value, parsed.rest, Nat.lt_succ_of_lt parsed.shorter⟩

/-- A value that follows insignificant bytes. -/
def behindBlank {α : Type} {input start : Bytes} (found : skipBlank input = start)
    (parsed : Parsed α start) : Parsed α input :=
  ⟨parsed.value, parsed.rest,
    Nat.lt_of_lt_of_le parsed.shorter (found ▸ skipBlank_length_le input)⟩

/-- A value that follows a significant byte. -/
def behindFirst {α : Type} {input rest : Bytes} {byte : UInt8}
    (found : skipBlank input = byte :: rest) (parsed : Parsed α rest) : Parsed α input :=
  ⟨parsed.value, parsed.rest, Nat.lt_trans parsed.shorter (skipBlank_shorter found)⟩

/-- A value that follows another one. -/
def andThen {α β : Type} {input : Bytes} (first : Parsed α input)
    (second : Parsed β first.rest) : Parsed β input :=
  ⟨second.value, second.rest, Nat.lt_trans second.shorter first.shorter⟩

/-- A value that may follow another one. -/
def andMaybe {α β : Type} {input : Bytes} (first : Parsed α input)
    (second : Optional β first.rest) : Parsed β input :=
  ⟨second.value, second.rest, Nat.lt_of_le_of_lt second.length_le first.shorter⟩

end Parsed

/-- A value after a first byte, if nothing else may follow that byte. -/
def Optional.behindRequired {α : Type} {rest : Bytes} (byte : UInt8)
    (optional : Optional α rest) : Parsed α (byte :: rest) :=
  ⟨optional.value, optional.rest, Nat.lt_succ_of_le optional.length_le⟩

end Json

end ConformanceReport
