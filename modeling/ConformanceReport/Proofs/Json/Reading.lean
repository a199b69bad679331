import Mathlib.Data.List.TakeWhile
import ConformanceReport.Proofs.Json.Grammar
import ConformanceReport.Proofs.Results

/-!
# What a reader yields

A reader returns its rest with a proof that it is shorter. `Yields` forgets that proof, so that
laws of readers speak of inputs, values and rests alone. The insignificant bytes and the
separators inside containers are here; each law says exactly when a reader succeeds.
-/

namespace ConformanceReport.Json

namespace Optional

variable {α β : Type}

@[simp] theorem nothing_value {value : α} {input : Bytes} :
    (nothing value input).value = value := rfl

@[simp] theorem nothing_rest {value : α} {input : Bytes} :
    (nothing value input).rest = input := rfl

@[simp] theorem map_value {input : Bytes} {change : α → β} {optional : Optional α input} :
    (optional.map change).value = change optional.value := rfl

@[simp] theorem map_rest {input : Bytes} {change : α → β} {optional : Optional α input} :
    (optional.map change).rest = optional.rest := rfl

@[simp] theorem behind_value {rest : Bytes} {byte : UInt8} {optional : Optional α rest} :
    (optional.behind byte).value = optional.value := rfl

@[simp] theorem behind_rest {rest : Bytes} {byte : UInt8} {optional : Optional α rest} :
    (optional.behind byte).rest = optional.rest := rfl

end Optional

namespace Parsed

variable {α β : Type}

@[simp] theorem single_value {value : α} {byte : UInt8} {rest : Bytes} :
    (single value byte rest).value = value := rfl

@[simp] theorem single_rest {value : α} {byte : UInt8} {rest : Bytes} :
    (single value byte rest).rest = rest := rfl

@[simp] theorem replace_value {input : Bytes} {parsed : Parsed α input} {value : β} :
    (parsed.replace value).value = value := rfl

@[simp] theorem replace_rest {input : Bytes} {parsed : Parsed α input} {value : β} :
    (parsed.replace value).rest = parsed.rest := rfl

@[simp] theorem map_value {input : Bytes} {change : α → β} {parsed : Parsed α input} :
    (parsed.map change).value = change parsed.value := rfl

@[simp] theorem map_rest {input : Bytes} {change : α → β} {parsed : Parsed α input} :
    (parsed.map change).rest = parsed.rest := rfl

@[simp] theorem behind_value {rest : Bytes} {byte : UInt8} {parsed : Parsed α rest} :
    (parsed.behind byte).value = parsed.value := rfl

@[simp] theorem behind_rest {rest : Bytes} {byte : UInt8} {parsed : Parsed α rest} :
    (parsed.behind byte).rest = parsed.rest := rfl

@[simp] theorem behindBlank_value {input start : Bytes} {found : skipBlank input = start}
    {parsed : Parsed α start} :
    (parsed.behindBlank found).value = parsed.value := rfl

@[simp] theorem behindBlank_rest {input start : Bytes} {found : skipBlank input = start}
    {parsed : Parsed α start} :
    (parsed.behindBlank found).rest = parsed.rest := rfl

@[simp] theorem behindFirst_rest {input rest : Bytes} {byte : UInt8}
    {found : skipBlank input = byte :: rest} {parsed : Parsed α rest} :
    (parsed.behindFirst found).rest = parsed.rest := rfl

@[simp] theorem andThen_value {input : Bytes} {first : Parsed α input}
    {second : Parsed β first.rest} :
    (first.andThen second).value = second.value := rfl

@[simp] theorem andThen_rest {input : Bytes} {first : Parsed α input}
    {second : Parsed β first.rest} :
    (first.andThen second).rest = second.rest := rfl

end Parsed

/-- A result is a value from the front of an input, and what follows it. -/
def Yields {κ α : Type} {input : Bytes} (result : Except (Fault κ) (Parsed α input)) (value : α)
    (rest : Bytes) : Prop :=
  ∃ parsed, result = .ok parsed ∧ parsed.value = value ∧ parsed.rest = rest

namespace Yields

variable {κ α β : Type} {input rest : Bytes} {value : α}

/-- A success yields its own value and rest. -/
theorem of_ok {result : Except (Fault κ) (Parsed α input)} {parsed : Parsed α input}
    (read : result = .ok parsed) : Yields result parsed.value parsed.rest :=
  ⟨parsed, read, rfl, rfl⟩

/-- What is yielded makes up the whole result. -/
theorem eq_ok {result : Except (Fault κ) (Parsed α input)} (read : Yields result value rest) :
    ∃ shorter, result = .ok ⟨value, rest, shorter⟩ := by
  obtain ⟨⟨_, _, shorter⟩, rfl, rfl, rfl⟩ := read
  exact ⟨shorter, rfl⟩

@[simp] theorem ok_iff {parsed : Parsed α input} :
    Yields (.ok parsed : Except (Fault κ) (Parsed α input)) value rest ↔
      parsed.value = value ∧ parsed.rest = rest := by
  simp [Yields]

@[simp] theorem error_iff {fault : Fault κ} :
    Yields (.error fault : Except (Fault κ) (Parsed α input)) value rest ↔ False := by
  simp [Yields]

/-- A result of two steps yields what the second yields after the first. -/
theorem bind_iff {γ : Type} {first : Except (Fault κ) γ}
    {next : γ → Except (Fault κ) (Parsed α input)} :
    Yields (first >>= next) value rest ↔
      ∃ found, first = .ok found ∧ Yields (next found) value rest := by
  cases first with
  | error fault => simp [bind, Except.bind]
  | ok found => simp [bind, Except.bind]

/-- A result of two readers is a value of the first, and what the second yields after it. -/
theorem bind_parsed_iff {inner : Bytes} {first : Except (Fault κ) (Parsed β inner)}
    {next : Parsed β inner → Except (Fault κ) (Parsed α input)} :
    Yields (first >>= next) value rest ↔
      ∃ found middle shorter, Yields first found middle ∧
        Yields (next ⟨found, middle, shorter⟩) value rest := by
  rw [bind_iff]
  constructor
  · rintro ⟨⟨found, middle, shorter⟩, read, follows⟩
    exact ⟨found, middle, shorter, .of_ok read, follows⟩
  · rintro ⟨found, middle, shorter, ⟨parsed, read, rfl, rfl⟩, follows⟩
    exact ⟨parsed, read, follows⟩

/-- What the first of two readers yields is shorter than its input. -/
theorem bind_intro {inner middle : Bytes} {found : β}
    {first : Except (Fault κ) (Parsed β inner)}
    {next : Parsed β inner → Except (Fault κ) (Parsed α input)} (read : Yields first found middle)
    (follows : ∀ shorter, Yields (next ⟨found, middle, shorter⟩) value rest) :
    Yields (first >>= next) value rest := by
  obtain ⟨shorter, rfl⟩ := read.eq_ok
  exact follows shorter

end Yields

/-- A result is a value that may stand for nothing at the front of an input, and what follows. -/
def MaybeYields {κ α : Type} {input : Bytes} (result : Except (Fault κ) (Optional α input))
    (value : α) (rest : Bytes) : Prop :=
  ∃ optional, result = .ok optional ∧ optional.value = value ∧ optional.rest = rest

namespace MaybeYields

variable {κ α β : Type} {input rest : Bytes} {value : α}

@[simp] theorem ok_iff {optional : Optional α input} :
    MaybeYields (.ok optional : Except (Fault κ) (Optional α input)) value rest ↔
      optional.value = value ∧ optional.rest = rest := by
  simp [MaybeYields]

@[simp] theorem error_iff {fault : Fault κ} :
    MaybeYields (.error fault : Except (Fault κ) (Optional α input)) value rest ↔ False := by
  simp [MaybeYields]

/-- A result after a part that may stand for nothing is that part, and what the next reader yields
after it. -/
theorem bind_iff {inner : Bytes} {first : Except (Fault κ) (Optional β inner)}
    {next : Optional β inner → Except (Fault κ) (Parsed α input)} :
    Yields (first >>= next) value rest ↔
      ∃ found middle length_le, MaybeYields first found middle ∧
        Yields (next ⟨found, middle, length_le⟩) value rest := by
  rw [Yields.bind_iff]
  constructor
  · rintro ⟨⟨found, middle, length_le⟩, read, follows⟩
    exact ⟨found, middle, length_le, ⟨_, read, rfl, rfl⟩, follows⟩
  · rintro ⟨found, middle, length_le, ⟨optional, read, rfl, rfl⟩, follows⟩
    exact ⟨optional, read, follows⟩

/-- What a reader leaves that may read nothing is no longer than its input. -/
theorem bind_intro {inner middle : Bytes} {found : β}
    {first : Except (Fault κ) (Optional β inner)}
    {next : Optional β inner → Except (Fault κ) (Parsed α input)}
    (read : MaybeYields first found middle)
    (follows : ∀ length_le, Yields (next ⟨found, middle, length_le⟩) value rest) :
    Yields (first >>= next) value rest := by
  obtain ⟨⟨_, _, length_le⟩, rfl, rfl, rfl⟩ := read
  exact follows length_le

end MaybeYields

/-- A result is a refusal with a certain cause. -/
def Refused {κ α : Type} (isCause : κ → Prop) (result : Except (Fault κ) α) : Prop :=
  ∃ fault, result = .error fault ∧ isCause fault.cause

namespace Refused

variable {κ α β : Type} {isCause : κ → Prop}

@[simp] theorem error_iff {fault : Fault κ} :
    Refused isCause (.error fault : Except (Fault κ) α) ↔ isCause fault.cause := by
  simp [Refused]

/-- A refusal of the first step is one of the whole. -/
theorem bind_left {first : Except (Fault κ) β} (refused : Refused isCause first)
    (next : β → Except (Fault κ) α) : Refused isCause (first >>= next) := by
  obtain ⟨fault, rfl, cause⟩ := refused
  exact ⟨fault, rfl, cause⟩

/-- A refusal of the second step is one of the whole. -/
theorem bind_right {first : Except (Fault κ) β} {found : β} (read : first = .ok found)
    {next : β → Except (Fault κ) α} (refused : Refused isCause (next found)) :
    Refused isCause (first >>= next) := by
  rw [read]
  exact refused

/-- A refusal of the second of two readers is one of both. -/
theorem bind_intro {inner middle : Bytes} {found : β} {first : Except (Fault κ) (Parsed β inner)}
    {next : Parsed β inner → Except (Fault κ) α} (read : Yields first found middle)
    (refused : ∀ shorter, Refused isCause (next ⟨found, middle, shorter⟩)) :
    Refused isCause (first >>= next) := by
  obtain ⟨shorter, isOk⟩ := read.eq_ok
  exact bind_right isOk (refused shorter)

end Refused

/-! ## Insignificant bytes -/

@[simp] theorem blank_nil : Blank [] := by
  simp [Blank]

/-- Two runs of bytes are insignificant together exactly if each is. -/
theorem blank_append_iff {first second : Bytes} :
    Blank (first ++ second) ↔ Blank first ∧ Blank second := by
  simp [Blank, or_imp, forall_and]

/-- What is left after skipping is no longer than the input. -/
theorem length_le_of_skipBlank {input start : Bytes} (found : skipBlank input = start) :
    start.length ≤ input.length :=
  found ▸ skipBlank_length_le input

/-- Insignificant bytes at the front are skipped. -/
theorem skipBlank_append {before : Bytes} (blank : Blank before) (rest : Bytes) :
    skipBlank (before ++ rest) = skipBlank rest :=
  List.dropWhile_append_of_pos blank

/-- A significant byte stops the skipping. -/
theorem skipBlank_cons {byte : UInt8} (significant : isBlank byte = false) (rest : Bytes) :
    skipBlank (byte :: rest) = byte :: rest :=
  List.dropWhile_cons_of_neg (by simp [significant])

/-- A significant byte after insignificant ones is where the skipping ends. -/
theorem skipBlank_append_cons {before : Bytes} (blank : Blank before) {byte : UInt8}
    (significant : isBlank byte = false) (rest : Bytes) :
    skipBlank (before ++ byte :: rest) = byte :: rest := by
  rw [skipBlank_append blank, skipBlank_cons significant]

/-- What was skipped is insignificant, and what is left starts with a significant byte. -/
theorem skipBlank_eq_cons_iff {input rest : Bytes} {byte : UInt8} :
    skipBlank input = byte :: rest ↔
      isBlank byte = false ∧ ∃ before, Blank before ∧ input = before ++ byte :: rest := by
  constructor
  · intro skipped
    refine ⟨?_, input.takeWhile isBlank, fun _ member => List.mem_takeWhile_imp member, ?_⟩
    · have stopped := List.head?_dropWhile_not isBlank input
      rw [← skipBlank, skipped] at stopped
      simpa using stopped
    · rw [← skipped, skipBlank, List.takeWhile_append_dropWhile]
  · rintro ⟨significant, before, blank, rfl⟩
    exact skipBlank_append_cons blank significant rest

/-- Nothing is left exactly of insignificant bytes. -/
theorem skipBlank_eq_nil_iff {input : Bytes} : skipBlank input = [] ↔ Blank input := by
  rw [skipBlank, List.dropWhile_eq_nil_iff, Blank]

end ConformanceReport.Json
