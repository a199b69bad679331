import ConformanceReport.Json.Value

/-!
# Passing over JSON values

A value that nobody asks for is passed over by its form alone. Nesting has no limit, so the
brackets still open are kept on an explicit stack. Strings and numbers are checked for form
only: escapes need not denote characters, bytes need not be UTF-8, numbers have no range.
-/

namespace ConformanceReport

namespace Json

/-- The two kinds of container. -/
inductive Bracket where
  | list
  | object
  deriving DecidableEq, Repr

namespace Bracket

/-- The byte that closes a container. -/
def closing : Bracket → UInt8
  | .list => ascii ']'
  | .object => ascii '\x7d'

/-- The container that a byte opens. -/
def opened? (byte : UInt8) : Option Bracket :=
  if byte = ascii '[' then some .list
  else if byte = ascii '\x7b' then some .object
  else none

/-- A text that ends inside the container. -/
def endInside : Bracket → Cause
  | .list => .endInList
  | .object => .endInObject

/-- A text with no separator after an item. -/
def separatorExpected : Bracket → Cause
  | .list => .listSeparatorExpected
  | .object => .memberSeparatorExpected

end Bracket

/-- Passes over a key and its colon. -/
def skipKey : Reader Cause Unit := fun input =>
  match found : skipBlank input with
  | [] => .error ⟨.endInObject, [], .peeked⟩
  | byte :: rest =>
    if byte ≠ ascii '"' then .error ⟨.keyNotText, byte :: rest, .peeked⟩
    else do
      let key ← skipText rest
      let colon ← readColon key.rest
      .ok ((key.andThen colon).behindFirst found)

/-- Where the value of the next entry starts: at once in a list, after a key in an object. -/
def skipToValue (bracket : Bracket) (input : Bytes) :
    Except (Fault Cause) (Optional Unit input) :=
  match bracket with
  | .list => .ok (.nothing () input)
  | .object => do
    let key ← skipKey input
    .ok key.optional

/-- The next entry, which starts at what follows some insignificant bytes. -/
def Optional.entering {input start : Bytes} (found : skipBlank input = start)
    (optional : Optional Unit start) : Next input :=
  .entry optional.rest (Nat.le_trans optional.length_le (found ▸ skipBlank_length_le input))

/-- The next entry, which starts at what follows a separator. -/
def Optional.separated {input rest : Bytes} {byte : UInt8}
    (found : skipBlank input = byte :: rest) (optional : Optional Unit rest) : Next input :=
  .entry optional.rest
    (Nat.le_trans optional.length_le (Nat.le_of_lt (skipBlank_shorter found)))

/-- What stands next inside a container that is passed over. An entry is left at its value. -/
def skipToNext (first : Bool) (bracket : Bracket) (input : Bytes) :
    Except (Fault Cause) (Next input) :=
  match found : skipBlank input with
  | [] => .error ⟨bracket.endInside, [], .peeked⟩
  | byte :: rest =>
    if byte = bracket.closing then .ok (.closing found)
    else if first then do
      let value ← skipToValue bracket (byte :: rest)
      .ok (value.entering found)
    else if byte = ascii ',' then do
      let value ← skipToValue bracket rest
      .ok (value.separated found)
    else .error ⟨bracket.separatorExpected, byte :: rest, .peeked⟩

/-- Passes over a value that is no container. The input starts at its first byte. -/
def skipScalar : Reader Cause Unit
  | [] => .error ⟨.endInValue, [], .peeked⟩
  | byte :: rest =>
    if byte = ascii '"' then do
      let text ← skipText rest
      .ok (text.behind byte)
    else if byte = ascii '-' || (digit? byte).isSome then skipNumber (byte :: rest)
    else do
      let scalar ← readScalar (byte :: rest)
      .ok (scalar.map fun _ => ())

/-- What is awaited at a point between two entries of the open containers. -/
inductive Awaited where
  | value
  | separator
  deriving DecidableEq, Repr

/-- Passes over what is left of the value that started the `pending` containers, innermost
first. Yields what follows it. -/
def skipFrom (awaited : Awaited) (pending : List Bracket) (input : Bytes) :
    Except (Fault Cause) Bytes :=
  match awaited, pending with
  | .separator, [] => .ok input
  | .separator, bracket :: outer =>
    match skipToNext false bracket input with
    | .error fault => .error fault
    | .ok (.close rest _) => skipFrom .separator outer rest
    | .ok (.entry start _) => skipFrom .value (bracket :: outer) start
  | .value, pending =>
    match _found : skipBlank input with
    | [] => .error ⟨.endInValue, [], .peeked⟩
    | byte :: rest =>
      match Bracket.opened? byte with
      | some bracket =>
        match skipToNext true bracket rest with
        | .error fault => .error fault
        | .ok (.close rest _) => skipFrom .separator pending rest
        | .ok (.entry start _) => skipFrom .value (bracket :: pending) start
      | none =>
        match skipScalar (byte :: rest) with
        | .error fault => .error fault
        | .ok scalar => skipFrom .separator pending scalar.rest
termination_by (input.length, if awaited = .separator then 1 else 0)
decreasing_by
  · exact Prod.Lex.left _ _ (by assumption)
  · rename_i length_le
    rcases Nat.lt_or_eq_of_le length_le with smaller | equal
    · exact Prod.Lex.left _ _ smaller
    · rw [equal]
      exact Prod.Lex.right _ (by decide)
  all_goals
    have bound := skipBlank_length_le input
    rw [_found, List.length_cons] at bound
    apply Prod.Lex.left
  · rename_i shorter
    omega
  · rename_i length_le
    omega
  · have := scalar.shorter
    rw [List.length_cons] at this
    omega

/-- Passing over what is left never lengthens the input, and shortens it if a value is awaited. -/
theorem skipFrom_length_le {awaited : Awaited} {pending : List Bracket} {input rest : Bytes}
    (skipped : skipFrom awaited pending input = .ok rest) :
    rest.length + (if awaited = .value then 1 else 0) ≤ input.length := by
  fun_induction skipFrom awaited pending input with
  | case1 input =>
    cases skipped
    simp
  | case2 => cases skipped
  | case3 input bracket outer next shorter read inductionHypothesis =>
    have := inductionHypothesis skipped
    simp at *
    omega
  | case4 input bracket outer start length_le read inductionHypothesis =>
    have := inductionHypothesis skipped
    simp at *
    omega
  | case5 => cases skipped
  | case6 => cases skipped
  | case7 input pending byte rest found bracket opened next shorter read inductionHypothesis =>
    have := inductionHypothesis skipped
    have bound := skipBlank_length_le input
    rw [found] at bound
    simp at *
    omega
  | case8 input pending byte rest found bracket opened start length_le read inductionHypothesis =>
    have := inductionHypothesis skipped
    have bound := skipBlank_length_le input
    rw [found] at bound
    simp at *
    omega
  | case9 => cases skipped
  | case10 input pending byte rest found opened scalar read inductionHypothesis =>
    have := inductionHypothesis skipped
    have := scalar.shorter
    have bound := skipBlank_length_le input
    rw [found] at bound
    simp at *
    omega

/-- Passes over one value. -/
def skipValue : Reader Cause Unit := fun input =>
  match skipped : skipFrom .value [] input with
  | .error fault => .error fault
  | .ok rest => .ok ⟨(), rest, skipFrom_length_le skipped⟩

end Json

end ConformanceReport
