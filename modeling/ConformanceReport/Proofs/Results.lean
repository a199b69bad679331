/-!
# Results

A result is a value or the error that took its place. Steps that follow each other succeed exactly
if all of them do, and wording an error anew changes no success. Of several inputs, each adds the
result that it yields, if any, behind those of the inputs before it.
-/

namespace ConformanceReport

variable {ε ε' α β : Type}

/-- Two steps succeed exactly if the first does and the second does with its result. -/
theorem bind_eq_ok_iff {first : Except ε α} {next : α → Except ε β} {result : β} :
    (first >>= next) = .ok result ↔ ∃ value, first = .ok value ∧ next value = .ok result := by
  cases first with
  | error fault => simp [bind, Except.bind]
  | ok value => simp [bind, Except.bind]

@[simp] theorem mapError_ok {change : ε → ε'} {value : α} :
    (Except.ok value).mapError change = .ok value := rfl

@[simp] theorem mapError_error {change : ε → ε'} {error : ε} :
    (Except.error error : Except ε α).mapError change = .error (change error) := rfl

/-- A result with its error changed is a success exactly if it was one before. -/
@[simp] theorem mapError_eq_ok_iff {change : ε → ε'} {result : Except ε α} {value : α} :
    result.mapError change = .ok value ↔ result = .ok value := by
  cases result <;> simp

/-- A result with its value changed is a success exactly if it was one before. -/
theorem map_eq_ok_iff {change : α → β} {result : Except ε α} {value : β} :
    result.map change = .ok value ↔ ∃ found, result = .ok found ∧ change found = value := by
  cases result <;> simp [Except.map]

/-- A result without its error is a value exactly if it was a success. -/
theorem toOption_eq_some_iff {result : Except ε α} {value : α} :
    result.toOption = some value ↔ result = .ok value := by
  cases result <;> simp [Except.toOption]

/-- What the first of some values yields comes first. -/
theorem filterMap_cons_eq_append (yields : α → Option β) (first : α) (more : List α) :
    (first :: more).filterMap yields = (yields first).toList ++ more.filterMap yields := by
  cases yielded : yields first <;> simp [yielded]

end ConformanceReport
