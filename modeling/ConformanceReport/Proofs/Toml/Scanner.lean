import ConformanceReport.Toml.Scanner

/-!
# What scanners yield

A property of everything that a scanner yields is derived part by part, in the way in which the
scanner is put together; where a scanner stands in the text never matters for it.
-/

namespace ConformanceReport.Toml

open Scanner

/-- Everything that a scanner yields has a property. -/
def Scanner.Gives {α : Type} (property : α → Prop) (scanner : Scanner α) : Prop :=
  ∀ cursor value after, scanner cursor = some (value, after) → property value

namespace Scanner.Gives

variable {α β : Type} {property : α → Prop} {result : β → Prop}

theorem pure {value : α} (holds : property value) : Gives property (pure value : Scanner α) := by
  intro cursor found after yielded
  cases yielded
  exact holds

theorem failure : Gives property (failure : Scanner α) := by
  intro cursor found after yielded
  cases yielded

/-- What needs no scanning has the property as well. -/
theorem lift {found? : Option α} (gives : ∀ value, found? = some value → property value) :
    Gives property (StateT.lift found? : Scanner α) := by
  intro cursor found after yielded
  obtain ⟨value, isFound, same⟩ := Option.bind_eq_some_iff.mp yielded
  cases same
  exact gives found isFound

theorem bind {first : Scanner α} {next : α → Scanner β} (gives : Gives property first)
    (givesNext : ∀ value, property value → Gives result (next value)) :
    Gives result (first >>= next) := by
  intro cursor found after yielded
  obtain ⟨⟨value, middle⟩, isFirst, isNext⟩ := Option.bind_eq_some_iff.mp yielded
  exact givesNext value (gives cursor value middle isFirst) middle found after isNext

/-- What comes first does not matter if what follows it has the property anyway. -/
theorem behind (first : Scanner α) {next : α → Scanner β}
    (givesNext : ∀ value, Gives result (next value)) : Gives result (first >>= next) := by
  have givesAnything : Gives (fun _ => True) first := fun _ _ _ _ => trivial
  exact givesAnything.bind fun value _ => givesNext value

theorem orElse {first second : Scanner α} (gives : Gives property first)
    (givesSecond : Gives property second) : Gives property (first <|> second) := by
  intro cursor found after yielded
  change (first cursor <|> second cursor) = some (found, after) at yielded
  cases isFirst : first cursor with
  | some pair =>
    rw [isFirst] at yielded
    cases yielded
    exact gives cursor found after isFirst
  | none =>
    rw [isFirst] at yielded
    exact givesSecond cursor found after yielded

theorem manyWithin {item : Scanner α} (gives : Gives property item) (fuel : Nat) :
    Gives (fun values => ∀ value ∈ values, property value) (item.manyWithin fuel) := by
  induction fuel with
  | zero => exact pure (by simp)
  | succ fuel inductionHypothesis =>
    intro cursor found after yielded
    unfold Scanner.manyWithin at yielded
    split at yielded
    · cases yielded
      simp
    · next value next isItem =>
      have isGiven : property value := gives cursor value next isItem
      have givesAll : Gives (fun values => ∀ value ∈ values, property value)
          (do return value :: (← item.manyWithin fuel)) :=
        inductionHypothesis.bind fun more given =>
          pure (List.forall_mem_cons.mpr ⟨isGiven, given⟩)
      split at yielded
      · exact givesAll next found after yielded
      · cases yielded
        simp

theorem many {item : Scanner α} (gives : Gives property item) :
    Gives (fun values => ∀ value ∈ values, property value) item.many :=
  behind _ fun cursor => gives.manyWithin (cursor.size - cursor.offset + 1)

theorem onWhole {scanner : Scanner α} (gives : Gives property scanner) {text : List Char}
    {value : α} (yielded : scanner.onWhole text = some value) : property value := by
  obtain ⟨⟨found, cursor⟩, isFound, atEnd⟩ := Option.bind_eq_some_iff.mp yielded
  obtain ⟨-, -, same⟩ := Option.bind_eq_some_iff.mp atEnd
  cases same
  exact gives _ value cursor isFound

end Scanner.Gives

end ConformanceReport.Toml
