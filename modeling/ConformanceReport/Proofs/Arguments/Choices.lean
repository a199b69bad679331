import ConformanceReport.Arguments.Read
import Mathlib.Data.List.Nodup

/-!
# Options taken one after the other

A command line comes down to a sequence of choices: settings with values, and switches. Taking them
in order gives the same options whatever the order is, as long as none of them comes twice
(`ofChoices_of_perm`). A choice that comes twice is refused (`ofChoices_of_repeated`), and so are
choices without the path (`ofChoices_of_not_mem`).
-/

namespace ConformanceReport

namespace Arguments

/-- An option as it is chosen. -/
inductive Choice where
  | setting (setting : Setting) (value : Path)
  | switch (switch : Switch)
  deriving DecidableEq, Repr

namespace Choice

/-- The option that a choice is about. -/
def option : Choice → Named
  | .setting chosen _ => .setting chosen
  | .switch chosen => .switch chosen

/-- A setting is chosen with some value that is not empty. -/
def IsFilled : Choice → Prop
  | .setting _ value => value ≠ []
  | .switch _ => True

end Choice

/-- The choices that amount to some arguments. -/
def choices (arguments : Arguments) : List Choice :=
  .setting .path arguments.path :: (arguments.config.toList.map (Choice.setting .config) ++
    ((if arguments.verbose then [.switch .verbose] else []) ++
      ((if arguments.quiet then [.switch .quiet] else []) ++
        (if arguments.failOnVerdict then [.switch .failOnVerdict] else []))))

/-- The options that some choices are about. -/
def optionsOf (choices : List Choice) : List Named :=
  choices.map Choice.option

@[simp] theorem optionsOf_cons (choice : Choice) (more : List Choice) :
    optionsOf (choice :: more) = choice.option :: optionsOf more := rfl

/-- Arguments are chosen by each option at most once. -/
theorem nodup_optionsOf_choices (arguments : Arguments) : (optionsOf arguments.choices).Nodup := by
  rcases arguments with ⟨path, config, verbose, quiet, failOnVerdict⟩
  cases config <;> cases verbose <;> cases quiet <;> cases failOnVerdict <;>
    simp [choices, optionsOf, Choice.option]

namespace Given

/-- Whether an option was given. -/
def has (given : Given) : Named → Bool
  | .setting setting => (given.value? setting).isSome
  | .switch switch => given.isOn switch
  | .inquiry _ => false

/-- The options with one more that is chosen. -/
def give (given : Given) : Choice → Given
  | .setting setting value => given.setValue value setting
  | .switch switch => given.turnOn switch

/-- Takes a choice, if the option was not given yet. -/
def take (given : Given) : Choice → Except Stop Given
  | .setting setting value => given.assign setting value
  | .switch switch =>
    if given.isOn switch then .error (.repeated (.switch switch)) else .ok (given.turnOn switch)

@[simp] theorem has_none (option : Named) : Given.none.has option = false := by
  rcases option with ⟨setting⟩ | ⟨switch⟩ | ⟨inquiry⟩
  · cases setting <;> rfl
  · cases switch <;> rfl
  · rfl

/-- With a choice its option is given, and the others as before. -/
theorem has_give (given : Given) (choice : Choice) (option : Named) :
    (given.give choice).has option = (decide (choice.option = option) || given.has option) := by
  rcases choice with ⟨chosen, value⟩ | ⟨chosen⟩
  · rcases option with ⟨setting⟩ | ⟨switch⟩ | ⟨inquiry⟩
    · cases chosen <;> cases setting <;> rfl
    · cases chosen <;> cases switch <;> rfl
    · rfl
  · rcases option with ⟨setting⟩ | ⟨switch⟩ | ⟨inquiry⟩
    · cases chosen <;> cases setting <;> rfl
    · cases chosen <;> cases switch <;> rfl
    · rfl

/-- Choices of different options do not get in each other's way. -/
theorem give_comm (given : Given) {first second : Choice}
    (different : first.option ≠ second.option) :
    (given.give first).give second = (given.give second).give first := by
  rcases first with ⟨setting, value⟩ | ⟨switch⟩
  · rcases second with ⟨setting', value'⟩ | ⟨switch'⟩
    · cases setting <;> cases setting' <;> first | rfl | exact absurd rfl different
    · cases setting <;> cases switch' <;> rfl
  · rcases second with ⟨setting', value'⟩ | ⟨switch'⟩
    · cases switch <;> cases setting' <;> rfl
    · cases switch <;> cases switch' <;> rfl

/-- A choice of an option that was not given yet is taken. -/
theorem take_of_not_has {given : Given} {choice : Choice} (filled : choice.IsFilled)
    (isNew : given.has choice.option = false) : given.take choice = .ok (given.give choice) := by
  cases choice with
  | setting setting value =>
    simp only [has, Choice.option] at isNew
    simp only [Choice.IsFilled] at filled
    simp [take, assign, isNew, filled, give]
  | switch switch =>
    simp only [has, Choice.option] at isNew
    simp [take, isNew, give]

/-- A choice of an option that was given before is refused. -/
theorem take_of_has {given : Given} {choice : Choice} (isOld : given.has choice.option = true) :
    given.take choice = .error (.repeated choice.option) := by
  cases choice with
  | setting setting value =>
    simp only [has, Choice.option] at isOld
    simp [take, assign, isOld, Choice.option]
  | switch switch =>
    simp only [has, Choice.option] at isOld
    simp [take, isOld, Choice.option]

end Given

/-! ## Choices in a row -/

/-- With some choices their options are given, and the others as before. -/
theorem has_foldl_give (given : Given) (choices : List Choice) (option : Named) :
    (choices.foldl Given.give given).has option =
      (decide (option ∈ optionsOf choices) || given.has option) := by
  induction choices generalizing given with
  | nil => rfl
  | cons choice more inductionHypothesis =>
    rw [List.foldl_cons, inductionHypothesis, Given.has_give]
    simp only [optionsOf_cons, List.mem_cons, Bool.decide_or]
    rw [← Bool.or_assoc, Bool.or_comm (decide (option ∈ optionsOf more)),
      decide_eq_decide.mpr (eq_comm (a := choice.option))]

/-- Choices of different options that were not given yet are all taken. -/
theorem foldlM_take_of_nodup {given : Given} {choices : List Choice}
    (filled : ∀ choice ∈ choices, choice.IsFilled) (distinct : (optionsOf choices).Nodup)
    (areNew : ∀ option ∈ optionsOf choices, given.has option = false) :
    choices.foldlM Given.take given = .ok (choices.foldl Given.give given) := by
  induction choices generalizing given with
  | nil => rfl
  | cons choice more inductionHypothesis =>
    rw [optionsOf_cons, List.nodup_cons] at distinct
    rw [optionsOf_cons, List.forall_mem_cons] at areNew
    rw [List.forall_mem_cons] at filled
    rw [List.foldlM_cons, Given.take_of_not_has filled.1 areNew.1, List.foldl_cons]
    apply inductionHypothesis filled.2 distinct.2
    intro option member
    have different : choice.option ≠ option := by
      rintro rfl
      exact distinct.1 member
    rw [Given.has_give, areNew.2 option member]
    simpa using different

/-- Among choices that are not of different options, or not of options that were not given yet, some
option that comes once more is refused. -/
theorem foldlM_take_of_repeated (given : Given) {choices : List Choice}
    (filled : ∀ choice ∈ choices, choice.IsFilled)
    (repeated : ¬ ((optionsOf choices).Nodup ∧
      ∀ option ∈ optionsOf choices, given.has option = false)) :
    ∃ option ∈ optionsOf choices,
      (given.has option = true ∨ 2 ≤ (optionsOf choices).count option) ∧
        choices.foldlM Given.take given = .error (.repeated option) := by
  induction choices generalizing given with
  | nil => simp [optionsOf] at repeated
  | cons choice more inductionHypothesis =>
    rw [List.forall_mem_cons] at filled
    rw [List.foldlM_cons, optionsOf_cons]
    cases isOld : given.has choice.option with
    | true =>
      rw [Given.take_of_has isOld]
      exact ⟨choice.option, List.mem_cons_self, .inl isOld, rfl⟩
    | false =>
      rw [Given.take_of_not_has filled.1 isOld]
      have repeatedMore : ¬ ((optionsOf more).Nodup ∧
          ∀ option ∈ optionsOf more, (given.give choice).has option = false) := by
        rintro ⟨distinct, areNew⟩
        simp only [Given.has_give, Bool.or_eq_false_iff, decide_eq_false_iff_not] at areNew
        apply repeated
        rw [optionsOf_cons, List.nodup_cons, List.forall_mem_cons]
        exact ⟨⟨fun member => (areNew _ member).1 rfl, distinct⟩, isOld,
          fun option member => (areNew option member).2⟩
      obtain ⟨option, member, again, refused⟩ := inductionHypothesis _ filled.2 repeatedMore
      refine ⟨option, List.mem_cons_of_mem _ member, ?_, refused⟩
      rw [Given.has_give, Bool.or_eq_true, decide_eq_true_eq] at again
      have once : 1 ≤ (optionsOf more).count option := List.one_le_count_iff.mpr member
      rcases again with (rfl | has) | twice
      · right
        rw [List.count_cons_self]
        omega
      · exact .inl has
      · right
        rw [List.count_cons]
        omega

/-! ## The arguments that choices amount to -/

/-- The arguments that some choices amount to, if they are taken. -/
def ofChoices (choices : List Choice) : Except Stop Arguments := do
  let given ← choices.foldlM Given.take .none
  given.arguments

/-- Choices of different options are all taken. -/
theorem ofChoices_of_nodup {choices : List Choice} (filled : ∀ choice ∈ choices, choice.IsFilled)
    (distinct : (optionsOf choices).Nodup) :
    ofChoices choices = (choices.foldl Given.give .none).arguments := by
  rw [ofChoices, foldlM_take_of_nodup filled distinct fun option _ => Given.has_none option]
  rfl

/-- The choices of some arguments, in any order, amount to these arguments. -/
theorem ofChoices_of_perm {arguments : Arguments} {choices : List Choice}
    (filled : ∀ choice ∈ choices, choice.IsFilled) (perm : choices.Perm arguments.choices) :
    ofChoices choices = .ok arguments := by
  have distinct : (optionsOf choices).Nodup :=
    (perm.map Choice.option).nodup_iff.mpr (nodup_optionsOf_choices arguments)
  have sameGiven : choices.foldl Given.give .none = arguments.choices.foldl Given.give .none := by
    apply perm.foldl_eq'
    intro first isFirst second isSecond given
    by_cases same : first.option = second.option
    · rw [List.inj_on_of_nodup_map distinct isFirst isSecond same]
    · exact given.give_comm same
  rw [ofChoices_of_nodup filled distinct, sameGiven]
  rcases arguments with ⟨path, config, verbose, quiet, failOnVerdict⟩
  cases config <;> cases verbose <;> cases quiet <;> cases failOnVerdict <;> rfl

/-- Choices that are not of different options amount to no arguments: one that comes twice is
refused. -/
theorem ofChoices_of_repeated {choices : List Choice}
    (filled : ∀ choice ∈ choices, choice.IsFilled) (repeated : ¬ (optionsOf choices).Nodup) :
    ∃ option, 2 ≤ (optionsOf choices).count option ∧
      ofChoices choices = .error (.repeated option) := by
  obtain ⟨option, -, again, refused⟩ := foldlM_take_of_repeated .none filled
    fun distinct => repeated distinct.1
  rw [Given.has_none, Bool.false_eq_true, false_or] at again
  refine ⟨option, again, ?_⟩
  rw [ofChoices, refused]
  rfl

/-- Choices of different options without the path amount to no arguments. -/
theorem ofChoices_of_not_mem {choices : List Choice}
    (filled : ∀ choice ∈ choices, choice.IsFilled) (distinct : (optionsOf choices).Nodup)
    (noPath : .setting .path ∉ optionsOf choices) : ofChoices choices = .error .missingPath := by
  have isMissing : (choices.foldl Given.give .none).has (.setting .path) = false := by
    rw [has_foldl_give, Given.has_none, decide_eq_false noPath, Bool.or_false]
  rw [ofChoices_of_nodup filled distinct, Given.arguments]
  rw [Given.has, Given.value?, Option.isSome_eq_false_iff, Option.isNone_iff_eq_none] at isMissing
  rw [isMissing]

end Arguments

end ConformanceReport
