import ConformanceReport.Proofs.Arguments.Choices

/-!
# Spellings of a command line

Each choice can be spelled in several ways: by a long name or by a letter, letters one by one or in
a row, a value in an argument of its own or attached. `Spells` says which command lines spell some
choices. Whatever was read before, a spelled line does to the options what its choices do
(`Spells.does`), so that the way in which a line is spelled makes no difference, and no value is
ever taken for an option (`read_spelled`).
-/

namespace ConformanceReport

namespace Arguments

/-- The long name of an option with its dashes. -/
def longName (option : Named) : Bytes :=
  ascii '-' :: ascii '-' :: utf8 option.name

/-- A value that may be an argument of its own: it does not start with a dash, or it is nothing but
a dash. -/
def StandsAlone (value : Path) : Prop :=
  value = [ascii '-'] ∨ value.head? ≠ some (ascii '-')

/-- Letters in a row, and the argument after them if a value is apart. A setting takes what follows
its letter as the value, and so it comes last. -/
inductive LettersSpell : Bytes → List Path → List Choice → Prop where
  | switch {chosen : Switch} {letter : UInt8}
      (isLetter : (Named.switch chosen).letter? = some letter) :
      LettersSpell [letter] [] [.switch chosen]
  | more {chosen : Switch} {letter : UInt8} {letters : Bytes} {apart : List Path}
      {choices : List Choice} (isLetter : (Named.switch chosen).letter? = some letter)
      (rest : LettersSpell letters apart choices) :
      LettersSpell (letter :: letters) apart (.switch chosen :: choices)
  | joined {chosen : Setting} {letter : UInt8} (value : Path)
      (isLetter : (Named.setting chosen).letter? = some letter) :
      LettersSpell (letter :: ascii '=' :: value) [] [.setting chosen value]
  | attached {chosen : Setting} {letter : UInt8} {value : Path}
      (isLetter : (Named.setting chosen).letter? = some letter) (notEmpty : value ≠ [])
      (notJoined : value.head? ≠ some (ascii '=')) :
      LettersSpell (letter :: value) [] [.setting chosen value]
  | apart {chosen : Setting} {letter : UInt8} {value : Path}
      (isLetter : (Named.setting chosen).letter? = some letter) (alone : StandsAlone value) :
      LettersSpell [letter] [value] [.setting chosen value]

/-- One or two arguments that belong together. -/
inductive ArgumentSpells : List Bytes → List Choice → Prop where
  | switch (chosen : Switch) :
      ArgumentSpells [longName (.switch chosen)] [.switch chosen]
  | joined (chosen : Setting) (value : Path) :
      ArgumentSpells [longName (.setting chosen) ++ ascii '=' :: value] [.setting chosen value]
  | apart (chosen : Setting) {value : Path} (alone : StandsAlone value) :
      ArgumentSpells [longName (.setting chosen), value] [.setting chosen value]
  | letters {letters : Bytes} {apart : List Path} {choices : List Choice}
      (spelled : LettersSpell letters apart choices) :
      ArgumentSpells ((ascii '-' :: letters) :: apart) choices

/-- A command line that spells some choices in order. -/
inductive Spells : List Bytes → List Choice → Prop where
  | nil : Spells [] []
  | append {first line : List Bytes} {choices more : List Choice}
      (spelled : ArgumentSpells first choices) (rest : Spells line more) :
      Spells (first ++ line) (choices ++ more)

/-! ## Options found by their names -/

theorem Named.mem_all (option : Named) : option ∈ Named.all := by
  rcases option with ⟨setting⟩ | ⟨switch⟩ | ⟨inquiry⟩
  · cases setting <;> decide
  · cases switch <;> decide
  · cases inquiry <;> decide

theorem Named.ofName?_name (option : Named) : Named.ofName? (utf8 option.name) = some option := by
  have each : ∀ option ∈ Named.all, Named.ofName? (utf8 option.name) = some option := by
    decide +kernel
  exact each option option.mem_all

theorem Named.ofLetter?_letter {option : Named} {letter : UInt8}
    (isLetter : option.letter? = some letter) : Named.ofLetter? letter = some option := by
  have each : ∀ option ∈ Named.all, ∀ letter ∈ option.letter?,
      Named.ofLetter? letter = some option := by decide +kernel
  exact each option option.mem_all letter isLetter

/-- The name of an option is not empty and holds no equals sign. -/
theorem Named.name_splits (option : Named) :
    utf8 option.name ≠ [] ∧ ascii '=' ∉ utf8 option.name := by
  have each : ∀ option ∈ Named.all, utf8 option.name ≠ [] ∧ ascii '=' ∉ utf8 option.name := by
    decide +kernel
  exact each option option.mem_all

/-- A letter is no dash. -/
theorem Named.letter_ne_dash {option : Named} {letter : UInt8}
    (isLetter : option.letter? = some letter) : letter ≠ ascii '-' := by
  have each : ∀ option ∈ Named.all, ∀ letter ∈ option.letter?, letter ≠ ascii '-' := by
    decide +kernel
  exact each option option.mem_all letter isLetter

/-! ## Shapes of arguments -/

theorem splitValue_of_not_mem {name : Bytes} (noSign : ascii '=' ∉ name) :
    splitValue name = (name, none) := by
  induction name with
  | nil => rfl
  | cons byte rest inductionHypothesis =>
    rw [List.mem_cons, not_or] at noSign
    rw [splitValue, if_neg (Ne.symm noSign.1), inductionHypothesis noSign.2]

theorem splitValue_append {name : Bytes} (noSign : ascii '=' ∉ name) (value : Bytes) :
    splitValue (name ++ ascii '=' :: value) = (name, some value) := by
  induction name with
  | nil => rw [List.nil_append, splitValue, if_pos rfl]
  | cons byte rest inductionHypothesis =>
    rw [List.mem_cons, not_or] at noSign
    rw [List.cons_append, splitValue, if_neg (Ne.symm noSign.1), inductionHypothesis noSign.2]

theorem shape_longName (option : Named) :
    Shape.of (longName option) = .long (utf8 option.name) none := by
  obtain ⟨notEmpty, noSign⟩ := option.name_splits
  rw [longName, Shape.of, if_pos rfl, if_pos rfl, splitValue_of_not_mem noSign]
  simp [notEmpty]

theorem shape_longName_append (option : Named) (value : Bytes) :
    Shape.of (longName option ++ ascii '=' :: value) = .long (utf8 option.name) (some value) := by
  obtain ⟨notEmpty, noSign⟩ := option.name_splits
  rw [longName, List.cons_append, List.cons_append, Shape.of, if_pos rfl, if_pos rfl,
    splitValue_append noSign]
  simp

theorem shape_of_standsAlone {value : Path} (alone : StandsAlone value) :
    Shape.of value = .plain := by
  rcases alone with rfl | noDash
  · rfl
  · rcases value with _ | ⟨first, _ | ⟨second, rest⟩⟩
    · rfl
    · rfl
    · have isNoDash : first ≠ ascii '-' := by simpa using noDash
      rw [Shape.of, if_neg isNoDash]

/-- A value behind an equals sign is attached without it. -/
theorem attached_joined (value : Path) : attached (ascii '=' :: value) = value := by
  rw [attached, if_pos rfl]

/-- A value that does not start with an equals sign is attached as it is. -/
theorem attached_of_ne {value : Path} (notJoined : value.head? ≠ some (ascii '=')) :
    attached value = value := by
  cases value with
  | nil => rfl
  | cons first rest =>
    have notSign : first ≠ ascii '=' := by simpa using notJoined
    rw [attached, if_neg notSign]

/-- Letters that spell something start with a letter. -/
theorem LettersSpell.exists_letter {letters : Bytes} {apart : List Path} {choices : List Choice}
    (spelled : LettersSpell letters apart choices) :
    ∃ option letter rest, letters = letter :: rest ∧ Named.letter? option = some letter := by
  cases spelled with
  | switch isLetter => exact ⟨_, _, _, rfl, isLetter⟩
  | more isLetter rest => exact ⟨_, _, _, rfl, isLetter⟩
  | joined value isLetter => exact ⟨_, _, _, rfl, isLetter⟩
  | attached isLetter notEmpty notJoined => exact ⟨_, _, _, rfl, isLetter⟩
  | apart isLetter alone => exact ⟨_, _, _, rfl, isLetter⟩

theorem LettersSpell.shape {letters : Bytes} {apart : List Path} {choices : List Choice}
    (spelled : LettersSpell letters apart choices) :
    Shape.of (ascii '-' :: letters) = .letters letters := by
  obtain ⟨option, letter, rest, rfl, isLetter⟩ := spelled.exists_letter
  rw [Shape.of, if_pos rfl, if_neg (Named.letter_ne_dash isLetter)]

/-! ## What arguments do -/

/-- Nothing is to be judged where no setting is pending. -/
@[simp] theorem Progress.settle_settled (given : Given) :
    Progress.settle ⟨given, none⟩ = pure given := rfl

/-- A switch is turned on once the pending setting is judged. -/
theorem Progress.turnOn_eq (progress : Progress) (chosen : Switch) :
    progress.turnOn chosen =
      progress.settle >>= fun given => given.take (.switch chosen) >>= fun given =>
        pure ⟨given, none⟩ := by
  rw [Progress.turnOn]
  cases progress.settle with
  | error stop => rfl
  | ok given =>
    change (if given.isOn chosen then _ else _) = ((if given.isOn chosen then _ else _) >>= _)
    cases given.isOn chosen <;> rfl

/-- A setting takes its value once the pending one is judged. -/
theorem Progress.assign_eq (progress : Progress) (chosen : Setting) (value : Path) :
    progress.assign chosen value =
      progress.settle >>= fun given => given.take (.setting chosen value) >>= fun given =>
        pure ⟨given, none⟩ := by
  rw [Progress.assign]
  cases progress.settle with
  | error stop => rfl
  | ok given =>
    dsimp only
    change _ = (given.assign chosen value >>= _)
    cases given.assign chosen value <;> rfl

/-- A setting waits for its value once the pending one is judged. -/
theorem Progress.await_eq (progress : Progress) (chosen : Setting) :
    progress.await chosen =
      progress.settle >>= fun given => pure ⟨given, some ⟨chosen, none⟩⟩ := by
  rw [Progress.await]
  cases progress.settle <;> rfl

theorem readFrom_long {argument name : Bytes} {value : Option Bytes}
    (shape : Shape.of argument = .long name value) (progress : Progress) (more : List Bytes) :
    readFrom progress (argument :: more) =
      readLong progress name value >>= fun progress => readFrom progress more := by
  conv_lhs => unfold readFrom
  simp only [shape]
  cases readLong progress name value <;> rfl

theorem readFrom_letters {argument letters : Bytes} (shape : Shape.of argument = .letters letters)
    (progress : Progress) (more : List Bytes) :
    readFrom progress (argument :: more) =
      readLetters progress letters >>= fun progress => readFrom progress more := by
  conv_lhs => unfold readFrom
  simp only [shape]
  cases readLetters progress letters <;> rfl

/-- A setting that waits for its value takes the next argument that stands alone. -/
theorem readFrom_awaited {value : Path} (alone : StandsAlone value) (given : Given)
    (chosen : Setting) (more : List Bytes) :
    readFrom ⟨given, some ⟨chosen, none⟩⟩ (value :: more) =
      readFrom ⟨given, some ⟨chosen, some value⟩⟩ more := by
  conv_lhs => unfold readFrom
  rw [shape_of_standsAlone alone]
  rfl

/-- Reading a line to its end does `next` to the options, whatever was read before. -/
def Does (line : List Bytes) (next : Given → Except Stop Given) : Prop :=
  ∀ progress, (readFrom progress line >>= Progress.settle) = progress.settle >>= next

/-- A line of no arguments does nothing. -/
theorem Does.nil : Does [] pure := by
  intro progress
  rw [bind_pure]
  rfl

/-- What a line does when no setting is pending. -/
theorem Does.settled {line : List Bytes} {next : Given → Except Stop Given} (does : Does line next)
    (given : Given) : (readFrom ⟨given, none⟩ line >>= Progress.settle) = next given :=
  does ⟨given, none⟩

/-- What a line does when a setting is pending with its value: this is taken first. -/
theorem Does.pending {line : List Bytes} {next : Given → Except Stop Given} (does : Does line next)
    (given : Given) (chosen : Setting) (value : Path) :
    (readFrom ⟨given, some ⟨chosen, some value⟩⟩ line >>= Progress.settle) =
      given.take (.setting chosen value) >>= next :=
  does ⟨given, some ⟨chosen, some value⟩⟩

@[simp] theorem readLetters_nil (progress : Progress) :
    readLetters progress [] = pure progress := rfl

/-- A letter that names a switch turns it on, and reading goes on with the next letter. -/
theorem readLetters_switch {chosen : Switch} {letter : UInt8}
    (isLetter : (Named.switch chosen).letter? = some letter) (progress : Progress)
    (letters : Bytes) :
    readLetters progress (letter :: letters) =
      progress.turnOn chosen >>= fun progress => readLetters progress letters := by
  rw [readLetters, Named.ofLetter?_letter isLetter]
  dsimp only
  cases progress.turnOn chosen <;> rfl

/-- A letter that names a setting takes what follows as its value. -/
theorem readLetters_setting {chosen : Setting} {letter : UInt8}
    (isLetter : (Named.setting chosen).letter? = some letter) (progress : Progress)
    {letters : Bytes} (notEmpty : letters ≠ []) :
    readLetters progress (letter :: letters) = progress.assign chosen (attached letters) := by
  rw [readLetters, Named.ofLetter?_letter isLetter]
  simp [notEmpty]

/-- A letter that names a setting and comes last waits for the next argument. -/
theorem readLetters_setting_last {chosen : Setting} {letter : UInt8}
    (isLetter : (Named.setting chosen).letter? = some letter) (progress : Progress) :
    readLetters progress [letter] = progress.await chosen := by
  rw [readLetters, Named.ofLetter?_letter isLetter]
  rfl

/-- Letters do what their choices do, before the rest of the line. -/
theorem LettersSpell.does {letters : Bytes} {apart : List Path} {choices : List Choice}
    (spelled : LettersSpell letters apart choices) {line : List Bytes}
    {next : Given → Except Stop Given} (does : Does line next) (progress : Progress) :
    (readLetters progress letters >>= fun progress =>
        readFrom progress (apart ++ line) >>= Progress.settle) =
      progress.settle >>= fun given => choices.foldlM Given.take given >>= next := by
  induction spelled generalizing progress with
  | switch isLetter =>
    simp only [readLetters_switch isLetter, readLetters_nil, Progress.turnOn_eq, bind_assoc,
      pure_bind, List.nil_append, does.settled, List.foldlM_cons, List.foldlM_nil]
  | more isLetter rest inductionHypothesis =>
    simp only [readLetters_switch isLetter, Progress.turnOn_eq, bind_assoc, pure_bind,
      inductionHypothesis, Progress.settle_settled, List.foldlM_cons]
  | joined value isLetter =>
    simp only [readLetters_setting isLetter progress (List.cons_ne_nil _ value), attached_joined,
      Progress.assign_eq, bind_assoc, pure_bind, List.nil_append, does.settled, List.foldlM_cons,
      List.foldlM_nil]
  | attached isLetter notEmpty notJoined =>
    simp only [readLetters_setting isLetter progress notEmpty, attached_of_ne notJoined,
      Progress.assign_eq, bind_assoc, pure_bind, List.nil_append, does.settled, List.foldlM_cons,
      List.foldlM_nil]
  | apart isLetter alone =>
    simp only [readLetters_setting_last isLetter, Progress.await_eq, bind_assoc, pure_bind,
      List.singleton_append, readFrom_awaited alone, does.pending, List.foldlM_cons,
      List.foldlM_nil]

/-- A long name without a value does what its option does. -/
theorem readLong_switch (progress : Progress) (chosen : Switch) :
    readLong progress (utf8 (Named.switch chosen).name) none = progress.turnOn chosen := by
  unfold readLong
  rw [Named.ofName?_name]

theorem readLong_setting (progress : Progress) (chosen : Setting) :
    readLong progress (utf8 (Named.setting chosen).name) none = progress.await chosen := by
  unfold readLong
  rw [Named.ofName?_name]

theorem readLong_setting_value (progress : Progress) (chosen : Setting) (value : Path) :
    readLong progress (utf8 (Named.setting chosen).name) (some value) =
      progress.assign chosen value := by
  unfold readLong
  rw [Named.ofName?_name]

/-- Arguments that belong together do what their choices do, before the rest of the line. -/
theorem ArgumentSpells.does {first : List Bytes} {choices : List Choice}
    (spelled : ArgumentSpells first choices) {line : List Bytes}
    {next : Given → Except Stop Given} (does : Does line next) :
    Does (first ++ line) fun given => choices.foldlM Given.take given >>= next := by
  intro progress
  cases spelled with
  | switch chosen =>
    simp only [List.singleton_append, readFrom_long (shape_longName (.switch chosen)),
      readLong_switch, Progress.turnOn_eq, bind_assoc, pure_bind, does.settled, List.foldlM_cons,
      List.foldlM_nil]
  | joined chosen value =>
    simp only [List.singleton_append, readFrom_long (shape_longName_append (.setting chosen) value),
      readLong_setting_value, Progress.assign_eq, bind_assoc, pure_bind, does.settled,
      List.foldlM_cons, List.foldlM_nil]
  | apart chosen alone =>
    simp only [List.cons_append, List.nil_append, readFrom_long (shape_longName (.setting chosen)),
      readLong_setting, Progress.await_eq, bind_assoc, pure_bind, readFrom_awaited alone,
      does.pending, List.foldlM_cons, List.foldlM_nil]
  | letters spelled =>
    rw [List.cons_append, readFrom_letters spelled.shape, bind_assoc]
    exact spelled.does does progress

/-- A line does what the choices do that it spells, in order. -/
theorem Spells.does {line : List Bytes} {choices : List Choice} (spells : Spells line choices) :
    Does line fun given => choices.foldlM Given.take given := by
  induction spells with
  | nil => exact .nil
  | append spelled rest inductionHypothesis =>
    simp only [List.foldlM_append]
    exact spelled.does inductionHypothesis

/-- Reading a line that spells some choices yields the arguments that these amount to. -/
theorem Spells.read_eq {line : List Bytes} {choices : List Choice} (spells : Spells line choices) :
    read line = ofChoices choices := by
  have same : (readFrom .start line >>= Progress.settle) = choices.foldlM Given.take .none :=
    spells.does .start
  rw [ofChoices, ← same, read]
  cases readFrom .start line with
  | error stop => rfl
  | ok progress =>
    dsimp only
    change _ = (progress.settle >>= Given.arguments)
    cases progress.settle <;> rfl

/-- A line that spells the choices of some arguments, each once and in any order, with values that
are not empty, is read as these arguments. A line that gives an option twice is refused for an
option that it gives twice, and any other line without a path is refused for that. -/
theorem read_spelled {line : List Bytes} {choices : List Choice} (spells : Spells line choices)
    (filled : ∀ choice ∈ choices, choice.IsFilled) :
    (∀ arguments : Arguments, choices.Perm arguments.choices → read line = .ok arguments) ∧
    (¬ (optionsOf choices).Nodup → ∃ option, 2 ≤ (optionsOf choices).count option ∧
      read line = .error (.repeated option)) ∧
    ((optionsOf choices).Nodup → .setting .path ∉ optionsOf choices →
      read line = .error .missingPath) := by
  rw [spells.read_eq]
  refine ⟨?_, ?_, ?_⟩
  · intro arguments perm
    exact ofChoices_of_perm filled perm
  · intro repeated
    exact ofChoices_of_repeated filled repeated
  · intro distinct noPath
    exact ofChoices_of_not_mem filled distinct noPath

/-- Values that look like options are read as values, attached to a letter or apart from a row of
letters; with a second path the line is refused, and without any as well. -/
theorem read_spelled_like_options :
    let config : Path := utf8 "=--path=" ++ [0xFF]
    let row : List Bytes := [utf8 "-vp", utf8 "-"]
    let named : List Bytes := [utf8 "--fail-on-verdict", utf8 "-c=" ++ config]
    read (row ++ named) = .ok ⟨[ascii '-'], some config, true, false, true⟩ ∧
      (∃ option, read (row ++ [utf8 "--path=-q"]) = .error (.repeated option)) ∧
      read named = .error .missingPath := by
  intro config row named
  have spellsRow : ArgumentSpells row [.switch .verbose, .setting .path [ascii '-']] := by
    have same : row = [[ascii '-', ascii 'v', ascii 'p'], [ascii '-']] := by decide +kernel
    rw [same]
    exact .letters (.more rfl (.apart rfl (.inl rfl)))
  have spellsNamed : Spells named [.switch .failOnVerdict, .setting .config config] := by
    have same : named = [longName (.switch .failOnVerdict)] ++
        ([ascii '-' :: ascii 'c' :: ascii '=' :: config] ++ []) := by decide +kernel
    rw [same]
    exact .append (.switch _) (.append (.letters (.joined config rfl)) .nil)
  have spellsPath : Spells [utf8 "--path=-q"] [.setting .path (utf8 "-q")] := by
    have same : [utf8 "--path=-q"] =
        [longName (.setting .path) ++ ascii '=' :: utf8 "-q"] ++ [] := by decide +kernel
    rw [same]
    exact .append (.joined .path (utf8 "-q")) .nil
  have rowFilled : ([ascii '-'] : Path) ≠ [] := by decide
  have configFilled : config ≠ [] := by decide +kernel
  have pathFilled : utf8 "-q" ≠ [] := by decide +kernel
  obtain ⟨isRead, -, -⟩ := read_spelled (.append spellsRow spellsNamed)
    (by simp [Choice.IsFilled, configFilled])
  obtain ⟨-, isRepeated, -⟩ := read_spelled (.append spellsRow spellsPath)
    (by simp [Choice.IsFilled, pathFilled])
  obtain ⟨-, -, isMissing⟩ := read_spelled spellsNamed (by simp [Choice.IsFilled, configFilled])
  obtain ⟨option, -, refused⟩ := isRepeated (by decide)
  exact ⟨isRead _ (by decide +kernel), ⟨option, refused⟩, isMissing (by decide) (by decide)⟩

end Arguments

end ConformanceReport
