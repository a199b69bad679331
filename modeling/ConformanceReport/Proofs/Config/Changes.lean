import ConformanceReport.Arguments.Basic
import ConformanceReport.Session.Basic
import Mathlib.Data.List.Induction

/-!
# Configurations that change

A configuration is replaced by loads that succeed, is left alone by loads that do not, and takes
arguments into account. Each change of a session does one of these to its configuration
(`config_applyAll`), so what is configured in the end comes from two things alone: the last load
that succeeded, and the arguments since (`after_eq`). Of these it matters only whether one of them
asks for a failed verdict to show (`foldl_withArguments`).
-/

namespace ConformanceReport

namespace Config

/-- Something that is done about a configuration. -/
inductive Change where
  /-- The file at a path is loaded. -/
  | load (files : FileView) (path : Path)
  /-- The file of the fixed name is loaded from a directory, if it is there. -/
  | find (files : FileView) (directory : Path)
  /-- Arguments are taken into account. -/
  | merge (arguments : Arguments)

namespace Change

/-- What a session does about its configuration. -/
def steps : Change → List Session.Step
  | .load files path => [.configure (Config.load files path)]
  | .find files directory =>
    match Config.loadFrom? files directory with
    | .error failure => [.configure (.error failure)]
    | .ok (some config) => [.configure (.ok config)]
    | .ok none => []
  | .merge arguments => [.merge arguments]

/-- The configuration that is loaded, if that succeeds. -/
def loaded? : Change → Option Config
  | .load files path => (Config.load files path).toOption
  | .find files directory => (Config.loadFrom? files directory).toOption.join
  | .merge _ => none

/-- The arguments that are taken into account, if any. -/
def merged? : Change → Option Arguments
  | .merge arguments => some arguments
  | _ => none

end Change

/-- The configuration that some changes lead to, from the one where nothing is configured. -/
def after (changes : List Change) : Config :=
  (Session.start.applyAll (changes.flatMap Change.steps)).config

/-- The configuration of the last load that succeeded, or the one where nothing is configured. -/
def lastLoaded (changes : List Change) : Config :=
  (changes.reverse.findSome? Change.loaded?).getD .standard

/-- The changes since the last load that succeeded, or all of them, the last one first. -/
def sinceLoaded (changes : List Change) : List Change :=
  changes.reverse.takeWhile fun change => change.loaded?.isNone

/-- The arguments that were taken into account since the last load that succeeded, in order. -/
def mergedSince (changes : List Change) : List Arguments :=
  (sinceLoaded changes).reverse.filterMap Change.merged?

/-- Arguments were taken into account since the last load exactly if a change since then says so. -/
theorem mem_mergedSince {changes : List Change} {arguments : Arguments} :
    arguments ∈ mergedSince changes ↔ .merge arguments ∈ sinceLoaded changes := by
  rw [mergedSince, List.mem_filterMap]
  constructor
  · rintro ⟨change, isSince, merged⟩
    cases change with
    | load files path => cases merged
    | find files directory => cases merged
    | merge others =>
      cases merged
      exact List.mem_reverse.mp isSince
  · exact fun isSince => ⟨.merge arguments, List.mem_reverse.mpr isSince, rfl⟩

/-! ## One change -/

/-- The configuration after a change: the one that is loaded, if one is, or else the one before with
the arguments taken into account, if there are any. -/
def changed (config : Config) (change : Change) : Config :=
  change.loaded?.getD (change.merged?.elim config config.withArguments)

@[simp] theorem changed_merge (config : Config) (arguments : Arguments) :
    config.changed (.merge arguments) = config.withArguments arguments := rfl

/-- A load that fails changes nothing. -/
theorem changed_load_of_error {files : FileView} {path : Path} {failure : Failure}
    (fails : Config.load files path = .error failure) (config : Config) :
    config.changed (.load files path) = config := by
  simp [changed, Change.loaded?, Change.merged?, fails, Except.toOption]

/-- A directory from which nothing is loaded changes nothing. -/
theorem changed_find_of_ne {files : FileView} {directory : Path}
    (nothing : ∀ loaded, Config.loadFrom? files directory ≠ .ok (some loaded)) (config : Config) :
    config.changed (.find files directory) = config := by
  have isNone : Change.loaded? (.find files directory) = none := by
    cases found : Config.loadFrom? files directory with
    | error failure => simp [Change.loaded?, found, Except.toOption]
    | ok loaded? =>
      cases loaded? with
      | none => simp [Change.loaded?, found, Except.toOption]
      | some loaded => exact absurd found (nothing loaded)
  simp [changed, isNone, Change.merged?]

/-- A change does to the configuration of a session what it does to a configuration. -/
theorem config_applyAll_steps (session : Session) (change : Change) :
    (session.applyAll change.steps).config = session.config.changed change := by
  cases change with
  | load files path =>
    cases loaded : Config.load files path with
    | error failure =>
      rw [changed_load_of_error loaded, Change.steps, loaded]
      rfl
    | ok config =>
      simp [Change.steps, changed, Change.loaded?, loaded, Except.toOption, Session.applyAll,
        Session.apply]
  | find files directory =>
    cases found : Config.loadFrom? files directory with
    | error failure =>
      rw [changed_find_of_ne (by simp [found]), Change.steps, found]
      rfl
    | ok loaded? =>
      cases loaded? with
      | none =>
        rw [changed_find_of_ne (by simp [found]), Change.steps, found]
        rfl
      | some config =>
        simp [Change.steps, changed, Change.loaded?, found, Except.toOption, Session.applyAll,
          Session.apply]
  | merge arguments => rfl

/-! ## Any number of changes -/

/-- Changes do to the configuration of a session, one after the other, what they do to a
configuration. -/
theorem config_applyAll (session : Session) (changes : List Change) :
    (session.applyAll (changes.flatMap Change.steps)).config =
      changes.foldl changed session.config := by
  induction changes generalizing session with
  | nil => rfl
  | cons change more inductionHypothesis =>
    rw [List.flatMap_cons, Session.applyAll, List.foldl_append]
    exact (inductionHypothesis _).trans
      (by rw [← Session.applyAll, config_applyAll_steps, List.foldl_cons])

/-- More changes go on from where the former ones lead. -/
theorem after_append (changes more : List Change) :
    after (changes ++ more) = more.foldl changed (after changes) := by
  simp only [after, config_applyAll, List.foldl_append]

/-- Some changes lead to the configuration of the last load that succeeded, with the arguments that
came since taken into account one after the other. -/
theorem after_eq (changes : List Change) :
    after changes = (mergedSince changes).foldl withArguments (lastLoaded changes) := by
  induction changes using List.reverseRecOn with
  | nil => rfl
  | append_singleton changes change inductionHypothesis =>
    rw [after_append, List.foldl_cons, List.foldl_nil, inductionHypothesis]
    cases isLoaded : change.loaded? with
    | some loaded => simp [changed, lastLoaded, mergedSince, sinceLoaded, isLoaded]
    | none =>
      cases isMerged : change.merged? <;>
        simp [changed, lastLoaded, mergedSince, sinceLoaded, isLoaded, isMerged]

/-- Arguments that are taken into account one after the other make one request together and leave
everything else as it is. -/
theorem foldl_withArguments (config : Config) (merges : List Arguments) :
    merges.foldl withArguments config =
      { config with
        policy.failOnVerdict :=
          config.policy.failOnVerdict || merges.any Arguments.failOnVerdict } := by
  induction merges generalizing config with
  | nil => simp
  | cons arguments more inductionHypothesis =>
    rw [List.foldl_cons, inductionHypothesis, List.any_cons, ← Bool.or_assoc]
    rfl

/-- A failed verdict is to show exactly if the configuration that was last loaded says so or if
arguments have asked for it since. -/
theorem failOnVerdict_after_iff (changes : List Change) :
    (after changes).policy.failOnVerdict = true ↔
      (lastLoaded changes).policy.failOnVerdict = true ∨
        ∃ arguments, .merge arguments ∈ sinceLoaded changes ∧ arguments.failOnVerdict = true := by
  rw [after_eq, foldl_withArguments, Bool.or_eq_true, List.any_eq_true]
  simp only [mem_mergedSince]

/-- After any changes, everything but the flag for the exit code is as the last load that succeeded
has it, and the flag is set exactly if that load set it or arguments have since. So arguments never
take the flag back, arguments that are taken into account in a row may come in any order and any
number of times, nothing else in them matters, and a load that fails changes nothing. -/
theorem settings_after_changes (changes : List Change) :
    (after changes).filter.manifest = (lastLoaded changes).filter.manifest ∧
    (after changes).filter.extension = (lastLoaded changes).filter.extension ∧
    (after changes).policy.rules.passing = (lastLoaded changes).policy.rules.passing ∧
    ((after changes).policy.failOnVerdict = true ↔
      (lastLoaded changes).policy.failOnVerdict = true ∨
        ∃ arguments, .merge arguments ∈ sinceLoaded changes ∧ arguments.failOnVerdict = true) ∧
    (∀ arguments, (after changes).policy.failOnVerdict = true →
      (after (changes ++ [.merge arguments])).policy.failOnVerdict = true) ∧
    (∀ (merges others : List Arguments) (more : List Change),
      (∀ arguments, arguments ∈ merges ↔ arguments ∈ others) →
      after (changes ++ merges.map .merge ++ more) =
        after (changes ++ others.map .merge ++ more)) ∧
    (∀ first second : Arguments, first.failOnVerdict = second.failOnVerdict →
      after (changes ++ [.merge first]) = after (changes ++ [.merge second])) ∧
    (∀ files path failure, Config.load files path = .error failure →
      after (changes ++ [.load files path]) = after changes) ∧
    ∀ files directory failure, Config.loadFrom? files directory = .error failure →
      after (changes ++ [.find files directory]) = after changes := by
  refine ⟨?_, ?_, ?_, failOnVerdict_after_iff changes, ?_, ?_, ?_, ?_, ?_⟩
  · rw [after_eq, foldl_withArguments]
  · rw [after_eq, foldl_withArguments]
  · rw [after_eq, foldl_withArguments]
  · intro arguments isSet
    rw [after_append, List.foldl_cons, List.foldl_nil, changed_merge, withArguments, isSet,
      Bool.true_or]
  · intro merges others more sameArguments
    have sameRequest : merges.any Arguments.failOnVerdict = others.any Arguments.failOnVerdict := by
      rw [Bool.eq_iff_iff, List.any_eq_true, List.any_eq_true]
      simp only [sameArguments]
    have merged (config : Config) (merges : List Arguments) :
        (merges.map Change.merge).foldl changed config = merges.foldl withArguments config :=
      List.foldl_map
    rw [after_append, after_append, after_append, after_append, merged, merged,
      foldl_withArguments, foldl_withArguments, sameRequest]
  · intro first second sameFlag
    rw [after_append, after_append, List.foldl_cons, List.foldl_cons, changed_merge, changed_merge,
      withArguments_congr _ sameFlag]
  · intro files path failure fails
    rw [after_append, List.foldl_cons, List.foldl_nil, changed_load_of_error fails]
  · intro files directory failure fails
    rw [after_append, List.foldl_cons, List.foldl_nil,
      changed_find_of_ne (by simp [fails])]

/-- A load that succeeds takes back what was asked for before it, loads that fail change nothing,
and of the requests that follow one is enough. -/
theorem settings_after_failing_loads :
    let files : FileView :=
      ⟨fun path =>
          if path = utf8 "c.toml" then .ok (utf8 "verdict.passing_behaviors = [\"OK\"]")
          else if path = utf8 "d/.autobahn-report.toml" then .ok (utf8 "scanner = 1")
          else .error .noEntry,
        fun _ => .error .noEntry, fun path => path = utf8 "d/.autobahn-report.toml"⟩
    let asking : Arguments := ⟨utf8 "r", none, false, false, true⟩
    let quiet : Arguments := ⟨utf8 "s", some (utf8 "c.toml"), false, true, false⟩
    let changes : List Change :=
      [.merge asking, .load files (utf8 "c.toml"), .load files (utf8 "absent.toml"),
        .merge quiet]
    lastLoaded changes = ⟨.standard, ⟨⟨["OK"]⟩, false⟩⟩ ∧
      (after changes).policy.failOnVerdict = false ∧
      (after (changes ++ [.merge asking] ++ [.merge quiet])).policy.failOnVerdict = true ∧
      after (changes ++ [.find files (utf8 "d")]) = after changes ∧
      after (changes ++ [.merge asking, .merge quiet] ++ [.find files (utf8 "d")]) =
        after (changes ++ [.merge quiet, .merge asking, .merge quiet] ++
          [.find files (utf8 "d")]) := by
  intro files asking quiet changes
  have fails : (Config.loadFrom? files (utf8 "d")).toOption = none := by decide +kernel
  obtain ⟨failure, fails⟩ : ∃ failure, Config.loadFrom? files (utf8 "d") = .error failure := by
    cases found : Config.loadFrom? files (utf8 "d") with
    | error failure => exact ⟨failure, rfl⟩
    | ok loaded => rw [found] at fails; cases fails
  obtain ⟨-, -, -, -, -, sameMerges, -, -, sameFound⟩ := settings_after_changes changes
  obtain ⟨-, -, -, -, staysSet, -⟩ := settings_after_changes (changes ++ [.merge asking])
  have isSet : (after (changes ++ [.merge asking])).policy.failOnVerdict = true := by
    decide +kernel
  refine ⟨by decide +kernel, by decide +kernel, staysSet quiet isSet,
    sameFound files (utf8 "d") failure fails, ?_⟩
  exact sameMerges [asking, quiet] [quiet, asking, quiet] [.find files (utf8 "d")] (by simp)

end Config

end ConformanceReport
