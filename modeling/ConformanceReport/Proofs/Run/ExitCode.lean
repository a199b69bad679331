import ConformanceReport.Proofs.Results
import ConformanceReport.Proofs.Run.Output
import ConformanceReport.Proofs.Summary.Classification
import ConformanceReport.Run.Command

/-!
# The exit code of a run

`Fails` says when a run comes to nothing, and `ShowsFailure` when a failed verdict is asked for and
there is a reason for it; neither mentions how a run goes about its work. They alone decide on the
exit code (`follow_exitCode_iff`). What else is in the directory decides on nothing. A run that
fails may have written something before (`follow_unlistable_writes`).
-/

namespace ConformanceReport

/-- The configuration file that is to be read, if any: the one that is named, or else the one of
the fixed name in the working directory if that leads anywhere. -/
def Arguments.configFile? (arguments : Arguments) (files : FileView) : Option Path :=
  match arguments.config with
  | some path => some path
  | none =>
    let path := Path.join (utf8 ".") (utf8 Config.fileName)
    if files.resolves path then some path else none

/-- The configuration that a run starts from. -/
inductive Settles (arguments : Arguments) (files : FileView) : Config → Prop where
  | absent (noFile : arguments.configFile? files = none) : Settles arguments files .standard
  | read {path : Path} {content : Bytes} {config : Config}
      (isFile : arguments.configFile? files = some path) (isRead : files.read path = .ok content)
      (decodes : Config.ofContent content = .ok config) : Settles arguments files config

/-- There is a configuration file, but it cannot be read or decoded. -/
inductive Unusable (arguments : Arguments) (files : FileView) : Prop where
  | unreadable {path : Path} {error : OsError} (isFile : arguments.configFile? files = some path)
      (fails : files.read path = .error error) : Unusable arguments files
  | undecodable {path : Path} {content : Bytes} {reason : Config.Reason}
      (isFile : arguments.configFile? files = some path) (isRead : files.read path = .ok content)
      (fails : Config.ofContent content = .error reason) : Unusable arguments files

/-- The directory cannot be opened. -/
def Unopened (arguments : Arguments) (files : FileView) : Prop :=
  ∃ error, files.list arguments.path = .error error

/-- The directory cannot be listed: it cannot be opened, or the listing breaks off. -/
inductive Unlistable (arguments : Arguments) (files : FileView) : Prop where
  | unopened (directory : Unopened arguments files) : Unlistable arguments files
  | broken {entries : List Entry} {error : OsError}
      (listed : files.list arguments.path = .ok ⟨entries, some error⟩) :
      Unlistable arguments files

/-- A run fails: its arguments contradict each other, it has no usable configuration, its directory
cannot be listed, or its output is not accepted. -/
inductive Fails (arguments : Arguments) (files : FileView) (sink : Sink) : Prop where
  | inconsistent (verbose : arguments.verbose = true) (quiet : arguments.quiet = true) :
      Fails arguments files sink
  | unusable (config : Unusable arguments files) : Fails arguments files sink
  | unlistable (directory : Unlistable arguments files) : Fails arguments files sink
  | refused {config : Config} {entries : List Entry} (settles : Settles arguments files config)
      (listed : files.list arguments.path = .ok ⟨entries, none⟩)
      (refused : ¬ sink.Accepts (outputBytes config entries)) : Fails arguments files sink

/-- An entry is a result file, it loads, and its label is none of those that pass. -/
def Entry.Disappoints (config : Config) (entry : Entry) : Prop :=
  config.filter.accepts entry.shownName = true ∧
    ∃ content outcome, entry.content = .ok content ∧ Outcome.load content = .ok outcome ∧
      outcome.label ∉ config.policy.rules.passing

/-- A failed verdict is to show, by the arguments or by the configuration, and there is an entry
that makes it fail. -/
def ShowsFailure (arguments : Arguments) (files : FileView) : Prop :=
  ∃ config entries, Settles arguments files config ∧
    files.list arguments.path = .ok ⟨entries, none⟩ ∧
    (arguments.failOnVerdict = true ∨ config.policy.failOnVerdict = true) ∧
    ∃ entry ∈ entries, entry.Disappoints config

/-! ## Configurations -/

/-- A configuration file is loaded exactly if it is read and decoded. -/
theorem Config.load_eq_ok_iff {files : FileView} {path : Path} {config : Config} :
    Config.load files path = .ok config ↔
      ∃ content, files.read path = .ok content ∧ Config.ofContent content = .ok config := by
  unfold Config.load
  cases files.read path with
  | error error => simp
  | ok content => simp

/-- The configuration is that of the file to be read, or the standard one if there is none. -/
theorem resolveConfig_snd (arguments : Arguments) (files : FileView) :
    (resolveConfig arguments files).2 =
      match arguments.configFile? files with
      | some path => (Config.load files path).mapError .config
      | none => .ok .standard := by
  unfold resolveConfig Arguments.configFile?
  cases arguments.config with
  | some path => rfl
  | none =>
    dsimp only [Config.loadStandard?, Config.loadFrom?]
    cases files.resolves (Path.join (utf8 ".") (utf8 Config.fileName)) with
    | false => rfl
    | true =>
      simp only [if_true]
      cases Config.load files (Path.join (utf8 ".") (utf8 Config.fileName)) <;> rfl

/-- The configuration is resolved exactly to the one that settles the run. -/
theorem resolveConfig_eq_ok_iff {arguments : Arguments} {files : FileView} {config : Config} :
    (resolveConfig arguments files).2 = .ok config ↔ Settles arguments files config := by
  rw [resolveConfig_snd]
  constructor
  · intro resolved
    split at resolved
    · next path isFile =>
      obtain ⟨content, isRead, decodes⟩ := Config.load_eq_ok_iff.mp (mapError_eq_ok_iff.mp resolved)
      exact .read isFile isRead decodes
    · next noFile =>
      cases resolved
      exact .absent noFile
  · intro settles
    cases settles with
    | absent noFile => rw [noFile]
    | read isFile isRead decodes =>
      rw [isFile]
      exact mapError_eq_ok_iff.mpr (Config.load_eq_ok_iff.mpr ⟨_, isRead, decodes⟩)

/-- The configuration is not resolved exactly if it is unusable. -/
theorem resolveConfig_error_iff {arguments : Arguments} {files : FileView} :
    (∃ failure, (resolveConfig arguments files).2 = .error failure) ↔
      Unusable arguments files := by
  rw [resolveConfig_snd]
  constructor
  · rintro ⟨failure, failed⟩
    split at failed
    · next path isFile =>
      cases isRead : files.read path with
      | error error => exact .unreadable isFile isRead
      | ok content =>
        cases decoded : Config.ofContent content with
        | error reason => exact .undecodable isFile isRead decoded
        | ok config =>
          rw [Config.load_eq_ok_iff.mpr ⟨content, isRead, decoded⟩] at failed
          cases failed
    · cases failed
  · intro unusable
    cases unusable with
    | unreadable isFile fails =>
      rw [isFile]
      simp [Config.load, fails]
    | undecodable isFile isRead fails =>
      rw [isFile]
      simp [Config.load, isRead, fails]

/-- The configuration that settles a run is the only one. -/
theorem Settles.unique {arguments : Arguments} {files : FileView} {first second : Config}
    (isFirst : Settles arguments files first) (isSecond : Settles arguments files second) :
    first = second := by
  have same := resolveConfig_eq_ok_iff.mpr isFirst
  rw [resolveConfig_eq_ok_iff.mpr isSecond] at same
  exact (Except.ok.inj same).symm

/-- A configuration that settles a run is usable. -/
theorem Settles.not_unusable {arguments : Arguments} {files : FileView} {config : Config}
    (settles : Settles arguments files config) : ¬ Unusable arguments files := by
  intro unusable
  obtain ⟨failure, failed⟩ := resolveConfig_error_iff.mpr unusable
  rw [resolveConfig_eq_ok_iff.mpr settles] at failed
  cases failed

/-- Every run has a configuration, or one that is unusable. -/
theorem settles_or_unusable (arguments : Arguments) (files : FileView) :
    (∃ config, Settles arguments files config) ∨ Unusable arguments files := by
  cases resolved : (resolveConfig arguments files).2 with
  | error failure => exact .inr (resolveConfig_error_iff.mp ⟨failure, resolved⟩)
  | ok config => exact .inl ⟨config, resolveConfig_eq_ok_iff.mp resolved⟩

/-! ## Verdicts -/

/-- A verdict is a failure exactly if some outcome does not pass. -/
theorem verdict_eq_failed_iff {rules : Rules} {outcomes : List Outcome} :
    (Summary.of outcomes rules).verdict = .failed ↔
      ∃ outcome ∈ outcomes, outcome.label ∉ rules.passing := by
  have isFailed (verdict : Verdict) : verdict = .failed ↔ ¬ verdict = .passed := by
    cases verdict <;> decide
  rw [isFailed, Summary.verdict_of, Rules.verdict_eq_passed_iff]
  simp

/-- The exit code is two exactly if a failed verdict is to show. -/
theorem Verdict.exitCode_eq_two_iff {verdict : Verdict} {failOnVerdict : Bool} :
    verdict.exitCode failOnVerdict = 2 ↔ verdict = .failed ∧ failOnVerdict = true := by
  cases verdict <;> cases failOnVerdict <;> decide

/-- An outcome is found in an entry exactly if it can be read and loads to that outcome. -/
theorem Finding.outcome?_of_eq_some_iff {entry : Entry} {outcome : Outcome} :
    (Finding.of entry).outcome? = some outcome ↔
      ∃ content, entry.content = .ok content ∧ Outcome.load content = .ok outcome := by
  unfold Finding.of Finding.judge
  cases entry.content with
  | error error => simp [outcome?]
  | ok content => cases loaded : Outcome.load content <;> simp [outcome?, loaded]

/-- An outcome is among those found exactly if an entry that is a result file holds it. -/
theorem mem_outcomesOf_all_iff {filter : Filter} {entries : List Entry} {outcome : Outcome} :
    outcome ∈ outcomesOf (Finding.all filter entries) ↔
      ∃ entry ∈ entries, filter.accepts entry.shownName = true ∧
        ∃ content, entry.content = .ok content ∧ Outcome.load content = .ok outcome := by
  simp only [outcomesOf, Finding.all, List.mem_filterMap, List.mem_map, List.mem_filter]
  constructor
  · rintro ⟨_, ⟨entry, ⟨member, accepted⟩, rfl⟩, found⟩
    exact ⟨entry, member, accepted, Finding.outcome?_of_eq_some_iff.mp found⟩
  · rintro ⟨entry, member, accepted, loads⟩
    exact ⟨_, ⟨entry, ⟨member, accepted⟩, rfl⟩, Finding.outcome?_of_eq_some_iff.mpr loads⟩

/-- The verdict on the result files of a directory fails exactly if an entry disappoints. -/
theorem verdict_of_all_eq_failed_iff {config : Config} {entries : List Entry} :
    (Summary.of (outcomesOf (Finding.all config.filter entries))
        config.policy.rules).verdict = .failed ↔ ∃ entry ∈ entries, entry.Disappoints config := by
  rw [verdict_eq_failed_iff]
  constructor
  · rintro ⟨outcome, found, notPassing⟩
    obtain ⟨entry, member, accepted, content, isRead, loads⟩ := mem_outcomesOf_all_iff.mp found
    exact ⟨entry, member, accepted, content, outcome, isRead, loads, notPassing⟩
  · rintro ⟨entry, member, accepted, content, outcome, isRead, loads, notPassing⟩
    exact ⟨outcome, mem_outcomesOf_all_iff.mpr ⟨entry, member, accepted, content, isRead, loads⟩,
      notPassing⟩

/-! ## Whole runs -/

/-- A run without a usable configuration ends before anything is written. -/
theorem run_of_unusable {arguments : Arguments} {files : FileView}
    (unusable : Unusable arguments files) (sink : Sink) :
    (run arguments files sink).sink = sink ∧
      ∃ failure, (run arguments files sink).result = .error failure := by
  obtain ⟨failure, failed⟩ := resolveConfig_error_iff.mpr unusable
  cases resolved : resolveConfig arguments files with
  | mk events result =>
    rw [resolved] at failed
    obtain rfl : result = .error failure := failed
    simp [run, resolved]

/-- A run with a configuration goes on to the directory. -/
theorem run_of_settles {arguments : Arguments} {files : FileView} {config : Config}
    (settles : Settles arguments files config) (sink : Sink) :
    (run arguments files sink).sink = (scanAndReport arguments.path
        (config.withArguments arguments) files sink).sink ∧
      (run arguments files sink).result = (scanAndReport arguments.path
        (config.withArguments arguments) files sink).result := by
  have isOk := resolveConfig_eq_ok_iff.mpr settles
  cases resolved : resolveConfig arguments files with
  | mk events result =>
    rw [resolved] at isOk
    obtain rfl : result = .ok config := isOk
    simp [run, resolved, Ended.after]

/-- A run whose output is accepted writes all of it. -/
theorem run_taken {arguments : Arguments} {files : FileView} {sink : Sink} {config : Config}
    {entries : List Entry} (settles : Settles arguments files config)
    (listed : files.list arguments.path = .ok ⟨entries, none⟩)
    (accepts : sink.Accepts (outputBytes config entries)) :
    (run arguments files sink).sink.taken = sink.taken ++ outputBytes config entries := by
  rw [(run_of_settles settles sink).1, scanAndReport_taken listed]
  exact sink.taken_take_of_fits _ accepts.1

/-- A run ends well exactly if it has a configuration, lists the directory to the end and has its
output accepted. -/
theorem run_eq_ok_iff {arguments : Arguments} {files : FileView} {sink : Sink} {code : UInt32} :
    (run arguments files sink).result = .ok code ↔
      ∃ config entries, Settles arguments files config ∧
        files.list arguments.path = .ok ⟨entries, none⟩ ∧
        sink.Accepts (outputBytes config entries) ∧
        code = (Summary.of (outcomesOf (Finding.all config.filter entries))
          config.policy.rules).verdict.exitCode
          (config.policy.failOnVerdict || arguments.failOnVerdict) := by
  constructor
  · intro isOk
    obtain ⟨config, settles⟩ | unusable := settles_or_unusable arguments files
    · rw [(run_of_settles settles sink).2] at isOk
      obtain ⟨entries, listed, accepts, isCode⟩ := scanAndReport_eq_ok_iff.mp isOk
      exact ⟨config, entries, settles, listed, accepts, isCode⟩
    · obtain ⟨-, failure, failed⟩ := run_of_unusable unusable sink
      rw [failed] at isOk
      cases isOk
  · rintro ⟨config, entries, settles, listed, accepts, isCode⟩
    rw [(run_of_settles settles sink).2]
    exact scanAndReport_eq_ok_iff.mpr ⟨entries, listed, accepts, isCode⟩

/-- Arguments are consistent unless they ask for more and for less at once. -/
theorem areConsistent_eq_false_iff {arguments : Arguments} :
    arguments.areConsistent = false ↔ arguments.verbose = true ∧ arguments.quiet = true := by
  simp [Arguments.areConsistent]

/-- A run does not fail exactly if its arguments are consistent and it ends well. -/
theorem not_fails_iff {arguments : Arguments} {files : FileView} {sink : Sink} :
    ¬ Fails arguments files sink ↔
      arguments.areConsistent = true ∧ ∃ code, (run arguments files sink).result = .ok code := by
  constructor
  · intro notFails
    refine ⟨?_, ?_⟩
    · apply Bool.of_not_eq_false
      intro inconsistent
      obtain ⟨verbose, quiet⟩ := areConsistent_eq_false_iff.mp inconsistent
      exact notFails (.inconsistent verbose quiet)
    obtain ⟨config, settles⟩ | unusable := settles_or_unusable arguments files
    · cases listed : files.list arguments.path with
      | error error => exact absurd (.unlistable (.unopened ⟨error, listed⟩)) notFails
      | ok listing =>
        obtain ⟨entries, broken⟩ := listing
        cases broken with
        | some error => exact absurd (.unlistable (.broken listed)) notFails
        | none =>
          by_cases accepts : sink.Accepts (outputBytes config entries)
          · exact ⟨_, run_eq_ok_iff.mpr ⟨config, entries, settles, listed, accepts, rfl⟩⟩
          · exact absurd (.refused settles listed accepts) notFails
    · exact absurd (.unusable unusable) notFails
  · rintro ⟨consistent, code, isOk⟩ fails
    obtain ⟨config, entries, settles, listed, accepts, -⟩ := run_eq_ok_iff.mp isOk
    cases fails with
    | inconsistent verbose quiet =>
      rw [areConsistent_eq_false_iff.mpr ⟨verbose, quiet⟩] at consistent
      cases consistent
    | unusable unusable => exact settles.not_unusable unusable
    | unlistable unlistable =>
      cases unlistable with
      | unopened unopened =>
        obtain ⟨error, failed⟩ := unopened
        rw [failed] at listed
        cases listed
      | broken broken =>
        rw [broken] at listed
        cases listed
    | refused settles' listed' refused =>
      rw [listed'] at listed
      cases listed
      cases settles.unique settles'
      exact refused accepts

/-- A run that does not fail has the exit code two exactly if it shows a failure. -/
theorem exitCode_eq_two_iff_showsFailure {arguments : Arguments} {files : FileView} {sink : Sink}
    {code : UInt32} (isOk : (run arguments files sink).result = .ok code) :
    code = 2 ↔ ShowsFailure arguments files := by
  obtain ⟨config, entries, settles, listed, -, rfl⟩ := run_eq_ok_iff.mp isOk
  rw [Verdict.exitCode_eq_two_iff, verdict_of_all_eq_failed_iff, Bool.or_eq_true]
  constructor
  · rintro ⟨disappoints, asked⟩
    exact ⟨config, entries, settles, listed, asked.symm, disappoints⟩
  · rintro ⟨config', entries', settles', listed', asked, disappoints⟩
    rw [listed] at listed'
    cases listed'
    cases settles.unique settles'
    exact ⟨disappoints, asked.symm⟩

/-- What a consistent command leaves behind is the exit code of its run. -/
theorem follow_exitCode_of_ok {arguments : Arguments} {files : FileView} {sink : Sink}
    {code : UInt32} (consistent : arguments.areConsistent = true)
    (isOk : (run arguments files sink).result = .ok code) :
    (follow arguments files sink).exitCode = code := by
  simp [follow, consistent, Finished.ofRun, isOk]

/-- A run that fails has the exit code one. -/
theorem follow_exitCode_of_fails {arguments : Arguments} {files : FileView} {sink : Sink}
    (fails : Fails arguments files sink) : (follow arguments files sink).exitCode = 1 := by
  cases consistent : arguments.areConsistent with
  | false => simp [follow, consistent]
  | true =>
    cases result : (run arguments files sink).result with
    | error failure => simp [follow, consistent, Finished.ofRun, result]
    | ok code => exact absurd fails (not_fails_iff.mpr ⟨consistent, code, result⟩)

/-- What a consistent command writes is what its run writes. -/
theorem follow_sink (arguments : Arguments) (files : FileView) (sink : Sink) :
    (follow arguments files sink).sink =
      if arguments.areConsistent then (run arguments files sink).sink else sink := by
  unfold follow
  cases arguments.areConsistent with
  | false => rfl
  | true =>
    simp only [if_true, Finished.ofRun]
    split <;> rfl

/-- A run that does not get to its directory writes nothing. -/
theorem follow_sink_of_early {arguments : Arguments} {files : FileView} (sink : Sink)
    (early : arguments.areConsistent = false ∨ Unusable arguments files ∨
      Unopened arguments files) :
    (follow arguments files sink).sink = sink := by
  rw [follow_sink]
  cases consistent : arguments.areConsistent with
  | false => rfl
  | true =>
    rw [consistent] at early
    rw [if_pos rfl]
    obtain ⟨config, settles⟩ | unusable := settles_or_unusable arguments files
    · obtain impossible | unusable | ⟨error, failed⟩ := early
      · cases impossible
      · exact absurd unusable settles.not_unusable
      · rw [(run_of_settles settles sink).1]
        exact (scanAndReport_of_unopened failed _ sink).1
    · exact (run_of_unusable unusable sink).1

/-- A run whose listing breaks off writes the reports on the files that were listed before. -/
theorem follow_sink_of_broken {arguments : Arguments} {files : FileView} (sink : Sink)
    {config : Config} {entries : List Entry} {error : OsError}
    (consistent : arguments.areConsistent = true) (settles : Settles arguments files config)
    (listed : files.list arguments.path = .ok ⟨entries, some error⟩) :
    (follow arguments files sink).sink =
      sink.take (diagnosticBytes (Finding.all config.filter entries)) := by
  rw [follow_sink, if_pos consistent, (run_of_settles settles sink).1]
  exact (scanAndReport_of_broken listed _ sink).1

/-- A run that ends well has the exit code zero or two. -/
theorem run_code {arguments : Arguments} {files : FileView} {sink : Sink} {code : UInt32}
    (isOk : (run arguments files sink).result = .ok code) :
    code ≠ 1 ∧ (code = 0 ↔ ¬ code = 2) := by
  obtain ⟨config, entries, -, -, -, rfl⟩ := run_eq_ok_iff.mp isOk
  generalize (Summary.of _ _).verdict = verdict
  generalize (config.policy.failOnVerdict || arguments.failOnVerdict) = shown
  cases verdict <;> cases shown <;> decide

/-- A command complains exactly if it fails. -/
theorem follow_complaint_eq_empty_iff {arguments : Arguments} {files : FileView} {sink : Sink} :
    (follow arguments files sink).complaint = "" ↔ ¬ Fails arguments files sink := by
  rw [not_fails_iff, follow]
  cases consistent : arguments.areConsistent with
  | false =>
    simp
  | true =>
    simp only [if_true, Finished.ofRun, true_and]
    cases (run arguments files sink).result with
    | error failure => simp
    | ok code => simp

/-- The exit code is one exactly for a run that fails, and there is a complaint exactly then.
Otherwise the exit code is two exactly if a failed verdict is to show and an entry makes it fail,
and zero if not. Nothing is written to the output if the arguments are inconsistent, if no
configuration is usable, or if the directory cannot be opened. If its listing breaks off, the
reports on the files that were listed before are written, as far as there is room for them, and
nothing else. -/
theorem follow_exitCode_iff (arguments : Arguments) (files : FileView) (sink : Sink) :
    ((follow arguments files sink).exitCode = 1 ↔ Fails arguments files sink) ∧
    ((follow arguments files sink).exitCode = 2 ↔
      ¬ Fails arguments files sink ∧ ShowsFailure arguments files) ∧
    ((follow arguments files sink).exitCode = 0 ↔
      ¬ Fails arguments files sink ∧ ¬ ShowsFailure arguments files) ∧
    ((follow arguments files sink).complaint = "" ↔ ¬ Fails arguments files sink) ∧
    (arguments.areConsistent = false ∨ Unusable arguments files ∨ Unopened arguments files →
      (follow arguments files sink).sink = sink) ∧
    (∀ config entries error, arguments.areConsistent = true → Settles arguments files config →
      files.list arguments.path = .ok ⟨entries, some error⟩ →
      (follow arguments files sink).sink =
        sink.take (diagnosticBytes (Finding.all config.filter entries))) := by
  refine ⟨?_, ?_, ?_, follow_complaint_eq_empty_iff, follow_sink_of_early sink,
    fun config entries error => follow_sink_of_broken sink⟩
  all_goals
    by_cases fails : Fails arguments files sink
    · simp [follow_exitCode_of_fails fails, fails]
    obtain ⟨consistent, code, isOk⟩ := not_fails_iff.mp fails
    rw [follow_exitCode_of_ok consistent isOk]
    simp only [fails, not_false_eq_true, true_and]
  · simpa using (run_code isOk).1
  · exact exitCode_eq_two_iff_showsFailure isOk
  · rw [(run_code isOk).2, exitCode_eq_two_iff_showsFailure isOk]

/-- A configuration file accepts one label only and asks for a failed verdict to show. Among files
that are rejected, the manifest and a page, one outcome has another label, which shows in the exit
code if the directory is listed to the end. If the listing breaks off, the reports on the rejected
files are all that is written, and without the directory nothing is. -/
theorem follow_configured_to_fail :
    let arguments : Arguments := ⟨utf8 "r", some (utf8 "c.toml"), false, false, false⟩
    let locked : Entry := ⟨utf8 "a.json", .error .denied⟩
    let page : Entry := ⟨utf8 "a.html", .ok (utf8 "FAILED")⟩
    let manifest : Entry :=
      ⟨utf8 "index.json", .ok (utf8 "\x7b\"case\": 1, \"behavior\": \"FAILED\"\x7d")⟩
    let strict : Entry :=
      ⟨utf8 "b.json", .ok (utf8 "\x7b\"case\": 2, \"behavior\": \"NON-STRICT\"\x7d")⟩
    let entries := [page, locked, manifest, strict]
    let files (list : Path → Except OsError Listing) : FileView :=
      ⟨fun path =>
          if path = utf8 "c.toml" then
            .ok (utf8 "[verdict]\npassing_behaviors = [\"OK\"]\nfail_on_verdict = true\n")
          else .error .noEntry,
        list, fun _ => true⟩
    let whole := files fun _ => .ok ⟨entries, none⟩
    let broken := files fun _ => .ok ⟨entries, some .denied⟩
    let absent := files fun _ => .error .noEntry
    (follow arguments whole .unlimited).exitCode = 2 ∧
      (follow arguments whole .unlimited).complaint = "" ∧
      (follow arguments broken .unlimited).exitCode = 1 ∧
      (follow arguments broken .unlimited).sink.taken =
        utf8 "Error reading a.json: Permission denied (os error 13)\n" ∧
      (follow arguments absent .unlimited).exitCode = 1 ∧
      (follow arguments absent .unlimited).sink = .unlimited := by
  intro arguments locked page manifest strict entries files whole broken absent
  let config : Config := ⟨.standard, ⟨⟨["OK"]⟩, true⟩⟩
  let outcome : Outcome := ⟨.number 2, "NON-STRICT"⟩
  have decodes : Config.ofContent
      (utf8 "[verdict]\npassing_behaviors = [\"OK\"]\nfail_on_verdict = true\n") =
        .ok config :=
    toOption_eq_some_iff.mp (by decide +kernel)
  have settles (list : Path → Except OsError Listing) : Settles arguments (files list) config :=
    .read rfl (by simp [files]) decodes
  have loads : Outcome.load (utf8 "\x7b\"case\": 2, \"behavior\": \"NON-STRICT\"\x7d") =
      .ok outcome :=
    toOption_eq_some_iff.mp (by decide +kernel)
  have disappoints : strict.Disappoints config :=
    ⟨by decide +kernel, _, outcome, rfl, loads, by decide⟩
  have shows : ShowsFailure arguments whole :=
    ⟨config, entries, settles _, rfl, .inr rfl, strict, by simp [entries], disappoints⟩
  have completes : ¬ Fails arguments whole .unlimited := by
    rintro (⟨⟨⟩, -⟩ | unusable | unlistable | ⟨-, -, refused⟩)
    · exact (settles _).not_unusable unusable
    · rcases unlistable with ⟨-, ⟨⟩⟩ | ⟨⟨⟩⟩
    · exact refused ⟨Sink.fits_of_room_none _ _ rfl, by decide, by decide⟩
  have unopened : Unopened arguments absent := ⟨.noEntry, rfl⟩
  obtain ⟨-, isTwo, -, isSilent, -, -⟩ := follow_exitCode_iff arguments whole .unlimited
  obtain ⟨isOne, -, -, -, -, written⟩ := follow_exitCode_iff arguments broken .unlimited
  obtain ⟨isOne', -, -, -, isEarly, -⟩ := follow_exitCode_iff arguments absent .unlimited
  refine ⟨isTwo.mpr ⟨completes, shows⟩, isSilent.mpr completes,
    isOne.mpr (.unlistable (.broken rfl)), ?_, isOne'.mpr (.unlistable (.unopened unopened)),
    isEarly (.inr (.inr unopened))⟩
  rw [written config entries .denied rfl (settles _) rfl]
  decide +kernel

/-- A directory whose listing breaks off cannot be listed, and yet the report on a file that came
before is written. Without a directory nothing is written to the output, but there is a
complaint. -/
theorem follow_unlistable_writes :
    let arguments : Arguments := ⟨utf8 "r", none, false, false, false⟩
    let locked : Entry := ⟨utf8 "a.json", .error .denied⟩
    let broken : FileView :=
      ⟨fun _ => .error .noEntry, fun _ => .ok ⟨[locked], some .denied⟩, fun _ => false⟩
    let absent : FileView := ⟨fun _ => .error .noEntry, fun _ => .error .noEntry, fun _ => false⟩
    ¬ (Unlistable arguments broken → (follow arguments broken .unlimited).sink = .unlimited) ∧
      (follow arguments broken .unlimited).exitCode = 1 ∧
      (follow arguments broken .unlimited).sink.taken =
        utf8 "Error reading a.json: Permission denied (os error 13)\n" ∧
      Unlistable arguments absent ∧
      (follow arguments absent .unlimited).sink = .unlimited ∧
      (follow arguments absent .unlimited).complaint =
        "\n❌ Error: Failed to read results directory: r: No such file or directory "
          ++ "(os error 2)\n" := by
  intro arguments locked broken absent
  have written : (follow arguments broken .unlimited).sink.taken =
      utf8 "Error reading a.json: Permission denied (os error 13)\n" := by
    decide +kernel
  refine ⟨?_, by decide +kernel, written, .unopened ⟨.noEntry, rfl⟩, by decide +kernel,
    by decide +kernel⟩
  intro silent
  have nothing := written.symm.trans (congrArg Sink.taken (silent (.broken rfl)))
  exact absurd nothing (by decide)

end ConformanceReport
