import ConformanceReport.Proofs.Run.ExitCode
import ConformanceReport.Proofs.Scan.Isolation

/-!
# What a report does not depend on

Two runs that ask for the same report over directories with the same result files leave the same
output and the same exit code (`follow_noninterference`). How much is logged, entries that are no
result files, and a configuration file that is looked for only if none is named make no difference,
and neither does a sink that is full in between.
-/

namespace ConformanceReport

/-- Two requests for the same report. They differ at most in how much is logged. -/
structure SameRequest (left right : Arguments) : Prop where
  path : left.path = right.path
  config : left.config = right.config
  failOnVerdict : left.failOnVerdict = right.failOnVerdict
  consistent : left.areConsistent = right.areConsistent

/-- The same configuration is used with two file systems. A file that is named decides alone, so
the file of the fixed name in the working directory may differ as it likes. -/
inductive SameConfig (arguments : Arguments) (left right : FileView) : Prop where
  | named {path : Path} (isNamed : arguments.config = some path)
      (sameContent : left.read path = right.read path) : SameConfig arguments left right
  | settled (same : ∀ config, Settles arguments left config ↔ Settles arguments right config) :
      SameConfig arguments left right

/-- What a report may depend on among the entries of a directory: the names of the result files as
they are shown, with what reading each yields, in order. -/
def resultsIn (filter : Filter) (entries : List Entry) : List (String × Except OsError Bytes) :=
  (entries.filter (Entry.isResult filter)).map fun entry => (entry.shownName, entry.content)

/-- Two directories have the same result files, or neither can be opened. If one listing breaks
off, so does the other one. -/
inductive SameResults (filter : Filter) :
    Except OsError Listing → Except OsError Listing → Prop where
  | unopened (left right : OsError) : SameResults filter (.error left) (.error right)
  | listed {left right : Listing}
      (same : resultsIn filter left.entries = resultsIn filter right.entries)
      (sameEnd : left.failure.isSome = right.failure.isSome) :
      SameResults filter (.ok left) (.ok right)

/-- Two runs, or parts of them, end alike: with the same output, and with the same exit code if
not with failures. -/
structure Ended.Alike (left right : Ended) : Prop where
  sink : left.sink = right.sink
  code : left.result.toOption = right.result.toOption

/-! ## Scans -/

/-- What is found in a result file that is shown by some name and has some content. -/
def Finding.ofResult (result : String × Except OsError Bytes) : Finding :=
  match judge result.2 with
  | .ok outcome => .loaded result.1 outcome
  | .error rejection => .rejected result.1 rejection

/-- What is found depends on the result files and on nothing else in a listing. -/
theorem Finding.all_eq_map_resultsIn (filter : Filter) (entries : List Entry) :
    Finding.all filter entries = (resultsIn filter entries).map Finding.ofResult := by
  rw [resultsIn, List.map_map]
  rfl

/-- Scans of directories with the same result files find the same and write the same, and one is
stopped exactly if the other one is. -/
theorem scanDirectory_same {path : Path} {filter : Filter} {left right : FileView}
    (results : SameResults filter (left.list path) (right.list path)) (sink : Sink) :
    (scanDirectory path filter left sink).findings =
        (scanDirectory path filter right sink).findings ∧
      (scanDirectory path filter left sink).sink = (scanDirectory path filter right sink).sink ∧
      (scanDirectory path filter left sink).failure.isSome =
        (scanDirectory path filter right sink).failure.isSome := by
  unfold scanDirectory
  generalize left.list path = first at results
  generalize right.list path = second at results
  cases results with
  | unopened => exact ⟨rfl, rfl, rfl⟩
  | listed same sameEnd =>
    dsimp only
    rw [Finding.all_eq_map_resultsIn, same, ← Finding.all_eq_map_resultsIn]
    refine ⟨rfl, rfl, ?_⟩
    cases (sink.diagnose (Finding.all filter _)).error with
    | some error => rfl
    | none => simpa using sameEnd

/-! ## Runs -/

/-- Scans that find and write the same, and of which both or neither were stopped, are followed by
the same summary, if by any. -/
theorem Scanned.summarize_same {left right : Scanned} (findings : left.findings = right.findings)
    (sink : left.sink = right.sink) (stopped : left.failure.isSome = right.failure.isSome)
    (rules : Rules) :
    (left.summarize rules).sink = (right.summarize rules).sink ∧
      (left.summarize rules).result.toOption = (right.summarize rules).result.toOption := by
  cases isLeft : left.failure with
  | some failure =>
    rw [isLeft, Option.isSome_some] at stopped
    obtain ⟨failure', isRight⟩ := Option.isSome_iff_exists.mp stopped.symm
    rw [summarize_of_failure isLeft, summarize_of_failure isRight]
    exact ⟨sink, rfl⟩
  | none =>
    rw [isLeft, Option.isSome_none] at stopped
    have isRight := Option.isSome_eq_false_iff.mp stopped.symm
    rw [Option.isNone_iff_eq_none] at isRight
    rw [summarize_of_none isLeft, summarize_of_none isRight, findings, sink]
    exact ⟨rfl, rfl⟩

/-- Runs with the same summary, if with any, end alike. -/
theorem Summarized.conclude_alike {left right : Summarized} (sink : left.sink = right.sink)
    (summary : left.result.toOption = right.result.toOption) (policy : Policy) :
    (left.conclude policy).Alike (right.conclude policy) := by
  cases isLeft : left.result with
  | error failure =>
    cases isRight : right.result with
    | error failure' =>
      rw [conclude_of_error isLeft, conclude_of_error isRight]
      exact ⟨sink, rfl⟩
    | ok summary' =>
      rw [isLeft, isRight] at summary
      cases summary
  | ok summary' =>
    rw [isLeft] at summary
    have isRight := toOption_eq_some_iff.mp summary.symm
    rw [conclude, conclude, isLeft, isRight, sink]
    cases right.sink.flush with
    | mk flushed result => cases result <;> exact ⟨rfl, rfl⟩

/-- Runs over directories with the same result files end alike. -/
theorem scanAndReport_alike {path : Path} (config : Config) {left right : FileView}
    (results : SameResults config.filter (left.list path) (right.list path)) (sink : Sink) :
    (scanAndReport path config left sink).Alike (scanAndReport path config right sink) := by
  obtain ⟨findings, written, stopped⟩ := scanDirectory_same results sink
  obtain ⟨sameSink, sameSummary⟩ :=
    Scanned.summarize_same findings written stopped config.policy.rules
  obtain ⟨sink, code⟩ := Summarized.conclude_alike sameSink sameSummary config.policy
  exact ⟨sink, code⟩

/-- Which configuration settles a run depends on the file that is named and on no other
argument. -/
theorem Settles.of_config_eq {left right : Arguments} (same : left.config = right.config)
    {files : FileView} {config : Config} (settles : Settles left files config) :
    Settles right files config := by
  have sameFile : left.configFile? files = right.configFile? files := by
    rw [Arguments.configFile?, Arguments.configFile?, same]
  cases settles with
  | absent noFile => exact .absent (sameFile ▸ noFile)
  | read isFile isRead decodes => exact .read (sameFile ▸ isFile) isRead decodes

/-- A named file settles a run by its content alone. -/
theorem Settles.of_named {arguments : Arguments} {path : Path}
    (isNamed : arguments.config = some path) {left right : FileView}
    (sameContent : left.read path = right.read path) {config : Config}
    (settles : Settles arguments left config) : Settles arguments right config := by
  have isFile (files : FileView) : arguments.configFile? files = some path := by
    rw [Arguments.configFile?, isNamed]
  cases settles with
  | absent noFile =>
    rw [isFile] at noFile
    cases noFile
  | read isFile' isRead decodes =>
    rw [isFile] at isFile'
    cases isFile'
    exact .read (isFile right) (sameContent ▸ isRead) decodes

/-- The same configuration settles a run with either file system. -/
theorem SameConfig.settles_iff {arguments : Arguments} {left right : FileView}
    (same : SameConfig arguments left right) (config : Config) :
    Settles arguments left config ↔ Settles arguments right config := by
  cases same with
  | named isNamed sameContent =>
    exact ⟨.of_named isNamed sameContent, .of_named isNamed sameContent.symm⟩
  | settled same => exact same config

/-- Runs that ask for the same report over the same result files end alike. -/
theorem run_alike {left right : Arguments} {leftFiles rightFiles : FileView}
    (request : SameRequest left right) (same : SameConfig left leftFiles rightFiles)
    (results : ∀ config, Settles left leftFiles config →
      SameResults config.filter (leftFiles.list left.path) (rightFiles.list right.path))
    (sink : Sink) :
    (run left leftFiles sink).Alike (run right rightFiles sink) := by
  obtain ⟨config, settles⟩ | unusable := settles_or_unusable left leftFiles
  · have settles' := ((same.settles_iff config).mp settles).of_config_eq request.config
    obtain ⟨sinkLeft, resultLeft⟩ := run_of_settles settles sink
    obtain ⟨sinkRight, resultRight⟩ := run_of_settles settles' sink
    have sameResults := results config settles
    rw [← request.path] at sameResults
    rw [← request.path, ← config.withArguments_congr request.failOnVerdict] at sinkRight resultRight
    have alike := scanAndReport_alike (config.withArguments left) sameResults sink
    exact ⟨by rw [sinkLeft, sinkRight, alike.sink], by rw [resultLeft, resultRight, alike.code]⟩
  · have unusable' : Unusable right rightFiles := by
      obtain ⟨config, settles⟩ | unusable' := settles_or_unusable right rightFiles
      · have settles' := settles.of_config_eq request.config.symm
        exact absurd unusable ((same.settles_iff config).mpr settles').not_unusable
      · exact unusable'
    obtain ⟨sinkLeft, failure, resultLeft⟩ := run_of_unusable unusable sink
    obtain ⟨sinkRight, failure', resultRight⟩ := run_of_unusable unusable' sink
    exact ⟨by rw [sinkLeft, sinkRight], by rw [resultLeft, resultRight]; rfl⟩

/-- The exit code of a consistent command is that of its run, or one for a failure. -/
theorem follow_exitCode {arguments : Arguments} (files : FileView) (sink : Sink) :
    (follow arguments files sink).exitCode =
      if arguments.areConsistent then (run arguments files sink).result.toOption.getD 1 else 1 := by
  unfold follow
  cases arguments.areConsistent with
  | false => rfl
  | true =>
    simp only [if_true, Finished.ofRun]
    cases (run arguments files sink).result <;> rfl

/-- Requests for the same report that use the same configuration, over directories with the same
result files, leave the same output and the same exit code, with any sink. -/
theorem follow_noninterference {left right : Arguments} {leftFiles rightFiles : FileView}
    (request : SameRequest left right) (same : SameConfig left leftFiles rightFiles)
    (results : ∀ config, Settles left leftFiles config →
      SameResults config.filter (leftFiles.list left.path) (rightFiles.list right.path))
    (sink : Sink) :
    (follow left leftFiles sink).sink = (follow right rightFiles sink).sink ∧
      (follow left leftFiles sink).exitCode = (follow right rightFiles sink).exitCode := by
  have alike := run_alike request same results sink
  rw [follow_sink, follow_sink, follow_exitCode, follow_exitCode, request.consistent, alike.sink,
    alike.code]
  exact ⟨rfl, rfl⟩

/-- A loud run and a quiet one with a broken configuration file around that is not asked for, over
directories that differ in a manifest and a page. -/
theorem follow_shadowed_config :
    let loud : Arguments := ⟨utf8 "r", some (utf8 "c.toml"), true, false, true⟩
    let quiet : Arguments := ⟨utf8 "r", some (utf8 "c.toml"), false, true, true⟩
    let failed : Entry :=
      ⟨utf8 "a.json", .ok (utf8 "\x7b\"case\": 7, \"behavior\": \"FAILED\"\x7d")⟩
    let page : Entry := ⟨utf8 "a.html", .ok (utf8 "FAILED")⟩
    let manifest : Entry := ⟨utf8 "index.json", .error .isDirectory⟩
    let alone : FileView :=
      ⟨fun path => if path = utf8 "c.toml" then .ok [] else .error .noEntry,
        fun _ => .ok ⟨[failed], none⟩, fun _ => false⟩
    let among : FileView :=
      ⟨fun path => if path = utf8 "c.toml" then .ok [] else .ok (utf8 "[scanner"),
        fun _ => .ok ⟨[page, failed, manifest], none⟩, fun _ => true⟩
    (follow loud alone .unlimited).exitCode = 2 ∧
      (follow loud alone .unlimited).sink = (follow quiet among .unlimited).sink ∧
      (follow loud alone .unlimited).exitCode = (follow quiet among .unlimited).exitCode := by
  intro loud quiet failed page manifest alone among
  have isStandard : Config.ofContent [] = .ok .standard :=
    toOption_eq_some_iff.mp (by decide +kernel)
  have settles : Settles loud alone .standard := .read rfl rfl isStandard
  have isFailed : failed.isResult .standard = true := by decide +kernel
  have noPage : page.isResult .standard = false := by decide +kernel
  have noManifest : manifest.isResult .standard = false := by decide +kernel
  have sameResults :
      resultsIn .standard [failed] = resultsIn .standard [page, failed, manifest] := by
    simp only [resultsIn, List.filter_cons, isFailed, noPage, noManifest]
    rfl
  have law := follow_noninterference (⟨rfl, rfl, rfl, rfl⟩ : SameRequest loud quiet)
    (.named rfl rfl : SameConfig loud alone among) (fun config settles' => by
      obtain rfl := settles.unique settles'
      exact .listed sameResults rfl) .unlimited
  exact ⟨by decide +kernel, law⟩

end ConformanceReport
