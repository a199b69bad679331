import ConformanceReport.Config.Load
import ConformanceReport.Proofs.Config.Sections
import ConformanceReport.Proofs.Text.Utf8
import ConformanceReport.Proofs.Toml.Distinct
import Mathlib.Data.List.Forall2

/-!
# The configuration that a document states

A document states four settings in two sections, `stated?` finds each of them on its own, and
`States` says which configuration has what is stated and the defaults for the rest. That is the one
that is loaded, in whatever order and spelling the document is written and whatever else it holds,
and there is one exactly if every setting that is stated is of its kind (`settings_of_document`).
-/

namespace ConformanceReport

namespace Toml

/-- Values that are the same, whatever their places and the order of the entries of tables. -/
inductive Value.Alike : Value → Value → Prop where
  | text (first second : Span) (content : String) :
      Alike (.text first content) (.text second content)
  | integer (first second : Span) (number : Int) :
      Alike (.integer first number) (.integer second number)
  | floating (first second : Span) (number : Float) :
      Alike (.floating first number) (.floating second number)
  | boolean (first second : Span) (truth : Bool) :
      Alike (.boolean first truth) (.boolean second truth)
  | moment (first second : Span) : Alike (.moment first) (.moment second)
  | list (first second : Span) {items others : List Value}
      (each : List.Forall₂ Alike items others) : Alike (.list first items) (.list second others)
  | table (first second : Span) {entries others : List (String × Value)}
      (each : ∀ key, Option.Rel Alike (entries.lookup key) (others.lookup key)) :
      Alike (.table first entries) (.table second others)

end Toml

namespace Config

open Toml

/-- A setting that a document may state. -/
inductive Setting where
  | manifest
  | extension
  | passing
  | failOnVerdict
  deriving DecidableEq, Repr

namespace Setting

/-- The section that a setting belongs to. -/
def sectionName : Setting → String
  | .manifest => "scanner"
  | .extension => "scanner"
  | .passing => "verdict"
  | .failOnVerdict => "verdict"

/-- The key of a setting in its section. -/
def key : Setting → String
  | .manifest => "manifest_file"
  | .extension => "extension"
  | .passing => "passing_behaviors"
  | .failOnVerdict => "fail_on_verdict"

/-- A value is of the kind that a setting has. -/
def Admits : Setting → Value → Prop
  | .manifest, value => ∃ content, IsText value content
  | .extension, value => ∃ content, IsText value content
  | .passing, value => ∃ contents, IsTexts value contents
  | .failOnVerdict, value => ∃ truth, IsBoolean value truth

theorem sectionName_mem (setting : Setting) : setting.sectionName ∈ ["scanner", "verdict"] := by
  cases setting <;> decide

end Setting

/-- The value that a document states for a setting, if it does. -/
def stated? (document : List (String × Value)) (setting : Setting) : Option Value :=
  match document.lookup setting.sectionName with
  | some (.table _ entries) => entries.lookup setting.key
  | _ => none

/-- The sections of a document are tables, where they are present. -/
def IsSectioned (document : List (String × Value)) : Prop :=
  ∀ name ∈ ["scanner", "verdict"], ∀ value ∈ document.lookup name,
    ∃ span entries, value = .table span entries

/-- The section of a name is absent or empty. -/
def IsBlank (document : List (String × Value)) (name : String) : Prop :=
  document.lookup name = none ∨ ∃ span, document.lookup name = some (.table span [])

/-- Two documents state the same for a setting: neither states anything in its section, or the
setting has the same value in both, or in neither. -/
inductive Agree (first second : List (String × Value)) (setting : Setting) : Prop where
  | blank (isBlank : IsBlank first setting.sectionName)
      (isBlank' : IsBlank second setting.sectionName)
  | alike (alike : Option.Rel Value.Alike (stated? first setting) (stated? second setting))

/-- A configuration has what a document states, and defaults for what it does not. -/
structure States (document : List (String × Value)) (config : Config) : Prop where
  manifest : Sets IsText "index.json" (stated? document .manifest) config.filter.manifest
  extension : Sets IsText ".json" (stated? document .extension) config.filter.extension
  passing : Sets IsTexts ["OK", "NON-STRICT", "INFORMATIONAL"] (stated? document .passing)
    config.policy.rules.passing
  failOnVerdict : Sets IsBoolean false (stated? document .failOnVerdict)
    config.policy.failOnVerdict

/-- The file at a path is a text that denotes a document. -/
def HoldsDocument (files : FileView) (path : Path) (document : List (String × Value)) : Prop :=
  ∃ text, files.read path = .ok (utf8 text) ∧ Toml.parse text.toList = some document

/-! ## Sections -/

section

variable {document entries : List (String × Value)} {span : Span}

/-- A section states for its settings what its entries say. -/
theorem stated?_of_lookup (setting : Setting)
    (isSection : document.lookup setting.sectionName = some (.table span entries)) :
    stated? document setting = entries.lookup setting.key := by
  rw [stated?, isSection]

/-- A section that is absent states nothing, and neither does an empty one. -/
theorem stated?_of_isBlank (setting : Setting)
    (isBlank : IsBlank document setting.sectionName) : stated? document setting = none := by
  rcases isBlank with absent | ⟨span, empty⟩
  · rw [stated?, absent]
  · rw [stated?_of_lookup setting empty, List.lookup_nil]

/-- The keys of a section are distinct, like those of the document. -/
theorem nodup_of_lookup {name : String} (distinct : ∀ entry ∈ document, entry.2.Distinct)
    (isSection : document.lookup name = some (.table span entries)) :
    (entries.map Prod.fst).Nodup := by
  obtain ⟨before, behind, rfl, -⟩ := List.lookup_eq_some_iff.mp isSection
  have sectionDistinct := distinct (name, .table span entries) (by simp)
  cases sectionDistinct with
  | table _ keys _ => exact keys

end

variable {document : List (String × Value)}

/-- A section comes to what the document states for its two settings. -/
theorem sets_section_iff {whole left right : Type} {make : left → right → whole}
    {step : whole → String × Value → Except Mismatch whole}
    {readLeft : Value → Except Mismatch left} {readRight : Value → Except Mismatch right}
    (first second : Setting) (reads : Reads make step first.key second.key readLeft readRight)
    (sameSection : second.sectionName = first.sectionName)
    {read : Value → Except Mismatch whole} {a a' : left} {b b' : right}
    (read_table : ∀ span entries, read (.table span entries) = entries.foldlM step (make a b))
    (distinct : ∀ entry ∈ document, entry.2.Distinct) (sectioned : IsSectioned document) :
    Sets (fun value content => read value = .ok content) (make a b)
        (document.lookup first.sectionName) (make a' b') ↔
      Sets (fun value content => readLeft value = .ok content) a (stated? document first) a' ∧
        Sets (fun value content => readRight value = .ok content) b (stated? document second)
          b' := by
  cases present : document.lookup first.sectionName with
  | none =>
    rw [stated?_of_isBlank first (.inl present),
      stated?_of_isBlank second (.inl (sameSection ▸ present)), sets_none_iff, sets_none_iff,
      sets_none_iff]
    exact reads.make_inj
  | some value =>
    obtain ⟨span, entries, rfl⟩ :=
      sectioned first.sectionName first.sectionName_mem value present
    rw [stated?_of_lookup first present, stated?_of_lookup second (sameSection ▸ present),
      sets_some_iff, read_table, reads.foldlM_iff (nodup_of_lookup distinct present)]

/-- A document gives the configuration that it states. -/
theorem ofDocument_eq_ok_iff {span : Span} (distinct : (Value.table span document).Distinct)
    (sectioned : IsSectioned document) {config : Config} :
    ofDocument document = .ok config ↔ States document config := by
  cases distinct with
  | table _ keys each =>
    change document.foldlM setSection ⟨.standard, .standard⟩ =
      .ok ⟨config.filter, config.policy⟩ ↔ _
    have filters : Sets (fun value content => filterOf value = .ok content) .standard
        (document.lookup "scanner") config.filter ↔ _ :=
      sets_section_iff .manifest .extension reads_setFilter rfl (fun _ _ => rfl) each sectioned
    have policies : Sets (fun value content => policyOf value = .ok content) .standard
        (document.lookup "verdict") config.policy ↔ _ :=
      sets_section_iff .passing .failOnVerdict reads_setPolicy rfl (fun _ _ => rfl) each sectioned
    rw [reads_setSection.foldlM_iff keys, filters, policies]
    simp only [text_eq_ok_iff, texts_eq_ok_iff, boolean_eq_ok_iff]
    constructor
    · rintro ⟨⟨manifest, extension⟩, passing, failOnVerdict⟩
      exact ⟨manifest, extension, passing, failOnVerdict⟩
    · rintro ⟨manifest, extension, passing, failOnVerdict⟩
      exact ⟨⟨manifest, extension⟩, passing, failOnVerdict⟩

theorem HoldsDocument.load_eq_ok_iff {files : FileView} {path : Path}
    (isDocument : HoldsDocument files path document) (sectioned : IsSectioned document)
    {config : Config} : load files path = .ok config ↔ States document config := by
  obtain ⟨text, isRead, parsed⟩ := isDocument
  have isText : Utf8.decode? (utf8 text) = some text := Utf8.decode?_eq_some_iff.mpr rfl
  rw [load, isRead]
  simp only [ofContent, isText, ofText, parsed, mapError_eq_ok_iff]
  exact ofDocument_eq_ok_iff (distinct_parse parsed ⟨0, 0⟩) sectioned

/-- A document states a configuration exactly if each setting that it states is of its kind. -/
theorem exists_states_iff :
    (∃ config, States document config) ↔
      ∀ setting, ∀ value ∈ stated? document setting, setting.Admits value := by
  constructor
  · rintro ⟨config, manifest, extension, passing, failOnVerdict⟩ setting
    cases setting with
    | manifest => exact exists_sets_iff.mp ⟨_, manifest⟩
    | extension => exact exists_sets_iff.mp ⟨_, extension⟩
    | passing => exact exists_sets_iff.mp ⟨_, passing⟩
    | failOnVerdict => exact exists_sets_iff.mp ⟨_, failOnVerdict⟩
  · intro admitted
    obtain ⟨manifest, isManifest⟩ := exists_sets_iff.mpr (admitted .manifest)
    obtain ⟨extension, isExtension⟩ := exists_sets_iff.mpr (admitted .extension)
    obtain ⟨passing, isPassing⟩ := exists_sets_iff.mpr (admitted .passing)
    obtain ⟨failOnVerdict, isSet⟩ := exists_sets_iff.mpr (admitted .failOnVerdict)
    exact ⟨⟨⟨manifest, extension⟩, ⟨passing⟩, failOnVerdict⟩,
      isManifest, isExtension, isPassing, isSet⟩

/-! ## Documents that agree -/

section

variable {value value' : Value}

theorem isText_congr {content : String} (alike : value.Alike value') :
    IsText value content ↔ IsText value' content := by
  cases alike <;> simp [IsText]

theorem isBoolean_congr {truth : Bool} (alike : value.Alike value') :
    IsBoolean value truth ↔ IsBoolean value' truth := by
  cases alike <;> simp [IsBoolean]

theorem isTexts_congr {contents : List String} (alike : value.Alike value') :
    IsTexts value contents ↔ IsTexts value' contents := by
  cases alike with
  | list first second each =>
    simp only [IsTexts, Value.list.injEq, ↓existsAndEq, and_true, true_and]
    induction each generalizing contents with
    | nil => rfl
    | cons alike _ inductionHypothesis =>
      simp only [List.forall₂_cons_left_iff, isText_congr alike, inductionHypothesis]
  | _ => simp [IsTexts]

end

theorem Agree.alike_stated? {document' : List (String × Value)} {setting : Setting}
    (agree : Agree document document' setting) :
    Option.Rel Value.Alike (stated? document setting) (stated? document' setting) := by
  cases agree with
  | blank isBlank isBlank' =>
    rw [stated?_of_isBlank setting isBlank, stated?_of_isBlank setting isBlank']
    exact .none
  | alike alike => exact alike

theorem sets_congr {α : Type} {denotes : Value → α → Prop} {before content : α}
    (denotes_congr : ∀ {value value'}, value.Alike value' →
      (denotes value content ↔ denotes value' content))
    {value? value'? : Option Value} (alike : Option.Rel Value.Alike value? value'?) :
    Sets denotes before value? content ↔ Sets denotes before value'? content := by
  cases alike with
  | none => rfl
  | some alike => rw [sets_some_iff, sets_some_iff, denotes_congr alike]

/-- Documents that agree on every setting state the same configuration. -/
theorem states_congr {document' : List (String × Value)}
    (agree : ∀ setting, Agree document document' setting) {config : Config} :
    States document config ↔ States document' config := by
  constructor
  · rintro ⟨manifest, extension, passing, failOnVerdict⟩
    exact ⟨(sets_congr isText_congr (agree .manifest).alike_stated?).mp manifest,
      (sets_congr isText_congr (agree .extension).alike_stated?).mp extension,
      (sets_congr isTexts_congr (agree .passing).alike_stated?).mp passing,
      (sets_congr isBoolean_congr (agree .failOnVerdict).alike_stated?).mp failOnVerdict⟩
  · rintro ⟨manifest, extension, passing, failOnVerdict⟩
    exact ⟨(sets_congr isText_congr (agree .manifest).alike_stated?).mpr manifest,
      (sets_congr isText_congr (agree .extension).alike_stated?).mpr extension,
      (sets_congr isTexts_congr (agree .passing).alike_stated?).mpr passing,
      (sets_congr isBoolean_congr (agree .failOnVerdict).alike_stated?).mpr failOnVerdict⟩

/-- A file that holds a document gives the configuration that the document states, and fails exactly
if the document states a setting with a value of another kind. All documents that agree on the
settings come to the same, in whatever order and spelling they are written, and whatever entries
that name no setting they have. -/
theorem settings_of_document {files : FileView} {path : Path}
    (isDocument : HoldsDocument files path document) (sectioned : IsSectioned document) :
    (∀ config, load files path = .ok config ↔ States document config) ∧
    ((∃ config, load files path = .ok config) ↔
      ∀ setting, ∀ value ∈ stated? document setting, setting.Admits value) ∧
    ((∃ failure, load files path = .error failure) ↔
      ∃ setting, ∃ value ∈ stated? document setting, ¬ setting.Admits value) ∧
    ∀ {files' path' document'}, HoldsDocument files' path' document' → IsSectioned document' →
      (∀ setting, Agree document document' setting) →
      (load files' path').toOption = (load files path).toOption := by
  have loads : (∃ config, load files path = .ok config) ↔
      ∀ setting, ∀ value ∈ stated? document setting, setting.Admits value := by
    simp only [isDocument.load_eq_ok_iff sectioned, exists_states_iff]
  refine ⟨fun config => isDocument.load_eq_ok_iff sectioned, loads, ?_, ?_⟩
  · have fails : (∃ failure, load files path = .error failure) ↔
        ¬ ∃ config, load files path = .ok config := by
      cases load files path <;> simp
    rw [fails, loads]
    push Not
    rfl
  · intro files' path' document' isDocument' sectioned' agree
    apply Option.ext
    intro config
    rw [toOption_eq_some_iff, toOption_eq_some_iff, isDocument.load_eq_ok_iff sectioned,
      isDocument'.load_eq_ok_iff sectioned', states_congr agree]

/-- Two documents that agree, where one has an empty section that the other does not have, and a
third one with a number in a list of texts. -/
theorem settings_of_two_spellings :
    let dotted : String :=
      "scanner={}\nverdict.passing_behaviors=[\"OK\"]\nverdict.fail_on_verdict=true"
    let headed : String :=
      "x=1\n[verdict]\nfail_on_verdict=true\ny=[[2]]\npassing_behaviors=['OK']"
    let mixed : String := "verdict.passing_behaviors=['OK',1]"
    let files (text : String) : FileView :=
      ⟨fun _ => .ok (utf8 text), fun _ => .error .noEntry, fun _ => true⟩
    load (files dotted) (utf8 "c.toml") = .ok ⟨⟨"index.json", ".json"⟩, ⟨⟨["OK"]⟩, true⟩⟩ ∧
      (load (files headed) (utf8 "c.toml")).toOption =
        (load (files dotted) (utf8 "c.toml")).toOption ∧
      ∃ failure, load (files mixed) (utf8 "c.toml") = .error failure := by
  intro dotted headed mixed files
  have isDotted : HoldsDocument (files dotted) (utf8 "c.toml")
      [("scanner", .table ⟨8, 10⟩ []),
        ("verdict", .table ⟨11, 18⟩
          [("passing_behaviors", .list ⟨37, 43⟩ [.text ⟨38, 42⟩ "OK"]),
            ("fail_on_verdict", .boolean ⟨68, 72⟩ true)])] :=
    ⟨dotted, rfl, by decide +kernel⟩
  have isHeaded : HoldsDocument (files headed) (utf8 "c.toml")
      [("x", .integer ⟨2, 3⟩ 1),
        ("verdict", .table ⟨4, 67⟩
          [("fail_on_verdict", .boolean ⟨30, 34⟩ true),
            ("y", .list ⟨37, 42⟩ [.list ⟨38, 41⟩ [.integer ⟨39, 40⟩ 2]]),
            ("passing_behaviors", .list ⟨61, 67⟩ [.text ⟨62, 66⟩ "OK"])])] :=
    ⟨headed, rfl, by decide +kernel⟩
  have isMixed : HoldsDocument (files mixed) (utf8 "c.toml")
      [("verdict", .table ⟨0, 7⟩
          [("passing_behaviors", .list ⟨26, 34⟩ [.text ⟨27, 31⟩ "OK", .integer ⟨32, 33⟩ 1])])] :=
    ⟨mixed, rfl, by decide +kernel⟩
  obtain ⟨loads, -, -, loadsSame⟩ :=
    settings_of_document isDotted (by simp [IsSectioned, List.lookup_cons])
  obtain ⟨-, -, fails, -⟩ := settings_of_document isMixed (by simp [IsSectioned, List.lookup_cons])
  refine ⟨(loads _).mpr ?_, ?_, fails.mpr ?_⟩
  · exact ⟨.absent, .absent, .stated ⟨_, _, rfl, .cons ⟨_, rfl⟩ .nil⟩, .stated ⟨_, rfl⟩⟩
  · refine loadsSame isHeaded (by simp [IsSectioned, List.lookup_cons]) fun setting => ?_
    cases setting with
    | manifest => exact .blank (.inr ⟨_, rfl⟩) (.inl rfl)
    | extension => exact .blank (.inr ⟨_, rfl⟩) (.inl rfl)
    | passing => exact .alike (.some (.list _ _ (.cons (.text _ _ _) .nil)))
    | failOnVerdict => exact .alike (.some (.boolean _ _ _))
  · refine ⟨.passing, _, rfl, ?_⟩
    simp [Setting.Admits, IsTexts, IsText, List.forall₂_cons_left_iff]

end Config

end ConformanceReport
