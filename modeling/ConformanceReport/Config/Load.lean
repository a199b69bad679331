import ConformanceReport.Config.Document
import ConformanceReport.Files.View
import ConformanceReport.Toml.Document
import ConformanceReport.Toml.Excerpt

/-!
# Configuration files

A configuration is loaded from a named file, or from the file of a fixed name in a directory if
there is one. A file is refused if it cannot be read, is no text, is no TOML document, or holds a
value of a wrong kind.
-/

namespace ConformanceReport

namespace Config

/-- Why a file gives no configuration. -/
inductive Reason where
  | unreadable (error : OsError)
  | notText
  | notDocument
  | wrongKind (document : List Char) (mismatch : Mismatch)

/-- A refused configuration file. -/
structure Failure where
  path : Path
  reason : Reason

/-- The wording of a refusal. What exactly is wrong with the grammar of a document is not said. -/
def Failure.message (failure : Failure) : String :=
  let reading := "Failed to read config file: " ++ failure.path.shown
  let parsing := "Failed to parse config file: " ++ failure.path.shown
  match failure.reason with
  | .unreadable error => reading ++ ": " ++ error.message
  | .notText => reading ++ ": stream did not contain valid UTF-8"
  | .notDocument => parsing
  | .wrongKind document mismatch =>
    parsing ++ ": " ++ Toml.excerpt document mismatch.span mismatch.message

/-- The configuration that a text gives. -/
def ofText (document : List Char) : Except Reason Config :=
  match Toml.parse document with
  | none => .error .notDocument
  | some entries => (ofDocument entries).mapError (.wrongKind document)

/-- The configuration that the content of a file gives. -/
def ofContent (content : Bytes) : Except Reason Config :=
  match Utf8.decode? content with
  | none => .error .notText
  | some document => ofText document.toList

/-- The configuration in a file. -/
def load (files : FileView) (path : Path) : Except Failure Config :=
  match files.read path with
  | .error error => .error ⟨path, .unreadable error⟩
  | .ok content => (ofContent content).mapError fun reason => ⟨path, reason⟩

/-- The name of a configuration file that is looked for. -/
def fileName : String := ".autobahn-report.toml"

/-- The configuration in a directory, if it has a file of the fixed name. -/
def loadFrom? (files : FileView) (directory : Path) : Except Failure (Option Config) :=
  let path := directory.join (utf8 fileName)
  if files.resolves path then (load files path).map some else .ok none

/-- The configuration in the working directory, if it has one. -/
def loadStandard? (files : FileView) : Except Failure (Option Config) :=
  loadFrom? files (utf8 ".")

end Config

end ConformanceReport
