import ConformanceReport.Text.Utf8

/-!
# Which files are result files

A result file is told by its name: it ends in the extension, and it is not the manifest of the
suite.
-/

namespace ConformanceReport

/-- The naming of result files in a directory. -/
structure Filter where
  /-- The file of the suite that holds no result. -/
  manifest : String
  /-- The end of the name of every result file. -/
  extension : String
  deriving DecidableEq, Repr

namespace Filter

/-- The naming that the suite uses. -/
def standard : Filter := ⟨"index.json", ".json"⟩

/-- Whether a name is that of a result file. -/
def accepts (filter : Filter) (name : String) : Bool :=
  name ≠ filter.manifest && (utf8 filter.extension).isSuffixOf (utf8 name)

end Filter

end ConformanceReport
