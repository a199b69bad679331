import ConformanceReport.Config.Basic
import ConformanceReport.Kind
import ConformanceReport.Toml.Value

/-!
# Configurations as TOML documents

A document has a section for the naming of result files and one for the verdict. Each setting has
its own default, and keys that name no setting are passed over. A section may also be written as a
list that gives its settings in order. The first value of a wrong kind, in the order of the
document, refuses the whole document.
-/

namespace ConformanceReport

namespace Config

/-- What is wanted where a value of another kind stands. -/
inductive Wanted where
  | text
  | boolean
  | list
  | scannerSection
  | verdictSection
  deriving DecidableEq, Repr

/-- The name of what is wanted. -/
def Wanted.shown : Wanted → String
  | .text => "a string"
  | .boolean => "a boolean"
  | .list => "a sequence"
  | .scannerSection => "struct ScannerConfig"
  | .verdictSection => "struct VerdictConfig"

/-- A value of a wrong kind: where it stands, what it is, and what was wanted. -/
structure Mismatch where
  span : Toml.Span
  found : Kind
  wanted : Wanted

/-- Doubles in messages are always positional. -/
def messageLayout : Decimal.Layout where
  positional _ := true
  tie := .upward
  notANumber := "NaN"
  infinity := "inf"

/-- The wording of a mismatch. -/
def Mismatch.message (mismatch : Mismatch) : String :=
  mismatch.found.mismatch messageLayout mismatch.wanted.shown

/-- The kind of a TOML value. A date or time counts as a container of its parts. -/
def kindOf : Toml.Value → Kind
  | .text _ value => .text value
  | .integer _ value => .integer value
  | .floating _ value => .floating value
  | .boolean _ value => .boolean value
  | .moment _ => .object
  | .list _ _ => .list
  | .table _ _ => .object

/-- Refuses a value. -/
def refuse {α : Type} (value : Toml.Value) (wanted : Wanted) : Except Mismatch α :=
  .error ⟨value.span, kindOf value, wanted⟩

/-- A value that has to be a text. -/
def text : Toml.Value → Except Mismatch String
  | .text _ value => .ok value
  | value => refuse value .text

/-- A value that has to be a truth value. -/
def boolean : Toml.Value → Except Mismatch Bool
  | .boolean _ value => .ok value
  | value => refuse value .boolean

/-- A value that has to be a list of texts. -/
def texts : Toml.Value → Except Mismatch (List String)
  | .list _ items => items.mapM text
  | value => refuse value .list

/-- The settings that a section gives: the entries of a table, or the items of a list under the
given names in order. A date or time gives none. -/
def settings (names : List String) (wanted : Wanted) :
    Toml.Value → Except Mismatch (List (String × Toml.Value))
  | .table _ entries => .ok entries
  | .list _ items => .ok (names.zip items)
  | .moment _ => .ok []
  | value => refuse value wanted

/-- The naming of result files after one more setting. -/
def setFilter (filter : Filter) (setting : String × Toml.Value) : Except Mismatch Filter :=
  if setting.1 = "manifest_file" then
    (text setting.2).map fun manifest => { filter with manifest }
  else if setting.1 = "extension" then
    (text setting.2).map fun extension => { filter with extension }
  else .ok filter

/-- The naming of result files that a section gives. -/
def filterOf (value : Toml.Value) : Except Mismatch Filter := do
  let given ← settings ["manifest_file", "extension"] .scannerSection value
  given.foldlM setFilter .standard

/-- The policy after one more setting. -/
def setPolicy (policy : Policy) (setting : String × Toml.Value) : Except Mismatch Policy :=
  if setting.1 = "passing_behaviors" then
    (texts setting.2).map fun passing => { policy with rules := ⟨passing⟩ }
  else if setting.1 = "fail_on_verdict" then
    (boolean setting.2).map fun failOnVerdict => { policy with failOnVerdict }
  else .ok policy

/-- The policy that a section gives. -/
def policyOf (value : Toml.Value) : Except Mismatch Policy := do
  let given ← settings ["passing_behaviors", "fail_on_verdict"] .verdictSection value
  given.foldlM setPolicy .standard

/-- The configuration after one more entry of a document. -/
def setSection (config : Config) (entry : String × Toml.Value) : Except Mismatch Config :=
  if entry.1 = "scanner" then (filterOf entry.2).map fun filter => { config with filter }
  else if entry.1 = "verdict" then (policyOf entry.2).map fun policy => { config with policy }
  else .ok config

/-- The configuration that a document gives. -/
def ofDocument (entries : List (String × Toml.Value)) : Except Mismatch Config :=
  entries.foldlM setSection .standard

end Config

end ConformanceReport
