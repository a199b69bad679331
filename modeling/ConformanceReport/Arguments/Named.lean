import ConformanceReport.Text.Utf8

/-!
# Options of the command line

An option is a setting, which takes a value, a switch, which takes none, or an inquiry, which is
answered in place of a run. Every option has a long name; all but one have a letter as well.
-/

namespace ConformanceReport

namespace Arguments

/-- An option with a value. -/
inductive Setting where
  | path
  | config
  deriving DecidableEq, Repr

/-- An option that is on when it is given. -/
inductive Switch where
  | verbose
  | quiet
  | failOnVerdict
  deriving DecidableEq, Repr

/-- An option that asks about the program itself. -/
inductive Inquiry where
  | help
  | version
  deriving DecidableEq, Repr

/-- An option of any kind. -/
inductive Named where
  | setting (setting : Setting)
  | switch (switch : Switch)
  | inquiry (inquiry : Inquiry)
  deriving DecidableEq, Repr

namespace Named

/-- The long name of an option, without its dashes. -/
def name : Named → String
  | .setting .path => "path"
  | .setting .config => "config"
  | .switch .verbose => "verbose"
  | .switch .quiet => "quiet"
  | .switch .failOnVerdict => "fail-on-verdict"
  | .inquiry .help => "help"
  | .inquiry .version => "version"

/-- The letter of an option, if it has one. -/
def letter? : Named → Option UInt8
  | .setting .path => some (ascii 'p')
  | .setting .config => some (ascii 'c')
  | .switch .verbose => some (ascii 'v')
  | .switch .quiet => some (ascii 'q')
  | .switch .failOnVerdict => none
  | .inquiry .help => some (ascii 'h')
  | .inquiry .version => some (ascii 'V')

/-- All options. -/
def all : List Named :=
  [.setting .path, .setting .config, .switch .verbose, .switch .quiet, .switch .failOnVerdict,
    .inquiry .help, .inquiry .version]

/-- The option with a given long name. -/
def ofName? (name : Bytes) : Option Named :=
  all.find? fun option => utf8 option.name = name

/-- The option with a given letter. -/
def ofLetter? (letter : UInt8) : Option Named :=
  all.find? fun option => option.letter? = some letter

/-- An option in a message, with the name of its value if it takes one. -/
def shown (option : Named) : String :=
  let value := match option with
    | .setting .path => " <DIR>"
    | .setting .config => " <FILE>"
    | _ => ""
  "--" ++ option.name ++ value

end Named

end Arguments

end ConformanceReport
