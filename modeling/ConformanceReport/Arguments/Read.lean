import ConformanceReport.Arguments.Basic
import ConformanceReport.Arguments.Named

/-!
# Reading a command line

Arguments are read from left to right up to the first that settles the matter: an error, or an
inquiry. A setting waits for its value, and is only judged when the next option comes or when the
arguments end. Arguments are byte sequences and need not be text.
-/

namespace ConformanceReport

namespace Arguments

/-- Why reading stops without arguments for a run. -/
inductive Stop where
  | help (long : Bool)
  | version
  | missingPath
  | missingValue (setting : Setting)
  | unknown (argument : String)
  | repeated (option : Named)
  | unneededValue (value : String) (option : Named)
  deriving DecidableEq, Repr

/-- The options that were given. -/
structure Given where
  path : Option Path
  config : Option Path
  verbose : Bool
  quiet : Bool
  failOnVerdict : Bool
  deriving DecidableEq, Repr

namespace Given

/-- No option was given. -/
def none : Given := ⟨.none, .none, false, false, false⟩

/-- The value of a setting that was given. -/
def value? (given : Given) : Setting → Option Path
  | .path => given.path
  | .config => given.config

/-- Gives a setting a value. -/
def setValue (given : Given) (value : Path) : Setting → Given
  | .path => { given with path := some value }
  | .config => { given with config := some value }

/-- Whether a switch was given. -/
def isOn (given : Given) : Switch → Bool
  | .verbose => given.verbose
  | .quiet => given.quiet
  | .failOnVerdict => given.failOnVerdict

/-- Turns a switch on. -/
def turnOn (given : Given) : Switch → Given
  | .verbose => { given with verbose := true }
  | .quiet => { given with quiet := true }
  | .failOnVerdict => { given with failOnVerdict := true }

/-- Gives a setting a value, once, and not an empty one. -/
def assign (given : Given) (setting : Setting) (value : Path) : Except Stop Given :=
  if (given.value? setting).isSome then .error (.repeated (.setting setting))
  else if value.isEmpty then .error (.missingValue setting)
  else .ok (given.setValue value setting)

/-- The arguments that the options amount to. -/
def arguments (given : Given) : Except Stop Arguments :=
  match given.path with
  | .none => .error .missingPath
  | some path =>
    .ok ⟨path, given.config, given.verbose, given.quiet, given.failOnVerdict⟩

end Given

/-- A setting that was named and not judged yet, with its value if that has come. -/
structure Pending where
  setting : Setting
  value : Option Path
  deriving DecidableEq, Repr

/-- What was read so far: the options that were given, and the setting that may be pending. -/
structure Progress where
  given : Given
  pending : Option Pending
  deriving DecidableEq, Repr

namespace Progress

/-- Nothing was read. -/
def start : Progress := ⟨.none, none⟩

/-- Judges the pending setting. -/
def settle (progress : Progress) : Except Stop Given :=
  match progress.pending with
  | none => .ok progress.given
  | some ⟨setting, none⟩ => .error (.missingValue setting)
  | some ⟨setting, some value⟩ => progress.given.assign setting value

/-- Names a setting whose value is in another argument. -/
def await (progress : Progress) (setting : Setting) : Except Stop Progress :=
  match progress.settle with
  | .error stop => .error stop
  | .ok given => .ok ⟨given, some ⟨setting, none⟩⟩

/-- Names a setting together with its value. -/
def assign (progress : Progress) (setting : Setting) (value : Path) : Except Stop Progress :=
  match progress.settle with
  | .error stop => .error stop
  | .ok given =>
    match given.assign setting value with
    | .error stop => .error stop
    | .ok given => .ok ⟨given, none⟩

/-- Turns a switch on, once. -/
def turnOn (progress : Progress) (switch : Switch) : Except Stop Progress :=
  match progress.settle with
  | .error stop => .error stop
  | .ok given =>
    if given.isOn switch then .error (.repeated (.switch switch))
    else .ok ⟨given.turnOn switch, none⟩

/-- Answers an inquiry. Its long name asks for the long answer. -/
def inquire (progress : Progress) (inquiry : Inquiry) (long : Bool) : Stop :=
  match progress.settle with
  | .error stop => stop
  | .ok _ =>
    match inquiry with
    | .help => .help long
    | .version => .version

end Progress

/-- The shape of an argument. -/
inductive Shape where
  /-- Two dashes: no options follow. -/
  | separator
  /-- A long name, and what follows an equals sign. -/
  | long (name : Bytes) (value : Option Bytes)
  /-- Letters after one dash; the last of them may be followed by a value. -/
  | letters (letters : Bytes)
  | plain
  deriving DecidableEq, Repr

/-- A long name and the value after the first equals sign, if there is one. -/
def splitValue : Bytes → Bytes × Option Bytes
  | [] => ([], none)
  | byte :: rest =>
    if byte = ascii '=' then ([], some rest)
    else
      let (name, value) := splitValue rest
      (byte :: name, value)

/-- The shape of an argument. A single dash is plain. -/
def Shape.of (argument : Bytes) : Shape :=
  match argument with
  | first :: second :: rest =>
    if first = ascii '-' then
      if second = ascii '-' then
        if rest.isEmpty then .separator
        else .long (splitValue rest).1 (splitValue rest).2
      else .letters (second :: rest)
    else .plain
  | _ => .plain

/-- A value that is attached to a letter, after an equals sign or directly. -/
def attached : Bytes → Bytes
  | [] => []
  | byte :: rest => if byte = ascii '=' then rest else byte :: rest

/-- The unknown option at the front of some letters: a character, or all that is left if it
starts with none. -/
def unknownLetter (byte : UInt8) (rest : Bytes) : Stop :=
  match (Utf8.split byte rest).1 with
  | .scalar character => .unknown (String.ofList ['-', character])
  | .broken _ => .unknown ("-" ++ Utf8.lossy (byte :: rest))

/-- Reads letters; one that names a setting takes the rest as its value. -/
def readLetters (progress : Progress) : Bytes → Except Stop Progress
  | [] => .ok progress
  | byte :: rest =>
    match Named.ofLetter? byte with
    | none => .error (unknownLetter byte rest)
    | some (.inquiry inquiry) => .error (progress.inquire inquiry false)
    | some (.switch switch) =>
      match progress.turnOn switch with
      | .error stop => .error stop
      | .ok progress => readLetters progress rest
    | some (.setting setting) =>
      if rest.isEmpty then progress.await setting
      else progress.assign setting (attached rest)

/-- Reads a long name with the value that is attached to it. -/
def readLong (progress : Progress) (name : Bytes) (value : Option Bytes) :
    Except Stop Progress :=
  match Named.ofName? name, value with
  | none, _ => .error (.unknown ("--" ++ Utf8.lossy name))
  | some (.setting setting), none => progress.await setting
  | some (.setting setting), some value => progress.assign setting value
  | some option, some value => .error (.unneededValue (Utf8.lossy value) option)
  | some (.switch switch), none => progress.turnOn switch
  | some (.inquiry inquiry), none => .error (progress.inquire inquiry true)

/-- Reads an argument that is no option: the value of a setting that waits for one. -/
def readPlain (progress : Progress) (argument : Bytes) : Except Stop Progress :=
  match progress.pending with
  | some ⟨setting, none⟩ => .ok { progress with pending := some ⟨setting, some argument⟩ }
  | _ => .error (.unknown (Utf8.lossy argument))

/-- Reads arguments one after the other. After two dashes nothing more is accepted. -/
def readFrom (progress : Progress) : List Bytes → Except Stop Progress
  | [] => .ok progress
  | argument :: more =>
    match Shape.of argument with
    | .separator =>
      match more with
      | [] => .ok progress
      | extra :: _ => .error (.unknown (Utf8.lossy extra))
    | .long name value =>
      match readLong progress name value with
      | .error stop => .error stop
      | .ok progress => readFrom progress more
    | .letters letters =>
      match readLetters progress letters with
      | .error stop => .error stop
      | .ok progress => readFrom progress more
    | .plain =>
      match readPlain progress argument with
      | .error stop => .error stop
      | .ok progress => readFrom progress more

/-- The arguments that a command line gives, without the name of the program. -/
def read (line : List Bytes) : Except Stop Arguments :=
  match readFrom .start line with
  | .error stop => .error stop
  | .ok progress =>
    match progress.settle with
    | .error stop => .error stop
    | .ok given => given.arguments

end Arguments

end ConformanceReport
