import ConformanceReport.Run.Command

/-!
# The program

Looks at the files that a command line names, executes the command line on what it sees, and
writes what the command leaves behind. If standard output does not take what was written, the
command is executed once more for an output that takes nothing.
-/

namespace ConformanceReport

/-- The number and the text of an error of the system. -/
def systemError : IO.Error → OsError
  | .alreadyExists _ code text => .ofCode code.toNat text
  | .otherError code text => .ofCode code.toNat text
  | .resourceBusy code text => .ofCode code.toNat text
  | .resourceVanished code text => .ofCode code.toNat text
  | .unsupportedOperation code text => .ofCode code.toNat text
  | .hardwareFault code text => .ofCode code.toNat text
  | .unsatisfiedConstraints code text => .ofCode code.toNat text
  | .illegalOperation code text => .ofCode code.toNat text
  | .protocolError code text => .ofCode code.toNat text
  | .timeExpired code text => .ofCode code.toNat text
  | .interrupted _ code text => .ofCode code.toNat text
  | .noFileOrDirectory _ code text => .ofCode code.toNat text
  | .invalidArgument _ code text => .ofCode code.toNat text
  | .permissionDenied _ code text => .ofCode code.toNat text
  | .resourceExhausted _ code text => .ofCode code.toNat text
  | .inappropriateType _ code text => .ofCode code.toNat text
  | .noSuchThing _ code text => .ofCode code.toNat text
  | .unexpectedEof => ⟨none, "UnexpectedEof", "unexpected end of file"⟩
  | .userError text => ⟨none, "Other", text⟩

/-- The value of an action, or the error of the system that it met. -/
def attempt {α : Type} (action : IO α) : IO (Except OsError α) := do
  try
    return .ok (← action)
  catch error =>
    return .error (systemError error)

/-- The content of a file. -/
def contentOf (path : String) : IO (Except OsError Bytes) :=
  attempt do
    let content ← IO.FS.readBinFile path
    return content.toList

/-- The entries of a directory with their contents. -/
def entriesOf (directory : String) : IO (Except OsError Listing) :=
  attempt do
    let found ← (← IO.FS.realPath directory).readDir
    let entries ← found.toList.mapM fun entry => do
      let content ← contentOf entry.path.toString
      return Entry.mk (utf8 entry.fileName) content
    return ⟨entries, none⟩

/-- Whether a path leads to something. -/
def leadsSomewhere (path : String) : IO Bool := do
  return (← attempt (IO.FS.realPath path)).isOk

/-- What is to be seen of the files that some arguments name. -/
def lookAt (arguments : Arguments) : IO FileView := do
  let standard := Path.join (utf8 ".") (utf8 Config.fileName)
  let config := arguments.config.getD standard
  let content ← contentOf config.shown
  let listing ← entriesOf arguments.path.shown
  let resolves ← leadsSomewhere config.shown
  return {
    read := fun path => if path = config then content else .error .noEntry
    list := fun path => if path = arguments.path then listing else .error .noEntry
    resolves := fun path => path = config && resolves }

/-- What the files look like to a command line that names none. -/
def seeNothing : FileView where
  read _ := .error .noEntry
  list _ := .error .noEntry
  resolves _ := false

/-- An output that takes nothing, with the error that it gives. -/
def refusing (error : OsError) : Sink :=
  ⟨[], some 0, ⟨error.message⟩, some 0, ⟨error.message⟩⟩

/-- A message of the log on a line of its own. -/
def logLine (event : Event) : String :=
  let level := event.level.shown
  String.ofList (List.replicate (5 - level.length) ' ') ++ level ++ " " ++ event.logged ++ "\n"

/-- Writes what a command leaves behind besides its output, and yields its exit code. -/
def tell (finished : Finished) : IO UInt32 := do
  let errors ← IO.getStderr
  for event in finished.log do
    errors.putStr (logLine event)
  errors.putStr finished.complaint
  return finished.exitCode

end ConformanceReport

open ConformanceReport in
/-- Executes the command line. -/
def main (words : List String) : IO UInt32 := do
  let line := words.map utf8
  let files ← match Arguments.read line with
    | .ok arguments => lookAt arguments
    | .error _ => pure seeNothing
  let finished := execute line files .unlimited
  let output ← IO.getStdout
  let written ← attempt do
    output.write ⟨finished.sink.taken.toArray⟩
    output.flush
  match written with
  | .ok () => tell finished
  | .error error => tell (execute line files (refusing error))
