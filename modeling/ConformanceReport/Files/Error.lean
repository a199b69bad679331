/-!
# Errors of the operating system

An error has a number, the name of its kind, and a text. The kinds that reading files and
directories and writing to a full device can lead to are named here.
-/

namespace ConformanceReport

/-- An error that the operating system reports. -/
structure OsError where
  /-- The error number; an error found before the system was asked has none. -/
  code : Option Nat
  kind : String
  text : String
  deriving DecidableEq, Repr

namespace OsError

/-- Nothing has that name. -/
def noEntry : OsError := ⟨some 2, "NotFound", "No such file or directory"⟩

/-- The thing may not be looked at. -/
def denied : OsError := ⟨some 13, "PermissionDenied", "Permission denied"⟩

/-- Something has that name already. -/
def taken : OsError := ⟨some 17, "AlreadyExists", "File exists"⟩

/-- A name on the way, or the thing itself, is no directory. -/
def notDirectory : OsError := ⟨some 20, "NotADirectory", "Not a directory"⟩

/-- A directory where a file is wanted. -/
def isDirectory : OsError := ⟨some 21, "IsADirectory", "Is a directory"⟩

/-- No space is left on a device. -/
def noSpace : OsError := ⟨some 28, "StorageFull", "No space left on device"⟩

/-- A name or a path is too long. -/
def nameTooLong : OsError := ⟨some 36, "InvalidFilename", "File name too long"⟩

/-- Symbolic links lead on and on. -/
def tooManyLinks : OsError := ⟨some 40, "FilesystemLoop", "Too many levels of symbolic links"⟩

/-- A path that holds a zero byte cannot be handed to the system. -/
def zeroByte : OsError :=
  ⟨none, "InvalidInput", "file name contained an unexpected NUL byte"⟩

/-- The error with a given number; the text serves if the number is none of the above. -/
def ofCode (code : Nat) (text : String) : OsError :=
  let known := [noEntry, denied, taken, notDirectory, isDirectory, noSpace, nameTooLong,
    tooManyLinks]
  (known.find? fun error => error.code = some code).getD ⟨some code, "Uncategorized", text⟩

/-- The wording for a message. -/
def message (error : OsError) : String :=
  match error.code with
  | some code => error.text ++ " (os error " ++ toString code ++ ")"
  | none => error.text

/-- The wording for a log, with all parts. -/
def details (error : OsError) : String :=
  match error.code with
  | some code =>
    "Os \x7b code: " ++ toString code ++ ", kind: " ++ error.kind ++ ", message: \""
      ++ error.text ++ "\" \x7d"
  | none => "Error \x7b kind: " ++ error.kind ++ ", message: \"" ++ error.text ++ "\" \x7d"

end OsError

end ConformanceReport
