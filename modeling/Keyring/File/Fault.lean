/-!
# Faults of file operations

The operating system refuses a call for one of a few reasons, each with its text and number.  A
fault of a file operation also says what was being done and to which file.
-/

namespace Keyring

/-- Why the operating system refuses a call. -/
inductive OsError
  | notFound
  | alreadyExists
  | notDirectory
  | isDirectory
  | nameTooLong
  | busy
  | permissionDenied
  | notExecutable
  | tooManyLinks
  | notText
  | nulInName
  | other (reason : String) (number : Nat)
deriving DecidableEq, Repr

/-- The reason for a refusal in words. -/
def OsError.reason : OsError → String
  | .notFound => "No such file or directory"
  | .alreadyExists => "File exists"
  | .notDirectory => "Not a directory"
  | .isDirectory => "Is a directory"
  | .nameTooLong => "File name too long"
  | .busy => "Device or resource busy"
  | .permissionDenied => "Permission denied"
  | .notExecutable => "Exec format error"
  | .tooManyLinks => "Too many levels of symbolic links"
  | .notText => "stream did not contain valid UTF-8"
  | .nulInName => "file name contained an unexpected NUL byte"
  | .other reason _ => reason

/-- The number of a refusal, if it comes from the operating system. -/
def OsError.number? : OsError → Option Nat
  | .notFound => some 2
  | .alreadyExists => some 17
  | .notDirectory => some 20
  | .isDirectory => some 21
  | .nameTooLong => some 36
  | .busy => some 16
  | .permissionDenied => some 13
  | .notExecutable => some 8
  | .tooManyLinks => some 40
  | .notText => none
  | .nulInName => none
  | .other _ number => some number

/-- The wording of a refusal. -/
def OsError.message (e : OsError) : String :=
  match e.number? with
  | some n => e.reason ++ " (os error " ++ toString n ++ ")"
  | none => e.reason

/-- The calls of a file system that can fail. -/
inductive FileCall
  | read
  | write
  | remove
  | setMode
deriving DecidableEq, Repr

/-- The name of a call. -/
def FileCall.name : FileCall → String
  | .read => "read"
  | .write => "write"
  | .remove => "remove"
  | .setMode => "setMode"

/-- What went wrong with a file. -/
inductive FileFault
  | scripted (call : FileCall)
  | missing (path : String)
  | system (doing : String) (error : OsError)
deriving DecidableEq, Repr

/-- The wording of a fault. -/
def FileFault.message : FileFault → String
  | .scripted call => "scripted " ++ call.name ++ " failure"
  | .missing path => "file not found: " ++ path
  | .system doing error => doing ++ ": " ++ error.message

end Keyring
