/-!
# System faults

Why the system refuses to open or to run a file, with the text it gives for it.
-/

namespace DockLint.Machine

inductive Fault where
  | notFound
  | badFormat
  | denied
  | notDirectory
  | isDirectory
  | nameTooLong
  | tooManyLevels
  | noDevice
  /-- A path holds a NUL character. -/
  | nulInPath
  /-- A command or one of its arguments holds a NUL character. -/
  | nulInCommand
  deriving DecidableEq, Repr

namespace Fault

def withNumber (text : String) (number : Nat) : String :=
  text ++ " (os error " ++ toString number ++ ")"

/-- What the system calls the fault. -/
def name : Fault → String
  | notFound => "No such file or directory"
  | badFormat => "Exec format error"
  | denied => "Permission denied"
  | notDirectory => "Not a directory"
  | isDirectory => "Is a directory"
  | nameTooLong => "File name too long"
  | tooManyLevels => "Too many levels of symbolic links"
  | noDevice => "No such device or address"
  | nulInPath => "file name contained an unexpected NUL byte"
  | nulInCommand => "nul byte found in provided data"

def number? : Fault → Option Nat
  | notFound => some 2
  | noDevice => some 6
  | badFormat => some 8
  | denied => some 13
  | notDirectory => some 20
  | isDirectory => some 21
  | nameTooLong => some 36
  | tooManyLevels => some 40
  | nulInPath | nulInCommand => none

def message (f : Fault) : String :=
  match f.number? with
  | some n => withNumber f.name n
  | none => f.name

end Fault

end DockLint.Machine
