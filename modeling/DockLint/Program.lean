import DockLint.Command
import DockLint.CommandLine.Reader
import DockLint.LogFilter

/-!
# The program

A run of the program reads the command line, carries out what it asks for, and shows on standard
error what the log filter lets through.
-/

namespace DockLint

def programName : String := "hadolint-bridge"

def programVersion : String := "0.1.0"

structure RunResult where
  code : Nat
  stdout : String
  stderr : String
  deriving DecidableEq, Repr

namespace RunResult

/-- What the program prints to tell its version. -/
def version : RunResult :=
  ⟨0, programName ++ " " ++ programVersion ++ "\n", ""⟩

def failureCode : Nat := 2

/-- What is shown of the notes, unless the program is to be quiet. -/
def logText (r : Request) (logSpec : String) (notes : List Note) : String :=
  if r.quiet then ""
  else
    let filter := LogFilter.ofSpec logSpec r.verbose
    String.join ((LogFilter.parse logSpec).2.map LogFilter.Fault.warning) ++
      String.join ((notes.filter filter.shows).map Note.shown)

def ofAnswer (r : Request) (logSpec : String) (m : Traced (Except CommandFailure Answer)) :
    RunResult :=
  let log := logText r logSpec m.notes
  match m.value with
  | .ok a => ⟨a.code, a.printed, log⟩
  | .error f => ⟨failureCode, "", log ++ "Error: " ++ f.message ++ "\n"⟩

end RunResult

/-- Runs the program, unless its command line asks for something else. -/
def runProgram (args : List String) (h : Host) (f : Files) (here : String) (home : Option String)
    (logSpec : String) : Except Usage RunResult := do
  let r ← CommandLine.read args
  return .ofAnswer r logSpec (r.carryOut h f here home)

end DockLint
