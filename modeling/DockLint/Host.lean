import DockLint.Traced

/-!
# Hosts

What the program asks of the system it runs on: is there a file, what is a variable set to, and
the running of processes. A host may note what it does while it runs a process.
-/

namespace DockLint

/-- Kinds of system, as far as looking for executables goes. -/
inductive Platform where
  | macos | unix | windows
  deriving DecidableEq, Repr

namespace Platform

/-- The kind of the system with the given name. -/
def ofName (os : String) : Platform :=
  if os = "macos" ∨ os = "ios" then macos
  else if os = "windows" then windows
  else unix

def name : Platform → String
  | macos => "macos"
  | unix => "unix"
  | windows => "windows"

/-- The command that searches the executable path. -/
def searchCommand : Platform → String
  | windows => "where"
  | macos | unix => "which"

/-- The system this program is built for. -/
def current : Platform :=
  ofName "linux"

end Platform

/-- The end of a process, or why it could not be launched. -/
structure Launch where
  notes : List Note
  result : Except String Completion

structure Host where
  isFile : String → Bool
  lookup : String → Option String
  launch : Invocation → Launch

namespace Host

def probe (h : Host) (path : String) : Traced Bool := do
  Traced.emit (.probe path)
  return h.isFile path

def run (h : Host) (call : Invocation) : Traced (Except String Completion) := do
  Traced.emit (.run call)
  Traced.logAll (h.launch call).notes
  return (h.launch call).result

end Host

end DockLint
