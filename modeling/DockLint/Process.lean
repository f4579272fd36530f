import DockLint.Text.Utf8

/-!
# Processes

What is asked of a process and what a finished one leaves behind. The two output streams are
decoded apart and then joined, so neither can change how the other reads.
-/

namespace DockLint

structure Invocation where
  program : String
  args : List String
  /-- Bytes for standard input; none attaches the null device. -/
  input : Option (List UInt8)
  deriving DecidableEq, Repr

structure Completion where
  /-- None for a process that a signal ended. -/
  exit : Option Int
  stdout : List UInt8
  stderr : List UInt8
  deriving DecidableEq, Repr

namespace Completion

def succeeded (c : Completion) : Bool :=
  c.exit == some 0

def stdoutText (c : Completion) : String :=
  ofUtf8Lossy c.stdout

/-- Standard output, then standard error. -/
def combined (c : Completion) : String :=
  ofUtf8Lossy c.stdout ++ ofUtf8Lossy c.stderr

end Completion

end DockLint
