import DockLint.CommandLine.Basic
import DockLint.Health
import DockLint.Settings

/-!
# Carrying out commands

Each command prints something and ends with an exit code: 0 if all is well, 1 if the linter found
errors, 2 if it could not be found or run.
-/

namespace DockLint

structure Answer where
  code : Nat
  printed : String
  deriving DecidableEq, Repr

namespace Command

def lintErrors : Nat := 1

def unavailable : Nat := 2

/-- The linter's locator under the given settings. -/
def locator (s : Settings) : Locator :=
  ⟨.current, s.linter?⟩

/-- The diagnostics as a format prints them. -/
def reportText (format : Format) (path : String) (ds : List Diagnostic) : String :=
  match format with
  | .text => Diagnostic.textReport path ds
  | .json => Diagnostic.jsonReport ds

def lintAnswer (path : String) (format : Format) (r : Report) : Answer :=
  match r.outcome with
  | .notFound => ⟨unavailable, LintFailure.notFound.message ++ "\n"⟩
  | .launchFailed reason => ⟨unavailable, "hadolint could not be run: " ++ reason ++ "\n"⟩
  | .completed _ =>
    ⟨if r.hasErrors then lintErrors else 0, reportText format path r.diagnostics⟩

def lintFile (h : Host) (f : Files) (s : Settings) (path : String) (format : Format) :
    Traced (Except CommandFailure Answer) :=
  match f.readText path with
  | .error cause => return .error (.io cause)
  | .ok content => do
    let r ← Lint.execute (locator s) h content (.ofText content)
    return .ok (lintAnswer path format r)

def checkAnswer (s : Health.Status) : Answer :=
  match s.notice? with
  | none => ⟨0, "hadolint is healthy\n"⟩
  | some n => ⟨unavailable, n.title ++ ": " ++ n.message ++ "\n"⟩

def whichAnswer : Option String → Answer
  | some path => ⟨0, path ++ "\n"⟩
  | none => ⟨unavailable, LintFailure.notFound.message ++ "\n"⟩

def carryOut (h : Host) (f : Files) (s : Settings) : Command → Traced (Except CommandFailure Answer)
  | lint path format => lintFile h f s path format
  | check => (fun st => .ok (checkAnswer st)) <$> Health.check (locator s) h
  | which => (fun path => .ok (whichAnswer path)) <$> (locator s).locate h

end Command

/-- Carries out a request: finds the settings, then runs the command under them. -/
def Request.carryOut (r : Request) (h : Host) (f : Files) (here : String) (home : Option String) :
    Traced (Except CommandFailure Answer) := do
  match ← Settings.find f r.config? here home with
  | .error failure => return .error (.settings failure)
  | .ok s => r.command.carryOut h f s

end DockLint
