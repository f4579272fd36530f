import DockLint.Findings
import DockLint.Locator

/-!
# Lint passes

A pass finds the linter, gives it the document on standard input and reads what it prints. It
never fails: whatever goes wrong is logged, and the report has fewer diagnostics.
-/

namespace DockLint

/-- Asks the linter for JSON about the document on standard input. -/
def lintArgs : List String := ["--format", "json", "-"]

/-- How a pass ended. -/
inductive Outcome where
  | notFound
  | launchFailed (reason : String)
  /-- None for a linter that a signal ended. -/
  | completed (exit : Option Int)
  deriving DecidableEq, Repr

def LintFailure.outcome : LintFailure → Outcome
  | notFound => .notFound
  | launch path cause => .launchFailed (LintFailure.launch path cause).message

structure Report where
  outcome : Outcome
  diagnostics : List Diagnostic
  deriving DecidableEq, Repr

namespace Report

def toolRan (r : Report) : Bool :=
  match r.outcome with
  | .completed _ => true
  | _ => false

/-- The linter exits with 0 or 1; a pass that saw anything else is suspect. -/
def exitedUnexpectedly (r : Report) : Bool :=
  match r.outcome with
  | .completed exit => exit ≠ some 0 ∧ exit ≠ some 1
  | _ => false

def hasErrors (r : Report) : Bool :=
  r.diagnostics.any (·.severity = .error)

def maxSeverity? (r : Report) : Option Severity :=
  Severity.maximum? (r.diagnostics.map (·.severity))

end Report

namespace Lint

/-- Runs the linter over a document. -/
def invoke (l : Locator) (h : Host) (content : String) :
    Traced (Except LintFailure Completion) := do
  match ← l.locate h with
  | none => return .error .notFound
  | some path =>
    match ← h.run ⟨path, lintArgs, some (utf8 content)⟩ with
    | .error cause => return .error (.launch path cause)
    | .ok c => return .ok c

/-- How the exit of the linter is logged. -/
def exitNote (exit : Option Int) (output : String) : Note :=
  let output := String.ofList (Text.trim output.toList)
  match exit with
  | none => .lintKilled output
  | some code => if code = 0 ∨ code = 1 then .lintExited code else .lintExitedWith code output

/-- Lints a document; lines are looked up in `table`. -/
def execute (l : Locator) (h : Host) (content : String) (table : LineTable) : Traced Report := do
  match ← invoke l h content with
  | .error failure =>
    Traced.log (.lintFailed failure)
    return ⟨failure.outcome, []⟩
  | .ok c =>
    Traced.log (exitNote c.exit c.combined)
    let ds ← Findings.ofOutput table c.combined
    return ⟨.completed c.exit, ds⟩

def run (l : Locator) (h : Host) (content : String) (table : LineTable) :
    Traced (List Diagnostic) :=
  Report.diagnostics <$> execute l h content table

/-- Lints a document; lines are looked up in its own table. -/
def lintText (l : Locator) (h : Host) (content : String) : Traced (List Diagnostic) :=
  run l h content (.ofText content)

end Lint

end DockLint
