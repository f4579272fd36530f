import DockLint.Failure
import DockLint.Issue
import DockLint.LineTable
import DockLint.Text.Quoted

/-!
# Log notes

Everything that is logged, as values. A note has a level, the part of the program it comes from,
and a text.
-/

namespace DockLint

/-- Levels from the most urgent on. -/
inductive Level where
  | error | warn | info | debug | trace
  deriving DecidableEq, Repr

namespace Level

def name : Level → String
  | error => "error"
  | warn => "warn"
  | info => "info"
  | debug => "debug"
  | trace => "trace"

/-- The least urgent level has the largest number. -/
def number : Level → Nat
  | error => 1
  | warn => 2
  | info => 3
  | debug => 4
  | trace => 5

end Level

/-- The parts of the program that log. -/
inductive Part where
  | lines | findings | locator | lint | health | processes | settings
  deriving DecidableEq, Repr

/-- The name under which log filters know a part. -/
def Part.target : Part → String
  | lines => "hadolint_bridge::analyzer::hadolint::range"
  | findings => "hadolint_bridge::analyzer::hadolint::parser"
  | locator => "hadolint_bridge::analyzer::hadolint::resolver"
  | lint => "hadolint_bridge::analyzer::hadolint::executor"
  | health => "hadolint_bridge::analyzer::hadolint::health"
  | processes => "hadolint_bridge::common::command_utils"
  | settings => "hadolint_bridge::config"

inductive Note where
  | unmappedLine (fault : LineTable.Fault)
  | unreadableOutput (fault : Json.Fault) (text : String)
  | trailingOutput (text : String)
  | skippedIssue (reason : Issue.Malformed) (element : Json)
  | overrideUsed (path : String)
  | overrideMissing (path : String)
  | checking (path : String)
  | found (path : String)
  | searchNotRun (cause : String)
  | searchFailed (command : String) (exit : Option Int)
  | foundOnPath (path : String)
  | lintFailed (failure : LintFailure)
  | lintExited (code : Int)
  | lintExitedWith (code : Int) (output : String)
  | lintKilled (output : String)
  | notLaunched (path cause : String)
  | healthy (version : Option String) (path : String)
  | running (program : String) (args : List String)
  | inputClosed (cause : String)
  | settingsLoaded (path : String)
  | settingsIgnored (failure : SettingsFailure)
  deriving Repr

namespace Note

def level : Note → Level
  | unmappedLine _ | trailingOutput _ | skippedIssue .. | checking _ | searchFailed ..
  | lintExited _ | notLaunched .. | running .. | inputClosed _ | settingsLoaded _ => .debug
  | overrideUsed _ | found _ | foundOnPath _ | healthy .. => .info
  | unreadableOutput .. | overrideMissing _ | lintExitedWith .. | lintKilled _
  | settingsIgnored _ => .warn
  | searchNotRun _ | lintFailed _ => .error

def part : Note → Part
  | unmappedLine _ => .lines
  | unreadableOutput .. | trailingOutput _ | skippedIssue .. => .findings
  | overrideUsed _ | overrideMissing _ | checking _ | found _ | searchNotRun _ | searchFailed ..
  | foundOnPath _ => .locator
  | lintFailed _ | lintExited _ | lintExitedWith .. | lintKilled _ => .lint
  | notLaunched .. | healthy .. => .health
  | running .. | inputClosed _ => .processes
  | settingsLoaded _ | settingsIgnored _ => .settings

/-- An exit code that may be absent. -/
def exitText : Option Int → String
  | none => "None"
  | some code => "Some(" ++ toString code ++ ")"

def text : Note → String
  | unmappedLine fault => fault.message?.getD ""
  | unreadableOutput fault out =>
    "Failed to parse hadolint output (" ++ fault.message ++ "): " ++ out
  | trailingOutput out => "Ignoring trailing hadolint output: " ++ out
  | skippedIssue reason element =>
    "Skipping invalid issue (" ++ reason.message ++ "): " ++ element.compact
  | overrideUsed path => "Using configured hadolint at: " ++ path
  | overrideMissing path =>
    "Configured hadolint path " ++ path ++ " does not exist, searching default locations"
  | checking path => "Checking path: " ++ path
  | found path => "Found hadolint at: " ++ path
  | searchNotRun cause => "Error searching PATH for hadolint: " ++ cause
  | searchFailed command exit => "\x60" ++ command ++ " hadolint\x60 exited with " ++ exitText exit
  | foundOnPath path => "Found hadolint on PATH at: " ++ path
  | lintFailed failure => "Hadolint execution failed: " ++ failure.message
  | lintExited code => "Hadolint exited with " ++ exitText (some code)
  | lintExitedWith code output => "Hadolint error (code " ++ toString code ++ "): " ++ output
  | lintKilled output => "Hadolint was terminated by a signal: " ++ output
  | notLaunched path cause => "Failed to launch " ++ path ++ ": " ++ cause
  | healthy version path => "hadolint " ++ Text.quoteOption version ++ " is healthy at " ++ path
  | running program args =>
    "Running " ++ Text.quote program ++ " with args: " ++ Text.quoteAll args
  | inputClosed cause => "Child closed stdin early: " ++ cause
  | settingsLoaded path => "Loaded configuration from " ++ path
  | settingsIgnored failure => "Ignoring config: " ++ failure.message

end Note

end DockLint
