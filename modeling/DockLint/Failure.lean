/-!
# Failures

Why a pass or a command came to nothing. `message` is what the user reads, `cause` the system's own
text where the failure wraps one.
-/

namespace DockLint

/-- Why a pass has no output of the linter to read. -/
inductive LintFailure where
  | notFound
  | launch (path cause : String)
  deriving DecidableEq, Repr

namespace LintFailure

def message : LintFailure → String
  | notFound => "hadolint not found in common paths or system PATH"
  | launch path cause => "failed to run " ++ path ++ ": " ++ cause

def cause? : LintFailure → Option String
  | notFound => none
  | launch _ cause => some cause

end LintFailure

/-- Why a settings file cannot be used. -/
inductive SettingsFailure where
  | unreadable (path cause : String)
  | malformed (path reason : String)
  deriving DecidableEq, Repr

namespace SettingsFailure

def message : SettingsFailure → String
  | unreadable path cause => "Failed to read config file " ++ path ++ ": " ++ cause
  | malformed path reason => "Failed to parse config file " ++ path ++ ": " ++ reason

def cause? : SettingsFailure → Option String
  | unreadable _ cause => some cause
  | malformed _ _ => none

end SettingsFailure

/-- Why a command ended without an answer. -/
inductive CommandFailure where
  | settings (failure : SettingsFailure)
  | io (cause : String)
  | serialization (cause : String)
  deriving DecidableEq, Repr

namespace CommandFailure

def message : CommandFailure → String
  | settings failure => failure.message
  | io cause => "IO error: " ++ cause
  | serialization cause => "Failed to serialize output: " ++ cause

def cause? : CommandFailure → Option String
  | settings failure => failure.cause?
  | io cause => some cause
  | serialization cause => some cause

end CommandFailure

end DockLint
