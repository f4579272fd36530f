/-!
# Command lines

What a command line asks for, and what can be wrong with one.
-/

namespace DockLint

/-- How diagnostics are printed. -/
inductive Format where
  | text | json
  deriving DecidableEq, Repr

namespace Format

def name : Format → String
  | text => "text"
  | json => "json"

def ofName? (s : String) : Option Format :=
  if s = "text" then some text else if s = "json" then some json else none

theorem ofName?_name (f : Format) : ofName? f.name = some f := by cases f <;> decide

end Format

inductive Command where
  | lint (path : String) (format : Format)
  | check
  | which
  deriving DecidableEq, Repr

structure Request where
  command : Command
  config? : Option String
  /-- How often more output was asked for, at most 255 times. -/
  verbose : Nat
  quiet : Bool
  deriving DecidableEq, Repr

/-- Why a command line is not carried out. -/
inductive Usage where
  | missingSubcommand
  /-- Nothing was asked for at all. -/
  | nothingAsked
  | invalidSubcommand
  | missingArgument
  | unknownArgument
  /-- A value is missing, empty or not one of those listed. -/
  | invalidValue
  /-- A value was given where none is taken. -/
  | tooManyValues
  /-- Given twice where once is allowed. -/
  | conflict
  | help
  | version
  deriving DecidableEq, Repr

/-- Asking for help or the version is no mistake. -/
def Usage.exitCode : Usage → Nat
  | help | version => 0
  | _ => 2

end DockLint
