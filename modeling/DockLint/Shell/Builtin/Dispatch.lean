import DockLint.Shell.Builtin.Printing
import DockLint.Shell.Builtin.Session
import DockLint.Shell.Builtin.Test

/-!
# Builtins by name

The builtins that run no other commands.
-/

namespace DockLint.Shell

def printfCommand (args : List (List Char)) : Act Nat := do
  match ← operands args with
  | [] => failText "usage: printf format [arg ...]"
  | format :: args =>
    let p := formatted format args
    for c in p.complaints.reverse do complain c
    print p.out.reverse
    if let some f := p.fault then fail f
    return if p.complaints.isEmpty then 0 else 1

def testCommand (name : List Char) (args : List (List Char)) : Act Nat := do
  match testOutcome (← get).sights name args with
  | .ok b => return if b then 0 else 1
  | .error f => fail f.message

/-- What `command` does where it does not run one. -/
def commandCommand (args : List (List Char)) : Act Nat := do
  let (letters, args) ← flags "pvV" args
  let path := if letters.contains 'p' then some standardPath else none
  match args with
  | [] => return 0
  | name :: _ =>
    if letters.contains 'V' then describe false path name
    else if letters.contains 'v' then describe true path name
    else return 0

def typeCommand : List (List Char) → Act Nat
  | [] => return 0
  | name :: rest => do
    let first ← describe false none name
    let others ← typeCommand rest
    return first ||| others

/-- Runs a builtin that runs no other commands. -/
def plainBuiltin (name : String) (args : List (List Char)) : Act Nat := do
  match name with
  | "false" => return 1
  | "echo" =>
    print (echoText args)
    return 0
  | "printf" => printfCommand args
  | "test" | "[" => testCommand name.toList args
  | "command" => commandCommand args
  | "type" => typeCommand args
  | "hash" => hashCommand args
  | "alias" => aliasCommand args
  | "unalias" => unaliasCommand args
  | "export" => markCommand "export" false args
  | "readonly" => markCommand "readonly" true args
  | "local" => localCommand args
  | "unset" => unsetCommand args
  | "read" => readCommand args
  | "getopts" => getoptsCommand args
  | "set" => setCommand args
  | "shift" => shiftCommand args
  | "break" => loopCommand false args
  | "continue" => loopCommand true args
  | "return" => returnCommand args
  | "exit" => exitCommand args
  | "trap" => trapCommand args
  | "jobs" => jobsCommand args
  | "fg" | "bg" => resumeCommand args
  | "kill" => killCommand args
  | "cd" | "chdir" => cdCommand args
  | "pwd" => pwdCommand args
  | "umask" => umaskCommand args
  | "ulimit" => ulimitCommand args
  | "times" => timesCommand
  | _ => return 0

end DockLint.Shell
