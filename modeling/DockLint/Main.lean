import DockLint.Machine.Basic
import DockLint.Program

/-!
# The command line

The program proper: its arguments and environment are the process's own. The files that a run asks
for are loaded into a machine, which is run again until it asks for no more; linters are run by the
machine, so they have to be scripts.
-/

namespace DockLint.CommandLine

/-- The names on the way from the root to a path, which is absolute. -/
def namesOf (path : String) : List String :=
  (splitNames path).foldl (fun acc name =>
    if name = "" ∨ name = "." then acc
    else if name = ".." then acc.dropLast
    else acc ++ [name]) []
where
  splitNames (path : String) : List String :=
    (path.toList.splitOn '/').map String.ofList

/-- Adds what is at a path to a machine that does not know it. -/
def loadFile (m : Machine) (path : String) : IO Machine := do
  let here ← IO.currentDir
  let full := here / path
  let names := namesOf full.toString
  if (m.tree.root.at? names).isSome then return m
  if ← full.isDir then
    return { m with tree := { m.tree with root := m.tree.root.put names (.directory []) } }
  try
    let bytes ← IO.FS.readBinFile full
    let node := Machine.Node.file bytes.toList true
    return { m with tree := { m.tree with root := m.tree.root.put names node } }
  catch _ => return m

/-- The paths that a request asks for before anything is run. -/
def firstPaths (r : Request) (m : Machine) : List String :=
  let settings := match r.config? with
    | some path => [path]
    | none => Settings.usualFiles m.here m.home
  match r.command with
  | .lint path _ => path :: settings
  | _ => settings

/-- The paths that a run has asked for. -/
def askedPaths (m : Machine) (events : List Event) : List String :=
  events.flatMap fun
    | .probe path => [path]
    | .run call =>
      if call.program.toList.contains '/' then [call.program]
      else m.searchPath.map (joinPath · call.program)
    | .log _ => []

/-- Loads files until a run asks for no others, in a few rounds. -/
def loadAll (r : Request) (m : Machine) : Nat → IO Machine
  | 0 => return m
  | rounds + 1 => do
    let run := r.carryOut m.host m.files m.here m.home
    let loaded ← (firstPaths r m ++ askedPaths m run.trace).foldlM loadFile m
    loadAll r loaded rounds

def environment : IO (List (String × String)) := do
  let names := ["HOME", "PATH"]
  let values ← names.mapM fun name => do
    return (← IO.getEnv name).map (name, ·)
  return values.filterMap id

def usageText : String :=
  "usage: " ++ programName ++
    " [-c FILE] [-v]... [-q] (lint FILE [--format text|json] | check | which)\n"

/-- What is printed for a command line that asks for no run. -/
def usageResult : Usage → RunResult
  | .version => .version
  | .help => ⟨Usage.help.exitCode, usageText, ""⟩
  | u => ⟨u.exitCode, "", usageText⟩

end DockLint.CommandLine

open DockLint in
def main (args : List String) : IO UInt32 := do
  let environment ← CommandLine.environment
  let here ← IO.currentDir
  let tree : Machine.Tree :=
    ⟨Machine.baseRoot.put (CommandLine.namesOf here.toString) (.directory []),
      CommandLine.namesOf here.toString⟩
  let m : Machine := ⟨tree, environment⟩
  let m ← match CommandLine.read args with
    | .ok r => CommandLine.loadAll r m 4
    | .error _ => pure m
  let spec := (← IO.getEnv "RUST_LOG").getD ""
  let result := match runProgram args m.host m.files m.here m.home spec with
    | .ok r => r
    | .error u => CommandLine.usageResult u
  IO.print result.stdout
  IO.eprint result.stderr
  return UInt32.ofNat result.code
