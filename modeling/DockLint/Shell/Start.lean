import DockLint.Shell.Run

/-!
# Processes from outside

A program is run as a process of the machine: what it is given, and what it leaves behind.
-/

namespace DockLint.Shell

/-- The fuel a process starts with. -/
def processFuel : Nat := 100000000

/-- What a process leaves behind. -/
structure Outcome where
  /-- None if a signal ended it. -/
  exit : Option Nat
  stdout : List UInt8
  stderr : List UInt8
  /-- How many bytes of its input it did not read. -/
  unread : Nat

/-- The number of the first process. -/
def firstPid : Nat := 1000

/-- A process with nothing but an environment and the standard descriptors, which lead to the
streams of the same numbers. -/
def firstProcess (here : List String) (environment : List (String × String)) : Process where
  pid := firstPid
  shell := firstPid
  parent := firstPid - 1
  name := []
  caller := none
  line := 0
  readLine := 1
  args := []
  vars := environment.map fun (k, v) => (k, ⟨some (charsOf v), true, false, false⟩)
  frames := []
  functions := []
  aliases := []
  known := []
  settings := .none
  channels := [(0, 0), (1, 1), (2, 2)]
  here
  hereName := '/' :: ['/'].intercalate (here.map charsOf)
  mask := 0o022
  status := 0
  statusBefore := none
  outputStatus := 0
  loops := 0
  skip := none
  traps := []
  deaf := []
  arrived := []
  jobs := []
  background := none
  depth := 0
  optionIndex := 1
  optionOffset := none
  documents := []
  freshDocument := 0
  tracing := false
  buffer := []
  broken := false

/-- What was written to a stream. -/
def writtenTo (world : World) (id : Nat) : List UInt8 :=
  match world.streams[id]? with
  | some (.sink pieces _) => toBytes pieces.reverse.flatten
  | _ => []

/-- How much of what a stream holds was not read. -/
def unreadFrom (world : World) (id : Nat) : Nat :=
  match world.streams[id]? with
  | some (.source rest _) => rest.length
  | _ => 0

/-- Runs a program as a process. Variables are handed to it as its environment. -/
def start (tree : Machine.Tree) (environment : List (String × String)) (p : Machine.Program)
    (input : Option (List UInt8)) : Outcome :=
  let stdin : Stream := match input with
    | some bytes => .source (toChars bytes) false
    | none => .device false
  let world : World :=
    { root := tree.root
      streams := #[stdin, .sink [] none, .sink [] none]
      freshPid := firstPid + 1
      tasks := []
      ended := []
      running := [firstPid]
      signals := []
      dry := [] }
  let life : Act Ending := do
    let e ← Run.image p processFuel
    Run.runTasks processFuel
    return e
  let left : Option Nat × World := match life { firstProcess tree.here environment with world } with
    | .ok (.exited n) st => (some (n % 256), st.world)
    | .ok (.killed _) st | .error _ st => (none, st.world)
  ⟨left.1, writtenTo left.2 1, writtenTo left.2 2, unreadFrom left.2 0⟩

end DockLint.Shell
