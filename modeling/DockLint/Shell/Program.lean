import DockLint.Machine.Program
import DockLint.Shell.Builtin.Session

/-!
# Processes of a shell

What a new process starts with, and how programs are found.
-/

namespace DockLint.Shell

/-! ### Ends -/

/-- Carries out an action: why it stopped, if it did before its end. -/
def attempt (body : Act Unit) : Act (Option Stop) := fun st =>
  match body st with
  | .ok () st => .ok none st
  | .error e st => .ok (some e) st

/-- Carries out an action, and changes the state behind it however it ends. -/
def ensuring {α : Type} (body : Act α) (after : State → State) : Act α := fun st =>
  match body st with
  | .ok a st => .ok a (after st)
  | .error e st => .error e (after st)

def setStatus (n : Nat) : Act Unit :=
  modify fun st => { st with status := n }

/-- Gives a shell that is about to end its status. -/
def settle (stop : Option Stop) : Act Unit :=
  modify fun st =>
    let status := match stop, st.statusBefore with
      | some .exit, some n => n
      | _, some n => if st.skip = some (.back false) then n else st.status
      | _, none => st.status
    { st with status, statusBefore := none, skip := none, loops := 0, tracing := false }

/-- Says how a process ended, if that is worth saying. -/
def tell (e : Ending) : Act Unit := do
  match e with
  | .killed n => if Signal.isTold n then let _ ← write 2 ((Signal.text n).toList ++ ['\n'])
  | .exited _ => return

/-! ### Starts -/

/-- A process that goes on with a part of the script. -/
def fork : Act Process := do
  let st ← get
  let pid := st.world.freshPid
  set { st with world := { st.world with freshPid := pid + 1 } }
  return { st.toProcess with
    pid
    parent := st.pid
    traps := st.traps.filter (·.2.isEmpty)
    skip := none
    statusBefore := none
    arrived := []
    jobs := []
    buffer := [] }

/-- A process of the background, which reads nothing. -/
def forkBehind : Act Process := do
  let id ← newStream (.device false)
  let p ← fork
  return { p with
    deaf := Signal.interrupt :: Signal.quit :: p.deaf
    channels := (0, id) :: p.channels.filter (·.1 != 0) }

def Process.withChannel (p : Process) (descriptor id : Nat) : Process :=
  { p with channels := (descriptor, id) :: p.channels.filter (·.1 != descriptor) }

/-- Whether anything is to be done before the process ends. -/
def State.hasTraps (st : State) : Bool :=
  st.traps.any fun t => !t.2.isEmpty

/-- Carries out another process; how it ended is kept. -/
def within (child : Process) (life : Act Ending) : Act Ending := do
  let parent ← get
  let running := parent.world.running
  set (σ := State) { child with world := { parent.world with running := child.pid :: running } }
  let e ← ensuring life fun after =>
    { parent with world := { after.world with running } }
  return e

/-- What a shell starts with whatever its environment. -/
def fixedVariables (parent : Nat) : List (String × Variable) :=
  [("IFS", some [' ', '\t', '\n']), ("MAIL", none), ("MAILPATH", none),
    ("PATH", some ([':'].intercalate (standardPath.map String.toList))), ("PS1", some ['#', ' ']),
    ("PS2", some ['>', ' ']), ("PS4", some ['+', ' ']), ("OPTIND", some ['1'])].map
      (fun x => (x.1, ⟨x.2, false, false, true⟩)) ++
    [("PPID", ⟨some (numeral parent), false, false, false⟩)]
/-- The same process with a shell that has just been started under a name. -/
def freshShell (name : List Char) (st : State) : State :=
  let own := fixedVariables st.parent
  let given := st.environment.filter fun (k, _) => isName k
  let known := own.map fun (k, v) =>
    match given.lookup k with
    | none => (k, v)
    | some s =>
      let kept := k == "IFS" || k == "OPTIND" || k == "PPID"
      (k, { v with value := if kept then v.value else some s, exported := true })
  let others := (given.filter fun (k, _) => (own.lookup k).isNone).map fun (k, s) =>
    (k, (⟨some s, true, false, false⟩ : Variable))
  let path := '/' :: ['/'].intercalate (st.here.map charsOf)
  let claimed := (given.lookup "PWD").getD []
  let isHere := claimed.head? == some '/' &&
    match st.tree.resolve (pathOf claimed) with
    | .ok names => names == st.here
    | .error _ => false
  let here := if isHere then claimed else path
  { st with
    shell := st.pid
    name
    caller := none
    line := 0
    readLine := 1
    args := []
    vars := setKey "PWD" ⟨some here, true, false, false⟩ (others ++ known)
    frames := []
    functions := []
    aliases := []
    known := []
    settings := .none
    hereName := here
    status := 0
    statusBefore := none
    outputStatus := 0
    loops := 0
    skip := none
    traps := []
    deaf := st.deaf ++ (st.traps.filter (·.2.isEmpty)).map (·.1)
    arrived := []
    jobs := []
    background := none
    depth := 0
    optionIndex := 1
    optionOffset := none
    documents := []
    freshDocument := 0
    tracing := false
    buffer := []
    broken := false }

/-! ### Programs -/

/-- Finds the program in a file. One that names no interpreter is a script for the shell. -/
def loadFile (tree : Machine.Tree) (path name : String) (args : List String) :
    Except Machine.Fault Machine.Program :=
  match tree.load path name args Machine.Tree.maxLevels with
  | .error .badFormat => tree.load shellPath shellPath (path :: args) Machine.Tree.maxLevels
  | r => r
where
  shellPath : String := "/bin/sh"

/-- Why a program cannot be run, and the status for it. -/
def programFault (f : Machine.Fault) : Nat × String :=
  match f with
  | .notFound | .notDirectory => (127, "not found")
  | .tooManyLevels | .nameTooLong => (127, f.name)
  | f => (126, f.name)

/-- The program of a name without a slash in it, from the first of the directories that has one. -/
def search (tree : Machine.Tree) (name : String) (args : List String) (fault : Machine.Fault) :
    List String → Except Machine.Fault Machine.Program
  | [] => .error fault
  | d :: ds =>
    let path := if d.isEmpty then name else d ++ "/" ++ name
    match loadFile tree path name args with
    | .ok p => .ok p
    | .error .notFound | .error .notDirectory => search tree name args fault ds
    | .error f => search tree name args f ds

/-- The program that a word names. -/
def findProgram (tree : Machine.Tree) (path : List String) (name : List Char)
    (args : List (List Char)) : Except Machine.Fault Machine.Program :=
  let args := args.map pathOf
  if name.contains '/' then loadFile tree (pathOf name) (pathOf name) args
  else search tree (pathOf name) args .notFound path

end DockLint.Shell
