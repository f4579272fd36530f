import DockLint.Machine.Program
import DockLint.Shell.Arithmetic
import DockLint.Shell.Glob
import DockLint.Shell.Setting
import DockLint.Shell.Signal
import DockLint.Shell.Token

/-!
# The state of a shell

A process has variables, arguments, functions and descriptors of its own; a copy of them is all that
a new process starts with. The files, and what stands behind the descriptors, are the machine's and
shared by all its processes.
-/

namespace DockLint.Shell

/-! ### Bytes and names -/

def toChars (bytes : List UInt8) : List Char :=
  bytes.map fun b => Char.ofNat b.toNat

def toBytes (s : List Char) : List UInt8 :=
  s.map fun c => UInt8.ofNat c.toNat

/-- A text whose characters stand for bytes, read as UTF-8. -/
def pathOf (s : List Char) : String :=
  ofUtf8Lossy (toBytes s)

/-- A text as characters that stand for bytes. -/
def charsOf (s : String) : List Char :=
  toChars (utf8 s)

def numeral (n : Nat) : List Char :=
  (toString n).toList

def setKey {α β : Type} [BEq α] (key : α) (value : β) (xs : List (α × β)) : List (α × β) :=
  (key, value) :: xs.filter (·.1 != key)

/-- A text in quotes that a shell reads back. Apostrophes stand in double quotes, all else in single
ones. -/
def singleQuoted (s : List Char) : List Char :=
  pieces s.length s
where
  /-- Each step but the last uses up an apostrophe. -/
  pieces : Nat → List Char → List Char
    | 0, s => '\x27' :: s ++ ['\x27']
    | fuel + 1, s =>
      let front := '\x27' :: s.takeWhile (· ≠ '\x27') ++ ['\x27']
      let rest := s.dropWhile (· ≠ '\x27')
      let marks := rest.takeWhile (· = '\x27')
      match marks, rest.drop marks.length with
      | [], _ => front
      | marks, [] => front ++ '\x22' :: marks ++ ['\x22']
      | marks, more => front ++ '\x22' :: marks ++ '\x22' :: pieces fuel more

/-! ### What processes share -/

/-- What a descriptor leads to. -/
inductive Stream where
  /-- Text that is there to be read; it is `cut` if its writer was stopped before its end. -/
  | source (rest : List Char) (cut : Bool)
  /-- Text that was written, its pieces in reverse order, and how much more there is room for. -/
  | sink (pieces : List (List Char)) (room : Option Nat)
  | file (names : List String) (offset : Nat) (mode : Mode)
  | directory
  /-- Empty to read; what is written is lost, or if it is `full` has no room. -/
  | device (full : Bool)

/-- How a process came to its end. -/
inductive Ending where
  | exited (status : Nat)
  | killed (signal : Nat)
  deriving DecidableEq, Repr

/-- The status that a shell has for it. -/
def Ending.status : Ending → Nat
  | exited n => n % 256
  | killed n => n + 128

/-- What was assigned to a variable, and how it is kept. -/
structure Variable where
  value : Option (List Char)
  exported : Bool
  readOnly : Bool
  /-- The variable stays exported when it is unset. -/
  fixed : Bool

/-- What is to be put back when a function ends. -/
inductive Saved where
  | variable (name : String) (before : Option Variable)
  | settings (before : Settings)

/-- What is left out until a loop or function ends. -/
inductive Skip where
  | leave (loops : Nat)
  | again (loops : Nat)
  /-- A status was given for the function to end with, or not. -/
  | back (given : Bool)
  deriving DecidableEq, Repr

/-- A process of the background. -/
structure Job where
  number : Nat
  pid : Nat
  /-- How many commands it has behind the first one of a pipeline. -/
  more : Nat
  /-- It has come to its end, and been waited for. -/
  waited : Bool

structure Process where
  pid : Nat
  /-- The number that the shell gives for itself. -/
  shell : Nat
  parent : Nat
  /-- The script's own name. -/
  name : List Char
  /-- The builtin that is being run. -/
  caller : Option (List Char)
  /-- The line of the command being run. -/
  line : Nat
  /-- The line up to which the text that commands come from has been read. -/
  readLine : Nat
  args : List (List Char)
  vars : List (String × Variable)
  /-- For each function being run, what is to be put back at its end. -/
  frames : List (List Saved)
  functions : List (String × Command)
  aliases : List (String × List Char)
  /-- Paths of the commands that were looked up. -/
  known : List (String × List Char)
  settings : Settings
  channels : List (Nat × Nat)
  here : List String
  /-- The name that the working directory goes by. -/
  hereName : List Char
  mask : Nat
  status : Nat
  /-- While a trap is carried out, the status before. -/
  statusBefore : Option Nat
  /-- The status of the last script whose output a word took in. -/
  outputStatus : Nat
  /-- How many loops of the current function are being run. -/
  loops : Nat
  skip : Option Skip
  /-- Scripts to run when a signal comes, or when the shell ends. An empty one ignores the
  signal. -/
  traps : List (Nat × List Char)
  /-- Signals that were ignored when the shell started, which stays so. -/
  deaf : List Nat
  /-- Signals that came and whose traps are to be carried out. -/
  arrived : List Nat
  jobs : List Job
  background : Option Nat
  /-- How many functions are being run. -/
  depth : Nat
  /-- The number of the argument that options are read from next, and where in it if it is a bundle
  of letters. -/
  optionIndex : Nat
  optionOffset : Option Nat
  documents : List (Nat × Word)
  /-- No document has this number or a larger one. -/
  freshDocument : Nat
  /-- The text in front of traced commands is being expanded. -/
  tracing : Bool
  /-- What the builtin being run has printed, the latest first. -/
  buffer : List (List Char)
  /-- Some of that could not be written. -/
  broken : Bool

/-- A process that is still to be run. -/
structure Task where
  process : Process
  /-- With nothing left to expand. -/
  redirections : List Redirection
  body : Command

structure World where
  root : Machine.Node
  streams : Array Stream
  /-- No process has this number or a larger one. -/
  freshPid : Nat
  tasks : List Task
  ended : List (Nat × Ending)
  /-- The processes being run; each waits for the one in front of it. -/
  running : List Nat
  /-- Signals under way, with the processes they are for. -/
  signals : List (Nat × Nat)
  /-- Texts at whose end, where they were cut, someone read on. -/
  dry : List Nat

structure State extends Process where
  world : World

/-- Why a command does not come to its regular end. -/
inductive Stop where
  | fault
  /-- A wish to exit. -/
  | exit
  /-- The end of what the process has to do. -/
  | done
  /-- The process has come to its end. -/
  | over (e : Ending)

abbrev Act := EStateM Stop State

/-! ### Streams -/

/-- A tree as a process sees it. -/
def State.tree (st : State) : Machine.Tree :=
  ⟨st.world.root, st.here⟩

def newStream (s : Stream) : Act Nat :=
  modifyGet fun st =>
    (st.world.streams.size,
      { st with world := { st.world with streams := st.world.streams.push s } })

def setStream (id : Nat) (s : Stream) : Act Unit :=
  modify fun st =>
    { st with world := { st.world with streams := st.world.streams.setIfInBounds id s } }

def stream? (descriptor : Nat) : Act (Option (Nat × Stream)) := do
  let st ← get
  match st.channels.lookup descriptor with
  | none => return none
  | some id => return (st.world.streams[id]?).map (id, ·)

def setChannel (descriptor : Nat) (id : Option Nat) : Act Unit :=
  modify fun st =>
    let rest := st.channels.filter (·.1 != descriptor)
    { st with channels := match id with
      | some id => (descriptor, id) :: rest
      | none => rest }

def contentAt (root : Machine.Node) (names : List String) : List UInt8 :=
  ((root.at? names).map (·.content)).getD []

/-- A content with bytes put in at an offset. -/
def overwrite (content : List UInt8) (offset : Nat) (bytes : List UInt8) : List UInt8 :=
  content.take offset ++ List.replicate (offset - content.length) 0 ++ bytes ++
    content.drop (offset + bytes.length)

/-- How a writer comes off. -/
inductive Written where
  | good
  | failed
  /-- Nobody reads what is written. -/
  | unread
  deriving DecidableEq

def writeStream (id : Nat) (s : List Char) : Act Written := do
  let st ← get
  match st.world.streams[id]? with
  | some (.sink pieces none) =>
    setStream id (.device false)
    setStream id (.sink (s :: pieces) none)
    return .good
  | some (.sink pieces (some room)) =>
    let n := s.length
    setStream id (.sink (s.take room :: pieces) (some (room - n)))
    return if n ≤ room then .good else .unread
  | some (.file names offset mode) =>
    if mode = .read then return .failed
    let old := contentAt st.world.root names
    let offset := if mode = .append then old.length else offset
    let content := overwrite old offset (toBytes s)
    let tree := st.tree.write names content
    set { st with world := { st.world with root := tree.root } }
    setStream id (.file names (offset + s.length) mode)
    return .good
  | some (.device full) => return if full then .failed else .good
  | some (.source ..) | some .directory | none => return .failed

/-- The end of the process by a signal. -/
def die {α : Type} (signal : Nat) : Act α :=
  throw (.over (.killed signal))

/-- A signal comes to the process itself. Number 0 is none. -/
def receive (signal : Nat) : Act Unit := do
  if signal = 0 then return
  let st ← get
  if signal = Signal.kill then die signal
  if st.deaf.contains signal then return
  match st.traps.lookup signal with
  | some [] => return
  | some _ => set { st with arrived := st.arrived.filter (· != signal) ++ [signal] }
  | none => unless Signal.isHarmless signal do die signal

/-- Writes at a descriptor: whether that is possible. -/
def write (descriptor : Nat) (s : List Char) : Act Bool := do
  if s.isEmpty then return true
  match (← get).channels.lookup descriptor with
  | none => return false
  | some id =>
    match ← writeStream id s with
    | .good => return true
    | .failed => return false
    | .unread =>
      receive Signal.brokenPipe
      return false

/-- Prints a complaint on standard error. -/
def complain (s : List Char) : Act Unit := do
  let st ← get
  let caller := match st.caller with
    | some c => c ++ ": ".toList
    | none => []
  let front := st.name ++ ": ".toList ++ numeral st.line ++ ": ".toList ++ caller
  let _ ← write 2 (front ++ s ++ ['\n'])

/-- What a fault makes the status. -/
def faultStatus : Nat := 2

/-- Prints on standard output, though not before the builtin ends. -/
def print (s : List Char) : Act Unit :=
  modify fun st => { st with buffer := s :: st.buffer }

/-- Writes what was printed. -/
def flush : Act Unit := do
  let s := (← get).buffer.reverse.flatten
  modify fun st => { st with buffer := [] }
  unless ← write 1 s do modify fun st => { st with broken := true }

/-- Stops with a complaint. -/
def fail {α : Type} (s : List Char) : Act α := do
  complain s
  flush
  modify fun st => { st with status := faultStatus }
  throw .fault

def failText {α : Type} (s : String) : Act α :=
  fail s.toList

/-- What is read at once. -/
inductive Read (α : Type) where
  | closed
  | directory
  | text (a : α)

/-- What is left to read, which is used up by `n` characters of it. -/
def readable (descriptor : Nat) : Act (Read (List Char × (Nat → List Char → Act Unit))) := do
  match ← stream? descriptor with
  | none => return .closed
  | some (id, .source rest cut) =>
    return .text (rest, fun _ rest => setStream id (.source rest cut))
  | some (_, .sink ..) => return .closed
  | some (id, .file names offset mode) =>
    if mode = .write ∨ mode = .append ∨ mode = .overwrite then return .closed
    let content := contentAt (← get).world.root names
    let used (n : Nat) (_ : List Char) : Act Unit := setStream id (.file names (offset + n) mode)
    return .text (toChars (content.drop offset), used)
  | some (_, .directory) => return .directory
  | some (_, .device _) => return .text ([], fun _ _ => return)

/-- Notes that the end of a text was met. -/
def meetEnd (descriptor : Nat) : Act Unit := do
  match ← stream? descriptor with
  | some (id, .source _ true) =>
    modify fun st => { st with world := { st.world with dry := id :: st.world.dry } }
  | _ => return

/-- All there is to read. -/
def readAll (descriptor : Nat) : Act (Read (List Char)) := do
  match ← readable descriptor with
  | .closed => return .closed
  | .directory => return .directory
  | .text (s, used) =>
    used s.length []
    meetEnd descriptor
    return .text s

/-! ### Variables -/

namespace State

def stored? (st : State) (name : String) : Option Variable :=
  st.vars.lookup name

def value? (st : State) (name : String) : Option (List Char) :=
  (st.vars.lookup name).bind (·.value)

/-- What separates the words of a value. -/
def separators (st : State) : List Char :=
  (st.value? "IFS").getD [' ', '\t', '\n']

def searchPath (st : State) : List String :=
  ((st.value? "PATH").getD []).splitOn ':' |>.map pathOf

/-- The environment of the programs that are run. -/
def environment (st : State) : List (String × List Char) :=
  st.vars.filterMap fun (name, v) => if v.exported then v.value.map (name, ·) else none

end State

/-- The number that a text stands for, which must not be negative. -/
def number (s : List Char) : Act Nat := do
  match Arithmetic.numeral? true s with
  | some n =>
    if n.inRange ∧ n.rest.all Arithmetic.isSpace ∧ 0 ≤ n.value ∧ n.value ≤ 0x7fffffff then
      return n.value.toNat
    else fail ("Illegal number: ".toList ++ s)
  | none => fail ("Illegal number: ".toList ++ s)

/-- Variables whose change tells on the shell. -/
def noticeChange (name : String) (value : List Char) : Act Unit := do
  match name with
  | "PATH" => modify fun st => { st with known := [] }
  | "OPTIND" =>
    let n ← number value
    modify fun st => { st with optionIndex := max 1 n, optionOffset := none }
  | _ => return

def putVariable (name : String) (v : Variable) : Act Unit :=
  modify fun st => { st with vars := setKey name v st.vars }

def eraseVariable (name : String) : Act Unit :=
  modify fun st => { st with vars := st.vars.filter (·.1 != name) }

def checkName (name : String) : Act Unit := do
  if ¬ isName name then fail (charsOf name ++ ": bad variable name".toList)

/-- Assigns a variable, or unsets it. -/
def setVariable (name : String) (value : Option (List Char)) (exported readOnly : Bool) :
    Act Unit := do
  checkName name
  let st ← get
  let exported := exported || (value.isSome && st.settings.has .allexport)
  match st.stored? name with
  | some v =>
    if v.readOnly then fail (charsOf name ++ ": is read only".toList)
    noticeChange name (value.getD [])
    if value.isNone ∧ ¬ exported ∧ ¬ readOnly ∧ ¬ v.fixed then eraseVariable name
    else putVariable name ⟨value, exported || v.exported, readOnly, v.fixed⟩
  | none =>
    if value.isSome ∨ exported ∨ readOnly then putVariable name ⟨value, exported, readOnly, false⟩

def assignVariable (name : String) (value : List Char) : Act Unit :=
  setVariable name (some value) false false

/-- Splits a name from the value that it is given, if there is one. -/
def splitAssignment (s : List Char) : String × Option (List Char) :=
  (pathOf (s.takeWhile (· ≠ '=')), (s.dropWhile (· ≠ '=')).tail?)

/-- Marks a variable, which may be given a value at that. -/
def markVariable (s : List Char) (exported readOnly : Bool) : Act Unit := do
  let (name, value) := splitAssignment s
  match value, (← get).stored? name with
  | none, some v =>
    putVariable name
      { v with exported := exported || v.exported, readOnly := readOnly || v.readOnly }
  | value, _ => setVariable name value exported readOnly

/-- Keeps in the innermost frame what is put back at its end. -/
def keep (s : Saved) : Act Unit :=
  modify fun st =>
    match st.frames with
    | f :: rest => { st with frames := (s :: f) :: rest }
    | [] => st

/-- Makes a variable a function's own, which may be given a value at that. -/
def makeLocal (s : List Char) (exported : Bool) : Act Unit := do
  let st ← get
  if s = ['-'] then keep (.settings st.settings)
  else
    let (name, value) := splitAssignment s
    match st.stored? name with
    | none =>
      checkName name
      putVariable name ⟨value, exported, false, true⟩
      keep (.variable name none)
    | some v =>
      keep (.variable name (some v))
      putVariable name { v with fixed := true }
      if let some value := value then setVariable name (some value) exported false

def putBack (s : Saved) : Act Unit :=
  match s with
  | .settings before => modify fun st => { st with settings := before }
  | .variable name (some v) => do
    if name = "PATH" then modify fun st => { st with known := [] }
    putVariable name v
  | .variable name none => eraseVariable name

/-- Puts back what the innermost frame has kept. -/
def dropFrame : Act Unit := do
  match (← get).frames with
  | [] => return
  | f :: rest =>
    modify fun st => { st with frames := rest }
    f.forM putBack

/-- The variables that pass a test by name, as they are listed behind `front`. -/
def State.listing (st : State) (front : String) (test : Variable → Bool) : List Char :=
  let front := if front = "" then [] else front.toList ++ [' ']
  let vars := (st.vars.filter (test ·.2)).mergeSort fun a b => !decide (b.1 < a.1)
  vars.flatMap fun (name, v) =>
    front ++ name.toList ++ (match v.value with
      | some s => '=' :: singleQuoted s
      | none => []) ++ ['\n']

/-! ### Parameters -/

/-- The value of a parameter other than the lists of all arguments. -/
def State.parameter? (st : State) (name : String) : Option (List Char) :=
  match name with
  | "#" => some (numeral st.args.length)
  | "?" => some (numeral st.status)
  | "$" => some (numeral st.shell)
  | "-" => some st.settings.letters
  | "!" => st.background.map numeral
  | name =>
    match name.toNat? with
    | some 0 => some st.name
    | some n => st.args[n - 1]?
    | none => st.value? name

end DockLint.Shell
