import DockLint.Shell.Field
import DockLint.Shell.Reader
import DockLint.Shell.State

/-!
# Commands that change the shell

Variables, settings, arguments, aliases and traps, the working directory, and leaving loops,
functions and the shell. A command yields its status.
-/

namespace DockLint.Shell

/-! ### Options -/

/-- The options in front of the arguments, each with its value, and the arguments behind them. A
letter of `spec` may take a value. -/
def optionsFrom (spec : List (Char × Bool)) (acc : List (Char × List Char)) :
    Nat → List Char → List (List Char) → Act (List (Char × List Char) × List (List Char))
  | 0, _, args => return (acc.reverse, args)
  | fuel + 1, [], args =>
    match args with
    | ['-', '-'] :: rest => return (acc.reverse, rest)
    | ('-' :: c :: letters) :: rest => optionsFrom spec acc fuel (c :: letters) rest
    | args => return (acc.reverse, args)
  | fuel + 1, c :: letters, args =>
    match spec.lookup c, letters, args with
    | none, _, _ => fail ("Illegal option -".toList ++ [c])
    | some false, letters, args => optionsFrom spec ((c, []) :: acc) fuel letters args
    | some true, [], [] => fail ("No arg for -".toList ++ [c] ++ " option".toList)
    | some true, [], value :: rest => optionsFrom spec ((c, value) :: acc) fuel [] rest
    | some true, value, args => optionsFrom spec ((c, value) :: acc) fuel [] args

def options (spec : List (Char × Bool)) (args : List (List Char)) :
    Act (List (Char × List Char) × List (List Char)) :=
  optionsFrom spec [] (args.flatten.length + args.length + 1) [] args

/-- Arguments of a command without options. -/
def operands (args : List (List Char)) : Act (List (List Char)) := do
  return (← options [] args).2

def flags (letters : String) (args : List (List Char)) : Act (List Char × List (List Char)) := do
  let (os, args) ← options (letters.toList.map (·, false)) args
  return (os.map (·.1), args)

/-! ### Names of commands -/

def builtins : List String :=
  specialCommands ++
    ["[", "alias", "bg", "cd", "chdir", "command", "echo", "false", "fg", "getopts", "hash", "jobs",
      "kill", "printf", "pwd", "read", "test", "true", "type", "ulimit", "umask", "unalias", "wait"]

def isBuiltin (name : List Char) : Bool :=
  builtins.contains (String.ofList name)

/-- Builtins whose faults end the shell, and before which assignments last. -/
def isSpecial (name : List Char) : Bool :=
  specialCommands.contains (String.ofList name)

/-- Builtins whose arguments may be assignments. -/
def takesAssignments (name : List Char) : Bool :=
  ["alias", "export", "local", "readonly"].contains (String.ofList name)

/-- Where the system's commands are looked for. -/
def standardPath : List String :=
  ["/usr/local/sbin", "/usr/local/bin", "/usr/sbin", "/usr/bin", "/sbin", "/bin"]

/-- What was found for a command's name. -/
inductive Located where
  | at (path : String)
  | denied
  | nowhere

/-- The first of the directories in which a file can be run under a name. -/
def locate (tree : Machine.Tree) (name : String) (denied : Bool) : List String → Located
  | [] => if denied then .denied else .nowhere
  | d :: ds =>
    let path := if d.isEmpty then name else d ++ "/" ++ name
    match tree.node path with
    | .ok node =>
      if node.isFile ∧ node.isExecutable then .at path else locate tree name true ds
    | .error _ => locate tree name denied ds

/-- Looks a command up, and remembers where it is. -/
def locateCommand (name : List Char) (path : Option (List String)) : Act Located := do
  let st ← get
  match path, st.known.lookup (pathOf name) with
  | none, some found => return .at (pathOf found)
  | path, _ =>
    let found := locate st.tree (pathOf name) false (path.getD st.searchPath)
    match found, path with
    | .at p, none =>
      set { st with known := st.known ++ [(pathOf name, charsOf p)] }
    | _, _ => pure ()
    return found

/-- Tells what a command's name stands for, in so few words as to be run if `brief`. -/
def describe (brief : Bool) (path : Option (List String)) (name : List Char) : Act Nat := do
  let st ← get
  let tell (short : List Char) (long : String) : Act Nat := do
    print ((if brief then short else name ++ ' ' :: long.toList) ++ ['\n'])
    return 0
  let missing : Act Nat := do
    unless brief do print (name ++ ": not found\n".toList)
    return 127
  let at_ (p : String) (known : Bool) : Act Nat := do
    print ((if brief then charsOf p
      else name ++ (if known then " is a tracked alias for ".toList else " is ".toList) ++
        charsOf p) ++ ['\n'])
    return 0
  if Token.keywords.contains (String.ofList name) then tell name "is a shell keyword"
  else
    match st.aliases.lookup (pathOf name) with
    | some text =>
      print ((if brief then "alias ".toList ++ name ++ '=' :: singleQuoted text
        else name ++ " is an alias for ".toList ++ text) ++ ['\n'])
      return 0
    | none =>
      if (st.functions.lookup (pathOf name)).isSome then tell name "is a shell function"
      else if isBuiltin name then
        tell name (if isSpecial name then "is a special shell builtin" else "is a shell builtin")
      else if name.contains '/' then
        if st.tree.present (pathOf name) then at_ (pathOf name) false else missing
      else
        let known := path.isNone && (st.known.lookup (pathOf name)).isSome
        match ← locateCommand name path with
        | .at p => at_ p known
        | _ => missing

/-- The place of a name in a table of so many rows. -/
def row (rows : Nat) (name : List Char) : Nat :=
  let first := (name.head?.map Char.toNat).getD 0
  (name.foldl (fun n c => n + c.toNat) (first * 16)) % 0x8000 % rows

def byRow {α : Type} (rows : Nat) (xs : List (String × α)) : List (String × α) :=
  xs.mergeSort fun a b => row rows (charsOf a.1) ≤ row rows (charsOf b.1)

def hashCommand (args : List (List Char)) : Act Nat := do
  let (letters, names) ← flags "r" args
  if ¬ letters.isEmpty then
    modify fun st => { st with known := [] }
    return 0
  if names.isEmpty then
    for (_, path) in byRow 31 (← get).known do print (path ++ ['\n'])
    return 0
  let mut status := 0
  for name in names do
    modify fun st => { st with known := st.known.filter (·.1 != pathOf name) }
    let st ← get
    unless name.contains '/' || isBuiltin name || (st.functions.lookup (pathOf name)).isSome do
      match ← locateCommand name none with
      | .at _ => pure ()
      | .denied =>
        complain (name ++ ": Permission denied".toList)
        status := 1
      | .nowhere =>
        complain (name ++ ": not found".toList)
        status := 1
  return status

/-! ### Aliases -/

def aliasLine (name : String) (text : List Char) : List Char :=
  charsOf name ++ '=' :: singleQuoted text ++ ['\n']

def aliasCommand (args : List (List Char)) : Act Nat := do
  if args.isEmpty then
    for (name, text) in byRow 39 (← get).aliases do print (aliasLine name text)
  let mut status := 0
  for a in args do
    let name := a.take 1 ++ (a.drop 1).takeWhile (· ≠ '=')
    match a.drop name.length with
    | _ :: text =>
      let known := (← get).aliases
      let name := pathOf name
      let aliases :=
        if (known.lookup name).isSome then
          known.map (fun x => if x.1 == name then (name, text) else x)
        else known ++ [(name, text)]
      modify fun st => { st with aliases }
    | [] =>
      match (← get).aliases.lookup (pathOf a) with
      | some text => print (aliasLine (pathOf a) text)
      | none =>
        let _ ← write 2 ("alias: ".toList ++ a ++ " not found\n".toList)
        status := 1
  return status

def unaliasCommand (args : List (List Char)) : Act Nat := do
  let (letters, names) ← flags "a" args
  if ¬ letters.isEmpty then
    modify fun st => { st with aliases := [] }
    return 0
  let mut status := 0
  for name in names do
    if ((← get).aliases.lookup (pathOf name)).isSome then
      modify fun st => { st with aliases := st.aliases.filter (·.1 != pathOf name) }
    else
      let _ ← write 2 ("unalias: ".toList ++ name ++ " not found\n".toList)
      status := 1
  return status

/-! ### Variables -/

/-- Carries out `export` or `readonly`. -/
def markCommand (name : String) (readOnly : Bool) (args : List (List Char)) : Act Nat := do
  let (letters, args) ← flags "p" args
  if letters.isEmpty ∧ ¬ args.isEmpty then
    for a in args do markVariable a (!readOnly) readOnly
  else
    let st ← get
    print (st.listing name fun v => if readOnly then v.readOnly else v.exported)
  return 0

def localCommand (args : List (List Char)) : Act Nat := do
  if (← get).frames.isEmpty then failText "not in a function"
  for a in args do makeLocal a false
  return 0

def unsetCommand (args : List (List Char)) : Act Nat := do
  let (letters, names) ← flags "vf" args
  for a in names do
    if letters.getLast? = some 'f' then
      modify fun st => { st with functions := st.functions.filter (·.1 != pathOf a) }
    else setVariable (pathOf a) none false false
  return 0

/-- Reads a line: its parts, those behind a backslash apart, and whether it had an end. -/
def lineFrom (raw : Bool) (chunks : List Chunk) (part : List Char) :
    Nat → List Char → List Chunk × Bool × List Char × Nat
  | used, s =>
    let close (last : List Char) : List Chunk := plainChunk .split false last.reverse :: chunks
    match s with
    | [] => ((close part).reverse, false, [], used)
    | '\n' :: rest => ((close part).reverse, true, rest, used + 1)
    | '\x00' :: rest => lineFrom raw chunks part (used + 1) rest
    | '\\' :: rest =>
      if raw then lineFrom raw chunks ('\\' :: part) (used + 1) rest
      else
        match rest with
        | [] => ((close part).reverse, false, [], used + 1)
        | '\n' :: rest => lineFrom raw (close part) [] (used + 2) rest
        | c :: rest =>
          lineFrom raw (plainChunk .whole true [c] :: close part) [] (used + 2) rest
    | c :: rest => lineFrom raw chunks (c :: part) (used + 1) rest

def assignFields : List (List Char) → List (List Mark) → Act Unit
  | [], _ => return
  | name :: names, [] => do
    setVariable (pathOf name) (some []) false false
    assignFields names []
  | name :: names, f :: fs => do
    setVariable (pathOf name) (some (f.map (·.char))) false false
    assignFields names fs

def readCommand (args : List (List Char)) : Act Nat := do
  let (os, names) ← options [('p', true), ('r', false)] args
  if names.isEmpty then failText "arg count"
  let raw := os.any (·.1 == 'r')
  let (chunks, ended) ← match ← readable 0 with
    | .text (s, used) => do
      let (chunks, ended, rest, n) := lineFrom raw [] [] 0 s
      used n rest
      unless ended do meetEnd 0
      pure (chunks, ended)
    | _ => pure ([plainChunk .split false []], false)
  assignFields names (fieldsOf (← get).separators (some names.length) chunks)
  return if ended then 0 else 1

/-! ### Options of a script -/

/-- What one call of `getopts` found: its next option, the value that comes with it, a complaint,
and where to go on. -/
structure OptionFound where
  letter : Char
  value : Option (List Char)
  complaint : Option String
  index : Nat
  offset : Option Nat
  finished : Bool

def nextOption (spec : List Char) (args : Array (List Char)) (index : Nat) (offset : Option Nat) :
    OptionFound :=
  let quiet := spec.head? == some ':'
  let within : Option (List Char) := do
    let off ← offset
    let word ← args[index - 2]?
    if index ≤ 1 ∨ word.length ≤ off then none else some (word.drop off)
  let started : Option (List Char × Nat) :=
    match within with
    | some s => some (s, index)
    | none =>
      match args[index - 1]? with
      | some ('-' :: c :: cs) => some (c :: cs, index + 1)
      | _ => none
  match started with
  | none => ⟨'?', none, none, index, none, true⟩
  | some (['-'], index) =>
    if within.isNone then ⟨'?', none, none, index, none, true⟩
    else letterAt quiet '-' [] index
  | some (c :: rest, index) => letterAt quiet c rest index
  | some ([], index) => ⟨'?', none, none, index, none, true⟩
where
  /-- Whether a letter is an option, and whether that takes a value. -/
  known? (c : Char) : List Char → Option Bool
    | d :: ':' :: rest => if c = d then some true else known? c rest
    | d :: rest => if c = d then some false else known? c rest
    | [] => none
  letterAt (quiet : Bool) (c : Char) (rest : List Char) (index : Nat) : OptionFound :=
    let here : Option Nat := (args[index - 2]?).map fun w => w.length - rest.length
    match known? c (if quiet then spec.tail else spec) with
    | none =>
      if quiet then ⟨'?', some [c], none, index, here, false⟩
      else ⟨'?', none, some ("Illegal option -" ++ String.ofList [c] ++ "\n"), index, here, false⟩
    | some false => ⟨c, some [], none, index, here, false⟩
    | some true =>
      match rest, args[index - 1]? with
      | [], none =>
        if quiet then ⟨':', some [c], none, index, here, false⟩
        else
          ⟨'?', none, some ("No arg for -" ++ String.ofList [c] ++ " option\n"), index, here, false⟩
      | [], some value => ⟨c, some value, none, index + 1, none, false⟩
      | value, _ => ⟨c, some value, none, index, none, false⟩

def getoptsCommand (args : List (List Char)) : Act Nat := do
  match ← operands args with
  | spec :: name :: given =>
    let st ← get
    let words := if given.isEmpty then st.args else given
    let (index, offset) :=
      if st.optionIndex > words.length + 1 then (1, none) else (st.optionIndex, st.optionOffset)
    let found := nextOption spec words.toArray index offset
    if let some s := found.complaint then
      let _ ← write 2 (charsOf s)
    if ¬ found.finished then setVariable "OPTARG" found.value false false
    match (← get).stored? "OPTIND" with
    | some v => putVariable "OPTIND" { v with value := some (numeral found.index) }
    | none => putVariable "OPTIND" ⟨some (numeral found.index), false, false, true⟩
    setVariable (pathOf name) (some [found.letter]) false false
    modify fun st => { st with optionIndex := found.index, optionOffset := found.offset }
    return if found.finished then 1 else 0
  | _ => failText "Usage: getopts optstring var [arg...]"

/-! ### Settings and arguments -/

def setArgs (args : List (List Char)) : Act Unit :=
  modify fun st => { st with args, optionIndex := 1, optionOffset := none }

/-- Changes one setting by its letter. -/
def changeSetting (c : Char) (on : Bool) : Act Unit := do
  match (← get).settings.setLetter? c on with
  | some s => modify fun st => { st with settings := s }
  | none => fail ("Illegal option -".toList ++ [c])

/-- What the letters of an argument do; `o` takes the next argument. -/
def settingLetters (on : Bool) (starting : Bool) (command : Bool) :
    List Char → List (List Char) → Act (Bool × List (List Char))
  | [], args => return (command, args)
  | 'o' :: letters, args => do
    let st ← get
    match args with
    | [] => print (if on then st.settings.table else st.settings.commands)
    | name :: _ =>
      match Setting.ofName? name with
      | some s => set { st with settings := st.settings.change s on }
      | none => fail ("Illegal option -o ".toList ++ name)
    settingLetters on starting command letters args.tail
  | c :: letters, args => do
    if starting ∧ c = 'c' then settingLetters on starting true letters args
    else if starting ∧ c = 'l' then settingLetters on starting command letters args
    else
      changeSetting c on
      settingLetters on starting command letters args

/-- Takes in settings: of a shell that is starting, or of one that runs. Also whether a command was
announced, whether arguments were reset, and the arguments left. -/
def takeSettings (starting : Bool) (command : Bool) :
    Nat → List (List Char) → Act (Bool × Bool × List (List Char))
  | 0, args => return (command, false, args)
  | fuel + 1, args =>
    match args with
    | ['-'] :: rest => do
      unless starting do
        modify fun st => { st with
          settings := (st.settings.change .xtrace false).change .verbose false }
      return (command, false, rest)
    | ['-', '-'] :: rest => return (command, true, rest)
    | ('-' :: letters) :: rest => do
      let (command, rest) ← settingLetters true starting command letters rest
      takeSettings starting command fuel rest
    | ('+' :: letters) :: rest => do
      let (command, rest) ← settingLetters false starting command letters rest
      takeSettings starting command fuel rest
    | args => return (command, false, args)

/-- There is no terminal, so jobs cannot be controlled. -/
def checkMonitor : Act Unit := do
  let st ← get
  if st.settings.has .monitor then
    complain "can't access tty; job control turned off".toList
    modify fun st => { st with settings := st.settings.change .monitor false }

def setCommand (args : List (List Char)) : Act Nat := do
  if args.isEmpty then
    let st ← get
    print (st.listing "" fun v => v.value.isSome)
    return 0
  let (_, reset, rest) ← takeSettings false false (args.length + 1) args
  checkMonitor
  if reset ∨ ¬ rest.isEmpty then setArgs rest
  return 0

def shiftCommand (args : List (List Char)) : Act Nat := do
  let n ← match args with
    | [] => pure 1
    | a :: _ => number a
  let st ← get
  if n > st.args.length then failText "can't shift that many"
  setArgs (st.args.drop n)
  return 0

/-! ### Leaving -/

/-- Leaves loops, or goes on with them, as many as the argument says. -/
def loopCommand (again : Bool) (args : List (List Char)) : Act Nat := do
  let n ← match args with
    | [] => pure 1
    | a :: _ => do
      let n ← number a
      if n = 0 then fail ("Illegal number: ".toList ++ a)
      pure n
  modify fun st =>
    let n := min n st.loops
    if n = 0 then st else { st with skip := some (if again then .again n else .leave n) }
  return 0

def returnCommand (args : List (List Char)) : Act Nat := do
  let status ← match args with
    | [] => pure (← get).status
    | a :: _ => number a
  modify fun st => { st with skip := some (.back (!args.isEmpty)) }
  return status

def exitCommand (args : List (List Char)) : Act Nat := do
  match args with
  | [] => throw .exit
  | a :: _ =>
    let n ← number a
    modify fun st => { st with statusBefore := some n }
    throw .exit

/-! ### Signals -/

/-- Takes in the signals that came for the process. -/
def collectSignals : Act Unit := do
  let st ← get
  if st.world.signals.isEmpty then return
  let (own, others) := st.world.signals.partition (·.1 == st.pid)
  set { st with world := { st.world with signals := others } }
  for (_, signal) in own do receive signal

/-- Sends a signal to a process; false if there is none of that number. Number 0 stands for all. -/
def sendSignal (pid signal : Nat) : Act Bool := do
  let st ← get
  if pid = 0 then
    let others := st.world.running.filter (· != st.pid)
    set { st with world := { st.world with
      tasks := if Signal.isHarmless signal then st.world.tasks else []
      signals := st.world.signals ++ others.map (·, signal) } }
    receive signal
    return true
  if pid = st.pid then
    receive signal
    return true
  if st.world.running.contains pid then
    set { st with world := { st.world with signals := st.world.signals ++ [(pid, signal)] } }
    return true
  match st.world.tasks.find? fun t => t.process.pid == pid with
  | some t =>
    unless Signal.isHarmless signal || t.process.deaf.contains signal do
      set { st with world := { st.world with
        tasks := st.world.tasks.filter (·.process.pid != pid)
        ended := (pid, .killed signal) :: st.world.ended } }
    return true
  | none => return st.jobs.any fun j => j.pid == pid && !j.waited

def trapCommand (args : List (List Char)) : Act Nat := do
  let args ← operands args
  match args with
  | [] =>
    let traps := (← get).traps.mergeSort fun a b => a.1 ≤ b.1
    for (n, script) in traps do
      print ("trap -- ".toList ++ singleQuoted script ++ ' ' :: (Signal.name n).toList ++ ['\n'])
    return 0
  | first :: rest =>
    let isNumber (s : List Char) : Bool := s.all Char.isDigit && (Signal.ofText? 65 s).isSome
    let (script, names) :=
      if rest.isEmpty ∨ isNumber first then (none, args)
      else if first = ['-'] then (none, rest)
      else (some first, rest)
    setAll script names
where
  setAll (script : Option (List Char)) : List (List Char) → Act Nat
    | [] => return 0
    | name :: names => do
      match Signal.ofText? 0 name with
      | none =>
        let _ ← write 2 ("trap: ".toList ++ name ++ ": bad trap\n".toList)
        return 1
      | some n =>
        modify fun st => { st with traps := match script with
          | some s => setKey n s st.traps
          | none => st.traps.filter (·.1 != n) }
        setAll script names

/-! ### Jobs -/

/-- The job that a word behind a percent sign names. -/
def jobOf (word : List Char) : Act Job := do
  let jobs := (← get).jobs
  let orFail (job : Option Job) (message : String) : Act Job :=
    match job with
    | some j => return j
    | none => failText message
  match word with
  | ['%'] | ['%', '%'] | ['%', '+'] => orFail jobs.head? "No current job"
  | ['%', '-'] => orFail jobs.tail.head? "No previous job"
  | _ =>
    let name := word.drop 1
    let found :=
      if ¬ name.isEmpty ∧ name.all Char.isDigit then
        jobs.find? fun j => numeral j.number == name.dropWhile (· = '0')
      else none
    match found with
    | some j => return j
    | none => fail ("No such job: ".toList ++ word)

/-- The end of a job, if it has come. -/
def State.ending? (st : State) (j : Job) : Option Ending :=
  st.world.ended.lookup j.pid

def jobState (e : Option Ending) : List Char :=
  match e with
  | none => "Running".toList
  | some (.exited 0) => "Done".toList
  | some (.exited n) => "Done(".toList ++ numeral (n % 256) ++ [')']
  | some (.killed n) => (Signal.text n).toList

/-- Shows a job, which is forgotten if it has ended. -/
def showJob (mode : Option Char) (j : Job) : Act Unit := do
  let st ← get
  if mode = some 'p' then print (numeral j.pid ++ ['\n'])
  else
    let mark := match st.jobs with
      | a :: rest =>
        if a.number = j.number then '+'
        else if (rest.head?.map (·.number)) = some j.number then '-' else ' '
      | [] => ' '
    let pid := if mode = some 'l' then numeral j.pid ++ [' '] else []
    let front := '[' :: numeral j.number ++ ']' :: ' ' :: mark :: ' ' :: pid ++
      jobState (st.ending? j)
    let more := (List.replicate j.more " | ".toList).flatten
    print (front ++ List.replicate (33 - front.length) ' ' ++ more ++ ['\n'])
    if (st.ending? j).isSome then
      modify fun st => { st with jobs := st.jobs.filter (·.number != j.number) }

def jobsCommand (args : List (List Char)) : Act Nat := do
  let (letters, names) ← flags "lp" args
  let mode := letters.getLast?
  if names.isEmpty then
    for j in (← get).jobs do showJob mode j
  else
    for name in names do showJob mode (← jobOf name)
  return 0

/-- Carries out `fg` or `bg`, which need jobs that are controlled. -/
def resumeCommand (args : List (List Char)) : Act Nat := do
  let args ← operands args
  let word := args.headD "%%".toList
  let j ← if word.head? = some '%' then jobOf word else fail ("No such job: ".toList ++ word)
  let name := if args.isEmpty then "(null)".toList else word
  let _ := j
  fail ("job ".toList ++ name ++ " not created under job control".toList)

/-- Makes room for a process: the number of its job. A job that was waited for gives way. -/
def freeJob : Nat → Nat → Act Nat
  | 0, n => return n
  | fuel + 1, n => do
    match (← get).jobs.find? fun j => j.number == n with
    | none => return n
    | some j =>
      if j.waited then
        modify fun st => { st with jobs := st.jobs.filter (·.number != n) }
        return n
      else freeJob fuel (n + 1)

def takeJob : Act Nat := do
  freeJob ((← get).jobs.length + 1) 1

def killUsage : String :=
  "Usage: kill [-s sigspec | -signum | -sigspec] [pid | job]... or\nkill -l [exitstatus]"

/-- The signals by name, or the one of a number or status. -/
def listSignals (args : List (List Char)) : Act Nat := do
  match args with
  | [] =>
    print "0\n".toList
    for n in List.range' 1 Signal.last do print (charsOf (Signal.name n) ++ ['\n'])
    return 0
  | a :: _ =>
    let n ← number a
    let n := if n > 128 then n - 128 else n
    if 0 < n ∧ n ≤ Signal.last then
      print (charsOf (Signal.name n) ++ ['\n'])
      return 0
    else fail ("invalid signal number or exit status: ".toList ++ a)

def killAll (signal : Nat) : List (List Char) → Act Nat
  | [] => return 0
  | target :: rest => do
    let sent ← match target with
      | '%' :: _ => do
        let _ ← jobOf target
        pure false
      | '-' :: s => do
        let _ ← number s
        pure false
      | s => do sendSignal (← number s) signal
    unless sent do complain "No such process\n".toList
    let status ← killAll signal rest
    return if sent then status else 1

def killCommand (args : List (List Char)) : Act Nat := do
  match args with
  | [] => failText killUsage
  | ('-' :: word) :: rest =>
    match Signal.ofText? 1 word with
    | some n => send (some n) rest
    | none =>
      let (os, rest) ← options [('l', false), ('s', true)] args
      let mut signal : Option Nat := none
      for (c, value) in os do
        if c = 's' then
          match Signal.ofText? 1 value with
          | some n => signal := some n
          | none => fail ("invalid signal number or name: ".toList ++ value)
      if os.any (·.1 == 'l') then
        if signal.isSome then failText killUsage
        listSignals rest
      else send signal rest
  | args => send none args
where
  send (signal : Option Nat) (targets : List (List Char)) : Act Nat := do
    if targets.isEmpty then failText killUsage
    killAll (signal.getD Signal.terminate) targets

/-! ### Directories -/

/-- The names of a path from a directory, `..` taken as going back by a name. -/
def joinedPath (here path : List Char) : List Char :=
  let double (s : List Char) : Bool := s.take 2 == ['/', '/'] && (s.drop 2).head? != some '/'
  let absolute := path.head? == some '/'
  let start := if absolute then [] else (here.splitOn '/').filter (!·.isEmpty)
  let names := ((path.splitOn '/').filter (!·.isEmpty)).foldl (fun ns n =>
    if n = ['.'] then ns else if n = ['.', '.'] then ns.dropLast else ns ++ [n]) start
  let front := if double (if absolute then path else here) then ['/', '/'] else ['/']
  front ++ ['/'].intercalate names

/-- Goes to a directory, by its path as written or as it is. -/
def enter (dest : List Char) (physical : Bool) : Act Bool := do
  let st ← get
  let path := if physical then dest else joinedPath st.hereName dest
  match st.tree.resolve (pathOf path), st.tree.node (pathOf path) with
  | .ok names, .ok (.directory _) =>
    let name :=
      if physical then '/' :: ['/'].intercalate (names.map charsOf) else path
    setVariable "OLDPWD" (some st.hereName) true false
    modify fun st => { st with here := names, hereName := name }
    setVariable "PWD" (some name) true false
    return true
  | _, _ => return false

/-- The last of the letters that choose how a path is read, if it is `P`. -/
def pathOption (args : List (List Char)) : Act (Bool × List (List Char)) := do
  let (letters, args) ← flags "LP" args
  return (letters.getLast? = some 'P', args)

def cdCommand (args : List (List Char)) : Act Nat := do
  let (physical, args) ← pathOption args
  let st ← get
  let (dest, shown) := match args with
    | [] => ((st.value? "HOME").getD [], false)
    | ['-'] :: _ => ((st.value? "OLDPWD").getD [], true)
    | d :: _ => (d, false)
  let first := (dest.splitOn '/').headD []
  let direct := dest.head? = some '/' ∨ first = ['.'] ∨ first = ['.', '.']
  let fronts := if direct then [] else ((st.value? "CDPATH").map (·.splitOn ':')).getD []
  let dest := if dest.isEmpty then ['.'] else dest
  let candidate := fronts.findSome? fun front =>
    let path := if front.isEmpty then dest else front ++ '/' :: dest
    match st.tree.node (pathOf path) with
    | .ok (.directory _) => some (path, !front.isEmpty)
    | _ => none
  let (path, found) := candidate.getD (dest, false)
  if ← enter path physical then
    if shown || found then print ((← get).hereName ++ ['\n'])
    return 0
  else fail ("can't cd to ".toList ++ (if args.isEmpty ∧ dest = ['.'] then [] else dest))

def pwdCommand (args : List (List Char)) : Act Nat := do
  let (physical, _) ← pathOption args
  let st ← get
  let path :=
    if physical then '/' :: ['/'].intercalate (st.here.map charsOf) else st.hereName
  print (path ++ ['\n'])
  return 0

/-! ### The system's limits -/

/-- Three octal digits as letters. -/
def modeLetters (mask : Nat) : List Char :=
  let part (who : Char) (shift : Nat) : List Char :=
    let n := (0o777 - mask % 0o1000) / (1 <<< shift) % 8
    who :: '=' :: (if n / 4 % 2 = 1 then ['r'] else []) ++ (if n / 2 % 2 = 1 then ['w'] else []) ++
      (if n % 2 = 1 then ['x'] else [])
  [','].intercalate [part 'u' 6, part 'g' 3, part 'o' 0] ++ ['\n']

/-- A change of a mode, such as `u=rw`: the mode it makes of one. -/
def modeChange? (mode : Nat) (s : List Char) : Option Nat :=
  let who := s.takeWhile fun c => ['u', 'g', 'o', 'a'].contains c
  match s.drop who.length with
  | op :: perms =>
    if ¬ ['=', '+', '-'].contains op ∨ ¬ perms.all (['r', 'w', 'x'].contains ·) then none
    else
      let one := (if perms.contains 'r' then 4 else 0) + (if perms.contains 'w' then 2 else 0) +
        (if perms.contains 'x' then 1 else 0)
      let parts := [('u', 6), ('g', 3), ('o', 0)].filter fun p =>
        who.isEmpty || who.contains 'a' || who.contains p.1
      some <| parts.foldl (fun mode p =>
        let old := mode / (1 <<< p.2) % 8
        let new := if op = '=' then one else if op = '+' then old ||| one else old - (old &&& one)
        mode - old * (1 <<< p.2) + new * (1 <<< p.2)) mode
  | [] => none

def umaskCommand (args : List (List Char)) : Act Nat := do
  let (letters, args) ← flags "S" args
  let mask := (← get).mask
  match args with
  | [] =>
    let ds := Nat.toDigits 8 mask
    print (if letters.isEmpty then List.replicate (4 - ds.length) '0' ++ ds ++ ['\n']
      else modeLetters mask)
  | a :: _ =>
    let mask ←
      if a.head?.any Char.isDigit then
        if a.all fun c => '0' ≤ c ∧ c ≤ '7' then
          pure (a.foldl (fun n c => n * 8 + (c.toNat - 0x30)) 0 % 0o1000)
        else fail ("Illegal number: ".toList ++ a)
      else
        match (a.splitOn ',').foldlM modeChange? (0o777 - mask) with
        | some mode => pure (0o777 - mode)
        | none => fail ("Illegal mode: ".toList ++ a)
    modify fun st => { st with mask }
  return 0

/-- Limits by letter, with the name and the value of each. -/
def limits : List (Char × String × String) :=
  [('t', "time(seconds)", "unlimited"), ('f', "file(blocks)", "unlimited"),
    ('d', "data(kbytes)", "unlimited"), ('s', "stack(kbytes)", "8192"),
    ('c', "coredump(blocks)", "0"), ('m', "memory(kbytes)", "unlimited"),
    ('l', "locked memory(kbytes)", "8192"), ('p', "process", "unlimited"),
    ('n', "nofiles", "1048576"), ('v', "vmemory(kbytes)", "unlimited"),
    ('w', "locks", "unlimited"), ('r', "rtprio", "0")]

def ulimitCommand (args : List (List Char)) : Act Nat := do
  let (letters, args) ← flags "HSatfdscmlpnvwr" args
  let chosen := (letters.filter fun c => c != 'H' && c != 'S').getLast?
  match args with
  | [] =>
    if chosen = some 'a' then
      for (_, name, value) in limits do
        print ((name ++ String.ofList (List.replicate (20 - name.length) ' ') ++ " " ++
          value ++ "\n").toList)
    else
      let value := ((limits.lookup (chosen.getD 'f')).map (·.2)).getD ""
      print (value ++ "\n").toList
    return 0
  | [_] => return 0
  | _ => failText "too many arguments"

def timesCommand : Act Nat := do
  let line := "0m0.000000s 0m0.000000s\n"
  print (line ++ line).toList
  return 0

end DockLint.Shell
