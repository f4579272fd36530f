import DockLint.Shell.Builtin.Dispatch
import DockLint.Shell.Concatenate
import DockLint.Shell.Descriptor
import DockLint.Shell.Expansion
import DockLint.Shell.Program

/-!
# Running shell scripts

`eval` carries out a command in the current process and yields its status. Every call of one
function of the mutual block by another uses up fuel; a process that runs out of it is killed.

A command of the background is not carried out at once, but when the script waits for it, before the
next process that the script waits for, or at the script's end.
-/

namespace DockLint.Shell.Run

/-! ### Scripts -/

/-- The lines of a text that were read, given what is left of it. -/
def linesRead (before rest : List Char) : List Char :=
  let n := before.length - rest.length
  let front := before.take n
  if front.getLast? = some '\n' ∨ front.isEmpty then front
  else
    let rest := before.drop n
    front ++ rest.takeWhile (· ≠ '\n') ++ (rest.dropWhile (· ≠ '\n')).take 1

/-- Reads the commands of the next line: none at the end of the text. The settings may have the
lines of a file shown. -/
def nextCommand (isFile : Bool) (src : Source) : Act (Option (Option Command) × Source) := do
  let st ← get
  let echo (rest : List Char) : Act Unit := do
    if isFile ∧ st.settings.has .verbose then
      let _ ← write 2 (linesRead src.rest rest)
  match readLine { src with aliases := st.aliases, fresh := st.freshDocument } with
  | .ok c after =>
    echo after.rest
    modify fun st => { st with
      readLine := after.line
      documents := after.documents ++ st.documents, freshDocument := after.fresh }
    return (c, { after with documents := [] })
  | .error f after =>
    echo after.rest
    modify fun st => { st with line := f.line }
    fail ("Syntax error: ".toList ++ f.cause.message.toList)

/-- Whether the text was read up to its end. -/
def ended (src : Source) : Bool :=
  src.pushedBack && src.token == .endOfFile

/-! ### Loops -/

/-- How a pass through a loop ended. -/
inductive Pass where
  | next
  | again
  | leave
  /-- The function that the loop is in comes to its end. -/
  | back
  deriving DecidableEq, Repr

/-- Takes note of a pass through a loop. -/
def endPass : Act Pass := do
  let st ← get
  match st.skip with
  | none => return .next
  | some (.back _) => return .back
  | some (.leave n) =>
    set { st with skip := if n ≤ 1 then none else some (.leave (n - 1)) }
    return .leave
  | some (.again n) =>
    set { st with skip := if n ≤ 1 then none else some (.again (n - 1)) }
    return if n ≤ 1 then .again else .leave

/-- Carries out a loop. -/
def looping (body : Act Nat) : Act Nat := do
  modify fun st => { st with loops := st.loops + 1 }
  let n ← body
  modify fun st => { st with loops := st.loops - 1 }
  return n

/-! ### Simple commands -/

/-- The words of a simple command as far as they have been expanded. -/
structure Words where
  fields : List (List Char)
  rest : List Word

/-- What a command's name stands for. -/
inductive Meaning where
  | nothing
  | function (body : Command)
  | builtin
  | program

/-- A command, which may stand behind others that only say how it is to be run. -/
structure Chosen where
  words : Words
  /-- The number of the field that names it. -/
  index : Nat
  meaning : Meaning
  /-- The first builtin on the way to it is one whose faults end the shell. -/
  special : Bool
  /-- Its program is looked for where the system's commands are. -/
  standard : Bool

def Chosen.name (c : Chosen) : List Char :=
  (c.words.fields[c.index]?).getD []

def Chosen.args (c : Chosen) : List (List Char) :=
  c.words.fields.drop (c.index + 1)

/-- Puts back what frames have kept, as long as there are more of them than there were. -/
def dropFrames (depth : Nat) : Nat → Act Unit
  | 0 => return
  | fuel + 1 => do
    if (← get).frames.length > depth then
      dropFrame
      dropFrames depth fuel

/-- A script's number of functions that may run inside each other. -/
def maxDepth : Nat := 1000

/-- Fuel for reading the text in front of traced commands. -/
def promptFuel (s : List Char) : Nat :=
  8 * s.length + 64

/-- Where a text to be run as a file is found. -/
def dotFile (name : List Char) : Act (List Char) := do
  if name.contains '/' then return name
  let st ← get
  let paths := st.searchPath.map fun d => if d.isEmpty then pathOf name else d ++ "/" ++ pathOf name
  match paths.find? fun p => st.tree.isFile p with
  | some p => return charsOf p
  | none => fail (name ++ ": not found".toList)

/-- Complains about a word that names no descriptor, as about a text that cannot be read. -/
def badDescriptor {α : Type} : Act α := do
  modify fun st => { st with line := st.readLine }
  failText ("Syntax error: " ++ Misreading.badDescriptor.message)

/-- Carries out what is read from a text of its own. -/
def readingApart {α : Type} (body : Act α) : Act α := do
  let readLine := (← get).readLine
  ensuring body fun st => { st with readLine }

/-- All of a text that is to be run, opened by its name. -/
def scriptText (path : List Char) : Act (List Char) := do
  let id ← openFile .read path
  match (← get).world.streams[id]? with
  | some (.file names offset _) =>
    return toChars ((contentAt (← get).world.root names).drop offset)
  | some (.source rest cut) =>
    setStream id (.source [] cut)
    return rest
  | _ => return []

mutual

/-- Expands the parts of a word; `acc` holds what came before them, the latest first. -/
def parts (u : Usage) (acc : List Chunk) : Nat → List Part → Act (List Chunk)
  | 0, _ => die Signal.kill
  | _, [] => return acc.reverse
  | fuel + 1, p :: rest => do
    match p with
    | .char _ quoted =>
      let alike (q : Part) : Option Char :=
        match q with
        | .char c x => if x = quoted then some c else none
        | _ => none
      let cs := ((p :: rest).takeWhile fun q => (alike q).isSome).filterMap alike
      let region := if u.inner && !u.quoted && !quoted then Region.split else .whole
      parts u (plainChunk region (quoted || u.quoted) cs :: acc) fuel ((p :: rest).drop cs.length)
    | .mark => parts u (⟨.whole, [.mark]⟩ :: acc) fuel rest
    | .parameter name edit word quoted =>
      let cs ← parameter u name edit word (quoted || u.quoted) fuel
      parts u (cs.reverse ++ acc) fuel (if edit = .bareColon then word else rest)
    | .output body quoted =>
      let s ← outputOf body fuel
      parts u (taken quoted s :: acc) fuel rest
    | .arithmetic e quoted =>
      let s ← calculate (joinedChars (← parts .text [] fuel e))
      parts u (taken quoted s :: acc) fuel rest
termination_by structural n => n
where
  taken (quoted : Bool) (s : List Char) : Chunk :=
    let quoted := quoted || u.quoted
    plainChunk (if quoted then .whole else .split) quoted s

/-- Expands a parameter. -/
def parameter (u : Usage) (name : String) (edit : Edit) (word : Word) (quoted : Bool) :
    Nat → Act (List Chunk)
  | 0 => die Signal.kill
  | fuel + 1 => do
    let st ← get
    let value := st.text? u quoted name
    let joined := st.text? .text quoted name
    let put (s : List Char) : List Chunk := [plainChunk (st.regionOf quoted name) quoted s]
    let inner : Usage := { u with inner := true, quoted }
    match edit with
    | .unreadable => failText "Bad substitution"
    | .plain =>
      demanded name value
      return (value.map put).getD []
    | .bareColon =>
      let value := if given true value then value else none
      demanded name value
      return (value.map put).getD []
    | .length =>
      demanded name joined
      return put (numeral (joined.getD []).length)
    | .fallback empty =>
      if given empty value then return put (value.getD [])
      else parts inner [] fuel (st.withHomes inner true word)
    | .replace empty =>
      if given empty joined then parts inner [] fuel (st.withHomes inner true word)
      else return put []
    | .assign empty =>
      if given empty value then return put (value.getD [])
      else
        let s := joinedChars (← parts .text [] fuel (st.withHomes .text true word))
        assignVariable name s
        return put (((← get).text? u quoted name).getD [])
    | .demand empty =>
      if given empty value then return put (value.getD [])
      else
        let s := joinedChars (← parts .text [] fuel (st.withHomes .text true word))
        if ¬ word.isEmpty then fail ((name ++ ": ").toList ++ s)
        else if empty then fail ((name ++ ": parameter not set or null").toList)
        else missing name
    | .cutFront longest =>
      match value with
      | none =>
        demanded name value
        return []
      | some s =>
        let cs ← parts .text [] fuel (st.withHomes .text true word)
        return put (trimFront longest (patternOf (DockLint.Shell.joined cs)) s)
    | .cutBack longest =>
      match value with
      | none =>
        demanded name value
        return []
      | some s =>
        let cs ← parts .text [] fuel (st.withHomes .text true word)
        return put (trimBack longest (patternOf (DockLint.Shell.joined cs)) s)
termination_by structural n => n

/-- What a script prints, without the line ends behind it. -/
def outputOf (body : Option Command) : Nat → Act (List Char)
  | 0 => die Signal.kill
  | fuel + 1 => do
    match body with
    | none => return []
    | some c =>
      let _ ← takeJob
      let id ← newStream (.sink [] none)
      let child := (← fork).withChannel 1 id
      let e ← process child (do let _ ← eval true false (some c) fuel) fuel
      collectSignals
      modify fun st => { st with outputStatus := e.status }
      tell e
      let s := match (← get).world.streams[id]? with
        | some (.sink pieces _) => pieces.reverse.flatten
        | _ => []
      setStream id (.device false)
      return ((s.filter (· ≠ '\x00')).reverse.dropWhile (· = '\n')).reverse
termination_by structural n => n

/-- The text of a word, as one field. -/
def textOf (u : Usage) (w : Word) : Nat → Act (List Char)
  | 0 => die Signal.kill
  | fuel + 1 => do
    let st ← get
    return joinedChars (← parts u [] fuel (st.withHomes u (!u.assignment) w))
termination_by structural n => n

/-- The fields of a word. -/
def fieldsIn (w : Word) : Nat → Act (List (List Char))
  | 0 => die Signal.kill
  | fuel + 1 => do
    let st ← get
    let cs ← parts .fields [] fuel (st.withHomes .fields true w)
    return (← get).fieldsOf cs
termination_by structural n => n

/-- The fields of words. -/
def allFields (acc : List (List (List Char))) : Nat → List Word → Act (List (List Char))
  | 0, _ => die Signal.kill
  | _, [] => return acc.reverse.flatten
  | fuel + 1, w :: ws => do
    let fs ← fieldsIn w fuel
    allFields (fs :: acc) fuel ws
termination_by structural n => n

/-- Expands the words of redirections. -/
def expandTargets (acc : List Redirection) : Nat → List Redirection → Act (List Redirection)
  | 0, _ => die Signal.kill
  | _, [] => return acc.reverse
  | fuel + 1, r :: rs => do
    match r with
    | .file d mode w =>
      let s ← textOf .text w fuel
      expandTargets (.file d mode (s.map (.char · true)) :: acc) fuel rs
    | .duplicate d (.word w) =>
      let s ← textOf .text w fuel
      match s with
      | ['-'] => expandTargets (.duplicate d .closed :: acc) fuel rs
      | [c] =>
        if c.isDigit then
          expandTargets (.duplicate d (.descriptor (c.toNat - 0x30)) :: acc) fuel rs
        else badDescriptor
      | _ => badDescriptor
    | r => expandTargets (r :: acc) fuel rs
termination_by structural n => n

/-- Carries out redirections whose words have been expanded. -/
def redirect : Nat → List Redirection → Act Unit
  | 0, _ => die Signal.kill
  | _, [] => return
  | fuel + 1, r :: rs => do
    match r with
    | .file d mode w => setChannel d (some (← openFile mode (Word.chars w)))
    | .duplicate d (.descriptor n) => duplicate d n
    | .duplicate d _ => setChannel d none
    | .document d number =>
      let text := ((← get).documents.lookup number).getD []
      let s := joinedChars (← parts .document [] fuel text)
      setChannel d (some (← newStream (.source s false)))
    redirect fuel rs
termination_by structural n => n

/-- Carries out redirections; false if one of them is not possible. -/
def redirected (rs : List Redirection) : Nat → Act Bool
  | 0 => die Signal.kill
  | fuel + 1 => do
    match ← attempt (redirect fuel rs) with
    | none => return true
    | some .fault => return false
    | some stop => throw stop
termination_by structural n => n

/-- Carries out the life of a shell: how it ended. -/
def lifetime (body : Act Unit) : Nat → Act Ending
  | 0 => die Signal.kill
  | fuel + 1 => do
    match ← attempt body with
    | some (.over e) => return e
    | stop =>
      settle stop
      let st ← get
      let before := st.status
      match st.traps.lookup 0 with
      | none => return .exited before
      | some script =>
        set { st with traps := st.traps.filter (·.1 != 0), statusBefore := some before }
        let trap : Act Unit := do
          let _ ← evalText false false (.ofText script [] 0) 0 fuel
          setStatus before
        match ← attempt trap with
        | some (.over e) => return e
        | stop =>
          settle stop
          return .exited (← get).status
termination_by structural n => n

/-- Carries out a process to its end, and what it has left in the background. -/
def process (child : Process) (body : Act Unit) : Nat → Act Ending
  | 0 => die Signal.kill
  | fuel + 1 => do
    let e ← within child do
      let e ← lifetime body fuel
      runTasks fuel
      return e
    receive Signal.child
    return e
termination_by structural n => n

/-- Carries out what the script has in the background. -/
def runTasks : Nat → Act Unit
  | 0 => die Signal.kill
  | fuel + 1 => do
    if ← runTask fuel then runTasks fuel
termination_by structural n => n

/-- Carries out the next process of the background; false if there is none. -/
def runTask : Nat → Act Bool
  | 0 => die Signal.kill
  | fuel + 1 => do
    let st ← get
    match st.world.tasks.find? fun t => t.process.parent == st.pid with
    | none => return false
    | some t =>
      let pid := t.process.pid
      let others := st.world.tasks.filter fun o => o.process.pid != pid
      set { st with world := { st.world with tasks := others } }
      let body : Act Unit := do
        redirect fuel t.redirections
        let _ ← eval true false (some t.body) fuel
      let e ← process t.process body fuel
      modify fun st => { st with world := { st.world with ended := (pid, e) :: st.world.ended } }
      collectSignals
      return true
termination_by structural n => n

/-- Waits for processes of the background by number; all of them by none. The status of the last. -/
def wait (status : Nat) : Nat → List (List Char) → Act Nat
  | 0, _ => die Signal.kill
  | _, [] => return status
  | fuel + 1, target :: rest => do
    let job ← match target with
      | '%' :: _ => do pure (some (← jobOf target))
      | s => do
        let pid ← number s
        pure ((← get).jobs.find? (·.pid == pid))
    match job with
    | none => wait status fuel rest
    | some j =>
      if let some n ← waitFor (some j) fuel then return n
      let st ← get
      let waited (k : Job) : Job := if k.number = j.number then { k with waited := true } else k
      set { st with jobs := st.jobs.map waited }
      wait ((st.ending? j).getD (.exited 0)).status fuel rest
termination_by structural n => n

/-- Waits for a process of the background, or for all of them: the status if a signal comes before
its end. -/
def waitFor (job : Option Job) : Nat → Act (Option Nat)
  | 0 => die Signal.kill
  | fuel + 1 => do
    collectSignals
    let st ← get
    if let some n := (st.arrived.filter (· != Signal.child)).getLast? then return some (128 + n)
    let ended := job.bind st.ending?
    if ended.isSome then
      if let some e := ended then
        unless job.any (·.waited) do tell e
      return none
    if ← runTask fuel then waitFor job fuel
    else return none
termination_by structural n => n

/-- Gives the process over to a program: how that ends. -/
def image (p : Machine.Program) : Nat → Act Ending
  | 0 => die Signal.kill
  | fuel + 1 => do
    let name := charsOf p.name
    let args := p.args.map charsOf
    modify (freshShell name)
    match p.tool with
    | .shell => lifetime (shell args fuel) fuel
    | .concatenate =>
      let copy : Act Unit := do setStatus (← concatenate name args)
      match ← attempt copy with
      | some (.over e) => return e
      | _ => return .exited (← get).status
termination_by structural n => n

/-- Gives the process over to the program of a name, which is looked for on a path. It does not come
back. -/
def execute (path : List String) (name : List Char) (args : List (List Char)) : Nat → Act Unit
  | 0 => die Signal.kill
  | fuel + 1 => do
    match findProgram (← get).tree path name args with
    | .ok p => throw (.over (← image p fuel))
    | .error f =>
      let (status, reason) := programFault f
      complain (name ++ charsOf (": " ++ reason))
      setStatus status
      throw .done
termination_by structural n => n

/-- Runs a program as a process of its own, or in place of this one if that `exits`. -/
def external (exits : Bool) (path : List String) (name : List Char) (args : List (List Char)) :
    Nat → Act Nat
  | 0 => die Signal.kill
  | fuel + 1 => do
    if exits && !(← get).hasTraps then
      execute path name args fuel
      return 0
    else
      runTasks fuel
      let _ ← takeJob
      let child ← fork
      let e ← process child (execute path name args fuel) fuel
      collectSignals
      tell e
      return e.status
termination_by structural n => n

/-- What a shell does with its arguments. -/
def shell (args : List (List Char)) : Nat → Act Unit
  | 0 => die Signal.kill
  | fuel + 1 => do
    let (command, _, rest) ← takeSettings true false (args.length + 1) args
    flush
    let st ← get
    match command, rest with
    | true, [] => failText "-c requires an argument"
    | true, script :: rest =>
      set { st with name := rest.headD st.name, args := rest.tail }
      checkMonitor
      let stdin := st.settings.has .stdin
      let _ ← evalText (!stdin) false (.ofText script [] 0) 0 fuel
      if stdin then standardInput fuel
    | false, [] =>
      set { st with settings := st.settings.change .stdin true }
      checkMonitor
      standardInput fuel
    | false, path :: rest =>
      if st.settings.has .stdin then
        set { st with args := path :: rest }
        checkMonitor
        standardInput fuel
      else
        let text ← scriptText path
        modify fun st => { st with name := path, args := rest }
        checkMonitor
        let _ ← script true (.ofText text [] 0) 0 0 fuel
termination_by structural n => n

/-- Runs what is there to be read. -/
def standardInput : Nat → Act Unit
  | 0 => die Signal.kill
  | fuel + 1 => do
    match ← readAll 0 with
    | .text s => let _ ← script true (.ofText s [] 0) 0 0 fuel
    | .closed | .directory => return
termination_by structural n => n

/-- Runs a file line by line, the status so far being given. At the end of the script itself, the
settings may have it look for more a number of times. -/
def script (top : Bool) (src : Source) (status : Nat) (ends : Nat) : Nat → Act Nat
  | 0 => die Signal.kill
  | fuel + 1 => do
    let (c, src) ← nextCommand true src
    match c with
    | none =>
      if top ∧ ends < maxEnds ∧ (← get).settings.has .ignoreeof then
        let _ ← write 2 "\nUse \x22exit\x22 to leave shell.\n".toList
        script top src status (ends + 1) fuel
      else return status
    | some c =>
      let n ← eval false false c fuel
      let status := if c.isSome then n else status
      let st ← get
      match st.skip with
      | none => script top src status 0 fuel
      | some (.back _) =>
        set { st with skip := none }
        return status
      | some _ => return status
termination_by structural n => n
where
  maxEnds : Nat := 50

/-- Runs a text line by line, the status so far being given. -/
def evalText (exits tested : Bool) (src : Source) (status : Nat) : Nat → Act Nat
  | 0 => die Signal.kill
  | fuel + 1 => do
    let (c, src) ← nextCommand false src
    match c with
    | none => return status
    | some c =>
      let n ← eval (exits && ended src) tested c fuel
      let status := if c.isSome then n else status
      if (← get).skip.isSome then return status
      evalText exits tested src status fuel
termination_by structural n => n

/-- Carries out what is to be done for signals that came. -/
def runTraps : Nat → Act Unit
  | 0 => die Signal.kill
  | fuel + 1 => do
    collectSignals
    let st ← get
    unless st.arrived.isEmpty do
      let status := st.statusBefore.getD st.status
      set { st with statusBefore := some status }
      runArrived status fuel
      modify fun after => { after with statusBefore := st.statusBefore }
termination_by structural n => n

def runArrived (status : Nat) : Nat → Act Unit
  | 0 => die Signal.kill
  | fuel + 1 => do
    let st ← get
    match st.arrived.min?, st.skip with
    | some signal, none =>
      set { st with arrived := st.arrived.filter (· != signal) }
      if let some text := st.traps.lookup signal then
        let _ ← readingApart (evalText false false (.ofText text [] 0) 0 fuel)
        unless (← get).skip = some (.back true) do setStatus status
      runArrived status fuel
    | _, _ => return
termination_by structural n => n

/-- Carries out a command. The process ends with it if it `exits`; where its status is `tested`, a
failure does not end the shell. -/
def eval (exits tested : Bool) (c : Option Command) : Nat → Act Nat
  | 0 => die Signal.kill
  | fuel + 1 => do
    let checked ← match c, (← get).settings.has .noexec with
      | some c, false => do
        runTraps fuel
        evalCommand exits tested c fuel
      | _, _ => pure false
    runTraps fuel
    let st ← get
    if exits ∨ (checked ∧ ¬ tested ∧ st.status ≠ 0 ∧ st.settings.has .errexit) then throw .done
    return st.status
termination_by structural n => n

/-- The same for a command of some kind: whether its failure may end the shell. -/
def evalCommand (exits tested : Bool) (c : Command) : Nat → Act Bool
  | 0 => die Signal.kill
  | fuel + 1 => do
    match c with
    | .simple line assignments words rs =>
      setStatus (← simple exits tested line assignments words rs fuel)
      return true
    | .pipe cs =>
      runTasks fuel
      let _ ← takeJob
      setStatus (← pipeline tested cs (1 <<< 16) fuel)
      return true
    | .redirected line body rs =>
      modify fun st => { st with line }
      let rs ← expandTargets [] fuel rs
      let before := (← get).channels
      let run : Act Bool := do
        if ← redirected rs fuel then
          setStatus (← eval false tested (some body) fuel)
          return false
        else
          setStatus faultStatus
          return true
      ensuring run fun st => st.withChannels before (rs.map (·.descriptor))
    | .subshell line body rs =>
      modify fun st => { st with line }
      let rs ← expandTargets [] fuel rs
      let run : Act Unit := do
        redirect fuel rs
        let _ ← eval true tested (some body) fuel
      if exits && !(← get).hasTraps then run
      else
        runTasks fuel
        let _ ← takeJob
        let e ← process (← fork) run fuel
        collectSignals
        tell e
        setStatus e.status
      return true
    | .background line body rs =>
      modify fun st => { st with line }
      let rs ← expandTargets [] fuel rs
      let number ← takeJob
      let child ← forkBehind
      let more := match body with
        | .pipe cs => cs.length - 1
        | _ => 0
      modify fun st => { st with
        jobs := ⟨number, child.pid, more, false⟩ :: st.jobs
        background := some child.pid
        status := 0
        world := { st.world with tasks := st.world.tasks ++ [⟨child, rs, body⟩] } }
      return true
    | .both a b =>
      let n ← eval false true (some a) fuel
      if n = 0 ∧ (← get).skip.isNone then setStatus (← eval exits tested (some b) fuel)
      return false
    | .either a b =>
      let n ← eval false true (some a) fuel
      if n ≠ 0 ∧ (← get).skip.isNone then setStatus (← eval exits tested (some b) fuel)
      return false
    | .sequence a b =>
      let _ ← eval false tested (some a) fuel
      if (← get).skip.isNone then setStatus (← eval exits tested (some b) fuel)
      return false
    | .negated a =>
      let n ← eval false true (some a) fuel
      if (← get).skip.isNone then setStatus (if n = 0 then 1 else 0)
      return false
    | .cond test body other =>
      let n ← eval false true (some test) fuel
      if (← get).skip.isNone then
        if n = 0 then setStatus (← eval exits tested (some body) fuel)
        else
          match other with
          | some c => setStatus (← eval exits tested (some c) fuel)
          | none => setStatus 0
      return false
    | .loop untilTrue test body =>
      setStatus (← looping (passes untilTrue test body tested 0 fuel))
      return false
    | .each line name words body =>
      modify fun st => { st with line }
      let values ← allFields [] fuel words
      setStatus (← looping (eachValue name body tested 0 fuel values))
      return false
    | .choose line word clauses =>
      modify fun st => { st with line }
      let s ← textOf .text word fuel
      setStatus (← choice exits tested s fuel clauses)
      return false
    | .function line name body =>
      modify fun st => { st with line, functions := setKey name body st.functions }
      setStatus 0
      return false
termination_by structural n => n

/-- Goes through a loop until its test ends it, the status so far being given. -/
def passes (untilTrue : Bool) (test body : Command) (tested : Bool) (status : Nat) : Nat → Act Nat
  | 0 => die Signal.kill
  | fuel + 1 => do
    let n ← eval false true (some test) fuel
    match ← endPass with
    | .back => return n
    | .leave => return status
    | .again => passes untilTrue test body tested status fuel
    | .next =>
      if (n == 0) == untilTrue then return status
      let status ← eval false tested (some body) fuel
      match ← endPass with
      | .back | .leave => return status
      | .again | .next => passes untilTrue test body tested status fuel
termination_by structural n => n

/-- Goes through a loop over values, the status so far being given. -/
def eachValue (name : String) (body : Command) (tested : Bool) (status : Nat) :
    Nat → List (List Char) → Act Nat
  | 0, _ => die Signal.kill
  | _, [] => return status
  | fuel + 1, v :: vs => do
    assignVariable name v
    let status ← eval false tested (some body) fuel
    match ← endPass with
    | .back | .leave => return status
    | .again | .next => eachValue name body tested status fuel vs
termination_by structural n => n

/-- Carries out the first clause with a pattern that matches. -/
def choice (exits tested : Bool) (s : List Char) : Nat → List Clause → Act Nat
  | 0, _ => die Signal.kill
  | _, [] => return 0
  | fuel + 1, .mk patterns body :: rest => do
    if (← get).skip.isSome then return 0
    if ← anyPattern s fuel patterns then
      if (← get).skip.isSome then return 0
      match body with
      | some c => eval exits tested (some c) fuel
      | none => return 0
    else choice exits tested s fuel rest
termination_by structural n => n

def anyPattern (s : List Char) : Nat → List Word → Act Bool
  | 0, _ => die Signal.kill
  | _, [] => return false
  | fuel + 1, p :: ps => do
    let st ← get
    let cs ← parts .text [] fuel (st.withHomes .text true p)
    if glob (patternOf (joined cs)) s then return true
    anyPattern s fuel ps
termination_by structural n => n

/-- Runs the commands of a pipeline one after another; each may print so much before the next one
reads it. One that had more to print, which was wanted, calls for more room. -/
def pipeline (tested : Bool) (cs : List Command) (room : Nat) : Nat → Act Nat
  | 0 => die Signal.kill
  | fuel + 1 => do
    let st ← get
    let first := st.world.streams.size
    let e ← stages tested room none fuel cs
    if (← get).world.dry.any (first ≤ ·) then
      set st
      pipeline tested cs (16 * room) fuel
    else return e.status
termination_by structural n => n

def stages (tested : Bool) (room : Nat) (input : Option Nat) : Nat → List Command → Act Ending
  | 0, _ => die Signal.kill
  | _, [] => return .exited 0
  | fuel + 1, c :: rest => do
    let child ← fork
    let child := match input with
      | some id => child.withChannel 0 id
      | none => child
    let run : Act Unit := do let _ ← eval true tested (some c) fuel
    match rest with
    | [] =>
      let e ← process child run fuel
      tell e
      return e
    | rest =>
      let id ← newStream (.sink [] (some room))
      tell (← process (child.withChannel 1 id) run fuel)
      if let some (.sink pieces left) := (← get).world.streams[id]? then
        setStream id (.source pieces.reverse.flatten (left == some 0))
      stages tested room (some id) fuel rest
termination_by structural n => n

/-- Expands words until there is a field of some number, if there are so many. -/
def reach (i : Nat) : Nat → Words → Act Words
  | 0, _ => die Signal.kill
  | fuel + 1, ws => do
    match ws.rest with
    | [] => return ws
    | w :: rest =>
      if i < ws.fields.length then return ws
      let fs ← fieldsIn w fuel
      reach i fuel ⟨ws.fields ++ fs, rest⟩
termination_by structural n => n

/-- What stands behind the options of `command`, which is number `i`: the number of the command, if
there is one to be run, and whether it is looked for where the system's commands are. -/
def behindCommand (standard : Bool) (i : Nat) : Nat → Words → Act (Words × Option (Nat × Bool))
  | 0, _ => die Signal.kill
  | fuel + 1, ws => do
    let ws ← reach (i + 1) fuel ws
    match ws.fields[i + 1]? with
    | none => return (ws, none)
    | some ['-', '-'] =>
      let ws ← reach (i + 2) fuel ws
      return (ws, if i + 2 < ws.fields.length then some (i + 2, standard) else none)
    | some ('-' :: c :: cs) =>
      if (c :: cs).all (· = 'p') then behindCommand true (i + 1) fuel ws else return (ws, none)
    | some _ => return (ws, some (i + 1, standard))
termination_by structural n => n

/-- Finds out which command is to be run: field number `i`, or one behind it. -/
def choose (ws : Words) (i : Nat) (special : Option Bool) (standard : Bool) : Nat → Act Chosen
  | 0 => die Signal.kill
  | fuel + 1 => do
    let st ← get
    let name := (ws.fields[i]?).getD []
    let is (m : Meaning) (special : Bool) : Chosen := ⟨ws, i, m, special, standard⟩
    let function := if special.isNone then st.functions.lookup (pathOf name) else none
    if name.contains '/' then return is .program (special.getD false)
    match function with
    | some body => return is (.function body) false
    | none =>
      if ¬ isBuiltin name then return is .program (special.getD false)
      let special := special.getD (isSpecial name)
      if name ≠ "command".toList then return is .builtin special
      match ← behindCommand standard i fuel ws with
      | (ws, none) => return { is .builtin special with words := ws }
      | (ws, some (j, standard)) => choose ws j (some special) standard fuel
termination_by structural n => n

/-- Expands the words of a simple command that are left. -/
def expandRest (assignments : Bool) : Nat → Words → Act (List (List Char))
  | 0, _ => die Signal.kill
  | fuel + 1, ws => do
    match ws.rest with
    | [] => return ws.fields
    | w :: rest =>
      let fs ←
        if assignments && (assigned? w).isSome then do pure [← textOf .value w fuel]
        else fieldsIn w fuel
      expandRest assignments fuel ⟨ws.fields ++ fs, rest⟩
termination_by structural n => n

/-- Makes the assignments of a simple command: the text of each. -/
def assignAll (own exported : Bool) (acc : List (List Char)) :
    Nat → List Word → Act (List (List Char))
  | 0, _ => die Signal.kill
  | _, [] => return acc.reverse
  | fuel + 1, w :: ws => do
    let s ← textOf .value w fuel
    if own then makeLocal s true
    else
      let (name, value) := splitAssignment s
      setVariable name (some (value.getD [])) exported false
    assignAll own exported (s :: acc) fuel ws
termination_by structural n => n

/-- The text in front of a traced command. -/
def tracePrompt : Nat → Act (List Char)
  | 0 => die Signal.kill
  | fuel + 1 => do
    let prompt := ((← get).value? "PS4").getD []
    let doc : PendingDocument := ⟨0, ['\n'], false, false⟩
    modify fun st => { st with tracing := true }
    let s ← match documentText doc (promptFuel prompt) (.ofText prompt [] 0) with
      | .ok w _ => do pure (joinedChars (← parts .document [] fuel w))
      | .error f _ => failText ("Syntax error: " ++ f.cause.message)
    modify fun st => { st with tracing := false }
    return s
termination_by structural n => n

def simple (exits tested : Bool) (line : Nat) (assignments words : List Word)
    (rs : List Redirection) : Nat → Act Nat
  | 0 => die Signal.kill
  | fuel + 1 => do
    modify fun st => { st with line, outputStatus := 0 }
    let ws ← reach 0 fuel ⟨[], words⟩
    let chosen ←
      if ws.fields.isEmpty then pure ⟨ws, 0, .nothing, false, false⟩
      else choose ws 0 none false fuel
    let isBuiltin := match chosen.meaning with
      | .builtin => true
      | _ => false
    let fields ← expandRest (isBuiltin && takesAssignments chosen.name) fuel chosen.words
    let chosen := { chosen with words := ⟨fields, []⟩ }
    let replaces := isBuiltin && chosen.name == "exec".toList
    let own := !fields.isEmpty && !chosen.special
    let depth := (← get).frames.length
    if own then modify fun st => { st with frames := [] :: st.frames }
    let rs ← expandTargets [] fuel rs
    let before := (← get).channels
    let restore (st : State) : State := st.withChannels before (rs.map (·.descriptor))
    let run : Act Nat := do
      if ← redirected rs fuel then
        let exported := replaces && !chosen.args.isEmpty
        let texts ← assignAll own exported [] fuel assignments
        let st ← get
        if st.settings.has .xtrace ∧ ¬ st.tracing then
          let front ← tracePrompt fuel
          if let some id := before.lookup 2 then
            let _ ← writeStream id (front ++ [' '].intercalate (texts ++ fields) ++ ['\n'])
        invoke exits tested chosen fuel
      else
        setStatus faultStatus
        if chosen.special then throw .fault
        return faultStatus
    let n ← fun st =>
      match run st with
      | .ok n st => .ok n (if replaces then st else restore st)
      | .error e st => .error e (restore st)
    dropFrames depth (fuel + 1)
    return n
termination_by structural n => n

/-- Runs what a simple command's words say. -/
def invoke (exits tested : Bool) (c : Chosen) : Nat → Act Nat
  | 0 => die Signal.kill
  | fuel + 1 => do
    match c.meaning with
    | .nothing => return (← get).outputStatus
    | .function body => call body c.args tested fuel
    | .builtin => builtin c.special tested c.name c.args fuel
    | .program =>
      if c.name.contains '/' then external exits [] c.name c.args fuel
      else
        let path := if c.standard then some standardPath else none
        match ← locateCommand c.name path with
        | .at _ => external exits (path.getD (← get).searchPath) c.name c.args fuel
        | .denied =>
          complain (c.name ++ ": Permission denied".toList)
          return 127
        | .nowhere =>
          complain (c.name ++ ": not found".toList)
          return 127
termination_by structural n => n

/-- Calls a function. -/
def call (body : Command) (args : List (List Char)) (tested : Bool) : Nat → Act Nat
  | 0 => die Signal.kill
  | fuel + 1 => do
    let st ← get
    if st.depth ≥ maxDepth then
      failText ("Maximum function recursion depth (" ++ toString maxDepth ++ ") reached")
    set { st with
      args, loops := 0, optionIndex := 1, optionOffset := none, depth := st.depth + 1 }
    ensuring (eval false tested (some body) fuel) fun after =>
      let skip := match after.skip with
        | some (.back _) => none
        | skip => skip
      { after with
        args := st.args
        loops := st.loops
        optionIndex := st.optionIndex
        optionOffset := st.optionOffset
        depth := st.depth
        skip }
termination_by structural n => n

/-- Runs a builtin. A fault of it ends the shell only if it is `special`. -/
def builtin (special tested : Bool) (name : List Char) (args : List (List Char)) : Nat → Act Nat
  | 0 => die Signal.kill
  | fuel + 1 => do
    let caller := (← get).caller
    let run : Act Unit := do
      modify fun st => { st with caller := some name }
      let n ← builtinStatus tested (String.ofList name) args fuel
      flush
      let broken := (← get).broken
      if broken then complain (((← get).caller.getD []) ++ ": I/O error".toList)
      setStatus (if broken then n ||| 1 else n)
    let stop ← attempt run
    modify fun st => { st with caller, buffer := [], broken := false }
    match stop with
    | none => return (← get).status
    | some .fault => if special then throw .fault else return (← get).status
    | some stop => throw stop
termination_by structural n => n

def builtinStatus (tested : Bool) (name : String) (args : List (List Char)) : Nat → Act Nat
  | 0 => die Signal.kill
  | fuel + 1 => do
    match name with
    | "eval" =>
      if args.isEmpty then return 0
      readingApart (evalText false tested (.ofText ([' '].intercalate args) [] 0) 0 fuel)
    | "." =>
      match ← operands args with
      | [] => return 0
      | name :: _ =>
        let path ← dotFile name
        let text ← scriptText path
        modify fun st => { st with caller := some path }
        readingApart (script false (.ofText text [] 0) 0 0 fuel)
    | "exec" =>
      match args with
      | [] => return 0
      | name :: args =>
        execute (← get).searchPath name args fuel
        return 0
    | "wait" =>
      match ← operands args with
      | [] =>
        if let some n ← waitFor none fuel then return n
        modify fun st => { st with jobs := st.jobs.map fun j => { j with waited := true } }
        return 0
      | targets => wait 127 fuel targets
    | name => plainBuiltin name args
termination_by structural n => n

end

end DockLint.Shell.Run
