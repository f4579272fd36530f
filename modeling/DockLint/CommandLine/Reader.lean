import DockLint.CommandLine.Basic

/-!
# Reading command lines

A command line has two levels, the arguments up to the command's name and those after it. The
options `--config`, `--verbose` and `--quiet` may stand on either; what the second level gives
replaces what the first gave. An argument that takes a value is settled, and its value looked at,
only when the next one comes or the level ends, so faults show in that order.
-/

namespace DockLint.CommandLine

/-- The levels at which arguments stand. -/
inductive Level where
  | top
  | lint
  /-- After `check` or `which`. -/
  | plain
  deriving DecidableEq, Repr

/-- Arguments that take a value. -/
inductive Slot where
  | config | format | path
  deriving DecidableEq, Repr

/-- Arguments that take none. -/
inductive Flag where
  | verbose | quiet | help | version
  deriving DecidableEq, Repr

inductive Switch where
  | slot (s : Slot)
  | flag (f : Flag)
  deriving DecidableEq, Repr

def Level.long? (l : Level) (name : List Char) : Option Switch :=
  if name = "config".toList then some (.slot .config)
  else if name = "verbose".toList then some (.flag .verbose)
  else if name = "quiet".toList then some (.flag .quiet)
  else if name = "help".toList then some (.flag .help)
  else if name = "version".toList ∧ l = .top then some (.flag .version)
  else if name = "format".toList ∧ l = .lint then some (.slot .format)
  else none

def Level.short? (l : Level) (letter : Char) : Option Switch :=
  if letter = 'c' then some (.slot .config)
  else if letter = 'v' then some (.flag .verbose)
  else if letter = 'q' then some (.flag .quiet)
  else if letter = 'h' then some (.flag .help)
  else if letter = 'V' ∧ l = .top then some (.flag .version)
  else none

/-- An argument by its outer form. -/
inductive Word where
  /-- `--`, after which nothing is an option. -/
  | separator
  | long (name : List Char) (value : Option (List Char))
  | short (letters : List Char)
  | plain (text : List Char)
  deriving DecidableEq, Repr

/-- A name and what follows its first equals sign. -/
def splitValue (s : List Char) : List Char × Option (List Char) :=
  (s.takeWhile (· ≠ '='), (s.dropWhile (· ≠ '=')).tail?)

def Word.ofChars : List Char → Word
  | ['-', '-'] => separator
  | '-' :: '-' :: s => long (splitValue s).1 (splitValue s).2
  | '-' :: c :: s => short (c :: s)
  | s => plain s

/-- What one level has been given so far. -/
structure Given where
  config? : Option String
  format? : Option Format
  path? : Option String
  verbose : Nat
  quiet : Bool
  /-- The latest argument with a value to come or not yet looked at. -/
  pending : Option (Slot × Option (List Char))
  /-- The separator has been read. -/
  trailing : Bool
  deriving DecidableEq, Repr

namespace Given

def none : Given := ⟨.none, .none, .none, 0, false, .none, false⟩

/-- An option's value is to come. -/
def awaits (g : Given) : Bool :=
  match g.pending with
  | some (_, .none) => true
  | _ => false

def nonempty (v : List Char) : Except Usage String :=
  if v.isEmpty then .error .invalidValue else .ok (String.ofList v)

/-- Gives a slot its value, once. -/
def set (g : Given) (slot : Slot) (v : List Char) : Except Usage Given := do
  match slot with
  | .config =>
    if g.config?.isSome then throw .conflict
    return { g with config? := some (← nonempty v) }
  | .format =>
    if g.format?.isSome then throw .conflict
    match Format.ofName? (String.ofList v) with
    | some f => return { g with format? := some f }
    | .none => throw .invalidValue
  | .path =>
    if g.path?.isSome then throw .conflict
    return { g with path? := some (← nonempty v) }

/-- Settles the pending argument. -/
def settle (g : Given) : Except Usage Given :=
  match g.pending with
  | .none => .ok g
  | some (_, .none) => .error .invalidValue
  | some (slot, some v) => { g with pending := .none }.set slot v

def flag (g : Given) (f : Flag) : Except Usage Given := do
  let g ← g.settle
  match f with
  | .verbose => return { g with verbose := min 255 (g.verbose + 1) }
  | .quiet => if g.quiet then throw .conflict else return { g with quiet := true }
  | .help => throw .help
  | .version => throw .version

/-- An option without and with a value attached to it. -/
def slot (g : Given) (s : Slot) : Option (List Char) → Except Usage Given
  | .none => do return { ← g.settle with pending := some (s, .none) }
  | some v => do (← g.settle).set s v

def long (level : Level) (g : Given) (name : List Char) (value : Option (List Char)) :
    Except Usage Given :=
  match level.long? name with
  | .none => .error .unknownArgument
  | some (.slot s) => g.slot s value
  | some (.flag f) => if value.isSome then .error .tooManyValues else g.flag f

/-- What follows a letter that takes a value: nothing, or the value after an equals sign or not. -/
def attached : List Char → Option (List Char)
  | [] => .none
  | '=' :: v => some v
  | v => some v

def short (level : Level) (g : Given) : List Char → Except Usage Given
  | [] => .ok g
  | c :: rest =>
    match level.short? c with
    | .none => .error .unknownArgument
    | some (.slot s) => g.slot s (attached rest)
    | some (.flag f) => do short level (← g.flag f) rest

/-- The path has been given, looked at or not. -/
def hasPath (g : Given) : Bool :=
  g.path?.isSome || (g.pending.map (·.1)) == some .path

end Given

/-- The words that name a command, and the one that asks for help on them. -/
def commandNames : List String := ["lint", "check", "which", "help"]

def isCommandName (s : List Char) : Bool :=
  commandNames.any (·.toList == s)

/-- A word that is no option, where none is a value. -/
def positional (level : Level) (g : Given) (s : List Char) : Except Usage Given :=
  match level with
  | .top => .error (if g.trailing ∧ isCommandName s then .unknownArgument else .invalidSubcommand)
  | .plain => .error .unknownArgument
  | .lint =>
    if g.hasPath then .error .unknownArgument
    else do return { ← g.settle with pending := some (.path, some s) }

/-- One more argument of a level. -/
def step (level : Level) (g : Given) (s : List Char) : Except Usage Given :=
  if g.trailing then positional level g s
  else
    match Word.ofChars s with
    | .separator => .ok { g with trailing := true }
    | .long name value => g.long level name value
    | .short letters => g.short level letters
    | .plain s =>
      match g.pending with
      | some (slot, .none) => .ok { g with pending := some (slot, some s) }
      | _ => positional level g s

/-- Whether the word names the command at the end of the top level. -/
def startsCommand (g : Given) (s : List Char) : Bool :=
  !g.trailing && !g.awaits && isCommandName s

/-- The top level: what it gives, and the command's name with the arguments after it. -/
def readTop (g : Given) : List String → Except Usage (Given × Option (String × List String))
  | [] => .ok (g, none)
  | s :: rest =>
    if startsCommand g s.toList then .ok (g, some (s, rest))
    else do readTop (← step .top g s.toList) rest

/-- The arguments after the command's name. -/
def readLevel (level : Level) (args : List String) : Except Usage Given := do
  let g ← args.foldlM (fun g s => step level g s.toList) Given.none
  g.settle

/-- What `help` is asked about must name a command, and commands have no commands. -/
def helpAbout : List String → Usage
  | [] => .help
  | [s] => if isCommandName s.toList then .help else .invalidSubcommand
  | _ => .invalidSubcommand

def readCommand (name : String) (args : List String) : Except Usage (Command × Given) := do
  if name = "lint" then
    let g ← readLevel .lint args
    match g.path? with
    | none => throw .missingArgument
    | some path => return (.lint path (g.format?.getD .text), g)
  else if name = "check" then return (.check, ← readLevel .plain args)
  else if name = "which" then return (.which, ← readLevel .plain args)
  else throw (helpAbout args)

/-- What the levels give together. -/
def merge (command : Command) (outer inner : Given) : Request :=
  { command
    config? := inner.config?.or outer.config?
    verbose := if inner.verbose > 0 then inner.verbose else outer.verbose
    quiet := inner.quiet || outer.quiet }

def read (args : List String) : Except Usage Request := do
  let (outer, rest) ← readTop Given.none args
  match rest with
  | some (name, args) =>
    let (command, inner) ← readCommand name args
    return merge command (← outer.settle) inner
  | none =>
    let outer ← outer.settle
    throw (if outer.config?.isNone ∧ outer.verbose = 0 ∧ ¬ outer.quiet then .nothingAsked
      else .missingSubcommand)

end DockLint.CommandLine
