import DockLint.Machine.Tree

/-!
# Finding and loading programs

A command with a slash in it is a path; any other is looked for in the directories of the
executable path. A file that is to be run begins with the line that names its interpreter, which is
given the file's path as an argument.
-/

namespace DockLint.Machine

/-- A program ready to run. -/
structure Program where
  tool : Tool
  /-- The name that the tool is run by. -/
  name : String
  args : List String
  deriving DecidableEq, Repr

/-- The interpreter's line is looked for in so many bytes. -/
def maxInterpreterLine : Nat := 256

def isGap (b : UInt8) : Bool :=
  b == 0x20 || b == 0x09

/-- Whether a name ends before the byte. -/
def isTerminator (b : UInt8) : Bool :=
  b == 0 || isGap b

def dropGapsEnd (s : List UInt8) : List UInt8 :=
  (s.reverse.dropWhile isGap).reverse

/-- What stands behind the mark at the front of a script that is to be looked at: the rest of the
line, or of the bytes looked at if they end in the middle of an argument. -/
def interpreterLine? (s : List UInt8) : Option (List UInt8) :=
  let line := s.takeWhile fun b => b != 0x0a && b != 0
  if (s.drop line.length).head? = some 0x0a then some line
  else if (s.dropWhile isGap).any isTerminator then some s.dropLast
  else none

/-- The interpreter that a file's first line names, and its one argument if it has any. Zeros stand
behind a short file. -/
def interpreter? (content : List UInt8) : Option (String × List String) := do
  let looked := (content ++ List.replicate maxInterpreterLine 0).take maxInterpreterLine
  let 0x23 :: 0x21 :: s := looked | none
  let line := (dropGapsEnd (← interpreterLine? s)).dropWhile isGap
  if line.isEmpty then none
  let name := line.takeWhile (!isTerminator ·)
  let arg := match line.drop name.length with
    | [] => []
    | b :: rest => if b = 0 then [] else [(rest.dropWhile isGap).takeWhile (· ≠ 0)]
  return (ofUtf8Lossy name, arg.map ofUtf8Lossy)

namespace Tree

/-- Loads the file at a path under a name, through as many interpreters as `levels` allows. -/
def load (t : Tree) (path name : String) (args : List String) :
    (levels : Nat) → Except Fault Program
  | 0 => .error .tooManyLevels
  | levels + 1 => do
    match ← t.node path with
    | .tool tool => return ⟨tool, name, args⟩
    | .file content true =>
      match interpreter? content with
      | none => throw .badFormat
      | some ("", _) => throw .denied
      | some (interpreter, more) => load t interpreter interpreter (more ++ path :: args) levels
    | _ => throw .denied

/-- How many interpreters may stand behind each other. -/
def maxLevels : Nat := 6

/-- Tries the directories in order. Where one holds no such program the next is tried; a file that
may not be run is remembered. -/
def search (t : Tree) (command : String) (args : List String) (denied : Bool) :
    List String → Except Fault Program
  | [] => .error (if denied then .denied else .notFound)
  | d :: ds =>
    let path := if d.isEmpty then command else d ++ "/" ++ command
    match t.load path command args maxLevels with
    | .ok p => .ok p
    | .error .denied => search t command args true ds
    | .error .notFound => search t command args denied ds
    | .error .notDirectory => search t command args denied ds
    | .error f => .error f

/-- The program that a command names. -/
def program (t : Tree) (searchPath : List String) (command : String) (args : List String) :
    Except Fault Program :=
  if (command :: args).any (·.toList.contains '\x00') then .error .nulInCommand
  else if command = "" then .error .notFound
  else if command.toList.contains '/' then t.load command command args maxLevels
  else if command.utf8ByteSize > maxName then .error .nameTooLong
  else t.search command args false searchPath

end Tree

end DockLint.Machine
