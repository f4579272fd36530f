import DockLint.Machine.Fault
import DockLint.Text.Utf8

/-!
# File trees

The files of a machine. A path is walked from the working directory or the root; an empty name and
`.` stay where they are, `..` goes to the parent, and every name but the last has to be that of a
directory. A link is left for what it leads to.
-/

namespace DockLint.Machine

/-- Programs that the machine runs itself. -/
inductive Tool where
  | shell
  | concatenate
  deriving DecidableEq, Repr

inductive Device where
  /-- Empty to read; what is written to it is lost. -/
  | null
  /-- There is no room for what is written to it. -/
  | full
  /-- No process has one, so it cannot be opened. -/
  | terminal
  deriving DecidableEq, Repr

inductive Node where
  | directory (entries : List (String × Node))
  | file (content : List UInt8) (executable : Bool)
  | device (d : Device)
  /-- Another name for what the names lead to from the root, on a way without links. -/
  | link (target : List String)
  /-- What a descriptor of the process that opens the file leads to. -/
  | descriptor (n : Nat)
  | tool (t : Tool)
  deriving Inhabited

namespace Node

def child? (name : String) : Node → Option Node
  | directory entries => entries.lookup name
  | _ => none

def isDirectory : Node → Bool
  | directory _ => true
  | _ => false

/-- A regular file. -/
def isFile : Node → Bool
  | file .. => true
  | tool _ => true
  | _ => false

def isDevice : Node → Bool
  | device _ => true
  | _ => false

/-- The start of a compiled program, which is no text. -/
def machineCode : List UInt8 :=
  [0x7f, 0x45, 0x4c, 0x46, 0x02, 0x01, 0x01, 0x00, 0xff]

/-- What there is to be read. -/
def content : Node → List UInt8
  | file content _ => content
  | tool _ => machineCode
  | _ => []

/-- Whether it may be run, or entered if it is a directory. -/
def isExecutable : Node → Bool
  | directory _ => true
  | file _ executable => executable
  | tool _ => true
  | device _ | link _ | descriptor _ => false

def setEntry (name : String) (node : Node) : List (String × Node) → List (String × Node)
  | [] => [(name, node)]
  | (k, n) :: rest => if k = name then (k, node) :: rest else (k, n) :: setEntry name node rest

/-- Puts a node at the end of a path of names; directories on the way come about as needed. -/
def put : Node → List String → Node → Node
  | _, [], node => node
  | directory entries, name :: path, node =>
    directory (setEntry name (put ((entries.lookup name).getD (directory [])) path node) entries)
  | other, _ :: _, _ => other

/-- The node at the end of a path of names. -/
def at? : List String → Node → Option Node
  | [], n => some n
  | name :: path, n => (n.child? name).bind (at? path)

end Node

/-- The names of a path, and whether it starts at the root. -/
def splitPath (path : String) : Bool × List String :=
  let s := path.toList
  (s.head? == some '/', (s.splitOn '/').map String.ofList)

/-- One more name of a path; `here` holds the names of the directory it is looked up in, the
innermost first. -/
def step (root : Node) (here : List String) (name : String) : Except Fault (List String) :=
  match root.at? here.reverse with
  | none => .error .notFound
  | some n =>
    if ¬ n.isDirectory then .error .notDirectory
    else if name = "" ∨ name = "." then .ok here
    else if name = ".." then .ok here.tail
    else
      match n.child? name with
      | some (.link target) => .ok target.reverse
      | some _ => .ok (name :: here)
      | none => .error .notFound

/-- Names and paths of more bytes than this are refused. -/
def maxName : Nat := 255

def maxPath : Nat := 4095

structure Tree where
  root : Node
  /-- The names of the working directory. -/
  here : List String

namespace Tree

/-- The names that lead from the root to what a path names. -/
def resolve (t : Tree) (path : String) : Except Fault (List String) :=
  let (absolute, names) := splitPath path
  if path = "" then .error .notFound
  else if path.toList.contains '\x00' then .error .nulInPath
  else if path.utf8ByteSize > maxPath ∨ names.any (·.utf8ByteSize > maxName) then
    .error .nameTooLong
  else do
    let found ← names.foldlM (step t.root) (if absolute then [] else t.here.reverse)
    return found.reverse

def node (t : Tree) (path : String) : Except Fault Node := do
  match t.root.at? (← t.resolve path) with
  | some n => return n
  | none => throw .notFound

def present (t : Tree) (path : String) : Bool :=
  (t.node path).isOk

/-- Whether a path names a link. -/
def isLink (t : Tree) (path : String) : Bool :=
  let (absolute, names) := splitPath path
  match names.reverse with
  | [] => false
  | name :: parents =>
    match parents.reverse.foldlM (step t.root) (if absolute then [] else t.here.reverse) with
    | .ok here =>
      match (t.root.at? here.reverse).bind (·.child? name) with
      | some (.link _) | some (.descriptor _) => true
      | _ => false
    | .error _ => false

def isFile (t : Tree) (path : String) : Bool :=
  match t.node path with
  | .ok n => n.isFile
  | .error _ => false

def read (t : Tree) (path : String) : Except Fault (List UInt8) := do
  match ← t.node path with
  | .directory _ => throw .isDirectory
  | .device .terminal => throw .noDevice
  | n => return n.content

/-- The path as names, where all but the last exist: where a file can be written. -/
def target (t : Tree) (path : String) : Except Fault (List String) :=
  match t.resolve path with
  | .ok names => .ok names
  | .error .notFound =>
    let (absolute, names) := splitPath path
    match names.reverse with
    | [] => .error .notFound
    | name :: parents =>
      if name = "" ∨ name = "." ∨ name = ".." then .error .notFound
      else do
        let found ← parents.reverse.foldlM (step t.root) (if absolute then [] else t.here.reverse)
        match t.root.at? found.reverse with
        | some (.directory _) => return found.reverse ++ [name]
        | _ => throw .notDirectory
  | .error f => .error f

/-- Writes a file, whose mode stays as it was. -/
def write (t : Tree) (names : List String) (content : List UInt8) : Tree :=
  match t.root.at? names with
  | some (.file _ executable) => { t with root := t.root.put names (.file content executable) }
  | some _ => t
  | none => { t with root := t.root.put names (.file content false) }

end Tree

end DockLint.Machine
