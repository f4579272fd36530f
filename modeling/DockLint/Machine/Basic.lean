import DockLint.Host
import DockLint.Machine.Account
import DockLint.Settings
import DockLint.Shell.Start

/-!
# Machines

A machine has files, an environment and a working directory, and runs the programs among its files.
It is a host to the program, and what settings are read from.
-/

namespace DockLint

structure Machine where
  tree : Machine.Tree
  environment : List (String × String)

namespace Machine

/-- Programs that every machine has. -/
def tools : List (String × Node) :=
  [("dash", .tool .shell), ("sh", .link ["usr", "bin", "dash"]), ("cat", .tool .concatenate)]

/-- Devices, and what descriptors lead to. -/
def devices : List (String × Node) :=
  [("null", .device .null), ("zero", .device .null), ("random", .device .null),
    ("urandom", .device .null), ("full", .device .full), ("tty", .device .terminal),
    ("stdin", .descriptor 0), ("stdout", .descriptor 1), ("stderr", .descriptor 2),
    ("fd", .link ["proc", "self", "fd"]), ("pts", .directory []), ("shm", .directory [])]

/-- Descriptors by their numbers. -/
def descriptors : List (String × Node) :=
  (List.range 10).map fun n => (toString n, .descriptor n)

/-- Directories with nothing in them. -/
def empty (names : List String) : List (String × Node) :=
  names.map (·, .directory [])

/-- A link for each of some directories, to the one of the same name among the user's. -/
def merged (names : List String) : List (String × Node) :=
  names.map fun n => (n, .link ["usr", n])

/-- The file that lists the accounts. -/
def accountsFile : Node :=
  .file (utf8 (String.join (Account.all.map Account.line))) false

/-- What there is on every machine. -/
def baseRoot : Node :=
  .directory <|
    merged ["bin", "lib", "lib64", "sbin"] ++
    empty ["boot", "home", "media", "mnt", "opt", "root", "run", "srv", "sys", "tmp"] ++
    [("dev", .directory devices), ("etc", .directory [("passwd", accountsFile)]),
      ("proc", .directory [("self", .directory [("fd", .directory descriptors)])]),
      ("usr", .directory
        ([("bin", .directory tools),
          ("local", .directory
            (empty ["bin", "etc", "games", "include", "lib", "man", "sbin", "share", "src"]))] ++
        empty ["games", "include", "lib", "lib64", "libexec", "sbin", "share", "src"])),
      ("var", .directory
        (empty ["backups", "cache", "lib", "local", "log", "mail", "opt", "spool", "tmp"]))]

def lookup (m : Machine) (name : String) : Option String :=
  m.environment.lookup name

/-- The directories that commands are looked for in. -/
def searchPath (m : Machine) : List String :=
  match m.lookup "PATH" with
  | some p => (p.toList.splitOn ':').map String.ofList
  | none => ["/bin", "/usr/bin"]

/-- The user's home directory by the system's accounts. -/
def accountHome : String :=
  ((Account.ofName? "root").map (·.home)).getD "/"

/-- The user's home directory. -/
def home (m : Machine) : Option String :=
  match m.lookup "HOME" with
  | some "" => some accountHome
  | some h => some h
  | none => some accountHome

/-- A pipe takes in so many bytes that nobody has read. -/
def pipeCapacity : Nat := 65536

/-- Runs a program to its end. -/
def launch (m : Machine) (call : Invocation) : Launch :=
  let running := Note.running call.program call.args
  match m.tree.program m.searchPath call.program call.args with
  | .error f => ⟨[running], .error f.message⟩
  | .ok p =>
    let o := Shell.start m.tree m.environment p call.input
    let notes :=
      if o.unread > pipeCapacity then [running, .inputClosed (Fault.withNumber "Broken pipe" 32)]
      else [running]
    ⟨notes, .ok ⟨o.exit.map (↑·), o.stdout, o.stderr⟩⟩

def host (m : Machine) : Host where
  isFile := m.tree.isFile
  lookup := m.lookup
  launch := m.launch

def files (m : Machine) : Files where
  present := m.tree.present
  read path := (m.tree.read path).mapError Fault.message
  reason := Settings.reasonFor

/-- The path of the working directory. -/
def here (m : Machine) : String :=
  "/" ++ String.intercalate "/" m.tree.here

end Machine

end DockLint
