import DockLint.Text.Utf8
import DockLint.Toml.Reader
import DockLint.Traced

/-!
# Settings

Settings name the linter to use. They are read from a TOML file: the one named on the command line,
which has to be usable, or else the first usable one of the project's and the user's. Files are
taken whole; what one leaves out is not looked for in another.
-/

namespace DockLint

/-- What settings ask of files, and the words for one that holds none. -/
structure Files where
  present : String → Bool
  /-- A failure is the system's text for it. -/
  read : String → Except String (List UInt8)
  /-- What is wrong with a text that describes no settings. -/
  reason : String → String

namespace Files

/-- A file that has to hold text. -/
def readText (f : Files) (path : String) : Except String String :=
  match f.read path with
  | .error cause => .error cause
  | .ok bytes =>
    match ofUtf8? bytes with
    | some text => .ok text
    | none => .error "stream did not contain valid UTF-8"

end Files

/-- The path of an entry of a directory. -/
def joinPath (directory name : String) : String :=
  if directory.isEmpty ∨ directory.toList.getLast? = some '/' then directory ++ name
  else directory ++ "/" ++ name

structure Settings where
  linter? : Option String
  deriving DecidableEq, Repr

namespace Settings

def default : Settings := ⟨none⟩

def fileName : String := ".hadolint-bridge.toml"

def fileIn (directory : String) : String :=
  joinPath directory fileName

/-- Keys that mean nothing are read all the same: their numbers must not be too large. -/
def isReadable (t : Toml.Table) (key : String) : Bool :=
  t.all fun e => e.1 == key || e.2.isSized

/-- The table of the linter, or the array of its entries in order; what follows the first of these
is not read. A date counts as a table that says nothing. -/
def ofNode? : Toml.Node → Option Settings
  | .scalar (.date _) => some default
  | .table _ entries => ofEntries? entries
  | .inline entries => ofEntries? entries
  | .array elements => ofEntry? elements.head?
  | .tables [] => some default
  | .tables (_ :: _) => none
  | .scalar _ => none
where
  ofEntry? : Option Toml.Node → Option Settings
    | none => some default
    | some (.scalar (.text path)) => some ⟨some path⟩
    | some _ => none
  ofEntries? (entries : Toml.Table) : Option Settings :=
    if isReadable entries "path" then ofEntry? (entries.lookup "path") else none

/-- The settings in a document. -/
def ofTable? (t : Toml.Table) : Option Settings :=
  if ¬ isReadable t "hadolint" then none
  else match t.lookup "hadolint" with
  | none => some default
  | some node => ofNode? node

def ofText? (text : String) : Option Settings :=
  (Toml.read text).toOption.bind ofTable?

/-- How each reason begins that is worded here. -/
def malformedReason : String := "TOML parse error"

/-- The line from which on a text is no document, or no more if it is one that has no settings. -/
def reasonFor (text : String) : String :=
  match Toml.read text with
  | .error fault => malformedReason ++ " at line " ++ toString fault.line
  | .ok _ => malformedReason

def load (f : Files) (path : String) : Except SettingsFailure Settings :=
  match f.readText path with
  | .error cause => .error (.unreadable path cause)
  | .ok text =>
    match ofText? text with
    | some s => .ok s
    | none => .error (.malformed path (f.reason text))

/-- The settings in the first usable file; unusable ones are logged and passed over. -/
def firstUsable (f : Files) : List String → Traced Settings
  | [] => return default
  | path :: rest =>
    if f.present path then
      match load f path with
      | .ok s => do
        Traced.log (.settingsLoaded path)
        return s
      | .error failure => do
        Traced.log (.settingsIgnored failure)
        firstUsable f rest
    else firstUsable f rest

/-- The files looked at when none is named: the project's, then the user's. -/
def usualFiles (project : String) (home : Option String) : List String :=
  fileIn project :: home.toList.map fileIn

/-- The settings to work with, in the file `named` if there is one. -/
def find (f : Files) (named : Option String) (project : String) (home : Option String) :
    Traced (Except SettingsFailure Settings) :=
  match named with
  | some path => return load f path
  | none => Except.ok <$> firstUsable f (usualFiles project home)

end Settings

end DockLint
