import DockLint.Host
import DockLint.Text.Blank

/-!
# Finding the linter

A locator first asks for the path that the settings name, then for the usual places of its
platform, and at last has the system search its executable path. Nothing is remembered from one
search to the next.
-/

namespace DockLint

/-- The linter's name on the executable path. -/
def linterName : String := "hadolint"

structure Locator where
  platform : Platform
  /-- The path that the settings name. -/
  override? : Option String

namespace Locator

/-- Directories of programs on Windows, by the variable that names them. -/
def windowsVariables : List String := ["ProgramFiles", "LocalAppData"]

/-- The usual places, the most preferred first. -/
def candidates (l : Locator) (h : Host) : List String :=
  match l.platform with
  | .macos => ["/usr/local/bin/hadolint", "/opt/homebrew/bin/hadolint"]
  | .unix => ["/usr/local/bin/hadolint", "/usr/bin/hadolint", "/bin/hadolint"]
  | .windows =>
    ((windowsVariables.filterMap h.lookup).map (· ++ "\\Hadolint\\hadolint.exe")) ++
      ["C:\\tools\\hadolint\\hadolint.exe"]

/-- What the search command printed, read as a path: its first line that is not blank. -/
def pathIn (printed : String) : Option String :=
  let line := Text.trim (Text.firstLine (Text.trim printed.toList))
  if line.isEmpty then none else some (String.ofList line)

/-- Has the system search the executable path. -/
def search (l : Locator) (h : Host) : Traced (Option String) := do
  let command := l.platform.searchCommand
  match ← h.run ⟨command, [linterName], none⟩ with
  | .error cause =>
    Traced.log (.searchNotRun cause)
    return none
  | .ok c =>
    if c.succeeded then
      match pathIn c.stdoutText with
      | none => return none
      | some path =>
        Traced.log (.foundOnPath path)
        return some path
    else
      Traced.log (.searchFailed command c.exit)
      return none

/-- The first of the given places that is a file, or else what a search finds. -/
def locateIn (l : Locator) (h : Host) : List String → Traced (Option String)
  | [] => l.search h
  | path :: rest => do
    Traced.log (.checking path)
    if ← h.probe path then
      Traced.log (.found path)
      return some path
    else l.locateIn h rest

/-- The path of the linter. -/
def locate (l : Locator) (h : Host) : Traced (Option String) := do
  match l.override? with
  | none => l.locateIn h (l.candidates h)
  | some path =>
    if ← h.probe path then
      Traced.log (.overrideUsed path)
      return some path
    else
      Traced.log (.overrideMissing path)
      l.locateIn h (l.candidates h)

end Locator

end DockLint
