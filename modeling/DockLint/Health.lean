import DockLint.Lint
import DockLint.Pattern

/-!
# Health

Whether the linter is there and answers when asked for its version. A version number is found in
the answer by `versionPattern`: two or three numbers with points between them, and a suffix after
a hyphen.
-/

namespace DockLint.Health

/-- Asks the linter for its version. -/
def versionArgs : List String := ["--version"]

/-- A character of a version's suffix. -/
def isSuffixChar (c : Char) : Bool :=
  c.isAlphanum || c == '.' || c == '-'

def number : Pattern := .oneOrMore Unicode.isDigit

/-- A version begins at a word boundary, or behind a `v` there. -/
def versionStart : Pattern := .seq .boundary (.optional (.char 'v'))

def versionPattern : Pattern :=
  .sequence [number, .char '.', number, .optional (.seq (.char '.') number),
    .optional (.seq (.char '-') (.oneOrMore isSuffixChar)), .boundary]

def version? (text : String) : Option String :=
  (Pattern.find? versionStart versionPattern text.toList).map String.ofList

inductive Status where
  | healthy (path : String) (version : Option String)
  /-- The linter ran but did not exit with 0. -/
  | unhealthy (path : String) (exit : Option Int)
  | missing (reason : String)
  deriving DecidableEq, Repr

structure Notice where
  severity : Severity
  title : String
  message : String
  deriving DecidableEq, Repr

namespace Status

def isHealthy : Status → Bool
  | healthy .. => true
  | _ => false

/-- What the user is told. -/
def notice? : Status → Option Notice
  | healthy .. => none
  | unhealthy _ exit =>
    let code := match exit with
      | some code => toString code
      | none => "signal"
    some ⟨.warning, "Hadolint not working",
      "Hadolint is installed but returned error code " ++ code ++
        ". Dockerfile validation will not work properly."⟩
  | missing reason =>
    some ⟨.error, "Hadolint not found",
      "Hadolint executable not found. Dockerfile validation will not work. " ++ reason⟩

end Status

def check (l : Locator) (h : Host) : Traced Status := do
  match ← l.locate h with
  | none => return .missing LintFailure.notFound.message
  | some path =>
    match ← h.run ⟨path, versionArgs, none⟩ with
    | .error cause =>
      Traced.log (.notLaunched path cause)
      return .missing cause
    | .ok c =>
      if c.succeeded then
        let version := version? c.combined
        Traced.log (.healthy version path)
        return .healthy path version
      else return .unhealthy path c.exit

end DockLint.Health
