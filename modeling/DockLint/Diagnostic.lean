import DockLint.Severity
import DockLint.Span
import DockLint.Json.Printer

/-!
# Diagnostics

A diagnostic is one finding of the linter, mapped onto the document. A list of them is reported as
text, a line each, or as a JSON array.
-/

namespace DockLint

structure Diagnostic where
  /-- The line the linter named, counted from 1. -/
  line : Nat
  message : String
  severity : Severity
  /-- The characters of that line, unless it has none or cannot be found. -/
  span : Option Span
  deriving DecidableEq, Repr

namespace Diagnostic

/-- Whether there is something to underline. -/
def renderable (d : Diagnostic) : Bool :=
  d.span.isSome

/-- A line of the text report, for the document at `path`. -/
def textLine (path : String) (d : Diagnostic) : String :=
  path ++ ":" ++ toString d.line ++ " " ++ d.severity.name ++ ": " ++ d.message ++
    (match d.span with
      | some s => " [" ++ s.text ++ "]"
      | none => "") ++ "\n"

def textReport (path : String) (ds : List Diagnostic) : String :=
  String.join (ds.map (textLine path))

def spanJson : Option Span → Json
  | none => .null
  | some s => .obj [("start", .num (.natural s.start)), ("end", .num (.natural s.stop))]

def toJson (d : Diagnostic) : Json :=
  .obj [("line", .num (.natural d.line)), ("message", .str d.message),
    ("severity", .str d.severity.name), ("range", spanJson d.span)]

def jsonReport (ds : List Diagnostic) : String :=
  Json.pretty (.arr (ds.map toJson)) ++ "\n"

end Diagnostic

end DockLint
