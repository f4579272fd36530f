import DockLint.Diagnostic
import DockLint.Json.Reader
import DockLint.Text.Blank
import DockLint.Traced

/-!
# The linter's output

Blank output stands for no findings. Otherwise the output begins with a JSON array, each element
of which is one finding or is skipped with its reason; text after the array is ignored. Output
that begins with anything else is refused as a whole.
-/

namespace DockLint.Findings

/-- The span of a reported line; what is wrong with the line is logged. -/
def mapLine (table : LineTable) (line : Nat) : Traced (Option Span) :=
  match table.span line with
  | .ok span => return some span
  | .error fault =>
    match fault.message? with
    | none => return none
    | some _ => do
      Traced.log (.unmappedLine fault)
      return none

/-- One element as a diagnostic, or why it is none. -/
def ofElement (table : LineTable) (element : Json) :
    Traced (Except Issue.Malformed Diagnostic) :=
  match Issue.decode element with
  | .error reason => return .error reason
  | .ok issue => do
    let span ← mapLine table issue.line
    return .ok ⟨issue.line, issue.message, issue.severity, span⟩

def ofElements (table : LineTable) : List Json → Traced (List Diagnostic)
  | [] => return []
  | element :: rest => do
    match ← ofElement table element with
    | .ok d => (d :: ·) <$> ofElements table rest
    | .error reason =>
      Traced.log (.skippedIssue reason element)
      ofElements table rest

/-- The diagnostics in the linter's output, in its order. -/
def ofOutput (table : LineTable) (output : String) : Traced (List Diagnostic) :=
  let cs := output.toList
  if Text.isAllBlank cs then return []
  else
    match Json.readLeading cs with
    | .error fault => do
      Traced.log (.unreadableOutput fault (String.ofList (Text.trim cs)))
      return []
    | .ok (elements, rest) => do
      let trailing := Text.trim rest
      if ¬ trailing.isEmpty then
        Traced.log (.trailingOutput (String.ofList trailing))
      ofElements table elements

end DockLint.Findings
