import DockLint.CommandLine.Basic
import DockLint.Note
import DockLint.Regex.Reader
import DockLint.Regex.Size
import DockLint.Text.Blank
import DockLint.Text.Terminal

/-!
# Which notes are shown

A filter is a list of directives, each of which sets the least urgent level shown of the parts
whose name starts with a given one. The directive with the longest such name decides. They come
from a specification, such as `a=info,b::c=debug`; how often more output was asked for decides
where none applies. Behind a slash may stand a regular expression that every text shown has to
match. Nothing is shown if the program is to be quiet.
-/

namespace DockLint

structure Directive where
  /-- None applies to every part. -/
  target : Option String
  /-- None shows nothing. -/
  level : Option Level
  deriving DecidableEq, Repr

structure LogFilter where
  directives : List Directive
  /-- A part of every text that is shown matches this. -/
  expression : Option Regex
  deriving DecidableEq, Repr

namespace LogFilter

/-- A level by its name in any letter case, or off. -/
def levelOf? (s : String) : Option (Option Level) :=
  let word (w : String) : Bool := Severity.sameWord s w
  if word "off" then some none
  else if word "error" then some (some .error)
  else if word "warn" then some (some .warn)
  else if word "info" then some (some .info)
  else if word "debug" then some (some .debug)
  else if word "trace" then some (some .trace)
  else none

/-- What part of a specification cannot be used. -/
inductive Fault where
  | badLevel (s : String)
  | badDirective (s : String)
  | tooManySlashes (s : String)
  | badExpression (s : String) (fault : Regex.Fault)
  | hugeExpression
  deriving DecidableEq, Repr

def Fault.message : Fault → String
  | badLevel s | badDirective s => "invalid logging spec '" ++ s ++ "'"
  | tooManySlashes s => "invalid logging spec '" ++ s ++ "' (too many '/'s)"
  | badExpression s f => "invalid regex filter - " ++ f.report s.toList
  | hugeExpression =>
    "invalid regex filter - Compiled regex exceeds size limit of " ++ toString Regex.maxSize ++
      " bytes."

def Fault.warning (f : Fault) : String :=
  "warning: " ++ f.message ++ ", ignoring it\n"

def trimmed (s : String) : String :=
  String.ofList (Text.trim s.toList)

def directive? (s : String) : Except Fault Directive :=
  match (s.toList.splitOn '=').map String.ofList with
  | [word] =>
    match levelOf? word with
    | some level => .ok ⟨none, level⟩
    | none => .ok ⟨some word, some .trace⟩
  | [target, level] =>
    let level := trimmed level
    if level = "" then .ok ⟨some target, some .trace⟩
    else match levelOf? level with
      | some l => .ok ⟨some target, l⟩
      | none => .error (.badLevel level)
  | _ => .error (.badDirective s)

/-- Adds a directive in place of one for the same parts. -/
def insert (d : Directive) : List Directive → List Directive
  | [] => [d]
  | e :: rest => if e.target = d.target then d :: rest else e :: insert d rest

/-- The directives of a specification and what is wrong with it. -/
def parse (spec : String) : LogFilter × List Fault :=
  match (spec.toList.splitOn '/').map String.ofList with
  | first :: rest =>
    if rest.length > 1 then (⟨[], none⟩, [.tooManySlashes spec])
    else
      let words := (first.toList.splitOn ',').map fun s => trimmed (String.ofList s)
      let words := words.filter (· ≠ "")
      let (ds, faults) := words.foldl (fun (ds, faults) w =>
        match directive? w with
        | .ok d => (insert d ds, faults)
        | .error f => (ds, faults ++ [f])) ([], [])
      match rest.head? with
      | none => (⟨ds, none⟩, faults)
      | some s =>
        match Regex.ofText s.toList with
        | .ok r =>
          if r.isTooLarge then (⟨ds, none⟩, faults ++ [.hugeExpression]) else (⟨ds, some r⟩, faults)
        | .error f => (⟨ds, none⟩, faults ++ [.badExpression s f])
  | [] => (⟨[], none⟩, [])

/-- The level that applies where no directive does. -/
def verbosity (n : Nat) : Level :=
  match n with
  | 0 => .warn
  | 1 => .info
  | 2 => .debug
  | _ => .trace

/-- The filter for a specification and a number of requests for more output. -/
def ofSpec (spec : String) (verbose : Nat) : LogFilter :=
  let f := (parse spec).1
  { f with directives := insert ⟨none, some (verbosity verbose)⟩ f.directives }

def nameLength (d : Directive) : Nat :=
  (d.target.getD "").utf8ByteSize

/-- The directives, those with the longest names first. -/
def byLength (f : LogFilter) : List Directive :=
  (f.directives.mergeSort fun a b => nameLength a ≤ nameLength b).reverse

def Directive.applies (d : Directive) (target : String) : Bool :=
  match d.target with
  | some name => name.toList.isPrefixOf target.toList
  | none => true

def shows (f : LogFilter) (n : Note) : Bool :=
  (match f.byLength.find? (Directive.applies · n.part.target) with
    | some d => d.level.any fun l => n.level.number ≤ l.number
    | none => false) &&
  f.expression.all fun r => r.occursIn n.text.toList

end LogFilter

/-- A note as a terminal gets it; the lines of its text after the first are set in. -/
def Note.line (n : Note) : List Char :=
  let name := n.level.name.toList.map Char.toUpper
  let pad := List.replicate (5 - name.length) ' '
  "[".toList ++ name ++ pad ++ " ".toList ++ n.part.target.toList ++ "] ".toList ++
    Text.hangingIndent n.text.toList ++ ['\n']

/-- A note as it is shown. -/
def Note.shown (n : Note) : String :=
  String.ofList (Text.Terminal.plain n.line)

end DockLint
