import DockLint.Json.Fault
import DockLint.Severity

/-!
# Issues

The linter reports each issue as a JSON object with the members `line`, `message` and `level`, or
as an array of these three; other members do not count. `Issue.decode` reads one such element or
says why it is malformed: of several reasons the first met, members being visited in ascending
order of their keys.
-/

namespace DockLint

structure Issue where
  line : Nat
  message : String
  level : String
  deriving DecidableEq, Repr

namespace Issue

/-- The fields of an issue. -/
inductive Field where
  | line | message | level
  deriving DecidableEq, Repr

def Field.name : Field → String
  | line => "line"
  | message => "message"
  | level => "level"

/-- What an element or a field should have been. -/
inductive Wanted where
  | lineNumber | text | issue
  deriving DecidableEq, Repr

def Wanted.name : Wanted → String
  | lineNumber => "a nonzero u32"
  | text => "a string"
  | issue => "struct RawIssue"

/-- Why an element is no issue. -/
inductive Malformed where
  | wrongType (found : Json) (wanted : Wanted)
  /-- A whole number that numbers no line. -/
  | wrongLine (found : Json.Number)
  | missing (field : Field)
  /-- An array of `count` elements, fewer than three. -/
  | tooFew (count : Nat)
  /-- An array of `count` elements, more than three. -/
  | tooMany (count : Nat)
  | emptyMessage
  deriving Repr

def Malformed.message : Malformed → String
  | wrongType found wanted => "invalid type: " ++ found.describe ++ ", expected " ++ wanted.name
  | wrongLine n =>
    "invalid value: " ++ (Json.num n).describe ++ ", expected " ++ Wanted.lineNumber.name
  | missing field => "missing field `" ++ field.name ++ "`"
  | tooFew count =>
    "invalid length " ++ toString count ++ ", expected " ++ Wanted.issue.name ++ " with 3 elements"
  | tooMany count => "invalid length " ++ toString count ++ ", expected fewer elements in array"
  | emptyMessage => "empty message"

/-- The largest line number. -/
def maxLine : Nat := UInt32.size - 1

def lineOf : Json → Except Malformed Nat
  | .num (.natural n) =>
    if 1 ≤ n ∧ n ≤ maxLine then .ok n else .error (.wrongLine (.natural n))
  | .num (.negative n) => .error (.wrongLine (.negative n))
  | v => .error (.wrongType v .lineNumber)

def textOf : Json → Except Malformed String
  | .str s => .ok s
  | v => .error (.wrongType v .text)

/-- A field that may be absent. -/
def field? {α : Type} (read : Json → Except Malformed α) (v : Option Json) :
    Except Malformed (Option α) :=
  match v with
  | none => .ok none
  | some v => (read v).map some

def require {α : Type} (field : Field) (v : Option α) : Except Malformed α :=
  match v with
  | none => .error (.missing field)
  | some a => .ok a

def ofMembers (ms : List (String × Json)) : Except Malformed Issue := do
  let level ← field? textOf (ms.lookup Field.level.name)
  let line ← field? lineOf (ms.lookup Field.line.name)
  let message ← field? textOf (ms.lookup Field.message.name)
  let line ← require .line line
  let message ← require .message message
  let level ← require .level level
  return ⟨line, message, level⟩

def ofElements (xs : List Json) : Except Malformed Issue :=
  match xs with
  | [] => .error (.tooFew 0)
  | x :: xs => do
    let line ← lineOf x
    match xs with
    | [] => .error (.tooFew 1)
    | y :: xs =>
      let message ← textOf y
      match xs with
      | [] => .error (.tooFew 2)
      | z :: xs =>
        let level ← textOf z
        match xs with
        | [] => .ok ⟨line, message, level⟩
        | _ :: _ => .error (.tooMany (xs.length + 3))

def decode (element : Json) : Except Malformed Issue := do
  let issue ← match element with
    | .obj ms => ofMembers ms
    | .arr xs => ofElements xs
    | v => .error (.wrongType v .issue)
  if issue.message = "" then .error .emptyMessage else .ok issue

def severity (i : Issue) : Severity :=
  .ofLevel i.level

end Issue

end DockLint
