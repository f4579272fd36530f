import DockLint.Machine.Account
import DockLint.Shell.Field
import DockLint.Shell.State

/-!
# Expansion

What the parts of a word stand for, as far as no commands have to be run for it.
-/

namespace DockLint.Shell

/-- What a word is expanded for. -/
structure Usage where
  /-- It is split into fields, and every argument becomes one. -/
  full : Bool
  /-- It stands within quotes. -/
  quoted : Bool
  /-- It stands in for a parameter, so that its own text is split too. -/
  inner : Bool
  /-- Home directories are put in behind colons and the first equals sign. -/
  assignment : Bool
  deriving DecidableEq, Repr

namespace Usage

/-- For as many fields as there are in it. -/
def fields : Usage := ⟨true, false, false, false⟩

/-- For its text. -/
def text : Usage := ⟨false, false, false, false⟩

/-- For an assignment. -/
def value : Usage := ⟨false, false, false, true⟩

/-- For a text within quotes. -/
def document : Usage := ⟨false, true, false, false⟩

end Usage

/-! ### Home directories -/

/-- The home directory of the user with a name, or of the script's own one if that is empty. -/
def State.home? (st : State) (name : List Char) : Option (List Char) :=
  if name.isEmpty then st.value? "HOME"
  else (Machine.Account.ofName? (String.ofList name)).map (·.home.toList)

/-- Puts home directories in the place of tildes: of one that stands `here`, and of those behind a
colon or the first equals sign of an assignment. Each step uses up a part of the word. -/
def State.homed (st : State) (assignment : Bool) :
    (equals here : Bool) → Nat → List Part → List Part
  | _, _, 0, ps => ps
  | equals, true, fuel + 1, .char '~' false :: rest =>
    let inName (p : Part) : Bool :=
      p.literal?.any fun c => c != '/' && !(assignment && c == ':')
    let name := rest.takeWhile inName
    let behind := rest.drop name.length
    let ends := behind.head?.all fun p => p.literal?.isSome
    match if ends then st.home? (name.filterMap Part.literal?) else none with
    | some home =>
      home.map (.char · true) ++ st.homed assignment equals false fuel behind
    | none => .char '~' false :: st.homed assignment equals false fuel rest
  | equals, _, fuel + 1, p :: rest =>
    if ¬ assignment then p :: rest
    else
      match p.literal? with
      | some ':' => p :: st.homed assignment equals true fuel rest
      | some '=' => p :: st.homed assignment false equals fuel rest
      | _ => p :: st.homed assignment equals false fuel rest
  | _, _, _, [] => []

/-- A word with the home directories in it; one may stand at its start if `atStart`. -/
def State.withHomes (st : State) (u : Usage) (atStart : Bool) (w : Word) : Word :=
  st.homed u.assignment u.assignment atStart (w.length + 1) w

/-! ### Parameters -/

/-- The text of a parameter, if it is set. The character NUL stands between arguments that become
fields of their own. -/
def State.text? (st : State) (u : Usage) (quoted : Bool) (name : String) : Option (List Char) :=
  if (name = "@" ∧ quoted ∨ ¬ quoted) ∧ u.full ∧ (name = "@" ∨ name = "*") then
    some (['\x00'].intercalate st.args)
  else if name = "@" ∨ name = "*" then some ((st.separators.take 1).intercalate st.args)
  else st.parameter? name

/-- Where the fields of a parameter's text may end. -/
def State.regionOf (st : State) (quoted : Bool) (name : String) : Region :=
  if ¬ quoted then .split
  else if name = "@" ∧ ¬ st.args.isEmpty then .apart
  else .whole

/-- Whether a text counts as there, where an empty one does not if `empty`. -/
def given (empty : Bool) (value : Option (List Char)) : Bool :=
  match value with
  | none => false
  | some v => !(empty && v.isEmpty)

/-- Complains about a parameter that is not set. -/
def missing {α : Type} (name : String) : Act α :=
  fail ((name ++ ": parameter not set").toList)

/-- Sees to it that there is a value if the settings demand one. -/
def demanded (name : String) (value : Option (List Char)) : Act Unit := do
  if value.isNone ∧ (← get).settings.has .nounset then missing name

/-! ### Files -/

/-- What is looked up for a field with wildcards. -/
def State.directories (st : State) : Directories where
  names path :=
    match st.tree.node (if path.isEmpty then "." else pathOf path) with
    | .ok (.directory entries) => entries.map fun e => charsOf e.1
    | _ => []
  present path := st.tree.present (pathOf path)

/-- The fields of an expanded word, with the names of files in the place of wildcards. -/
def State.fieldsOf (st : State) (cs : List Chunk) : List (List Char) :=
  let fields := DockLint.Shell.fieldsOf st.separators none cs
  if st.settings.has .noglob then fields.map fun f => f.map (·.char)
  else fields.flatMap (expandField st.directories)

/-! ### Arithmetic -/

/-- The variables that an expression is about. -/
def State.numbers (st : State) : Arithmetic.Variables where
  value name := (st.value? name).getD []
  isReadOnly name := (st.stored? name).any (·.readOnly)

/-- The value of an expression, whose assignments are made. -/
def calculate (expression : List Char) : Act (List Char) := do
  match Arithmetic.evaluate (← get).numbers expression with
  | .error .quotientTooLarge => die Signal.arithmetic
  | .error f => fail (f.message expression)
  | .ok (n, assigned) =>
    for (name, n) in assigned.reverse do assignVariable name (toString n).toList
    return (toString n).toList

end DockLint.Shell
