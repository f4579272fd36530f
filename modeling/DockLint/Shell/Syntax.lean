/-!
# Shell syntax

The words and commands of a shell script. A character of a script stands for one byte.
-/

namespace DockLint.Shell

/-- What is done with a parameter in braces. -/
inductive Edit where
  | plain
  /-- A colon stands behind the name, and nothing behind that: the word follows the value, and what
  stands behind the braces does not count. -/
  | bareColon
  /-- The braces make no sense, which comes out when the word is expanded. -/
  | unreadable
  | length
  /-- Another word stands in where the parameter is unset, or empty if `empty`. -/
  | fallback (empty : Bool)
  /-- The same, and the parameter keeps that word. -/
  | assign (empty : Bool)
  /-- A word stands in where the parameter is set. -/
  | replace (empty : Bool)
  /-- The script ends where the parameter is unset. -/
  | demand (empty : Bool)
  /-- A pattern is cut off the front, the longest match of it if `longest`. -/
  | cutFront (longest : Bool)
  | cutBack (longest : Bool)
  deriving DecidableEq, Repr

/-- How a file is opened. -/
inductive Mode where
  | read
  | readWrite
  | write
  /-- Writing even where files are not to be overwritten. -/
  | overwrite
  | append
  deriving DecidableEq, Repr

mutual

/-- A part of a word, and whether it stands within quotes. -/
inductive Part where
  | char (c : Char) (quoted : Bool)
  /-- A quotation mark: there is a field here, be it empty. -/
  | mark
  | parameter (name : String) (edit : Edit) (word : List Part) (quoted : Bool)
  /-- What a script prints. -/
  | output (body : Option Command) (quoted : Bool)
  | arithmetic (expression : List Part) (quoted : Bool)

/-- What a descriptor is made to stand for. -/
inductive Target where
  | descriptor (n : Nat)
  | closed
  | word (w : List Part)

inductive Redirection where
  | file (descriptor : Nat) (mode : Mode) (word : List Part)
  | duplicate (descriptor : Nat) (target : Target)
  /-- A descriptor reads a text of the script, which is kept under a number. -/
  | document (descriptor : Nat) (number : Nat)

inductive Clause where
  | mk (patterns : List (List Part)) (body : Option Command)

inductive Command where
  | simple (line : Nat) (assignments words : List (List Part)) (redirections : List Redirection)
  | pipe (commands : List Command)
  | redirected (line : Nat) (body : Command) (redirections : List Redirection)
  | subshell (line : Nat) (body : Command) (redirections : List Redirection)
  | background (line : Nat) (body : Command) (redirections : List Redirection)
  | both (first second : Command)
  | either (first second : Command)
  | sequence (first second : Command)
  | negated (c : Command)
  | cond (test body : Command) (other : Option Command)
  /-- Repeats its body while the test fails, if `untilTrue`, or else while it succeeds. -/
  | loop (untilTrue : Bool) (test body : Command)
  | each (line : Nat) (name : String) (words : List (List Part)) (body : Command)
  | choose (line : Nat) (word : List Part) (clauses : List Clause)
  | function (line : Nat) (name : String) (body : Command)

end

abbrev Word := List Part

instance : Inhabited Part := ⟨.mark⟩

instance : Inhabited Command := ⟨.simple 0 [] [] []⟩

/-- Whether the parts of a word stand for themselves. -/
def Part.literal? : Part → Option Char
  | .char c false => some c
  | _ => none

/-- The text of a word of which nothing is quoted or stands for something else. -/
def Word.literal? (w : Word) : Option String :=
  (w.mapM Part.literal?).map String.ofList

/-- The characters of a word, quoted or not. -/
def Word.chars (w : Word) : List Char :=
  w.filterMap fun
    | .char c _ => some c
    | _ => none

def isNameStart (c : Char) : Bool :=
  c.isAlpha || c == '_'

def isNameChar (c : Char) : Bool :=
  c.isAlphanum || c == '_'

/-- Whether a text can be the name of a variable or function. -/
def isName (s : String) : Bool :=
  match s.toList with
  | [] => false
  | c :: rest => isNameStart c && rest.all isNameChar

/-- The name in front of the equals sign of an assignment. -/
def assigned? (w : Word) : Option String :=
  let name := (w.takeWhile fun p => p.literal?.any isNameChar)
  match w.drop name.length with
  | .char '=' false :: _ => (Word.literal? name).filter isName
  | _ => none

end DockLint.Shell
