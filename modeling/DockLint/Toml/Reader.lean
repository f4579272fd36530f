import DockLint.Toml.Scalar
import DockLint.Toml.Text

/-!
# Reading TOML

A document is a sequence of statements, each on lines of its own: a table's header, a key with its
value, or nothing; comments may follow. `read` yields the root table, or the place of the statement
at which the text departs from the grammar or says a thing twice.
-/

namespace DockLint.Toml

/-- Arrays and inline tables nest at most this deep, and keys have at most so many parts. -/
def maxNesting : Nat := 80

abbrev Reader (α : Type) := List Char → Option (α × List Char)

def skipGap (s : List Char) : List Char :=
  s.dropWhile isGap

/-- Behind a comment, if there is one. -/
def skipComment? : List Char → Option (List Char)
  | '#' :: s =>
    let rest := s.dropWhile isPlain
    match rest with
    | [] => some []
    | '\n' :: _ => some rest
    | '\r' :: '\n' :: _ => some rest
    | _ => none
  | s => some s

/-- Behind blanks, comments and line breaks; `inComment` after the sign that starts a comment. -/
def skipFrom? (inComment : Bool) : List Char → Option (List Char)
  | [] => some []
  | c :: rest =>
    if c = '\n' then skipFrom? false rest
    else if c = '\r' ∧ rest.head? = some '\n' then skipFrom? inComment rest
    else if inComment then if isPlain c then skipFrom? true rest else none
    else if isGap c then skipFrom? false rest
    else if c = '#' then skipFrom? true rest
    else some (c :: rest)

def skipAll? (s : List Char) : Option (List Char) :=
  skipFrom? false s

/-! ### Keys -/

def isBareKeyChar (c : Char) : Bool :=
  c.isAlphanum || c == '_' || c == '-'

def simpleKey? : Reader String := fun s =>
  match s with
  | '\x22' :: rest => (string? '\x22' false rest).map fun (k, s) => (String.ofList k, s)
  | '\x27' :: rest => (string? '\x27' false rest).map fun (k, s) => (String.ofList k, s)
  | s =>
    match s.takeWhile isBareKeyChar with
    | [] => none
    | k => some (String.ofList k, s.dropWhile isBareKeyChar)

/-- Keys between dots, as many as `owed` allows; `acc` holds those read, latest first. The path and
the last key. -/
def keyFrom (acc : List String) : (owed : Nat) → Reader (List String × String)
  | 0, _ => none
  | owed + 1, s => do
    let (k, s) ← simpleKey? (skipGap s)
    match skipGap s with
    | '.' :: s => keyFrom (k :: acc) owed s
    | s => return ((acc.reverse, k), s)

def key? : Reader (List String × String) := fun s =>
  keyFrom [] maxNesting s

/-! ### Values -/

/-- Items between commas up to `close`, a comma before it allowed; line breaks and comments may
stand anywhere between. Each step uses up a character. -/
def itemsFrom {α : Type} (item : Reader α) (close : Char) (acc : List α) :
    Nat → Reader (List α)
  | 0, _ => none
  | fuel + 1, s => do
    match ← skipAll? s with
    | [] => none
    | c :: rest =>
      if c = close then return (acc.reverse, rest)
      let (x, s) ← item (c :: rest)
      match ← skipAll? s with
      | ',' :: s => itemsFrom item close (x :: acc) fuel s
      | c :: s => if c = close then return ((x :: acc).reverse, s) else none
      | [] => none

def items? {α : Type} (item : Reader α) (close : Char) : Reader (List α) := fun s =>
  itemsFrom item close [] (s.length + 1) s

/-- A key and its value. -/
structure Definition where
  path : List String
  key : String
  node : Node

/-- A definition; `skip?` goes over what may stand on either side of the equals sign. -/
def definition? (skip? : List Char → Option (List Char)) (value : Reader Node) :
    Reader Definition := fun s => do
  let ((path, key), s) ← key? s
  match ← skip? s with
  | '=' :: s =>
    let (node, s) ← value (← skip? s)
    return (⟨path, key, node⟩, s)
  | _ => none

def tableOf? (ds : List Definition) : Option Table :=
  ds.foldlM (fun t d => t.define d.path d.key d.node) []

/-- A string behind its first mark, as a value. -/
def text? (mark : Char) : Reader Node := fun s =>
  (string? mark true s).map fun (t, s) => (.scalar (.text (String.ofList t)), s)

def value? (nesting : Nat) : Reader Node := fun s =>
  match nesting, s with
  | _, '\x22' :: s => text? '\x22' s
  | _, '\x27' :: s => text? '\x27' s
  | 0, '[' :: _ => none
  | 0, '\x7b' :: _ => none
  | n + 1, '[' :: s => (items? (value? n) ']' s).map fun (xs, s) => (.array xs, s)
  | n + 1, '\x7b' :: s => do
    let (ds, s) ← items? (definition? skipAll? (value? n)) '\x7d' s
    return (.inline (← tableOf? ds), s)
  | _, s => (bareScalar? s).map fun (v, s) => (.scalar v, s)

/-! ### Statements -/

/-- A document as read so far: its tree and the path of the table that was opened last. -/
structure Document where
  root : Table
  opened : List String

/-- Behind the end of a statement's line. -/
def endLine? (s : List Char) : Option (List Char) := do
  match ← skipComment? (skipGap s) with
  | [] => some []
  | '\n' :: s => some s
  | '\r' :: '\n' :: s => some s
  | _ => none

def statement? (d : Document) : Reader Document := fun s =>
  match s with
  | '[' :: '[' :: s => do
    let ((path, key), s) ← key? s
    let s ← expect? ']' (skipGap s)
    let s ← expect? ']' s
    return (⟨← d.root.openItem path key, path ++ [key]⟩, s)
  | '[' :: s => do
    let ((path, key), s) ← key? s
    let s ← expect? ']' (skipGap s)
    return (⟨← d.root.openTable path key, path ++ [key]⟩, s)
  | s => do
    let (e, s) ← definition? (fun s => some (skipGap s)) (value? maxNesting) s
    return ({ d with root := ← d.root.defineAt d.opened e.path e.key e.node }, s)

/-- The document behind the statement at the front of a text, and what follows its line. -/
def line? (d : Document) : Reader Document := fun s => do
  let (d, s) ← statement? d s
  return (d, ← endLine? s)

/-- Each step uses up a statement. The text from a statement on that cannot be read is the error. -/
def statements (d : Document) : Nat → List Char → Except (List Char) Table
  | 0, s => .error s
  | fuel + 1, s =>
    match skipAll? s with
    | none => .error s
    | some [] => .ok d.root
    | some s =>
      match line? d s with
      | none => .error s
      | some (d, rest) => statements d fuel rest

/-- Where a text stops being a document. -/
structure Fault where
  /-- The line on which the statement starts that cannot be read. -/
  line : Nat
  deriving DecidableEq, Repr

/-- The fault of a text that can be read up to `rest`. -/
def Fault.before (rest s : List Char) : Fault :=
  ⟨s.count '\n' - rest.count '\n' + 1⟩

/-- The root table of a document; a byte order mark at the front does not count. -/
def read (text : String) : Except Fault Table :=
  let s := match text.toList with
    | '\uFEFF' :: s => s
    | s => s
  (statements ⟨[], []⟩ (s.length + 1) s).mapError (Fault.before · s)

end DockLint.Toml
