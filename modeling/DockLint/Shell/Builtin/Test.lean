import DockLint.Shell.State

/-!
# Tests

What `test` and `[` say of their arguments. A word is an operator or an operand by where it stands:
the grammar is read with one word to look ahead, and three or four arguments have rules of their
own.
-/

namespace DockLint.Shell

/-! ### Operators -/

def unaryTests : List String :=
  ["-r", "-w", "-x", "-e", "-f", "-d", "-c", "-b", "-p", "-u", "-g", "-k", "-s", "-t", "-z", "-n",
    "-h", "-O", "-G", "-L", "-S"]

def binaryTests : List String :=
  ["=", "!=", "<", ">", "-eq", "-ne", "-ge", "-gt", "-le", "-lt", "-nt", "-ot", "-ef"]

/-- What a word of a test is. -/
inductive TestToken where
  | finish
  | operand
  | unary
  | binary
  | negation
  | both
  | either
  | opening
  | closing
  deriving DecidableEq, Repr

def testToken (word : List Char) : TestToken :=
  let s := String.ofList word
  if unaryTests.contains s then .unary
  else if binaryTests.contains s then .binary
  else match s with
  | "!" => .negation
  | "-a" => .both
  | "-o" => .either
  | "(" => .opening
  | ")" => .closing
  | _ => .operand

/-- Why a test has no outcome. -/
inductive TestFault where
  | badNumber (s : List Char)
  | unexpected (s : List Char)
  | noOperand (operator : List Char)
  | notClosed
  | noBracket
  deriving DecidableEq, Repr

def TestFault.message : TestFault → List Char
  | badNumber s => "Illegal number: ".toList ++ s
  | unexpected s =>
    (if s.isEmpty then [] else s ++ ": ".toList) ++ "unexpected operator".toList
  | noOperand s => s ++ ": argument expected".toList
  | notClosed => "closing paren expected".toList
  | noBracket => "missing ]".toList

/-! ### Primaries -/

/-- What a path leads to. -/
inductive Goal where
  | node (names : List String) (n : Machine.Node)
  /-- A stream that is no file. -/
  | pipe (id : Nat)

/-- Whether two paths with these goals lead to the same. -/
def Goal.same : Goal → Goal → Bool
  | node ns _, node ms _ => ns == ms
  | pipe i, pipe j => i == j
  | _, _ => false

/-- What tests are told of paths. -/
structure Sights where
  goal? : List Char → Option Goal
  isLink : List Char → Bool

/-- The goal of a path; that of a descriptor's name is what the descriptor leads to. -/
def State.goal? (st : State) (path : List Char) : Option Goal :=
  let name := pathOf path
  match st.tree.node name, st.tree.resolve name with
  | .ok (.descriptor n), _ => do
    let id ← st.channels.lookup n
    match ← st.world.streams[id]? with
    | .file names _ _ => return .node names (← st.world.root.at? names)
    | .source .. | .sink .. => return .pipe id
    | .device full =>
      return .node ["dev", if full then "full" else "null"]
        (.device (if full then .full else .null))
    | .directory => return .node [] (.directory [])
  | .ok node, .ok names => some (.node names node)
  | _, _ => none

/-- What the tests of a process are told. -/
def State.sights (st : State) : Sights where
  goal? := st.goal?
  isLink path :=
    st.tree.isLink (pathOf path) &&
      match st.tree.resolve (pathOf path) with
      | .ok ("proc" :: _) => (st.goal? path).isSome
      | _ => true

/-- What is asked of a file, or of what a path leads to. -/
def fileTest (sights : Sights) (op : String) (path : List Char) : Bool :=
  match op, sights.goal? path with
  | "-h", _ | "-L", _ => sights.isLink path
  | _, none => false
  | "-p", some (.pipe _) => true
  | "-f", some (.node _ n) => n.isFile
  | "-d", some (.node _ n) => n.isDirectory
  | "-c", some (.node _ n) => n.isDevice
  | "-x", some (.node _ n) => n.isExecutable
  | "-s", some (.node _ n) => n.isDirectory || !n.content.isEmpty
  | "-b", _ | "-p", _ | "-u", _ | "-g", _ | "-k", _ | "-S", _ | "-f", _ | "-d", _ | "-c", _
  | "-x", _ | "-s", _ => false
  | _, some _ => true

/-- A number with blanks around it. -/
def testNumber (s : List Char) : Except TestFault Int :=
  match Arithmetic.numeral? true s with
  | some n =>
    if n.inRange ∧ n.rest.all Arithmetic.isSpace then .ok n.value else .error (.badNumber s)
  | none => .error (.badNumber s)

def unaryTest (sights : Sights) (op : String) (s : List Char) : Except TestFault Bool :=
  match op with
  | "-n" => .ok (!s.isEmpty)
  | "-z" => .ok s.isEmpty
  | "-t" => do
    let _ ← testNumber s
    return false
  | op => .ok (fileTest sights op s)

def binaryTest (sights : Sights) (a : List Char) (op : String) (b : List Char) :
    Except TestFault Bool :=
  let numbers (f : Int → Int → Bool) : Except TestFault Bool := do
    return f (← testNumber a) (← testNumber b)
  let before (s t : List Char) : Bool := !byteOrder t s
  match op with
  | "=" => .ok (a == b)
  | "!=" => .ok (a != b)
  | "<" => .ok (before a b)
  | ">" => .ok (before b a)
  | "-eq" => numbers (· == ·)
  | "-ne" => numbers (· != ·)
  | "-lt" => numbers (· < ·)
  | "-le" => numbers (· ≤ ·)
  | "-gt" => numbers (· > ·)
  | "-ge" => numbers (· ≥ ·)
  | "-ef" =>
    match sights.goal? a, sights.goal? b with
    | some p, some q => .ok (p.same q)
    | _, _ => .ok false
  | _ => .ok false

/-! ### Expressions -/

/-- What the word at a place is there. -/
def tokenAt (args : Array (List Char)) (i : Nat) : TestToken :=
  match args[i]? with
  | none => .finish
  | some word =>
    match testToken word with
    | .unary =>
      match args[i + 1]?, args[i + 2]? with
      | none, _ => .operand
      | some _, none => .unary
      | some next, some _ => if testToken next = .binary then .operand else .unary
    | .opening => if i + 1 < args.size then .opening else .operand
    | t => t

/-- What part of an expression is read. -/
inductive TestLevel where
  | either | both | negation
  deriving DecidableEq

/-- The outcome of the expression whose first word, of the given kind, stands at a place, and the
place of its last word. Each step goes on by a word or a level. -/
def testFrom (sights : Sights) (args : Array (List Char)) :
    Nat → TestLevel → TestToken → Nat → Except TestFault (Bool × Nat)
  | 0, _, _, i => .ok (false, i)
  | fuel + 1, .either, t, i => do
    let (a, i) ← testFrom sights args fuel .both t i
    if tokenAt args (i + 1) ≠ .either then return (a, i)
    let (b, i) ← testFrom sights args fuel .either (tokenAt args (i + 2)) (i + 2)
    return (a || b, i)
  | fuel + 1, .both, t, i => do
    let (a, i) ← testFrom sights args fuel .negation t i
    if tokenAt args (i + 1) ≠ .both then return (a, i)
    let (b, i) ← testFrom sights args fuel .both (tokenAt args (i + 2)) (i + 2)
    return (a && b, i)
  | fuel + 1, .negation, t, i => do
    match t with
    | .negation =>
      let t := tokenAt args (i + 1)
      let (a, i) ← testFrom sights args fuel .negation t (if t = .finish then i else i + 1)
      return (!a, i)
    | .finish => return (false, i)
    | .opening =>
      let t := tokenAt args (i + 1)
      if t = .closing then return (false, i + 1)
      let (a, i) ← testFrom sights args fuel .either t (i + 1)
      if tokenAt args (i + 1) ≠ .closing then throw .notClosed
      return (a, i + 1)
    | .unary =>
      match args[i + 1]? with
      | none => throw (.noOperand (args.getD i []))
      | some s => return (← unaryTest sights (String.ofList (args.getD i [])) s, i + 1)
    | _ =>
      if tokenAt args (i + 1) = .binary then
        match args[i + 2]? with
        | none => throw (.noOperand (args.getD (i + 1) []))
        | some b =>
          let op := String.ofList (args.getD (i + 1) [])
          return (← binaryTest sights (args.getD i []) op b, i + 2)
      else return (!(args.getD i []).isEmpty, i)

/-- The outcome of a test by its arguments. Each step drops one. -/
def testArgs (sights : Sights) : Nat → List (List Char) → Except TestFault Bool
  | 0, _ => .ok false
  | _, [] => .ok false
  | fuel + 1, args => do
    let whole (t : TestToken) : Except TestFault Bool := do
      let words := args.toArray
      let (r, i) ← testFrom sights words (4 * words.size + 4) .either t 0
      if i + 1 < words.size then throw (.unexpected (words.getD i []))
      return r
    let first := tokenAt args.toArray 0
    match args with
    | [a, b, c] =>
      if testToken b = .binary then whole .operand
      else if a = ['('] ∧ c = [')'] then testArgs sights fuel [b]
      else if a = ['!'] then return !(← testArgs sights fuel [b, c])
      else whole first
    | [a, b, c, d] =>
      if a = ['('] ∧ d = [')'] then testArgs sights fuel [b, c]
      else if a = ['!'] then return !(← testArgs sights fuel [b, c, d])
      else whole first
    | _ => whole first

/-- The outcome of a test under the name it was called by. -/
def testOutcome (sights : Sights) (name : List Char) (args : List (List Char)) :
    Except TestFault Bool :=
  if name.head? = some '[' then
    if args.getLast?.any fun a => a.head? == some ']' then
      testArgs sights args.length args.dropLast
    else .error .noBracket
  else testArgs sights (args.length + 1) args

end DockLint.Shell
