import DockLint.Shell.Syntax

/-!
# Shell arithmetic

Whole number expressions in words of 64 bits. A name stands for the number its variable holds, and
an expression may assign to it. An expression is evaluated as it is read, so that the first fault in
it counts; what an operator leaves out is read without being evaluated.
-/

namespace DockLint.Shell.Arithmetic

/-! ### Tokens -/

inductive Token where
  | number (n : Int)
  | name (s : String)
  | sign (s : String)
  /-- A character that means nothing. -/
  | other
  deriving DecidableEq, Repr

/-- The signs, each before those that it begins with. -/
def signs : List String :=
  ["<<=", ">>=", "<<", ">>", "<=", ">=", "==", "!=", "&&", "||", "+=", "-=", "*=", "/=", "%=", "&=",
    "|=", "^=", "+", "-", "*", "/", "%", "<", ">", "!", "~", "&", "|", "^", "(", ")", "?", ":", "="]

def digitIn (base : Nat) (c : Char) : Option Nat :=
  let n :=
    if c.isDigit then some (c.toNat - 0x30)
    else if 'a' ≤ c ∧ c ≤ 'f' then some (c.toNat - 0x57)
    else if 'A' ≤ c ∧ c ≤ 'F' then some (c.toNat - 0x37)
    else none
  n.filter (· < base)

/-- The number that the digits at the front stand for, how many there are, and what follows. -/
def digits (base : Nat) (n count : Nat) : List Char → Nat × Nat × List Char
  | [] => (n, count, [])
  | c :: rest =>
    match digitIn base c with
    | some d => digits base (n * base + d) (count + 1) rest
    | none => (n, count, c :: rest)

/-- A number at the front, in the notation its first characters show: hexadecimal, octal or decimal;
and what follows. -/
def natural? (s : List Char) : Option (Nat × List Char) :=
  let plain (base : Nat) : Option (Nat × List Char) :=
    match digits base 0 0 s with
    | (_, 0, _) => none
    | (n, _, rest) => some (n, rest)
  match s with
  | '0' :: c :: ds =>
    if c = 'x' ∨ c = 'X' then
      match digits 16 0 0 ds with
      | (_, 0, _) => some (0, c :: ds)
      | (n, _, rest) => some (n, rest)
    else plain 8
  | _ => plain 10

def isSpace (c : Char) : Bool :=
  c == ' ' || ('\t' ≤ c && c ≤ '\r')

/-- A number with a sign and blanks before it, in notation `natural?` or in decimal only: whether it
is negative, its amount, and what follows. -/
def signed? (decimal : Bool) (s : List Char) : Option (Bool × Nat × List Char) :=
  let s := s.dropWhile isSpace
  let (negative, s) := match s with
    | '-' :: s => (true, s)
    | '+' :: s => (false, s)
    | s => (false, s)
  if decimal then
    match digits 10 0 0 s with
    | (_, 0, _) => none
    | (n, _, rest) => some (negative, n, rest)
  else (natural? s).map (negative, ·)

/-- A number at the front of a text: it, and whether it had to be cut down to the words. -/
structure Numeral where
  value : Int
  inRange : Bool
  rest : List Char

def minWord : Int := -0x8000000000000000

def maxWord : Int := 0x7fffffffffffffff

/-- A number as `signed?` finds it. -/
def numeral? (decimal : Bool) (s : List Char) : Option Numeral := do
  let (negative, n, rest) ← signed? decimal s
  let value : Int := if negative then -n else n
  return ⟨max minWord (min maxWord value), minWord ≤ value ∧ value ≤ maxWord, rest⟩

/-- The tokens of an expression; each step uses up a character. -/
def tokens : Nat → List Char → List Token
  | 0, _ => []
  | _, [] => []
  | fuel + 1, c :: s =>
    if c = ' ' ∨ c = '\t' ∨ c = '\n' then tokens fuel s
    else if c.isDigit then
      match natural? (c :: s) with
      | some (n, rest) => .number (min maxWord n) :: tokens fuel rest
      | none => [.other]
    else if isNameStart c then
      .name (String.ofList ((c :: s).takeWhile isNameChar)) ::
        tokens fuel ((c :: s).dropWhile isNameChar)
    else
      match signs.find? fun w => w.toList.isPrefixOf (c :: s) with
      | some w => .sign w :: tokens fuel ((c :: s).drop w.length)
      | none => [.other]

/-! ### Operators -/

inductive Operator where
  | bitOr | bitXor | bitAnd | eq | ne | le | ge | lt | gt | shiftLeft | shiftRight
  | add | sub | mul | div | mod
  deriving DecidableEq, Repr

inductive Fault where
  | divisionByZero
  /-- A quotient is too large for a word, which the processor does not bear. -/
  | quotientTooLarge
  | noOperand
  | unclosed
  | noAlternative
  | trailing
  /-- A variable's value is no number. -/
  | badNumber (value : List Char)
  | readOnly (name : String)
  deriving DecidableEq, Repr

/-- What is wrong with an expression, given its text. -/
def Fault.message (expression : List Char) : Fault → List Char
  | badNumber value => "Illegal number: ".toList ++ value
  | readOnly name => (name ++ ": is read only").toList
  | divisionByZero => within "division by zero"
  | quotientTooLarge => within "quotient too large"
  | noOperand => within "expecting primary"
  | unclosed => within "expecting ')'"
  | noAlternative => within "expecting ':'"
  | trailing => within "expecting EOF"
where
  within (reason : String) : List Char :=
    ("arithmetic expression: " ++ reason ++ ": \x22").toList ++ expression ++ ['\x22']

/-- A number as a word of 64 bits, its sign included. -/
def wrap (n : Int) : Int :=
  n.bmod UInt64.size

def truth (b : Bool) : Int := if b then 1 else 0

/-- A number's bits, the sign bit included. -/
def bits (n : Int) : Nat :=
  (n % UInt64.size).toNat

def Operator.apply (op : Operator) (a b : Int) : Except Fault Int :=
  match op with
  | bitOr => .ok (wrap (bits a ||| bits b : Nat))
  | bitXor => .ok (wrap (bits a ^^^ bits b : Nat))
  | bitAnd => .ok (wrap (bits a &&& bits b : Nat))
  | eq => .ok (truth (a == b))
  | ne => .ok (truth (a != b))
  | le => .ok (truth (a ≤ b))
  | ge => .ok (truth (a ≥ b))
  | lt => .ok (truth (a < b))
  | gt => .ok (truth (a > b))
  | shiftLeft => .ok (wrap (a * (1 <<< (bits b % 64) : Nat)))
  | shiftRight => .ok (a.fdiv (1 <<< (bits b % 64) : Nat))
  | add => .ok (wrap (a + b))
  | sub => .ok (wrap (a - b))
  | mul => .ok (wrap (a * b))
  | div => quotient (a.tdiv b)
  | mod => quotient (a.tmod b)
where
  quotient (n : Int) : Except Fault Int :=
    if b = 0 then .error .divisionByZero
    else if a = minWord ∧ b = -1 then .error .quotientTooLarge
    else .ok n

/-- Binary operators by how tightly they bind, the loosest first. -/
def levels : List (List (String × Operator)) :=
  [[("|", .bitOr)], [("^", .bitXor)], [("&", .bitAnd)], [("==", .eq), ("!=", .ne)],
    [("<=", .le), (">=", .ge), ("<", .lt), (">", .gt)],
    [("<<", .shiftLeft), (">>", .shiftRight)], [("+", .add), ("-", .sub)],
    [("*", .mul), ("/", .div), ("%", .mod)]]

/-- The operator of an assignment; none for the plain one. -/
def assignment? (s : String) : Option (Option Operator) :=
  match s with
  | "=" => some none
  | "+=" => some (some .add)
  | "-=" => some (some .sub)
  | "*=" => some (some .mul)
  | "/=" => some (some .div)
  | "%=" => some (some .mod)
  | "&=" => some (some .bitAnd)
  | "|=" => some (some .bitOr)
  | "^=" => some (some .bitXor)
  | "<<=" => some (some .shiftLeft)
  | ">>=" => some (some .shiftRight)
  | _ => none

/-! ### Evaluation -/

/-- What an expression is evaluated in. -/
structure Variables where
  value : String → List Char
  isReadOnly : String → Bool

/-- The tokens left, and the assignments made so far, the latest first. -/
structure State where
  tokens : List Token
  assigned : List (String × Int)

abbrev Evaluator := EStateM Fault State

def ofExcept {α : Type} : Except Fault α → Evaluator α
  | .ok a => return a
  | .error f => throw f

/-- The number a variable holds. -/
def Variables.number (vars : Variables) (name : String) : Evaluator Int := do
  match (← get).assigned.lookup name with
  | some n => return n
  | none =>
    let value := vars.value name
    match numeral? false value with
    | some n => if n.inRange ∧ n.rest.all isSpace then return n.value else throw (.badNumber value)
    | none => if value.all isSpace then return 0 else throw (.badNumber value)

/-- The next sign, if it is one of those looked for. -/
def sign? {α : Type} (find : String → Option α) : Evaluator (Option α) := fun s =>
  match s.tokens with
  | .sign w :: rest =>
    match find w with
    | some a => .ok (some a) { s with tokens := rest }
    | none => .ok none s
  | _ => .ok none s

def is (w : String) (s : String) : Option Unit :=
  if s = w then some () else none

/-- Operands of one level; `operand` reads what binds more tightly. -/
def chain (live : Bool) (operand : Evaluator Int) (level : List (String × Operator)) :
    Nat → Int → Evaluator Int
  | 0, a => return a
  | fuel + 1, a => do
    match ← sign? fun w => level.lookup w with
    | some op =>
      let b ← operand
      chain live operand level fuel (← if live then ofExcept (op.apply a b) else pure b)
    | none => return a

/-- Every level from the given ones inward, down to operands without operators. -/
def binary (live : Bool) (operand : Evaluator Int) : List (List (String × Operator)) → Evaluator Int
  | [] => operand
  | level :: inner => do
    let a ← binary live operand inner
    chain live (binary live operand inner) level (← get).tokens.length a

mutual

/-- A number, a name, a sign before an operand, or an expression in parentheses. -/
def operand (vars : Variables) (live : Bool) : Nat → Evaluator Int
  | 0 => throw .noOperand
  | fuel + 1 => do
    let s ← get
    match s.tokens with
    | .number n :: rest =>
      set { s with tokens := rest }
      return n
    | .name x :: rest =>
      set { s with tokens := rest }
      if live then vars.number x else return 0
    | .sign "-" :: rest =>
      set { s with tokens := rest }
      return wrap (-(← operand vars live fuel))
    | .sign "+" :: rest =>
      set { s with tokens := rest }
      operand vars live fuel
    | .sign "!" :: rest =>
      set { s with tokens := rest }
      return truth ((← operand vars live fuel) == 0)
    | .sign "~" :: rest =>
      set { s with tokens := rest }
      return -(← operand vars live fuel) - 1
    | .sign "(" :: rest =>
      set { s with tokens := rest }
      let n ← expression vars live fuel
      match ← sign? (is ")") with
      | some _ => return n
      | none => throw .unclosed
    | _ => throw .noOperand

/-- Operands joined by `&&`: what follows a false one is left out. -/
def conjunction (vars : Variables) (live : Bool) : Nat → Evaluator Int
  | 0 => throw .noOperand
  | fuel + 1 => do
    let a ← binary live (operand vars live fuel) levels
    match ← sign? (is "&&") with
    | some _ =>
      let b ← conjunction vars (live && a != 0) fuel
      return truth (a != 0 && b != 0)
    | none => return a

def disjunction (vars : Variables) (live : Bool) : Nat → Evaluator Int
  | 0 => throw .noOperand
  | fuel + 1 => do
    let a ← conjunction vars live fuel
    match ← sign? (is "||") with
    | some _ =>
      let b ← disjunction vars (live && a == 0) fuel
      return truth (a != 0 || b != 0)
    | none => return a

/-- A choice by a test. -/
def choice (vars : Variables) (live : Bool) : Nat → Evaluator Int
  | 0 => throw .noOperand
  | fuel + 1 => do
    let test ← disjunction vars live fuel
    match ← sign? (is "?") with
    | none => return test
    | some _ =>
      let a ← expression vars (live && test != 0) fuel
      match ← sign? (is ":") with
      | none => throw .noAlternative
      | some _ =>
        let b ← choice vars (live && test == 0) fuel
        return if test = 0 then b else a

/-- An assignment or a choice. -/
def expression (vars : Variables) (live : Bool) : Nat → Evaluator Int
  | 0 => throw .noOperand
  | fuel + 1 => do
    let s ← get
    match s.tokens with
    | .name x :: .sign w :: rest =>
      match assignment? w with
      | none => choice vars live fuel
      | some op =>
        set { s with tokens := rest }
        let n ← expression vars live fuel
        if ¬ live then return n
        let n ← match op with
          | none => pure n
          | some op => do ofExcept (op.apply (← vars.number x) n)
        if vars.isReadOnly x then throw (.readOnly x)
        modify fun s => { s with assigned := (x, n) :: s.assigned }
        return n
    | _ => choice vars live fuel

end

/-- The value of an expression and the assignments it makes, the latest first. -/
def evaluate (vars : Variables) (s : List Char) : Except Fault (Int × List (String × Int)) :=
  let ts := tokens s.length s
  match expression vars true (6 * ts.length + 6) ⟨ts, []⟩ with
  | .ok n st => if st.tokens.isEmpty then .ok (n, st.assigned) else .error .trailing
  | .error f _ => .error f

end DockLint.Shell.Arithmetic
