import DockLint.Toml.Basic

/-!
# Strings in TOML

A string stands in one or three quotation marks or apostrophes. Between quotation marks a backslash
starts an escape; between three of either kind line breaks are allowed, and the first one is left
out if nothing stands before it. Up to two marks may stand right before the closing three.
-/

namespace DockLint.Toml

/-- Characters that may stand for themselves in a string. -/
def isPlain (c : Char) : Bool :=
  c == '\t' || (0x20 ≤ c.toNat && c.toNat ≠ 0x7F)

/-- The character an escape of one letter stands for. -/
def unescape? (c : Char) : Option Char :=
  match c with
  | 'b' => some '\x08'
  | 't' => some '\t'
  | 'n' => some '\n'
  | 'f' => some '\x0c'
  | 'r' => some '\r'
  | 'e' => some '\x1b'
  | '\x22' => some '\x22'
  | '\\' => some '\\'
  | _ => none

/-- How many hexadecimal digits follow the letter of an escape. -/
def codeWidth? (c : Char) : Option Nat :=
  match c with
  | 'x' => some 2
  | 'u' => some 4
  | 'U' => some 8
  | _ => none

def charOfCode? (n : Nat) : Option Char :=
  if h : n.isValidChar then some (Char.ofNatAux n h) else none

/-- Where the next character of a string stands. -/
inductive Place where
  | plain
  /-- After as many marks as may belong to the closing ones. -/
  | marks (count : Nat)
  /-- After a CR, before the LF. -/
  | return
  | escape
  | code (owed bits : Nat)
  /-- After a backslash and blanks: the line has to end. -/
  | lineEnd
  | lineEndReturn
  /-- The line has ended: blanks and further line breaks are left out. -/
  | folded
  | foldedReturn
  deriving DecidableEq, Repr

/-- The marks a string stands in. -/
structure Marks where
  mark : Char
  /-- Three marks on either side. -/
  long : Bool
  escapes : Bool
  deriving DecidableEq, Repr

inductive Step where
  | go (place : Place) (emit : List Char)
  | close (emit : List Char) (rest : List Char)
  | refuse

def isGap (c : Char) : Bool :=
  c == ' ' || c == '\t'

def plainStep (m : Marks) (c : Char) (rest : List Char) : Step :=
  if c = m.mark then if m.long then .go (.marks 1) [] else .close [] rest
  else if c = '\\' ∧ m.escapes then .go .escape []
  else if c = '\n' ∧ m.long then .go .plain ['\n']
  else if c = '\r' ∧ m.long then .go .return []
  else if isPlain c then .go .plain [c]
  else .refuse

def step (m : Marks) (c : Char) (rest : List Char) : Place → Step
  | .plain => plainStep m c rest
  | .marks n =>
    if c = m.mark then if n = 4 then .close [m.mark, m.mark] rest else .go (.marks (n + 1)) []
    else if n ≥ 3 then .close (List.replicate (n - 3) m.mark) (c :: rest)
    else match plainStep m c rest with
      | .go place emit => .go place (List.replicate n m.mark ++ emit)
      | s => s
  | .return => if c = '\n' then .go .plain ['\r', '\n'] else .refuse
  | .escape =>
    match unescape? c, codeWidth? c with
    | some d, _ => .go .plain [d]
    | none, some width => .go (.code width 0) []
    | none, none =>
      if ¬ m.long then .refuse
      else if isGap c then .go .lineEnd []
      else if c = '\n' then .go .folded []
      else if c = '\r' then .go .lineEndReturn []
      else .refuse
  | .code owed bits =>
    match hexValue? c with
    | none => .refuse
    | some d =>
      let bits := bits * 16 + d
      if owed ≤ 1 then
        match charOfCode? bits with
        | some x => .go .plain [x]
        | none => .refuse
      else .go (.code (owed - 1) bits) []
  | .lineEnd =>
    if isGap c then .go .lineEnd []
    else if c = '\n' then .go .folded []
    else if c = '\r' then .go .lineEndReturn []
    else .refuse
  | .lineEndReturn => if c = '\n' then .go .folded [] else .refuse
  | .folded =>
    if isGap c ∨ c = '\n' then .go .folded []
    else if c = '\r' then .go .foldedReturn []
    else plainStep m c rest
  | .foldedReturn => if c = '\n' then .go .folded [] else .refuse

/-- Reads on in a string; `acc` holds its characters so far, latest first. -/
def textFrom (m : Marks) (place : Place) (acc : List Char) :
    List Char → Option (List Char × List Char)
  | [] =>
    match place with
    | .marks n => if n ≥ 3 then some ((List.replicate (n - 3) m.mark ++ acc).reverse, []) else none
    | _ => none
  | c :: rest =>
    match step m c rest place with
    | .go place emit => textFrom m place (emit.reverse ++ acc) rest
    | .close emit rest => some ((emit.reverse ++ acc).reverse, rest)
    | .refuse => none

/-- Leaves out a line break at the front. -/
def skipBreak : List Char → List Char
  | '\n' :: s => s
  | '\r' :: '\n' :: s => s
  | s => s

/-- A string that starts with the given mark, which has been read. -/
def string? (mark : Char) (mayBeLong : Bool) (s : List Char) : Option (List Char × List Char) :=
  let escapes := mark == '\x22'
  match s with
  | a :: b :: rest =>
    if a = mark ∧ b = mark ∧ mayBeLong then
      textFrom ⟨mark, true, escapes⟩ .plain [] (skipBreak rest)
    else textFrom ⟨mark, false, escapes⟩ .plain [] s
  | s => textFrom ⟨mark, false, escapes⟩ .plain [] s

end DockLint.Toml
