import DockLint.Unicode.Word

/-!
# Patterns

A pattern is matched from a cursor on: a place in a text that knows the character before it.
`Pattern.ends` lists the cursors where a match may end, the preferred one first: a repetition
prefers to go on, an optional part to be there. `Pattern.Matches` says the same without an order.
-/

namespace DockLint

structure Cursor where
  before : Option Char
  rest : List Char
  deriving DecidableEq, Repr

namespace Cursor

def isWordAt (c : Option Char) : Bool :=
  c.any Unicode.isWord

/-- Exactly one of the characters around the cursor is a word character. -/
def atBoundary (c : Cursor) : Bool :=
  isWordAt c.before != isWordAt c.rest.head?

/-- Every cursor of a text from a given one on. -/
def all (before : Option Char) : List Char → List Cursor
  | [] => [⟨before, []⟩]
  | x :: rest => ⟨before, x :: rest⟩ :: all (some x) rest

/-- The characters from one cursor to a later one. -/
def between (a b : Cursor) : List Char :=
  a.rest.take (a.rest.length - b.rest.length)

end Cursor

inductive Pattern where
  | empty
  | one (p : Char → Bool)
  | oneOrMore (p : Char → Bool)
  | boundary
  | seq (a b : Pattern)
  | optional (a : Pattern)

namespace Pattern

/-- The cursors after one or more characters of a class, the last one first. -/
def runEnds (p : Char → Bool) : List Char → List Cursor
  | [] => []
  | x :: rest => if p x then runEnds p rest ++ [⟨some x, rest⟩] else []

def ends : Pattern → Cursor → List Cursor
  | empty, c => [c]
  | one p, c =>
    match c.rest with
    | x :: rest => if p x then [⟨some x, rest⟩] else []
    | [] => []
  | oneOrMore p, c => runEnds p c.rest
  | boundary, c => if c.atBoundary then [c] else []
  | seq a b, c => (a.ends c).flatMap b.ends
  | optional a, c => a.ends c ++ [c]

inductive Matches : Pattern → Cursor → Cursor → Prop where
  | empty {c : Cursor} : Matches empty c c
  | one {p : Char → Bool} {before : Option Char} {x : Char} {rest : List Char} (hx : p x = true) :
    Matches (one p) ⟨before, x :: rest⟩ ⟨some x, rest⟩
  | last {p : Char → Bool} {before : Option Char} {x : Char} {rest : List Char}
      (hx : p x = true) : Matches (oneOrMore p) ⟨before, x :: rest⟩ ⟨some x, rest⟩
  | again {p : Char → Bool} {before : Option Char} {x : Char} {rest : List Char} {c : Cursor}
      (hx : p x = true) (h : Matches (oneOrMore p) ⟨some x, rest⟩ c) :
    Matches (oneOrMore p) ⟨before, x :: rest⟩ c
  | boundary {c : Cursor} (h : c.atBoundary = true) : Matches boundary c c
  | seq {a b : Pattern} {c d e : Cursor} (h : Matches a c d) (h' : Matches b d e) :
    Matches (seq a b) c e
  | present {a : Pattern} {c d : Cursor} (h : Matches a c d) : Matches (optional a) c d
  | absent {a : Pattern} {c : Cursor} : Matches (optional a) c c

def char (x : Char) : Pattern := one (· = x)

/-- One pattern after another. -/
def sequence : List Pattern → Pattern
  | [] => empty
  | a :: rest => seq a (sequence rest)

/-- The part that `inner` matches in the first match of `outer` followed by `inner`. -/
def find? (outer inner : Pattern) (s : List Char) : Option (List Char) :=
  (Cursor.all none s).findSome? fun c =>
    (outer.ends c).findSome? fun d => (inner.ends d).head?.map d.between

end Pattern

end DockLint
