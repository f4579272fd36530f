import DockLint.Pattern
import DockLint.Regex.CharSet

/-!
# Regular expressions

A regular expression is matched from many places of a text at once. Where matches that start at some
of the places end is again a list of places, so no place is looked at twice for the same part.
-/

namespace DockLint

/-- A condition on a place in a text. -/
inductive Look where
  | textStart
  | textEnd
  | lineStart
  | lineEnd
  /-- Lines may end in a carriage return and a line feed, or in one of them. -/
  | returnedLineStart
  | returnedLineEnd
  /-- There is a word on exactly one side, its characters being those of the set. -/
  | wordBoundary (s : CharSet)
  | noWordBoundary (s : CharSet)
  | wordStart (s : CharSet)
  | wordEnd (s : CharSet)
  /-- There is no word in front. -/
  | wordStartHalf (s : CharSet)
  /-- There is no word behind. -/
  | wordEndHalf (s : CharSet)
  deriving DecidableEq, Repr

def Look.holds (l : Look) (c : Cursor) : Bool :=
  let front (s : CharSet) : Bool := c.before.any s.contains
  let behind (s : CharSet) : Bool := c.rest.head?.any s.contains
  match l with
  | textStart => c.before.isNone
  | textEnd => c.rest.isEmpty
  | lineStart => c.before.all (· == '\n')
  | lineEnd => c.rest.head?.all (· == '\n')
  | returnedLineStart =>
    c.before.all fun x => x == '\n' || (x == '\r' && c.rest.head? != some '\n')
  | returnedLineEnd =>
    c.rest.head?.all fun x => x == '\r' || (x == '\n' && c.before != some '\r')
  | wordBoundary s => front s != behind s
  | noWordBoundary s => front s == behind s
  | wordStart s => !front s && behind s
  | wordEnd s => front s && !behind s
  | wordStartHalf s => !front s
  | wordEndHalf s => !behind s

inductive Regex where
  | empty
  | set (s : CharSet)
  | look (l : Look)
  | seq (a b : Regex)
  | either (a b : Regex)
  /-- In parentheses; what a group with a number matches is kept. -/
  | group (number : Option Nat) (a : Regex)
  /-- So many times, or any number of times from `min` on if there is no `max`; as often as it can
  be if it is eager, and else as seldom. -/
  | repeated (a : Regex) (min : Nat) (max : Option Nat) (eager : Bool)
  deriving DecidableEq, Repr

namespace Regex

/-- For every place of a text, from the one in front of it to the one behind it, whether it is one
of some places. -/
abbrev Places := List Bool

namespace Places

def union (p q : Places) : Places :=
  List.zipWith (· || ·) p q

/-- The places that a step leads to when it is taken so many times. If it leads back to where it
began, so do more of them. -/
def after (step : Places → Places) : Nat → Places → Places
  | 0, p => p
  | n + 1, p =>
    let q := step p
    if q = p then p else after step n q

/-- The places that a step leads to when it is taken so many times at most. -/
def within (step : Places → Places) : Nat → Places → Places
  | 0, p => p
  | n + 1, p =>
    let q := p.union (step p)
    if q = p then p else within step n q

end Places

/-- Where matches end that start at one of some places. -/
structure Step where
  ends : Places → Places

/-- The step of an expression in a text. Which characters a set has, and where a condition holds, is
found out once, when the step is first taken. -/
def step (text : List Char) : Regex → Step
  | empty => ⟨id⟩
  | set s =>
    let members := Thunk.mk fun _ => text.map s.contains
    ⟨fun p => if p.contains true then false :: List.zipWith (· && ·) p members.get else p⟩
  | look l =>
    let held := Thunk.mk fun _ => (Cursor.all none text).map l.holds
    ⟨fun p => if p.contains true then List.zipWith (· && ·) p held.get else p⟩
  | seq a b =>
    let (a, b) := (a.step text, b.step text)
    ⟨fun p => b.ends (a.ends p)⟩
  | either a b =>
    let (a, b) := (a.step text, b.step text)
    ⟨fun p => (a.ends p).union (b.ends p)⟩
  | group _ a => a.step text
  | repeated a min max _ =>
    let a := a.step text
    let more := match max with
      | some max => max - min
      | none => text.length + 1
    ⟨fun p => Places.within a.ends more (Places.after a.ends min p)⟩

/-- Whether a part of a text matches. -/
def occursIn (r : Regex) (text : List Char) : Bool :=
  ((r.step text).ends (List.replicate (text.length + 1) true)).contains true

def sequence : List Regex → Regex
  | [] => empty
  | [r] => r
  | r :: rest => seq r (sequence rest)

end Regex

end DockLint
