import DockLint.Regex.Fault
import DockLint.Text.Blank

/-!
# The text of a regular expression

The text is read from left to right. What is read can be understood in several ways, which can
change on the way.

Some mistakes only show once the text as a whole is well formed: the first of them is kept until
then.
-/

namespace DockLint.Regex

/-- How what follows is to be understood. -/
structure Flags where
  anyCase : Bool
  /-- `^` and `$` stand for the ends of lines. -/
  byLine : Bool
  /-- A point stands for a line end too. -/
  dotAll : Bool
  /-- Lines may end in a carriage return. -/
  returns : Bool
  /-- Classes go beyond ASCII. -/
  unicode : Bool
  /-- Blanks and comments do not count. -/
  spaced : Bool
  /-- A repetition is eager where it would not be otherwise. -/
  swapped : Bool
  deriving DecidableEq, Repr

def Flags.initial : Flags := ⟨false, false, false, false, true, false, false⟩

/-- A text as far as it has been read. -/
structure Source where
  rest : List Char
  place : Place
  flags : Flags
  /-- The number of kept groups so far. -/
  groups : Nat
  /-- Their names. -/
  names : List (List Char × Span)
  /-- The first mistake that counts if there are no worse ones. -/
  trouble : Option Fault

abbrev Reader := EStateM Fault Source

def fail {α : Type} (first last : Place) (m : Mistake) : Reader α :=
  throw ⟨⟨first, last⟩, m⟩

/-- Notes a mistake that the text is read on behind. -/
def note (span : Span) (m : Mistake) : Reader Unit :=
  modify fun s => { s with trouble := s.trouble.or (some ⟨span, m⟩) }

def peek : Reader (Option Char) := do
  return (← get).rest.head?

def place : Reader Place := do
  return (← get).place

/-- The place behind the next character. -/
def placeBehind : Reader Place := do
  let s ← get
  return match s.rest with
    | c :: _ => s.place.next c
    | [] => s.place

/-- Takes a character, if there is one. -/
def bump : Reader Unit :=
  modify fun s =>
    match s.rest with
    | c :: rest => { s with rest, place := s.place.next c }
    | [] => s

/-- Takes a text if it is next. -/
def bumpIf (text : String) : Reader Bool := do
  if text.toList.isPrefixOf (← get).rest then
    for _ in text.toList do bump
    return true
  return false

/-- A text without the blanks and comments in front of it. -/
def dropSpaces : Nat → List Char → List Char
  | 0, s => s
  | fuel + 1, s =>
    match s with
    | '#' :: rest => dropSpaces fuel ((rest.dropWhile (· ≠ '\n')).drop 1)
    | c :: rest => if Text.isBlank c then dropSpaces fuel rest else c :: rest
    | [] => []

/-- Takes blanks and comments, where they do not count. -/
def skipSpaces : Reader Unit := do
  let s ← get
  if s.flags.spaced then
    let rest := dropSpaces s.rest.length s.rest
    for _ in List.range (s.rest.length - rest.length) do bump

/-- Takes a character and the blanks behind it. -/
def bumpSpaced : Reader Unit := do
  bump
  skipSpaces

/-- The character behind the next one, blanks left out where they do not count. -/
def peekBehind : Reader (Option Char) := do
  let s ← get
  let rest := s.rest.drop 1
  return if s.flags.spaced then (dropSpaces rest.length rest).head? else rest.head?

/-- The characters that pass a test, each taken with the blanks behind it. -/
def takeWhile (test : Char → Bool) (acc : List Char) : Nat → Reader (List Char)
  | 0 => return acc.reverse
  | fuel + 1 => do
    match ← peek with
    | some c =>
      if test c then
        bumpSpaced
        takeWhile test (c :: acc) fuel
      else return acc.reverse
    | none => return acc.reverse

end DockLint.Regex
