import DockLint.Shell.Glob

/-!
# Fields

What a word expands to is split into fields. Only what stands in for something else is split, each
such part on its own; blanks around a field do not count, and other separators end one.
-/

namespace DockLint.Shell

/-- What a word expands to. The character NUL stands between arguments. -/
inductive Glyph where
  | char (m : Mark)
  /-- A quotation mark: there is a field here, be it empty. -/
  | mark
  deriving DecidableEq, Repr

/-- Where fields may end. -/
inductive Region where
  /-- Nowhere. -/
  | whole
  /-- At separators. -/
  | split
  /-- Between arguments only. -/
  | apart
  deriving DecidableEq, Repr

structure Chunk where
  region : Region
  glyphs : List Glyph

def Glyph.mark? : Glyph → Option Mark
  | .char m => some m
  | .mark => none

def Glyph.char? (g : Glyph) : Option Char :=
  g.mark?.map (·.char)

/-- The characters of an expanded word, not split. -/
def joined (cs : List Chunk) : List Mark :=
  cs.flatMap fun c => c.glyphs.filterMap Glyph.mark?

def joinedChars (cs : List Chunk) : List Char :=
  (joined cs).map (·.char)

def plainChunk (region : Region) (quoted : Bool) (s : List Char) : Chunk :=
  ⟨region, s.map fun c => .char ⟨c, quoted⟩⟩

def isGapChar (c : Char) : Bool :=
  c == ' ' || c == '\t' || c == '\n' || c == '\x00'

/-- A text in the middle of being split. -/
structure Split where
  /-- The fields so far, the latest first. -/
  fields : List (List Glyph)
  /-- The current one, its latest character first. -/
  field : List Glyph
  /-- The latest field ended in a blank: blanks do not count, nor does one separator after them. -/
  afterBlank : Bool
  /-- In the latest region fields ended between arguments only. -/
  apart : Bool
  /-- How many more fields there may be; the last one takes in separators. -/
  room : Option Nat
  /-- What the last field is if only separators follow. -/
  cut : Option (List Glyph)

namespace Split

def start (room : Option Nat) : Split :=
  ⟨[], [], false, false, room, none⟩

/-- Takes in a character of a region that may be split. -/
def step (separators : List Char) (afterApart : Bool) (s : Split) (g : Glyph) : Split :=
  let separates := g.char?.any fun c => c == '\x00' || (!s.apart && separators.contains c)
  let blank := separates && g.char?.any isGapChar
  let more := g :: s.field
  if s.room = some 0 then
    if blank then { s with field := more, cut := s.cut.or (some s.field) }
    else
      { s with
        field := more, afterBlank := false
        cut := if separates && s.afterBlank then s.cut else none }
  else if s.afterBlank then
    if blank then { s with field := [] }
    else { s with field := if separates then [] else [g], afterBlank := false }
  else if ¬ separates then { s with field := more }
  else
    let blank := blank && !(afterApart || s.apart)
    if s.field.isEmpty ∧ blank then s
    else
      match s.room with
      | some 1 => { s with room := some 0, cut := some s.field, field := more, afterBlank := blank }
      | room =>
        { s with
          fields := s.field :: s.fields, field := []
          room := room.map (· - 1), afterBlank := blank }

def chunk (separators : List Char) (s : Split) (c : Chunk) : Split :=
  match c.region with
  | .whole => { s with field := c.glyphs.reverse ++ s.field }
  | region =>
    let afterApart := s.apart
    c.glyphs.foldl (step separators afterApart)
      { s with afterBlank := false, apart := region = .apart }

/-- The fields, at the end. An empty one behind the last separator does not count, unless it is an
argument. -/
def finish (s : Split) : List (List Glyph) :=
  let field := if s.apart then s.field else s.cut.getD s.field
  let fields := if field.isEmpty ∧ ¬ s.apart then s.fields else field :: s.fields
  fields.reverse.map List.reverse

end Split

/-- The fields of an expanded word, at most `room` of them. -/
def fieldsOf (separators : List Char) (room : Option Nat) (cs : List Chunk) : List (List Mark) :=
  (cs.foldl (Split.chunk separators) (.start room)).finish.map (·.filterMap Glyph.mark?)

/-! ### Parts of a value -/

/-- The text without the part in front that a pattern matches. Where there are several arguments,
a match ends at the latest with the first. -/
def trimFront (longest : Bool) (pattern s : List Char) : List Char :=
  let ps := pieces pattern.length pattern
  let first := s.takeWhile (· ≠ '\x00')
  let counts :=
    if longest then (List.range (s.length + 1)).reverse else List.range (first.length + 1)
  match counts.find? fun n => matchesPieces ps (first.take n) with
  | some n => s.drop n
  | none => s

/-- The text without the part at its end that a pattern matches. Where there are several arguments,
a match may lie at the end of any of them, and what follows it goes too. -/
def trimBack (longest : Bool) (pattern s : List Char) : List Char :=
  let ps := pieces pattern.length pattern
  let first := s.takeWhile (· ≠ '\x00')
  let counts :=
    if longest then List.range (first.length + 1) else (List.range (s.length + 1)).reverse
  match counts.find? fun n => matchesPieces ps ((s.drop n).takeWhile (· ≠ '\x00')) with
  | some n => s.take n
  | none => s

end DockLint.Shell
