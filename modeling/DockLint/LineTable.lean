import DockLint.Span

/-!
# Line tables

A line table lists where each line of a document starts and stops, in characters and without the
terminator. LF, CR LF and a lone CR end a line; the last line is listed even when it is empty.
`LineTable.span` answers which characters a reported line number names.
-/

namespace DockLint

/-- The offsets of a line's first character and of what follows its last one. -/
structure Extent where
  start : Nat
  stop : Nat
  deriving DecidableEq, Repr, Inhabited

/-- The line table of a document. One made by hand may be inconsistent. -/
structure LineTable where
  lines : List Extent
  /-- The number of characters of the document. -/
  size : Nat
  deriving DecidableEq, Repr

namespace LineTable

/-- A table under construction. -/
structure Scan where
  /-- The lines ended so far, latest first. -/
  ended : List Extent
  start : Nat
  offset : Nat
  /-- The last character was a CR. -/
  afterReturn : Bool
  deriving DecidableEq, Repr

namespace Scan

def init : Scan := ⟨[], 0, 0, false⟩

def step (s : Scan) (c : Char) : Scan :=
  if c = '\n' ∧ s.afterReturn then
    { s with start := s.offset + 1, offset := s.offset + 1, afterReturn := false }
  else if c = '\n' ∨ c = '\r' then
    { ended := ⟨s.start, s.offset⟩ :: s.ended, start := s.offset + 1, offset := s.offset + 1,
      afterReturn := c = '\r' }
  else { s with offset := s.offset + 1, afterReturn := false }

def finish (s : Scan) : LineTable :=
  ⟨(⟨s.start, s.offset⟩ :: s.ended).reverse, s.offset⟩

end Scan

def ofChars (cs : List Char) : LineTable :=
  (cs.foldl Scan.step Scan.init).finish

def ofText (text : String) : LineTable :=
  ofChars text.toList

def count (t : LineTable) : Nat :=
  t.lines.length

/-- A line was asked for that the table does not list. -/
structure OutOfBounds where
  count : Nat
  index : Nat
  deriving DecidableEq, Repr

def OutOfBounds.message (e : OutOfBounds) : String :=
  "index out of bounds: the len is " ++ toString e.count ++ " but the index is " ++ toString e.index

/-- Line `index`, counted from 0. -/
def line (t : LineTable) (index : Nat) : Except OutOfBounds Extent :=
  if h : index < t.lines.length then .ok (t.lines.get ⟨index, h⟩)
  else .error ⟨t.lines.length, index⟩

/-- Why a line number has no span. -/
inductive Fault where
  | zero
  | outside (line count : Nat)
  /-- The line has no characters. -/
  | empty
  | pastEnd (line : Nat) (span : Span) (size : Nat)
  deriving DecidableEq, Repr

/-- What is reported of a fault; an empty line is nothing to report. -/
def Fault.message? : Fault → Option String
  | zero => some "Invalid line 0 in document"
  | outside line count =>
    some ("Line " ++ toString line ++ " is outside the document (" ++ toString count ++ " lines)")
  | empty => none
  | pastEnd line span size =>
    some ("Line " ++ toString line ++ " spans " ++ span.text ++ " past the end of the document (" ++
      toString size ++ " chars)")

/-- The span of the line with the given number, counted from 1. -/
def span (t : LineTable) (number : Nat) : Except Fault Span :=
  match number with
  | 0 => .error .zero
  | index + 1 =>
    if h : index < t.lines.length then
      let extent := t.lines.get ⟨index, h⟩
      match Span.ofBounds? extent.start extent.stop with
      | none => .error .empty
      | some span => if span.fits t.size then .ok span else .error (.pastEnd number span t.size)
    else .error (.outside number t.count)

end LineTable

end DockLint
