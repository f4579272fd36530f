/-!
# Mistakes in regular expressions

What can be wrong with the text of a regular expression, where, and how that is shown.
-/

namespace DockLint.Regex

/-- A place in the text: the number of its line and of its column, both from one on. -/
structure Place where
  line : Nat
  column : Nat
  deriving DecidableEq, Repr

namespace Place

def start : Place := ⟨1, 1⟩

/-- The place behind a character. -/
def next (p : Place) (c : Char) : Place :=
  if c = '\n' then ⟨p.line + 1, 1⟩ else ⟨p.line, p.column + 1⟩

end Place

/-- A part of the text, up to the place behind it. -/
structure Span where
  first : Place
  last : Place
  deriving DecidableEq, Repr

/-- The first of the parts of a text at every depth, from the outermost one on. -/
abbrev Nesting := List Span

namespace Nesting

/-- Two texts beside each other. -/
def beside : Nesting → Nesting → Nesting
  | [], b => b
  | a, [] => a
  | x :: a, _ :: b => x :: beside a b

/-- A part around others. -/
def around (span : Span) (parts : List Nesting) : Nesting :=
  span :: parts.foldl beside []

end Nesting

/-- Groups, brackets, repetitions, choices and sequences nest at most this deep. -/
def maxNesting : Nat := 250

inductive Mistake where
  | badEscapeInClass
  | emptyClassRange
  | badClassRange
  | openClass
  | badNumber
  | emptyHex
  | badHex
  | badHexDigit
  | openEscape
  | unknownEscape
  | danglingNegation
  | repeatedFlag (first : Span)
  | repeatedNegation (first : Span)
  | openFlags
  | unknownFlag
  | repeatedName (first : Span)
  | emptyName
  | badName
  | openName
  | openGroup
  | unopenedGroup
  | emptyCount
  | noCount
  | openCount
  | nothingToRepeat
  | openBoundary
  | unknownBoundary
  | openBoundaryOrCount
  | badProperty
  | backreference
  | lookAround
  | noUnicode
  | notUtf8
  | unknownProperty
  | unknownValue
  | tooNested
  deriving DecidableEq, Repr

namespace Mistake

def message : Mistake → String
  | badEscapeInClass => "invalid escape sequence found in character class"
  | emptyClassRange => "invalid character class range, the start must be <= the end"
  | badClassRange => "invalid range boundary, must be a literal"
  | openClass => "unclosed character class"
  | badNumber => "decimal literal invalid"
  | emptyHex => "hexadecimal literal empty"
  | badHex => "hexadecimal literal is not a Unicode scalar value"
  | badHexDigit => "invalid hexadecimal digit"
  | openEscape => "incomplete escape sequence, reached end of pattern prematurely"
  | unknownEscape => "unrecognized escape sequence"
  | danglingNegation => "dangling flag negation operator"
  | repeatedFlag _ => "duplicate flag"
  | repeatedNegation _ => "flag negation operator repeated"
  | openFlags => "expected flag but got end of regex"
  | unknownFlag => "unrecognized flag"
  | repeatedName _ => "duplicate capture group name"
  | emptyName => "empty capture group name"
  | badName => "invalid capture group character"
  | openName => "unclosed capture group name"
  | openGroup => "unclosed group"
  | unopenedGroup => "unopened group"
  | emptyCount => "invalid repetition count range, the start must be <= the end"
  | noCount => "repetition quantifier expects a valid decimal"
  | openCount => "unclosed counted repetition"
  | nothingToRepeat => "repetition operator missing expression"
  | openBoundary =>
    "special word boundary assertion is either unclosed or contains an invalid character"
  | unknownBoundary =>
    "unrecognized special word boundary assertion, valid choices are: start, end, start-half or " ++
      "end-half"
  | openBoundaryOrCount =>
    "found either the beginning of a special word boundary or a bounded repetition on a \\b " ++
      "with an opening brace, but no closing brace"
  | badProperty => "invalid Unicode character class"
  | backreference => "backreferences are not supported"
  | lookAround => "look-around, including look-ahead and look-behind, is not supported"
  | noUnicode => "Unicode not allowed here"
  | notUtf8 => "pattern can match invalid UTF-8"
  | unknownProperty => "Unicode property not found"
  | unknownValue => "Unicode property value not found"
  | tooNested =>
    "exceed the maximum number of nested parentheses/brackets (" ++ toString maxNesting ++ ")"

/-- Another part of the text that the mistake has to do with. -/
def other? : Mistake → Option Span
  | repeatedFlag s | repeatedNegation s | repeatedName s => some s
  | _ => none

end Mistake

structure Fault where
  span : Span
  mistake : Mistake
  deriving DecidableEq, Repr

namespace Fault

/-- The lines of a text, the ends left out: a line feed, and a carriage return in front of it. -/
def linesOf (s : List Char) : List (List Char) :=
  let pieces := s.splitOn '\n'
  let ended := pieces.dropLast.map fun l => if l.getLast? = some '\r' then l.dropLast else l
  ended ++ (pieces.getLast?.filter (· ≠ [])).toList

/-- Marks below a line, from a column on. -/
def marks (column : Nat) : List Span → List Char
  | [] => []
  | s :: rest =>
    let gap := s.first.column - column
    let width := max 1 (s.last.column - s.first.column)
    List.replicate gap ' ' ++ List.replicate width '^' ++ marks (column + gap + width) rest

def before (a b : Span) : Bool :=
  a.first.line < b.first.line ||
    (a.first.line == b.first.line && a.first.column ≤ b.first.column)

/-- The text with the faulty parts marked in it. -/
def report (f : Fault) (text : List Char) : String :=
  let spans := (f.span :: f.mistake.other?.toList).mergeSort before
  let (short, long) := spans.partition fun s => s.first.line == s.last.line
  let lines := linesOf text
  let count := lines.length + if text.getLast? = some '\n' then 1 else 0
  let width := if count ≤ 1 then 0 else (toString count).length
  let shown := (lines.zipIdx 1).map fun (l, n) =>
    let number := (toString n).toList
    let front :=
      if width = 0 then List.replicate 4 ' '
      else List.replicate (width - number.length) ' ' ++ number ++ [':', ' ']
    let here := short.filter fun s => s.first.line == n
    let below :=
      if here.isEmpty then []
      else List.replicate (if width = 0 then 4 else width + 2) ' ' ++ marks 1 here ++ ['\n']
    front ++ l ++ '\n' :: below
  let divider := if text.contains '\n' then List.replicate 79 '~' ++ ['\n'] else []
  let through (s : Span) : String :=
    "on line " ++ toString s.first.line ++ " (column " ++ toString s.first.column ++
      ") through line " ++ toString s.last.line ++ " (column " ++
      toString (s.last.column - 1) ++ ")"
  let notes :=
    if text.contains '\n' ∧ ¬ long.isEmpty then
      String.intercalate "\n" (long.map through) ++ "\n"
    else ""
  "regex parse error:\n" ++ String.ofList (divider ++ shown.flatten ++ divider) ++ notes ++
    "error: " ++ f.mistake.message

end Fault

end DockLint.Regex
