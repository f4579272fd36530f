import DockLint.Regex.Basic
import DockLint.Regex.Source
import DockLint.Unicode.Query

/-!
# Escapes

What a backslash begins: a character by its name or number, a class or a condition on a place.
-/

namespace DockLint.Regex

/-! ### Classes of characters -/

/-- Classes by the names they have within brackets. -/
def asciiClasses : List (String × List (Char × Char)) :=
  [("alnum", [('0', '9'), ('A', 'Z'), ('a', 'z')]), ("alpha", [('A', 'Z'), ('a', 'z')]),
    ("ascii", [('\x00', '\x7f')]), ("blank", [('\t', '\t'), (' ', ' ')]),
    ("cntrl", [('\x00', '\x1f'), ('\x7f', '\x7f')]), ("digit", [('0', '9')]),
    ("graph", [('!', '~')]), ("lower", [('a', 'z')]), ("print", [(' ', '~')]),
    ("punct", [('!', '/'), (':', '@'), ('[', '\x60'), ('\x7b', '~')]),
    ("space", [('\t', '\r'), (' ', ' ')]), ("upper", [('A', 'Z')]),
    ("word", [('0', '9'), ('A', 'Z'), ('_', '_'), ('a', 'z')]),
    ("xdigit", [('0', '9'), ('A', 'F'), ('a', 'f')])]

def asciiClass (name : String) : CharSet :=
  CharSet.ofRanges ((asciiClasses.lookup name).getD [])

def wordSet (f : Flags) : CharSet :=
  if f.unicode then .word else asciiClass "word"

/-- The class of a letter behind a backslash. -/
def letterClass (f : Flags) (letter : Char) : CharSet :=
  match letter with
  | 'd' => if f.unicode then .digit else asciiClass "digit"
  | 's' => if f.unicode then .blank else asciiClass "space"
  | _ => wordSet f

/-- The text in front of the first of some separators, and behind it. -/
def splitAt? (separator text : List Char) : Option (List Char × List Char) :=
  match text with
  | [] => none
  | c :: rest =>
    if separator.isPrefixOf text then some ([], text.drop separator.length)
    else (splitAt? separator rest).map fun (front, behind) => (c :: front, behind)

/-- A property and a value stand around one of these; the first one that there is counts. -/
def valueSeparators : List String := ["!=", ":", "="]

/-- Some characters, or all others. -/
structure PropertyClass where
  ranges : Unicode.Ranges
  negated : Bool

/-- The class that a name or a property with a value stands for. -/
def propertyClass (text : List Char) : Except Mistake PropertyClass :=
  let found : Except Unicode.Missing PropertyClass :=
    match valueSeparators.findSome? fun s => (splitAt? s.toList text).map ((s, ·)) with
    | some (separator, property, value) =>
      (Unicode.classOf property value).map fun rs => ⟨rs, separator == "!="⟩
    | none => (Unicode.classNamed text).map fun rs => ⟨rs, false⟩
  match found with
  | .ok c => .ok c
  | .error .property => .error .unknownProperty
  | .error .value => .error .unknownValue

/-! ### Escapes -/

/-- What stands behind a backslash, or for itself. -/
inductive Atom where
  /-- A character; that of a byte may have been given by two hexadecimal digits. -/
  | literal (c : Char) (byte : Bool)
  | set (s : CharSet)
  | look (l : Look)

def metaChars : List Char :=
  ['\\', '.', '+', '*', '?', '(', ')', '|', '[', ']', '\x7b', '\x7d', '^', '$', '#', '&', '-', '~']

/-- A character of a set, whose case may not count. -/
def literalSet (f : Flags) (c : Char) : CharSet :=
  let s := CharSet.single c
  if ¬ f.anyCase then s
  else if f.unicode then .anyCase s
  else if c.toNat < 0x80 then .inter (.anyCase s) .ascii
  else s

def hexValue (ds : List Char) : Nat :=
  ds.foldl (fun n c =>
    n * 16 + (if c.isDigit then c.toNat - 0x30 else c.toLower.toNat - 0x57)) 0

def isHex (c : Char) : Bool :=
  c.isDigit || ('a' ≤ c.toLower && c.toLower ≤ 'f')

/-- The character of a number. -/
def scalar? (n : Nat) : Option Char :=
  if n < 0x110000 ∧ ¬ (0xd800 ≤ n ∧ n < 0xe000) then some (Char.ofNat n) else none

/-- So many hexadecimal digits more. -/
def hexDigits (first : Bool) (acc : List Char) : Nat → Reader (List Char)
  | 0 => return acc.reverse
  | n + 1 => do
    unless first do bumpSpaced
    match ← peek with
    | none => fail (← place) (← place) .openEscape
    | some c =>
      unless isHex c do fail (← place) (← placeBehind) .badHexDigit
      hexDigits false (c :: acc) n

/-- A character by its number, behind the letter that announces it. -/
def hexEscape (letter : Char) : Reader Atom := do
  bumpSpaced
  match ← peek with
  | none => fail (← place) (← place) .openEscape
  | some '\x7b' =>
    let brace ← place
    let first ← placeBehind
    bumpSpaced
    let ds ← takeWhile isHex [] ((← get).rest.length + 1)
    match ← peek with
    | none => fail brace (← place) .openEscape
    | some '\x7d' =>
      let last ← place
      bumpSpaced
      if ds.isEmpty then fail brace (← place) .emptyHex
      match scalar? (hexValue ds) with
      | some c => return .literal c false
      | none => fail first last .badHex
    | some _ => fail (← place) (← placeBehind) .badHexDigit
  | some _ =>
    let first ← place
    let count := if letter = 'x' then 2 else if letter = 'u' then 4 else 8
    let ds ← hexDigits true [] count
    bumpSpaced
    match scalar? (hexValue ds) with
    | some c => return .literal c (letter == 'x')
    | none => fail first (← place) .badHex

/-- A class by a property, behind the letter that announces it. -/
def propertyEscape (start : Place) (letter : Char) : Reader Atom := do
  bumpSpaced
  let name ← match ← peek with
    | none => fail (← place) (← place) .openEscape
    | some '\x7b' => do
      bumpSpaced
      let name ← takeWhile (· ≠ '\x7d') [] ((← get).rest.length + 1)
      if (← peek).isNone then fail (← place) (← place) .openEscape
      bump
      pure name
    | some c => do
      if c = '\\' then fail (← place) (← placeBehind) .badProperty
      bumpSpaced
      pure [c]
  let f := (← get).flags
  let span : Span := ⟨start, ← place⟩
  if ¬ f.unicode then note span .noUnicode
  match propertyClass name with
  | .ok c =>
    let s := CharSet.listed (if f.anyCase then Unicode.anyCase c.ranges else c.ranges)
    return .set (if c.negated = (letter == 'P') then s else .complement s)
  | .error m =>
    note span m
    return .set .none

/-- A condition on words behind `\b`, which may be named in braces. -/
def boundaryEscape (start : Place) : Reader Look := do
  let words := wordSet (← get).flags
  let isNameChar (c : Char) : Bool := c.isAlpha || c == '-'
  if (← peek) ≠ some '\x7b' then return .wordBoundary words
  let before ← get
  bumpSpaced
  match ← peek with
  | none => fail start (← place) .openBoundaryOrCount
  | some c =>
    if ¬ isNameChar c then
      modify fun _ => before
      return .wordBoundary words
    let first ← place
    let name ← takeWhile isNameChar [] ((← get).rest.length + 1)
    if (← peek) ≠ some '\x7d' then fail before.place (← place) .openBoundary
    let last ← place
    bump
    match String.ofList name with
    | "start" => return .wordStart words
    | "end" => return .wordEnd words
    | "start-half" => return .wordStartHalf words
    | "end-half" => return .wordEndHalf words
    | _ => fail first last .unknownBoundary

/-- What a backslash begins. -/
def escape : Reader Atom := do
  let start ← place
  bump
  match ← peek with
  | none => fail start (← place) .openEscape
  | some c =>
    let behind ← placeBehind
    let f := (← get).flags
    if c.isDigit then fail start behind .backreference
    if ['x', 'u', 'U'].contains c then return ← hexEscape c
    if ['p', 'P'].contains c then return ← propertyEscape start c
    bump
    if ['d', 's', 'w'].contains c then return .set (letterClass f c)
    if ['D', 'S', 'W'].contains c then
      if ¬ f.unicode then note ⟨start, behind⟩ .notUtf8
      return .set (.complement (letterClass f c.toLower))
    if metaChars.contains c then return .literal c false
    let plain := c.toNat < 0x80 && !c.isAlphanum && c != '<' && c != '>'
    if plain then return .literal c false
    match c with
    | 'a' => return .literal '\x07' false
    | 'f' => return .literal '\x0c' false
    | 't' => return .literal '\t' false
    | 'n' => return .literal '\n' false
    | 'r' => return .literal '\r' false
    | 'v' => return .literal '\x0b' false
    | 'A' => return .look .textStart
    | 'z' => return .look .textEnd
    | 'b' => return .look (← boundaryEscape start)
    | 'B' => return .look (.noWordBoundary (wordSet f))
    | '<' => return .look (.wordStart (wordSet f))
    | '>' => return .look (.wordEnd (wordSet f))
    | _ => fail start behind .unknownEscape

end DockLint.Regex
