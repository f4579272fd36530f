import DockLint.Json.Fault
import DockLint.Json.Number
import DockLint.Text.Utf8

/-!
# Reading JSON

A reader takes the characters from a value's first one on and yields the value with what follows
it, or stops where the text departs from the grammar. Recursion is on the nesting still allowed,
`maxNesting` at the start: a deeper text is refused.

`Json.read` accepts a text that is one value between blanks; `Json.readLeading` reads an array at
the front of a text and returns the rest unseen.
-/

namespace DockLint.Json

/-- Arrays and objects nest at most this deep, the outermost counted. -/
def maxNesting : Nat := 127

def isSpace (c : Char) : Bool :=
  c == ' ' || c == '\t' || c == '\n' || c == '\r'

def skipSpace (s : List Char) : List Char :=
  s.dropWhile isSpace

/-- Why and where a reader stops: `count` bytes into `rest`, if there are so many. -/
structure Stop where
  cause : Cause
  rest : List Char
  count : Nat
  deriving Repr

/-- A reader of one thing at the front of a text. -/
abbrev Reader (α : Type) := List Char → Except Stop (α × List Char)

/-- Stops in front of a text. -/
def stopAt {α : Type} (cause : Cause) (rest : List Char) : Except Stop α :=
  .error ⟨cause, rest, 0⟩

/-- Stops behind the first byte of a text. -/
def stopIn {α : Type} (cause : Cause) (rest : List Char) : Except Stop α :=
  .error ⟨cause, rest, 1⟩

/-- The fault in a text whose reader has stopped. -/
def Stop.fault (stop : Stop) (s : List Char) : Fault :=
  let bytes := Text.Utf8.encode s
  let front := bytes.length - (Text.Utf8.encode stop.rest).length
  .after stop.cause bytes (min bytes.length (front + stop.count))

/-! ### Numbers -/

namespace Literal

/-- A run of digits, at least one, where a value may not end. -/
def digits : Reader (List Char) := fun s =>
  match s with
  | [] => stopAt .openValue s
  | c :: _ =>
    if c.isDigit then .ok (s.takeWhile Char.isDigit, s.dropWhile Char.isDigit)
    else stopIn .badNumber s

/-- Digits without a needless leading zero. -/
def readWhole : Reader (List Char) := fun s =>
  match s with
  | '0' :: rest =>
    match rest with
    | c :: _ => if c.isDigit then stopIn .badNumber rest else .ok (['0'], rest)
    | [] => .ok (['0'], rest)
  | s => digits s

def readFraction : Reader (Option (List Char))
  | '.' :: s => do
    let (ds, rest) ← digits s
    return (some ds, rest)
  | s => .ok (none, s)

def exponentDigits (down : Bool) : Reader (Option (Bool × List Char)) := fun s => do
  let (ds, rest) ← digits s
  return (some (down, ds), rest)

def readExponent : Reader (Option (Bool × List Char))
  | c :: s =>
    if c = 'e' ∨ c = 'E' then
      match s with
      | '+' :: s => exponentDigits false s
      | '-' :: s => exponentDigits true s
      | s => exponentDigits false s
    else .ok (none, c :: s)
  | [] => .ok (none, [])

def unsigned (negative : Bool) : Reader Literal := fun s => do
  let (whole, s) ← readWhole s
  let (fraction, s) ← readFraction s
  let (exponent, s) ← readExponent s
  return (⟨negative, whole, fraction, exponent⟩, s)

def read : Reader Literal
  | '-' :: s => unsigned true s
  | s => unsigned false s

/-- The digits behind the one that makes an exponent too large. -/
def surplus (n : Nat) : List Char → List Char
  | [] => []
  | c :: rest =>
    let next := n * 10 + digitValue c
    if next ≤ maxExponent then surplus next rest else rest

/-- The digits of a literal that are not needed to see that it is too large. -/
def unneeded (l : Literal) : List Char :=
  match l.exponent with
  | some (_, ds) => surplus 0 ds
  | none => []

end Literal

def number : Reader Json := fun s => do
  let (l, rest) ← Literal.read s
  match l.value? with
  | some n => return (num n, rest)
  | none => stopAt .hugeNumber (l.unneeded ++ rest)

/-! ### Strings -/

def hexValue? (c : Char) : Option Nat :=
  if c.isDigit then some (c.toNat - 0x30)
  else if 'a' ≤ c ∧ c ≤ 'f' then some (c.toNat - 0x57)
  else if 'A' ≤ c ∧ c ≤ 'F' then some (c.toNat - 0x37)
  else none

def isLeadingSurrogate (n : Nat) : Bool := 0xD800 ≤ n && n ≤ 0xDBFF

def isTrailingSurrogate (n : Nat) : Bool := 0xDC00 ≤ n && n ≤ 0xDFFF

/-- The character a one-letter escape stands for. -/
def unescape? (c : Char) : Option Char :=
  match c with
  | '\x22' => some '\x22'
  | '\\' => some '\\'
  | '/' => some '/'
  | 'b' => some '\x08'
  | 'f' => some '\x0c'
  | 'n' => some '\n'
  | 'r' => some '\r'
  | 't' => some '\t'
  | _ => none

/-- Within a string, where the next character stands. -/
inductive Place where
  | plain
  /-- After a backslash. -/
  | escape
  /-- The four digits of a code unit are at the front of `digits`: `owed` of them are to come, and
  `bits` are those read so far; `high` is the leading surrogate before it. -/
  | unit (digits : List Char) (owed bits : Nat) (high : Option Nat)
  /-- A leading surrogate needs a backslash. -/
  | pair (high : Nat)
  /-- And then a `u`. -/
  | pairUnit (high : Nat)
  deriving DecidableEq, Repr

/-- Reading part of a string goes on at a place, with a character more or without, or ends it. -/
inductive Step where
  | go (place : Place)
  | emit (c : Char)
  | close
  | refuse (stop : Stop)
  deriving Repr

/-- A code unit is complete in front of `rest`. -/
def unitStep (n : Nat) (rest : List Char) : Option Nat → Step
  | none =>
    if isLeadingSurrogate n then .go (.pair n)
    else if isTrailingSurrogate n then .refuse ⟨.loneSurrogate, rest, 0⟩
    else .emit (Char.ofNat n)
  | some high =>
    if isTrailingSurrogate n then
      .emit (Char.ofNat (0x10000 + (high - 0xD800) * 0x400 + (n - 0xDC00)))
    else .refuse ⟨.loneSurrogate, rest, 0⟩

/-- Four bytes are taken for digits, if there are so many. -/
def badUnit (digits : List Char) : Stop :=
  if (Text.Utf8.encode (digits.take 4)).length < 4 then ⟨.openString, [], 0⟩
  else ⟨.badEscape, digits, 4⟩

/-- What becomes of the character `c` in front of `rest`. -/
def stringStep (c : Char) (rest : List Char) : Place → Step
  | .plain =>
    if c = '\x22' then .close
    else if c = '\\' then .go .escape
    else if c.toNat < 0x20 then .refuse ⟨.controlCharacter, rest, 0⟩
    else .emit c
  | .escape =>
    if c = 'u' then .go (.unit rest 4 0 none)
    else match unescape? c with
      | some d => .emit d
      | none => .refuse ⟨.badEscape, c :: rest, 1⟩
  | .unit digits owed bits high =>
    match hexValue? c with
    | none => .refuse (badUnit digits)
    | some d =>
      if owed ≤ 1 then unitStep (bits * 16 + d) rest high
      else .go (.unit digits (owed - 1) (bits * 16 + d) high)
  | .pair high => if c = '\\' then .go (.pairUnit high) else .refuse ⟨.brokenPair, c :: rest, 1⟩
  | .pairUnit high =>
    if c = 'u' then .go (.unit rest 4 0 (some high)) else .refuse ⟨.brokenPair, c :: rest, 1⟩

/-- Reads on in a string; `acc` holds its characters so far, latest first. -/
def stringFrom (place : Place) (acc : List Char) : Reader (List Char)
  | [] => stopAt .openString []
  | c :: rest =>
    match stringStep c rest place with
    | .go place => stringFrom place acc rest
    | .emit d => stringFrom .plain (d :: acc) rest
    | .close => .ok (acc.reverse, rest)
    | .refuse stop => .error stop

/-- The string whose opening quote has been read. -/
def string (s : List Char) : Except Stop (List Char × List Char) :=
  stringFrom .plain [] s

/-! ### Arrays and objects -/

/-- A pair of brackets around items. -/
structure Brackets where
  close : Char
  /-- The text ends before the closing bracket. -/
  unclosed : Cause
  /-- Something else follows an item. -/
  noComma : Cause

def Brackets.array : Brackets := ⟨']', .openArray, .noCommaInArray⟩

def Brackets.object : Brackets := ⟨'\x7d', .openObject, .noCommaInObject⟩

/-- What follows an item: another one or the closing bracket. -/
inductive Next where
  | more (rest : List Char)
  | done (rest : List Char)

def next (b : Brackets) (s : List Char) : Except Stop Next :=
  match skipSpace s with
  | [] => stopAt b.unclosed []
  | c :: rest =>
    if c = ',' then
      match skipSpace rest with
      | [] => stopAt .openValue []
      | d :: rest =>
        if d = b.close then stopIn .trailingComma (d :: rest) else .ok (.more (d :: rest))
    else if c = b.close then .ok (.done rest)
    else stopIn b.noComma (c :: rest)

/-- Items between commas up to the closing bracket, at least one; `acc` holds those read, latest
first. Each step uses up a character, so fuel of the length of the text and one more is enough. -/
def itemsFrom {α : Type} (item : Reader α) (b : Brackets) (acc : List α) : Nat → Reader (List α)
  | 0, s => stopAt b.unclosed s
  | fuel + 1, s => do
    let (x, s) ← item s
    match ← next b s with
    | .done rest => return ((x :: acc).reverse, rest)
    | .more rest => itemsFrom item b (x :: acc) fuel rest

/-- The items of an array or object whose opening bracket has been read. -/
def items {α : Type} (fuel : Nat) (item : Reader α) (b : Brackets) : Reader (List α) := fun s =>
  match skipSpace s with
  | [] => stopAt b.unclosed []
  | c :: rest =>
    if c = b.close then .ok ([], rest) else itemsFrom item b [] fuel (c :: rest)

def member (value : Reader Json) : Reader (String × Json) := fun s =>
  match skipSpace s with
  | '\x22' :: s => do
    let (key, s) ← string s
    match skipSpace s with
    | ':' :: s =>
      let (v, rest) ← value s
      return ((String.ofList key, v), rest)
    | [] => stopAt .openObject []
    | s => stopIn .noColon s
  | s => stopIn .badKey s

/-- Takes the letters of a word off the front of a text. -/
def letters (v : Json) : List Char → Reader Json
  | [], s => .ok (v, s)
  | _ :: _, [] => stopAt .openValue []
  | l :: ls, c :: rest => if c = l then letters v ls rest else stopIn .badWord (c :: rest)

/-- A value that holds no others. -/
def scalar : Reader Json := fun s =>
  match s with
  | [] => stopAt .openValue []
  | c :: rest =>
    if c = '\x22' then do
      let (cs, rest) ← string rest
      return (str (String.ofList cs), rest)
    else if c = 'n' then letters null "ull".toList rest
    else if c = 't' then letters (bool true) "rue".toList rest
    else if c = 'f' then letters (bool false) "alse".toList rest
    else if c = '-' ∨ c.isDigit then number s
    else stopIn .noValue s

/-- A value after blanks, with at most `nesting` arrays and objects around each other, none of which
has more than `fuel` items. -/
def value (fuel nesting : Nat) : Reader Json := fun s =>
  match nesting, skipSpace s with
  | 0, '[' :: s => stopIn .tooDeep ('[' :: s)
  | 0, '\x7b' :: s => stopIn .tooDeep ('\x7b' :: s)
  | n + 1, '[' :: s => do
    let (xs, rest) ← items fuel (value fuel n) .array s
    return (arr xs, rest)
  | n + 1, '\x7b' :: s => do
    let (ms, rest) ← items fuel (member (value fuel n)) .object s
    return (ofMembers ms, rest)
  | _, s => scalar s

/-- The array at the front of a text. -/
def leadingArray (fuel : Nat) : Reader (List Json) := fun s =>
  match skipSpace s with
  | '[' :: s => items fuel (value fuel (maxNesting - 1)) .array s
  | '\x7b' :: s => stopAt (.noArray (obj [])) ('\x7b' :: s)
  | s => do
    let (v, rest) ← scalar s
    stopAt (.noArray v) rest

/-- The value a text is. -/
def read (s : List Char) : Except Fault Json :=
  match value (s.length + 1) maxNesting s with
  | .error stop => .error (stop.fault s)
  | .ok (v, rest) =>
    match skipSpace rest with
    | [] => .ok v
    | rest => .error (Stop.fault ⟨.trailingText, rest, 1⟩ s)

/-- The elements of the array at the front of a text, and what follows its bracket. -/
def readLeading (s : List Char) : Except Fault (List Json × List Char) :=
  (leadingArray (s.length + 1) s).mapError fun stop => stop.fault s

end DockLint.Json
