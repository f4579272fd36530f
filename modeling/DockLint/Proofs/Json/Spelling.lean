import DockLint.Json.Reader

/-!
# Spellings of JSON values

A `Spelling` is a JSON text as a tree, with every blank, escape and digit in it; `text` writes it
out. Every text of the grammar of RFC 8259 is that of a spelling, at any depth, with any numeral
and with surrogates in any order. `value?` is the value that a spelling stands for, none if a
numeral has no double or a surrogate has no partner.
-/

namespace DockLint.Json

/-! ### Blanks -/

/-- White space between tokens. -/
structure Blanks where
  chars : List Char
  isSpace : ∀ c ∈ chars, c = ' ' ∨ c = '\t' ∨ c = '\n' ∨ c = '\r'

def Blanks.none : Blanks := ⟨[], by simp⟩

/-! ### Strings -/

structure HexDigit where
  value : Fin 16
  /-- Whether a letter is a capital. -/
  capital : Bool
  deriving DecidableEq, Repr

def HexDigit.char (d : HexDigit) : Char :=
  if d.capital then d.value.val.digitChar.toUpper else d.value.val.digitChar

/-- Four hexadecimal digits, the first of the largest weight. -/
structure CodeUnit where
  a : HexDigit
  b : HexDigit
  c : HexDigit
  d : HexDigit
  deriving DecidableEq, Repr

namespace CodeUnit

def value (u : CodeUnit) : Nat :=
  ((u.a.value.val * 16 + u.b.value.val) * 16 + u.c.value.val) * 16 + u.d.value.val

def chars (u : CodeUnit) : List Char :=
  [u.a.char, u.b.char, u.c.char, u.d.char]

end CodeUnit

/-- The characters that have an escape of one letter. -/
inductive Shorthand where
  | quote | backslash | slash | backspace | formFeed | lineFeed | carriageReturn | tab
  deriving DecidableEq, Repr

namespace Shorthand

def letter : Shorthand → Char
  | quote => '\x22'
  | backslash => '\\'
  | slash => '/'
  | backspace => 'b'
  | formFeed => 'f'
  | lineFeed => 'n'
  | carriageReturn => 'r'
  | tab => 't'

def char : Shorthand → Char
  | quote => '\x22'
  | backslash => '\\'
  | slash => '/'
  | backspace => '\x08'
  | formFeed => '\x0c'
  | lineFeed => '\n'
  | carriageReturn => '\r'
  | tab => '\t'

end Shorthand

/-- A piece of a string between its quotes. -/
inductive Piece where
  | plain (c : Char) (h : c ≠ '\x22' ∧ c ≠ '\\' ∧ 0x20 ≤ c.toNat)
  | short (e : Shorthand)
  | unit (u : CodeUnit)

namespace Piece

def text : Piece → List Char
  | plain c _ => [c]
  | short e => ['\\', e.letter]
  | unit u => '\\' :: 'u' :: u.chars

/-- The character of a surrogate pair. -/
def combine (high low : Nat) : Char :=
  Char.ofNat (0x10000 + (high - 0xD800) * 0x400 + (low - 0xDC00))

/-- The characters that pieces stand for. Surrogates stand for one in pairs only. -/
def decode : List Piece → Option (List Char)
  | [] => some []
  | plain c _ :: ps => (decode ps).map (c :: ·)
  | short e :: ps => (decode ps).map (e.char :: ·)
  | unit u :: ps =>
    if isLeadingSurrogate u.value then
      match ps with
      | unit v :: ps =>
        if isTrailingSurrogate v.value then (decode ps).map (combine u.value v.value :: ·)
        else none
      | _ => none
    else if isTrailingSurrogate u.value then none
    else (decode ps).map (Char.ofNat u.value :: ·)

/-- Characters without an escape. -/
def plains (cs : List Char) (h : cs.all fun c => c ≠ '\x22' ∧ c ≠ '\\' ∧ 0x20 ≤ c.toNat) :
    List Piece :=
  cs.pmap plain fun c hc => of_decide_eq_true (List.all_eq_true.1 h c hc)

/-- A string with its quotes. -/
def quoted (ps : List Piece) : List Char :=
  '\x22' :: (ps.flatMap text ++ ['\x22'])

end Piece

/-! ### Numbers -/

def IsDigits (ds : List Char) : Prop :=
  ds ≠ [] ∧ ∀ c ∈ ds, c.isDigit = true

/-- Digits without a needless zero in front. -/
def IsWhole (ds : List Char) : Prop :=
  IsDigits ds ∧ (ds.head? = some '0' → ds = ['0'])

instance (ds : List Char) : Decidable (IsDigits ds) :=
  decidable_of_iff (ds ≠ [] ∧ ds.all Char.isDigit = true) (by rw [List.all_eq_true, IsDigits])

instance (ds : List Char) : Decidable (IsWhole ds) :=
  inferInstanceAs (Decidable (_ ∧ _))

/-- A number literal and how its exponent is written. -/
structure Numeral where
  literal : Literal
  /-- Whether the exponent is marked by a capital. -/
  capital : Bool
  /-- Whether an exponent that is not negative has a sign. -/
  plus : Bool
  whole : IsWhole literal.whole
  fraction : ∀ ds ∈ literal.fraction, IsDigits ds
  exponent : ∀ e ∈ literal.exponent, IsDigits e.2

namespace Numeral

def fractionText (n : Numeral) : List Char :=
  match n.literal.fraction with
  | none => []
  | some ds => '.' :: ds

def sign (n : Numeral) (down : Bool) : List Char :=
  if down then ['-'] else if n.plus then ['+'] else []

def exponentText (n : Numeral) : List Char :=
  match n.literal.exponent with
  | none => []
  | some (down, ds) => (if n.capital then 'E' else 'e') :: (n.sign down ++ ds)

def text (n : Numeral) : List Char :=
  (if n.literal.negative then ['-'] else []) ++
    (n.literal.whole ++ (n.fractionText ++ n.exponentText))

end Numeral

/-! ### Values -/

/-- The key of a member with the blanks up to the colon. -/
structure Key where
  before : Blanks
  pieces : List Piece
  after : Blanks

def Key.text (k : Key) : List Char :=
  k.before.chars ++ (Piece.quoted k.pieces ++ k.after.chars)

inductive Spelling where
  | null
  | bool (b : Bool)
  | num (n : Numeral)
  | str (ps : List Piece)
  /-- `inner` stands behind the opening bracket. -/
  | arr (inner : Blanks) (elements : List Spelling)
  | obj (inner : Blanks) (members : List (Key × Spelling))
  | padded (before : Blanks) (s : Spelling) (after : Blanks)

/-- Texts with commas between them. -/
def joined : List (List Char) → List Char
  | [] => []
  | [t] => t
  | t :: ts => t ++ ',' :: joined ts

namespace Spelling

mutual

def text : Spelling → List Char
  | null => ['n', 'u', 'l', 'l']
  | bool true => ['t', 'r', 'u', 'e']
  | bool false => ['f', 'a', 'l', 's', 'e']
  | num n => n.text
  | str ps => Piece.quoted ps
  | arr inner es => '[' :: (inner.chars ++ (joined (texts es) ++ [']']))
  | obj inner ms => '\x7b' :: (inner.chars ++ (joined (memberTexts ms) ++ ['\x7d']))
  | padded before s after => before.chars ++ (text s ++ after.chars)

def texts : List Spelling → List (List Char)
  | [] => []
  | s :: ss => text s :: texts ss

def memberTexts : List (Key × Spelling) → List (List Char)
  | [] => []
  | (k, s) :: ms => (k.text ++ ':' :: text s) :: memberTexts ms

end

mutual

/-- The value that a spelling stands for. -/
def value? : Spelling → Option Json
  | null => some .null
  | bool b => some (.bool b)
  | num n => n.literal.value?.map .num
  | str ps => (Piece.decode ps).map fun cs => .str (String.ofList cs)
  | arr _ es => (values? es).map .arr
  | obj _ ms => (members? ms).map ofMembers
  | padded _ s _ => value? s

def values? : List Spelling → Option (List Json)
  | [] => some []
  | s :: ss => (value? s).bind fun v => (values? ss).map (v :: ·)

def members? : List (Key × Spelling) → Option (List (String × Json))
  | [] => some []
  | (k, s) :: ms => (Piece.decode k.pieces).bind fun key => (value? s).bind fun v =>
      (members? ms).map ((String.ofList key, v) :: ·)

end

mutual

/-- How many arrays and objects are around each other. -/
def depth : Spelling → Nat
  | arr _ es => depths es + 1
  | obj _ ms => memberDepths ms + 1
  | padded _ s _ => depth s
  | _ => 0

def depths : List Spelling → Nat
  | [] => 0
  | s :: ss => max (depth s) (depths ss)

def memberDepths : List (Key × Spelling) → Nat
  | [] => 0
  | (_, s) :: ms => max (depth s) (memberDepths ms)

end

end Spelling

/-- What is around the elements of an array at the front of a text. -/
structure Frame where
  before : Blanks
  /-- Behind the opening bracket. -/
  inner : Blanks
  /-- Whatever follows the closing bracket. -/
  rest : List Char

namespace Frame

def text (f : Frame) (es : List Spelling) : List Char :=
  f.before.chars ++ '[' :: (f.inner.chars ++ (joined (Spelling.texts es) ++ ']' :: f.rest))

def output (f : Frame) (es : List Spelling) : String :=
  String.ofList (f.text es)

end Frame

end DockLint.Json
