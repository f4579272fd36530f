import DockLint.Decimal.Formatted
import DockLint.Shell.Arithmetic

/-!
# Commands that print

`echo`, and `printf` with the conversions of its formats.
-/

namespace DockLint.Shell

/-! ### Escapes -/

def isOctal (c : Char) : Bool :=
  '0' ≤ c && c ≤ '7'

def controlEscape? (c : Char) : Option Char :=
  match c with
  | '\\' => some '\\'
  | 'a' => some '\x07'
  | 'b' => some '\x08'
  | 'e' => some '\x1b'
  | 'f' => some '\x0c'
  | 'n' => some '\n'
  | 'r' => some '\r'
  | 't' => some '\t'
  | 'v' => some '\x0b'
  | _ => none

def octalByte (ds : List Char) : Char :=
  Char.ofNat (ds.foldl (fun n c => n * 8 + (c.toNat - 0x30)) 0 % 256)

/-- The character that an escape stands for, behind its backslash, and what follows it. A backslash
before any other character stands for itself. -/
def unescape (s : List Char) : Char × List Char :=
  let ds := (s.take 3).takeWhile isOctal
  match s with
  | [] => ('\\', [])
  | c :: rest =>
    if ds.isEmpty then
      match controlEscape? c with
      | some d => (d, rest)
      | none => ('\\', s)
    else (octalByte ds, s.drop ds.length)

/-- A text with its escapes undone, up to `\c`; whether that was met. A number may have a zero in
front of its three digits. Each step uses up a character. -/
def unescapeAll (acc : List Char) : Nat → List Char → List Char × Bool
  | 0, _ => (acc.reverse, false)
  | _, [] => (acc.reverse, false)
  | _ + 1, '\\' :: 'c' :: _ => (acc.reverse, true)
  | fuel + 1, '\\' :: '0' :: d :: rest =>
    let (x, s) := unescape (if isOctal d then d :: rest else '0' :: d :: rest)
    unescapeAll (x :: acc) fuel s
  | fuel + 1, '\\' :: rest =>
    let (x, s) := unescape rest
    unescapeAll (x :: acc) fuel s
  | fuel + 1, c :: rest => unescapeAll (c :: acc) fuel rest

/-- What `echo` prints. -/
def echoText (args : List (List Char)) : List Char :=
  let (newline, args) := match args with
    | ['-', 'n'] :: rest => (false, rest)
    | args => (true, args)
  let s := [' '].intercalate args
  let (out, stopped) := unescapeAll [] (s.length + 1) s
  if newline ∧ ¬ stopped then out ++ ['\n'] else out

/-! ### Numbers of arguments -/

/-- What is wrong with an argument that has to be a number. -/
inductive NumberFault where
  | noNumber
  /-- Something follows the number. -/
  | partly
  | outOfRange
  deriving DecidableEq, Repr

def NumberFault.message : NumberFault → String
  | noNumber => "expected numeric value"
  | partly => "not completely converted"
  | outOfRange => "Numerical result out of range"

/-- A number read from an argument. -/
structure Converted (α : Type) where
  value : α
  fault : Option NumberFault

/-- What is wrong, given what follows a number and whether it could be kept. -/
def faultOf (rest : List Char) (inRange : Bool) : Option NumberFault :=
  if ¬ rest.isEmpty then some .partly else if inRange then none else some .outOfRange

/-- The code of the character behind a quote, which an argument may start with. -/
def quotedCode? (arg : List Char) : Option Nat :=
  match arg with
  | '\x22' :: rest => some ((rest.head?.map Char.toNat).getD 0)
  | '\x27' :: rest => some ((rest.head?.map Char.toNat).getD 0)
  | _ => none

def emptyOrNoNumber {α : Type} (value : α) (arg : List Char) : Converted α :=
  ⟨value, if arg.isEmpty then none else some .noNumber⟩

def signedArgument (arg : List Char) : Converted Int :=
  match quotedCode? arg with
  | some n => ⟨n, none⟩
  | none =>
    match Arithmetic.numeral? false arg with
    | some n => ⟨n.value, faultOf n.rest n.inRange⟩
    | none => emptyOrNoNumber 0 arg

/-- The largest number of 64 bits without a sign. -/
def maxUnsigned : Nat := 0xffffffffffffffff

def unsignedArgument (arg : List Char) : Converted Nat :=
  match quotedCode? arg with
  | some n => ⟨n, none⟩
  | none =>
    match Arithmetic.signed? false arg with
    | some (negative, n, rest) =>
      let value :=
        if n > maxUnsigned then maxUnsigned
        else if negative then Arithmetic.bits (-(n : Int)) else n
      ⟨value, faultOf rest (n ≤ maxUnsigned)⟩
    | none => emptyOrNoNumber 0 arg

/-- Digits of a base with a point among them: their value, how many stand behind the point, how many
there are, and what follows. -/
def pointedDigits (base : Nat) (s : List Char) : Nat × Nat × Nat × List Char :=
  let (n, count, rest) := Arithmetic.digits base 0 0 s
  match rest with
  | '.' :: more =>
    let (n, all, rest) := Arithmetic.digits base n count more
    (n, all - count, all, rest)
  | rest => (n, 0, count, rest)

/-- An exponent behind its letter, and what follows; 0 if there is none. -/
def exponentAt (letter : Char) (s : List Char) : Int × List Char :=
  match s with
  | c :: rest =>
    if c.toLower = letter then
      let (negative, ds) := match rest with
        | '-' :: ds => (true, ds)
        | '+' :: ds => (false, ds)
        | ds => (false, ds)
      match Arithmetic.digits 10 0 0 ds with
      | (_, 0, _) => (0, s)
      | (n, _, rest) => (if negative then -n else n, rest)
    else (0, s)
  | [] => (0, s)

/-- Numbers with exponents beyond this, whatever their digits, are infinite or zero. -/
def exponentBound (digits : Nat) : Int :=
  5000 + 4 * digits

/-- `n · base ^ e` as a double, and whether that can hold it. -/
def realOf (negative : Bool) (n base : Nat) (e bound : Int) : Decimal.Real × Bool :=
  if n = 0 then (.finite ⟨negative, 0, -1074⟩, true)
  else if e > bound then (.infinite negative, false)
  else if e < -bound then (.finite ⟨negative, 0, -1074⟩, false)
  else
    let (num, den) := if e < 0 then (n, Nat.pow base (-e).toNat) else (n * Nat.pow base e.toNat, 1)
    match Decimal.Double.ofRatio? num den with
    | none => (.infinite negative, false)
    | some d =>
      let (p, q) := d.ratio
      let exact := p * den == num * q
      let full := d.mantissa ≥ Decimal.Double.leadingBit
      (.finite { d with negative }, full || exact)

/-- A word at the front in any letter case, and what follows it. -/
def wordAt? (word : String) (s : List Char) : Option (List Char) :=
  if (s.take word.length).map Char.toLower = word.toList then some (s.drop word.length) else none

/-- A floating point number at the front, whether it could be kept, and what follows. -/
def real? (s : List Char) : Option (Decimal.Real × Bool × List Char) :=
  let s := s.dropWhile Arithmetic.isSpace
  let (negative, s) := match s with
    | '-' :: s => (true, s)
    | '+' :: s => (false, s)
    | s => (false, s)
  let decimal : Option (Decimal.Real × Bool × List Char) :=
    match pointedDigits 10 s with
    | (_, _, 0, _) => none
    | (n, behind, count, rest) =>
      let (e, rest) := exponentAt 'e' rest
      let (r, kept) := realOf negative n 10 (e - behind) (exponentBound count)
      some (r, kept, rest)
  match wordAt? "infinity" s, wordAt? "inf" s, wordAt? "nan" s, s with
  | some rest, _, _, _ => some (.infinite negative, true, rest)
  | _, some rest, _, _ => some (.infinite negative, true, rest)
  | _, _, some rest, _ =>
    let inside := (rest.drop 1).takeWhile fun c => c.isAlphanum || c == '_'
    let after := rest.drop (inside.length + 1)
    let rest := if rest.head? = some '(' ∧ after.head? = some ')' then after.tail else rest
    some (.nan negative, true, rest)
  | _, _, _, '0' :: x :: ds =>
    if x.toLower = 'x' then
      match pointedDigits 16 ds with
      | (_, _, 0, _) => some (.finite ⟨negative, 0, -1074⟩, true, x :: ds)
      | (n, behind, count, rest) =>
        let (e, rest) := exponentAt 'p' rest
        let (r, kept) := realOf negative n 2 (e - 4 * behind) (exponentBound count)
        some (r, kept, rest)
    else decimal
  | _, _, _, _ => decimal

def realArgument (arg : List Char) : Converted Decimal.Real :=
  match quotedCode? arg with
  | some n => ⟨(realOf false n 10 0 0).1, none⟩
  | none =>
    match real? arg with
    | some (r, kept, rest) => ⟨r, faultOf rest kept⟩
    | none => emptyOrNoNumber (.finite Decimal.Double.zero) arg

/-! ### Conversions -/

/-- A conversion: how it is padded, and its letter. -/
structure Conversion where
  flags : List Char
  width : Nat
  precision : Option Nat
  letter : Char

def natOf (ds : List Char) : Nat :=
  ds.foldl (fun n c => n * 10 + (c.toNat - 0x30)) 0

namespace Conversion

def has (c : Conversion) (flag : Char) : Bool :=
  c.flags.contains flag

def pad (c : Conversion) (s : List Char) : List Char :=
  let n := c.width - s.length
  if c.has '-' then s ++ List.replicate n ' ' else List.replicate n ' ' ++ s

/-- Pads what follows a sign or the mark of a base, with zeros if these are asked for. -/
def padBehind (c : Conversion) (front s : List Char) : List Char :=
  if c.has '0' ∧ ¬ c.has '-' then
    front ++ List.replicate (c.width - front.length - s.length) '0' ++ s
  else c.pad (front ++ s)

/-- A whole number: the precision is the least count of digits, and where there is none zeros may
fill the width. -/
def padNumber (c : Conversion) (front digits : List Char) : List Char :=
  match c.precision with
  | some n =>
    let digits := if n = 0 ∧ digits = ['0'] then [] else digits
    c.pad (front ++ List.replicate (n - digits.length) '0' ++ digits)
  | none => c.padBehind front digits

/-- What stands in front of a number. -/
def sign (c : Conversion) (negative : Bool) : List Char :=
  if negative then ['-'] else if c.has '+' then ['+'] else if c.has ' ' then [' '] else []

def cut (c : Conversion) (s : List Char) : List Char :=
  match c.precision with
  | some n => s.take n
  | none => s

def renderSigned (c : Conversion) (n : Int) : List Char :=
  c.padNumber (c.sign (n < 0)) (Nat.toDigits 10 n.natAbs)

def renderUnsigned (c : Conversion) (n : Nat) : List Char :=
  if c.letter = 'o' then
    let digits := Nat.toDigits 8 n
    let marked := c.has '#' && c.precision.getD 0 ≤ digits.length
    if ¬ marked then c.padNumber [] digits
    else if n = 0 then { c with precision := c.precision.map (max 1) }.padNumber [] digits
    else c.padNumber [] ('0' :: digits)
  else if c.letter = 'u' then c.padNumber [] (Nat.toDigits 10 n)
  else
    let front := if c.has '#' ∧ n ≠ 0 then ['0', 'x'] else []
    let s := c.padNumber front (Nat.toDigits 16 n)
    if c.letter = 'X' then s.map Char.toUpper else s

def renderReal (c : Conversion) (r : Decimal.Real) : List Char :=
  let kind := c.letter.toLower
  let s := match r with
    | .infinite negative => c.pad (c.sign negative ++ "inf".toList)
    | .nan negative => c.pad (c.sign negative ++ "nan".toList)
    | .finite d =>
      let places := c.precision.getD 6
      let point := c.has '#'
      let sign := c.sign d.negative
      if kind = 'e' then c.padBehind sign (d.scientificText places point)
      else if kind = 'f' then c.padBehind sign (d.fixedText places point)
      else if kind = 'g' then c.padBehind sign (d.generalText (max 1 places) point)
      else
        let text := d.hexText c.precision point
        c.padBehind (sign ++ text.take 2) (text.drop 2)
  if c.letter.isUpper then s.map Char.toUpper else s

/-- An argument as the conversion prints it, and what is wrong with it; none for a letter that is no
conversion. -/
def render? (c : Conversion) (arg : List Char) : Option (List Char × Option NumberFault) :=
  if c.letter = 's' then some (c.pad (c.cut arg), none)
  else if c.letter = 'c' then some (c.pad [arg.headD '\x00'], none)
  else if c.letter = 'd' ∨ c.letter = 'i' then
    let n := signedArgument arg
    some (c.renderSigned n.value, n.fault)
  else if ['o', 'u', 'x', 'X'].contains c.letter then
    let n := unsignedArgument arg
    some (c.renderUnsigned n.value, n.fault)
  else if ['a', 'e', 'f', 'g'].contains c.letter.toLower then
    let r := realArgument arg
    some (c.renderReal r.value, r.fault)
  else none

end Conversion

/-! ### Formats -/

/-- What a format has printed, and the complaints it gave rise to. -/
structure Printed where
  /-- Latest first. -/
  out : List Char
  /-- Latest first. -/
  complaints : List (List Char)
  args : List (List Char)
  /-- Whether an argument was asked for. -/
  used : Bool
  /-- Nothing more is printed. -/
  stopped : Bool
  /-- What is wrong with the format. -/
  fault : Option (List Char)

namespace Printed

def put (p : Printed) (s : List Char) : Printed :=
  { p with out := s.reverse ++ p.out }

/-- The next argument, empty if there is none. -/
def next (p : Printed) : List Char × Printed :=
  (p.args.headD [], { p with args := p.args.tail, used := true })

def blame (p : Printed) (arg : List Char) (fault : Option NumberFault) : Printed :=
  match fault with
  | none => p
  | some f => { p with complaints := (arg ++ ": ".toList ++ f.message.toList) :: p.complaints }

/-- A width or precision that an argument gives. -/
def number (p : Printed) : Int × Printed :=
  let (arg, p) := p.next
  let n := signedArgument arg
  (n.value, p.blame arg n.fault)

/-- Prints by the conversion behind a percent sign; also what follows it in the format. -/
def convert (p : Printed) (s : List Char) : Printed × List Char :=
  let isWidth (c : Char) : Bool := c.isDigit || c == '*'
  let flags := s.takeWhile fun c => ['#', '-', '+', ' ', '0'].contains c
  let afterFlags := s.drop flags.length
  let (width, p, behindWidth) := match afterFlags with
    | '*' :: rest =>
      let (n, p) := p.number
      (n, p, rest)
    | s => ((natOf ((s.takeWhile isWidth).filter Char.isDigit) : Int), p, s.dropWhile isWidth)
  let (precision, p, rest) := match behindWidth with
    | '.' :: '*' :: rest =>
      let (n, p) := p.number
      (if n < 0 then none else some n.toNat, p, rest)
    | '.' :: rest =>
      (some (natOf ((rest.takeWhile isWidth).filter Char.isDigit)), p, rest.dropWhile isWidth)
    | rest => (none, p, rest)
  let stop (p : Printed) (fault : List Char) : Printed × List Char :=
    ({ p with fault := some fault, stopped := true }, [])
  match rest with
  | [] => stop p "missing format character".toList
  | letter :: rest =>
    let flags := if width < 0 then '-' :: flags else flags
    let c : Conversion := ⟨flags, width.natAbs, precision, letter⟩
    let (arg, after) := p.next
    if letter = 'b' then
      let (text, ended) := unescapeAll [] (arg.length + 1) arg
      ({ after.put (c.pad (c.cut text)) with stopped := ended }, rest)
    else
      match c.render? arg with
      | some (text, fault) => ((after.put text).blame arg fault, rest)
      | none =>
        let written := s.take (s.length - rest.length)
        stop p ('%' :: written ++ ": invalid directive".toList)

/-- Prints by a format once. Each step uses up a character of the format. -/
def once (p : Printed) : Nat → List Char → Printed
  | 0, _ => p
  | _, [] => p
  | fuel + 1, '\\' :: rest =>
    let (x, s) := unescape rest
    once { p with out := x :: p.out } fuel s
  | fuel + 1, '%' :: '%' :: rest => once { p with out := '%' :: p.out } fuel rest
  | fuel + 1, '%' :: rest =>
    let (p, s) := p.convert rest
    if p.stopped then p else once p fuel s
  | fuel + 1, c :: rest => once { p with out := c :: p.out } fuel rest

/-- Prints by a format until no arguments are left. -/
def all (format : List Char) (p : Printed) : Nat → Printed
  | 0 => p
  | fuel + 1 =>
    let p := once { p with used := false } (format.length + 1) format
    if p.stopped ∨ p.args.isEmpty ∨ ¬ p.used then p else all format p fuel

end Printed

/-- What `printf` prints by a format. -/
def formatted (format : List Char) (args : List (List Char)) : Printed :=
  Printed.all format ⟨[], [], args, false, false, none⟩ (args.length + 1)

end DockLint.Shell
