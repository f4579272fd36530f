import DockLint.Decimal.Shortest
import DockLint.Toml.Basic

/-!
# Numbers and dates in TOML

A literal without quotes is a truth value, a number or a date, or else it is no value. A literal may
stand for a number that is too large; `Scalar.isSized` tells.
-/

namespace DockLint.Toml

/-- Digits of a class, single underscores between them. -/
def grouped (isDigit : Char → Bool) : List Char → Bool
  | [] => false
  | [c] => isDigit c
  | c :: '_' :: rest => isDigit c && grouped isDigit rest
  | c :: rest => isDigit c && grouped isDigit rest

def unsign : List Char → List Char
  | '+' :: s => s
  | '-' :: s => s
  | s => s

def isHexDigit (c : Char) : Bool :=
  c.isDigit || ('a' ≤ c && c ≤ 'f') || ('A' ≤ c && c ≤ 'F')

/-- A decimal number without a sign and without needless zeros in front. -/
def isWhole (s : List Char) : Bool :=
  s == ['0'] || (s.head? != some '0' && grouped Char.isDigit s)

def isInteger (s : List Char) : Bool :=
  match s with
  | '0' :: 'x' :: s => grouped isHexDigit s
  | '0' :: 'o' :: s => grouped (fun c => '0' ≤ c && c ≤ '7') s
  | '0' :: 'b' :: s => grouped (fun c => c == '0' || c == '1') s
  | s => isWhole (unsign s)

def isExponentMark (c : Char) : Bool :=
  c == 'e' || c == 'E'

/-- A fraction, an exponent, or both. -/
def isFloat (s : List Char) : Bool :=
  let s := unsign s
  if s == "inf".toList || s == "nan".toList then true
  else
    let mantissa := s.takeWhile (!isExponentMark ·)
    let exponent := s.dropWhile (!isExponentMark ·)
    let whole := mantissa.takeWhile (· != '.')
    let fraction := mantissa.dropWhile (· != '.')
    let goodFraction := match fraction with
      | [] => !exponent.isEmpty
      | _ :: ds => grouped Char.isDigit ds
    let goodExponent := match exponent with
      | [] => true
      | _ :: e => grouped Char.isDigit (unsign e)
    isWhole whole && goodFraction && goodExponent

/-! ### Sizes -/

/-- The number that digits stand for; underscores between them do not count. -/
def natIn (base : Nat) (s : List Char) : Nat :=
  (s.filterMap hexValue?).foldl (fun n d => n * base + d) 0

/-- An integer has to fit 128 bits, with or without a sign. -/
def integerIsSized (s : List Char) : Bool :=
  match s with
  | '0' :: 'x' :: ds => natIn 16 ds < 1 <<< 128
  | '0' :: 'o' :: ds => natIn 8 ds < 1 <<< 128
  | '0' :: 'b' :: ds => natIn 2 ds < 1 <<< 128
  | '-' :: ds => natIn 10 ds ≤ 1 <<< 127
  | ds => natIn 10 ds < 1 <<< 128

/-- Numbers with a larger power of ten in front overflow, those with a smaller one vanish. -/
def maxPower : Int := 400

/-- A float other than the infinities must not overflow a double. -/
def floatIsSized (s : List Char) : Bool :=
  let s := unsign s
  let mantissa := s.takeWhile (!isExponentMark ·)
  let n := natIn 10 (mantissa.filter Char.isDigit)
  if n = 0 then true
  else
    let fraction := ((mantissa.dropWhile (· != '.')).filter Char.isDigit).length
    let power : Int := match (s.dropWhile (!isExponentMark ·)).tail with
      | '-' :: ds => -(natIn 10 ds : Int)
      | ds => natIn 10 ds
    let e := power - fraction
    let lead := e + (Nat.toDigits 10 n).length
    if lead > maxPower then false
    else lead < -maxPower || (Decimal.Scientific.toDouble? ⟨n, e⟩).isSome

/-- Whether a literal stands for a number that can be represented, or for something else. -/
def Scalar.isSized : Scalar → Bool
  | integer literal => integerIsSized literal.toList
  | float literal => floatIsSized literal.toList
  | text _ | boolean _ | date _ => true

/-! ### Dates -/

/-- A number of exactly `width` digits, and what follows. -/
def fixedNumber? (width : Nat) (s : List Char) : Option (Nat × List Char) :=
  let ds := s.take width
  if ds.length = width ∧ ds.all Char.isDigit then
    some (ds.foldl (fun n c => n * 10 + (c.toNat - 0x30)) 0, s.drop width)
  else none

/-- Takes a character off the front. -/
def expect? (c : Char) : List Char → Option (List Char)
  | [] => none
  | x :: s => if x = c then some s else none

def isLeapYear (y : Nat) : Bool :=
  y % 4 == 0 && (y % 100 != 0 || y % 400 == 0)

def daysIn (year month : Nat) : Nat :=
  if month = 2 then if isLeapYear year then 29 else 28
  else if month = 4 ∨ month = 6 ∨ month = 9 ∨ month = 11 then 30
  else 31

def day? (s : List Char) : Option (List Char) := do
  let (year, s) ← fixedNumber? 4 s
  let (month, s) ← fixedNumber? 2 (← expect? '-' s)
  let (day, s) ← fixedNumber? 2 (← expect? '-' s)
  if 1 ≤ month ∧ month ≤ 12 ∧ 1 ≤ day ∧ day ≤ daysIn year month then some s else none

/-- A second may be a leap second, and may be left out. -/
def seconds? : List Char → Option (List Char)
  | ':' :: s => do
    let (second, s) ← fixedNumber? 2 s
    if second > 60 then none
    else match s with
      | '.' :: s =>
        match s.takeWhile Char.isDigit with
        | [] => none
        | _ => some (s.dropWhile Char.isDigit)
      | s => some s
  | s => some s

def clock? (s : List Char) : Option (List Char) := do
  let (hour, s) ← fixedNumber? 2 s
  let (minute, s) ← fixedNumber? 2 (← expect? ':' s)
  if hour ≤ 23 ∧ minute ≤ 59 then seconds? s else none

/-- An offset from universal time takes up the whole rest. -/
def isOffset : List Char → Bool
  | [] => true
  | ['Z'] => true
  | ['z'] => true
  | c :: s =>
    (c == '+' || c == '-') &&
      match do
        let (hour, s) ← fixedNumber? 2 s
        let (minute, s) ← fixedNumber? 2 (← expect? ':' s)
        return (hour, minute, s) with
      | some (hour, minute, s) => hour ≤ 23 && minute ≤ 59 && s.isEmpty
      | none => false

def isDate (s : List Char) : Bool :=
  match day? s with
  | some [] => true
  | some (c :: s) =>
    (c == 'T' || c == 't' || c == ' ') &&
      match clock? s with
      | some s => isOffset s
      | none => false
  | none => clock? s == some []

/-- What a literal without quotes stands for. -/
def bare? (s : List Char) : Option Scalar :=
  if s = "true".toList then some (.boolean true)
  else if s = "false".toList then some (.boolean false)
  else if isInteger s then some (.integer (String.ofList s))
  else if isFloat s then some (.float (String.ofList s))
  else if isDate s then some (.date (String.ofList s))
  else none

def endsBare (c : Char) : Bool :=
  c == ' ' || c == '\t' || c == '\n' || c == '\r' || c == ',' || c == ']' || c == '\x7d' ||
    c == '#' || c == '=' || c == '\x22' || c == '\x27'

/-- A literal without quotes and what follows it; a date and a time may have a space in between. -/
def splitBare (s : List Char) : List Char × List Char :=
  let word := s.takeWhile (!endsBare ·)
  let rest := s.dropWhile (!endsBare ·)
  match day? word, rest with
  | some [], ' ' :: c :: more =>
    if c.isDigit then
      (word ++ ' ' :: (c :: more).takeWhile (!endsBare ·), (c :: more).dropWhile (!endsBare ·))
    else (word, rest)
  | _, _ => (word, rest)

def bareScalar? (s : List Char) : Option (Scalar × List Char) :=
  (bare? (splitBare s).1).map fun v => (v, (splitBare s).2)

mutual

/-- Whether no number in a node is too large. -/
def Node.isSized : Node → Bool
  | .scalar s => s.isSized
  | .array elements => allSized elements
  | .inline entries => entriesSized entries
  | .table _ entries => entriesSized entries
  | .tables items => itemsSized items

def Node.allSized : List Node → Bool
  | [] => true
  | n :: rest => n.isSized && allSized rest

def Node.entriesSized : List (String × Node) → Bool
  | [] => true
  | (_, n) :: rest => n.isSized && entriesSized rest

def Node.itemsSized : List (List (String × Node)) → Bool
  | [] => true
  | entries :: rest => entriesSized entries && itemsSized rest

end

end DockLint.Toml
