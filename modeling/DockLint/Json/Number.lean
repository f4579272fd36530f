import DockLint.Json.Basic

/-!
# Number literals

`Literal` holds the parts of a number literal; `Literal.value?` is the number it stands for, none
if that is too large for a double. A literal without fraction and exponent is whole as long as it
fits a 64-bit word. Otherwise as many leading digits as fit an unsigned word are scaled by a power
of ten.
-/

namespace DockLint.Json

structure Literal where
  negative : Bool
  whole : List Char
  /-- The digits after the point; none without one. -/
  fraction : Option (List Char)
  /-- Sign and digits of the exponent; none without one. -/
  exponent : Option (Bool × List Char)
  deriving DecidableEq, Repr

namespace Literal

open Decimal

def maxWord : Nat := UInt64.size - 1

def digitValue (c : Char) : Nat :=
  c.toNat - 0x30

/-- The leading digits that fit a word, and how many digits are left over. -/
def significand (start : Nat) : List Char → Nat × Nat
  | [] => (start, 0)
  | c :: rest =>
    let next := start * 10 + digitValue c
    if next ≤ maxWord then significand next rest else (start, rest.length + 1)

/-- `d · 10 ^ e`, in steps of at most `10 ^ 308`; none if too large. -/
def scale (d : Double) (e : Int) : Nat → Option Double
  | 0 => some d
  | steps + 1 =>
    if d.isZero then some d
    else if e ≥ 0 then
      if e ≤ 308 then d.mul? (Double.powerOfTen e.toNat) else none
    else if e ≥ -308 then d.div? (Double.powerOfTen (-e).toNat)
    else (d.div? (Double.powerOfTen 308)).bind fun d => scale d (e + 308) steps

/-- Larger exponents are not told apart. -/
def maxExponent : Nat := 0x7fffffff

/-- The exponent that digits stand for, or the first number too large for one. -/
def exponentOf (ds : List Char) : Nat :=
  ds.foldl (fun n c => min (n * 10 + digitValue c) (maxExponent + 1)) 0

def clampWord (e : Int) : Int :=
  max (-(maxExponent : Int) - 1) (min maxExponent e)

def magnitude? (l : Literal) : Option Double :=
  let (m, dropped) := significand 0 l.whole
  let fraction := l.fraction.getD []
  let (m, left) := significand m fraction
  let e : Int := (dropped : Int) - ((fraction.length - left : Nat) : Int)
  match l.exponent with
  | none => scale' m e
  | some (down, ds) =>
    let x := exponentOf ds
    if x > maxExponent then if m = 0 ∨ down then some Double.zero else none
    else scale' m (clampWord (if down then e - x else e + x))
where
  scale' (m : Nat) (e : Int) : Option Double :=
    (Double.ofRatio? m 1).bind fun d => scale d e 5

def double? (l : Literal) : Option Double :=
  l.magnitude?.map fun d => if l.negative then d.neg else d

/-- The number of a literal without fraction and exponent, if it fits a word. -/
def word? (l : Literal) : Option Number :=
  match significand 0 l.whole with
  | (n, 0) =>
    if ¬ l.negative then some (.natural n)
    else if 0 < n ∧ n ≤ UInt64.size / 2 then some (.negative n)
    else none
  | _ => none

def value? (l : Literal) : Option Number :=
  match if l.fraction.isNone ∧ l.exponent.isNone then l.word? else none with
  | some n => some n
  | none => l.double?.map .double

end Literal

end DockLint.Json
