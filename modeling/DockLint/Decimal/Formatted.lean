import DockLint.Decimal.Shortest

/-!
# Formatted floating point numbers

Doubles written with a given number of places: fixed, with an exponent, in whichever of these is
shorter, or in hexadecimal. Every text is the exact value rounded once, a tie going to the even
digit.
-/

namespace DockLint.Decimal

/-- A floating point number. -/
inductive Real where
  | finite (d : Double)
  | infinite (negative : Bool)
  | nan (negative : Bool)
  deriving DecidableEq, Repr

namespace Double

/-- The nearest count of steps of `10 ^ -places`. -/
def stepsOf (d : Double) (places : Int) : Nat :=
  let (num, den) := d.ratio
  if places < 0 then divEven num (den * Nat.pow 10 (-places).toNat)
  else divEven (num * Nat.pow 10 places.toNat) den

/-- Digits with a point in front of the last `places` of them; `point` keeps it without any. -/
def withPoint (places : Nat) (point : Bool) (ds : List Char) : List Char :=
  let front := ds.take (ds.length - places)
  let back := ds.drop (ds.length - places)
  if back.isEmpty ∧ ¬ point then front else front ++ '.' :: back

def fixedText (places : Nat) (point : Bool) (d : Double) : List Char :=
  let ds := Nat.toDigits 10 (d.stepsOf places)
  withPoint places point (List.replicate (places + 1 - ds.length) '0' ++ ds)

/-- One digit and `places` more, and the exponent of the first. -/
def leadingDigits (places : Nat) (d : Double) : List Char × Int :=
  if d.isZero then (List.replicate (places + 1) '0', 0)
  else
    let (num, den) := d.ratio
    let e := leadingExponent num den
    let ds := Nat.toDigits 10 (d.stepsOf (places - e))
    if ds.length > places + 1 then (ds.take (places + 1), e + 1) else (ds, e)

/-- An exponent behind its letter, in at least so many digits. -/
def exponentText (letter : Char) (least : Nat) (e : Int) : List Char :=
  let ds := Nat.toDigits 10 e.natAbs
  letter :: (if e < 0 then '-' else '+') :: List.replicate (least - ds.length) '0' ++ ds

/-- A text without the zeros behind its point, and without the point where nothing is left. -/
def dropPlaces (s : List Char) : List Char :=
  if s.contains '.' then ((s.reverse.dropWhile (· = '0')).dropWhile (· = '.')).reverse else s

def scientificText (places : Nat) (point : Bool) (d : Double) : List Char :=
  let (ds, e) := d.leadingDigits places
  withPoint places point ds ++ exponentText 'e' 2 e

/-- `digits` digits, fixed unless the exponent is large or below -4; zeros at the end are left out
unless the point is kept. -/
def generalText (digits : Nat) (point : Bool) (d : Double) : List Char :=
  let places := digits - 1
  let cut (s : List Char) : List Char := if point then s else dropPlaces s
  let (ds, e) := d.leadingDigits places
  if -4 ≤ e ∧ e < digits then cut (d.fixedText (places - e).toNat point)
  else cut (withPoint places point ds) ++ exponentText 'e' 2 e

/-- The exponent of doubles with full mantissas, counted from their first bit. -/
def leastLeadingExponent : Int := -1022

/-- A mantissa of one digit and thirteen hexadecimal places, and the exponent of two. -/
def hexParts (d : Double) : Nat × Int :=
  if d.isZero then (0, 0)
  else
    let shift := 52 - Nat.log2 d.mantissa
    let e := d.exponent + 52 - shift
    if e < leastLeadingExponent then
      (d.mantissa <<< (d.exponent + 1074).toNat, leastLeadingExponent)
    else (d.mantissa <<< shift, e)

/-- Hexadecimal, with as many places as the value needs unless their number is given. -/
def hexText (places : Option Nat) (point : Bool) (d : Double) : List Char :=
  let (m, e) := d.hexParts
  let (m, n) := match places with
    | some n => if n < 13 then (divEven m (1 <<< (4 * (13 - n))), n) else (m <<< (4 * (n - 13)), n)
    | none => (m, 13)
  let ds := Nat.toDigits 16 m
  let ds := List.replicate (n + 1 - ds.length) '0' ++ ds
  let text := withPoint n point ds
  let text := if places.isNone ∧ ¬ point then dropPlaces text else text
  '0' :: 'x' :: text ++ exponentText 'p' 1 e

end Double

end DockLint.Decimal
