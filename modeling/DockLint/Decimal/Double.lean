/-!
# Binary floating point numbers

A `Double` is `± mantissa · 2 ^ exponent` with at most 53 bits of mantissa. All arithmetic is exact
on natural numbers followed by one rounding to the nearest double, a tie going to the even
mantissa.
-/

namespace DockLint.Decimal

structure Double where
  negative : Bool
  mantissa : Nat
  exponent : Int
  deriving DecidableEq, Repr

namespace Double

def zero : Double := ⟨false, 0, -1074⟩

def neg (d : Double) : Double :=
  { d with negative := !d.negative }

def isZero (d : Double) : Bool :=
  d.mantissa == 0

/-- The quotient to the nearest whole number, a tie going to the even one. -/
def divEven (num den : Nat) : Nat :=
  let q := num / den
  let r := num % den
  if 2 * r < den ∨ (2 * r = den ∧ q % 2 = 0) then q else q + 1

/-- `num / den / 2 ^ e` as a fraction. -/
def scale (num den : Nat) (e : Int) : Nat × Nat :=
  if e < 0 then (num <<< (-e).toNat, den) else (num, den <<< e.toNat)

/-- The least mantissa of 53 bits. -/
def leadingBit : Nat := 0x10000000000000

/-- The exponent at which the quotient has 53 bits, but not below that of the least doubles. -/
def exponentOf (num den : Nat) : Int :=
  let e : Int := (Nat.log2 num : Int) - (Nat.log2 den : Int) - 52
  let s := scale num den e
  let e := if s.1 / s.2 < leadingBit then e - 1 else e
  max e (-1074)

/-- The double nearest to `num / den`, unless it is too large. -/
def ofRatio? (num den : Nat) : Option Double :=
  if num = 0 then some zero
  else
    let e := exponentOf num den
    let s := scale num den e
    let m := divEven s.1 s.2
    let (m, e) := if m = 2 * leadingBit then (leadingBit, e + 1) else (m, e)
    if e > 971 then none else some ⟨false, m, e⟩

/-- A double without its sign, as a fraction. -/
def ratio (d : Double) : Nat × Nat :=
  if d.exponent < 0 then (d.mantissa, 1 <<< (-d.exponent).toNat)
  else (d.mantissa <<< d.exponent.toNat, 1)

/-- The sign of the first factor is kept, the second is taken as positive. -/
def mul? (a b : Double) : Option Double :=
  let (p, q) := a.ratio
  let (r, s) := b.ratio
  (ofRatio? (p * r) (q * s)).map fun d => { d with negative := a.negative }

/-- The sign of the dividend is kept, the divisor is taken as positive. -/
def div? (a b : Double) : Option Double :=
  let (p, q) := a.ratio
  let (r, s) := b.ratio
  (ofRatio? (p * s) (q * r)).map fun d => { d with negative := a.negative }

/-- The power of ten nearest to `10 ^ k`, for `k` up to 308. -/
def powerOfTen (k : Nat) : Double :=
  (ofRatio? (Nat.pow 10 k) 1).getD zero

example : ofRatio? 1 10 = some ⟨false, 0x1999999999999a, -56⟩ := by decide
example : ofRatio? (2 * leadingBit + 1) 1 = some ⟨false, leadingBit, 1⟩ := by decide

end Double

end DockLint.Decimal
