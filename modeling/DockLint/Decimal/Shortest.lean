import DockLint.Decimal.Double

/-!
# Shortest decimal text

`digits` finds the fewest decimal digits that read back as a given double, and of those the
nearest. `Layout` says how digits and exponent are laid out.
-/

namespace DockLint.Decimal

/-- Digits and exponent of `digits · 10 ^ exponent`. -/
structure Scientific where
  digits : Nat
  exponent : Int
  deriving DecidableEq, Repr

namespace Scientific

def ratio (s : Scientific) : Nat × Nat :=
  if s.exponent < 0 then (s.digits, Nat.pow 10 (-s.exponent).toNat)
  else (s.digits * Nat.pow 10 s.exponent.toNat, 1)

/-- The double that the number reads back as. -/
def toDouble? (s : Scientific) : Option Double :=
  Double.ofRatio? s.ratio.1 s.ratio.2

end Scientific

/-- The exponent of the first decimal digit of `num / den`. -/
def leadingExponent (num den : Nat) : Int :=
  let q := num / den
  if q > 0 then ((Nat.toDigits 10 q).length : Int) - 1
  else
    let k := (Nat.toDigits 10 (den / num)).length
    if num * Nat.pow 10 (k - 1) ≥ den then 1 - (k : Int) else -(k : Int)

/-- The neighbours of `num / den` among the multiples of `10 ^ e`, the nearer one first. -/
def neighbours (num den : Nat) (e : Int) : List Scientific :=
  let (num, den) :=
    if e < 0 then (num * Nat.pow 10 (-e).toNat, den) else (num, den * Nat.pow 10 e.toNat)
  let below := num / den
  let near := Double.divEven num den
  if near = below then [⟨below, e⟩, ⟨below + 1, e⟩] else [⟨below + 1, e⟩, ⟨below, e⟩]

/-- The first number with as many digits as `counts` tries that reads back as `d`. -/
def firstReadingBack (d : Double) (num den : Nat) (lead : Int) (counts : List Nat) : Scientific :=
  let candidates := counts.flatMap fun (n : Nat) => neighbours num den (lead - n + 1)
  let d := { d with negative := false }
  (candidates.find? fun s => s.toDouble? == some d).getD ⟨0, 0⟩

/-- Moves trailing zeros of the digits into the exponent. -/
def dropZeros : Nat → Scientific → Scientific
  | 0, s => s
  | n + 1, s =>
    if s.digits ≠ 0 ∧ s.digits % 10 = 0 then dropZeros n ⟨s.digits / 10, s.exponent + 1⟩ else s

/-- The fewest digits that read back as a double other than zero. -/
def shortest (d : Double) : Scientific :=
  let (num, den) := d.ratio
  let s := firstReadingBack d num den (leadingExponent num den) (List.range' 1 17)
  dropZeros 20 s

/-- How digits are laid out: the decimal point stays within the digits, or within zeros beside
them, for exponents between `low` and `high`; other numbers have an exponent. -/
structure Layout where
  low : Int
  high : Int
  plusSign : Bool

def Layout.positional (l : Layout) (point : Int) : Bool :=
  l.low < point && point ≤ l.high

def zeros (n : Int) : List Char :=
  List.replicate n.toNat '0'

/-- A number other than zero; the point stands after `point` digits. -/
def Layout.render (l : Layout) (s : Scientific) : List Char :=
  let ds := Nat.toDigits 10 s.digits
  let point : Int := ds.length + s.exponent
  if l.positional point then
    if s.exponent ≥ 0 then ds ++ zeros s.exponent ++ ['.', '0']
    else if point > 0 then ds.take point.toNat ++ ['.'] ++ ds.drop point.toNat
    else ['0', '.'] ++ zeros (-point) ++ ds
  else
    let head := match ds with
      | [d] => [d]
      | d :: rest => d :: '.' :: rest
      | [] => []
    let e := point - 1
    let sign := if e < 0 then ['-'] else if l.plusSign then ['+'] else []
    head ++ ['e'] ++ sign ++ Nat.toDigits 10 e.natAbs

def Layout.renderDouble (l : Layout) (d : Double) : List Char :=
  let body := if d.isZero then ['0', '.', '0'] else l.render (shortest d)
  if d.negative then '-' :: body else body

end DockLint.Decimal
