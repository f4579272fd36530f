/-!
# Character classes as ranges

A class of characters is a list of closed code point ranges in ascending order; membership stops
at the first range that starts beyond the code point. Union and complement keep the order and leave
no two ranges that touch.

A table is the written form of a class.
-/

namespace DockLint.Unicode

/-- Closed ranges of code points, in ascending order. -/
abbrev Ranges := List (Nat × Nat)

namespace Ranges

def contains : Ranges → Nat → Bool
  | [], _ => false
  | (lo, hi) :: rest, n => if n < lo then false else n ≤ hi || contains rest n

/-- The ranges made one with those before them that they overlap or touch; `lo` and `hi` bound the
range in hand. -/
def coalesceFrom (lo hi : Nat) : Ranges → Ranges
  | [] => [(lo, hi)]
  | (a, b) :: rest =>
    if a ≤ hi + 1 then coalesceFrom lo (max hi b) rest else (lo, hi) :: coalesceFrom a b rest

/-- Ranges in ascending order of their first code points as a class. -/
def coalesce : Ranges → Ranges
  | [] => []
  | (lo, hi) :: rest => coalesceFrom lo hi rest

def union (a b : Ranges) : Ranges :=
  coalesce (a.merge b fun r s => r.1 ≤ s.1)

def unionAll (rs : List Ranges) : Ranges :=
  rs.foldl union []

/-- Ranges in any order as a class. -/
def ofList (rs : List (Nat × Nat)) : Ranges :=
  coalesce (rs.mergeSort fun r s => r.1 ≤ s.1)

/-- The last code point. -/
def last : Nat := 0x10ffff

/-- The code points that are no characters. -/
def surrogates : Ranges := [(0xd800, 0xdfff)]

/-- The code points from `start` on that are in none of the ranges. -/
def gapsFrom (start : Nat) : Ranges → Ranges
  | [] => if start ≤ last then [(start, last)] else []
  | (lo, hi) :: rest =>
    if start < lo then (start, lo - 1) :: gapsFrom (hi + 1) rest
    else gapsFrom (max start (hi + 1)) rest

/-- The characters outside a class. -/
def complement (a : Ranges) : Ranges :=
  gapsFrom 0 (a.union surrogates)

def inter (a b : Ranges) : Ranges :=
  complement (a.complement.union b.complement)

def without (a b : Ranges) : Ranges :=
  complement (a.complement.union b)

/-- All characters. -/
def full : Ranges := complement []

end Ranges

/-- The code points and closed ranges of a class in lower-case hexadecimal, between blanks on any
number of lines. A hyphen stands between the ends of a range, and a slash where only every second
code point belongs to it. -/
abbrev Table := List String

namespace Table

def number (cs : List Char) : Nat :=
  cs.foldl (fun n c => n * 16 + (if c.isDigit then c.toNat - 0x30 else c.toNat - 0x57)) 0

/-- The ranges of one word of a table. -/
def rangesOf (word : List Char) : List (Nat × Nat) :=
  match word.splitOn '-', word.splitOn '/' with
  | [lo, hi], _ => [(number lo, number hi)]
  | _, [lo, hi] =>
    (List.range ((number hi - number lo) / 2 + 1)).map fun i =>
      (number lo + 2 * i, number lo + 2 * i)
  | _, _ => [(number word, number word)]

def ranges (t : Table) : Ranges :=
  .ofList (t.flatMap fun line => (line.toList.splitOn ' ').flatMap rangesOf)

end Table

end DockLint.Unicode
