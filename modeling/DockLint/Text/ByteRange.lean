import DockLint.Unicode.Ranges

/-!
# Ranges of characters as bytes

The UTF-8 forms of the characters of a range are those of a few sequences of byte ranges, each of
which takes any byte of its first range, then any of its second, and so on.
-/

namespace DockLint.Text

/-- The first and the last byte of a range. -/
abbrev ByteRange := Nat × Nat

abbrev ByteRanges := List ByteRange

namespace ByteRanges

/-- Sequences for the numbers from `lo` to `hi`. So many bytes of six bits follow a first one, which
counts from `lead` on. -/
def ofNumbers (lead : Nat) : Nat → Nat → Nat → List ByteRanges
  | 0, lo, hi => [[(lead + lo, lead + hi)]]
  | following + 1, lo, hi =>
    let unit := 64 ^ (following + 1)
    let (first, last) := (lo / unit, hi / unit)
    let under (byte lo hi : Nat) : List ByteRanges :=
      (ofNumbers 0x80 following lo hi).map ((lead + byte, lead + byte) :: ·)
    if first = last then under first (lo % unit) (hi % unit)
    else
      let head := if lo % unit = 0 then [] else under first (lo % unit) (unit - 1)
      let tail := if hi % unit = unit - 1 then [] else under last 0 (hi % unit)
      let first := if head.isEmpty then first else first + 1
      let behind := if tail.isEmpty then last + 1 else last
      let full := (lead + first, lead + behind - 1) :: List.replicate (following + 1) (0x80, 0xbf)
      head ++ (if first < behind then [full] else []) ++ tail

/-- The characters that take one byte, two, and so on: the first and the last, the number of bytes
that follow, and what the first byte counts from. -/
def lengths : List (Nat × Nat × Nat × Nat) :=
  [(0, 0x7f, 0, 0), (0x80, 0x7ff, 1, 0xc0), (0x800, 0xffff, 2, 0xe0), (0x10000, 0x10ffff, 3, 0xf0)]

/-- Sequences for the characters of a class, in ascending order. -/
def ofRanges (rs : Unicode.Ranges) : List ByteRanges :=
  rs.flatMap fun (lo, hi) => lengths.flatMap fun (first, last, following, lead) =>
    let (lo, hi) := (max lo first, min hi last)
    if lo ≤ hi then ofNumbers lead following lo hi else []

/-- Sequences by their first ranges, in the same order: what follows one of them. -/
def byFirst : List ByteRanges → List (ByteRange × List ByteRanges)
  | [] => []
  | [] :: rest => byFirst rest
  | (r :: s) :: rest =>
    match byFirst rest with
    | (r', ss) :: others =>
      if r' = r then (r, s :: ss) :: others else (r, [s]) :: (r', ss) :: others
    | [] => [(r, [s])]

end ByteRanges

end DockLint.Text
