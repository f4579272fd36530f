import DockLint.Text.Blank
import DockLint.Unicode.Fold
import DockLint.Unicode.Property
import DockLint.Unicode.Word

/-!
# Sets of characters

A set is kept as it was put together: `contains` asks its parts, and `toRanges` lists its
characters.
-/

namespace DockLint

/-- A set of characters. -/
inductive CharSet where
  | none
  | range (first last : Char)
  | listed (rs : Unicode.Ranges)
  | digit
  | blank
  | word
  | union (a b : CharSet)
  | inter (a b : CharSet)
  | without (a b : CharSet)
  /-- What is in one of them only. -/
  | differing (a b : CharSet)
  | complement (a : CharSet)
  /-- What differs from a member in case only. -/
  | anyCase (a : CharSet)
  deriving DecidableEq, Repr

namespace CharSet

def contains : CharSet → Char → Bool
  | none, _ => false
  | range first last, c => first ≤ c && c ≤ last
  | listed rs, c => rs.contains c.toNat
  | digit, c => Unicode.isDigit c
  | blank, c => Text.isBlank c
  | word, c => Unicode.isWord c
  | union a b, c => a.contains c || b.contains c
  | inter a b, c => a.contains c && b.contains c
  | without a b, c => a.contains c && !b.contains c
  | differing a b, c => a.contains c != b.contains c
  | complement a, c => !a.contains c
  | anyCase a, c => (Unicode.caseVariants c).any a.contains

def toRanges : CharSet → Unicode.Ranges
  | none => []
  | range first last => Unicode.Ranges.without [(first.toNat, last.toNat)] Unicode.Ranges.surrogates
  | listed rs => rs
  | digit => Unicode.digits
  | blank => Unicode.Property.whiteSpace.listed
  | word => Unicode.letters.union Unicode.digits
  | union a b => a.toRanges.union b.toRanges
  | inter a b => a.toRanges.inter b.toRanges
  | without a b => a.toRanges.without b.toRanges
  | differing a b =>
    let (a, b) := (a.toRanges, b.toRanges)
    (a.without b).union (b.without a)
  | complement a => a.toRanges.complement
  | anyCase a => Unicode.anyCase a.toRanges

def single (c : Char) : CharSet := range c c

def ascii : CharSet := range '\x00' '\x7f'

def any : CharSet := complement none

/-- The union of closed ranges. -/
def ofRanges (rs : List (Char × Char)) : CharSet :=
  rs.foldr (fun r s => union (range r.1 r.2) s) none

end CharSet

end DockLint
