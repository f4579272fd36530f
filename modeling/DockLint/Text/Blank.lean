/-!
# Blank characters, trimming, first lines

`isBlank` is the Unicode property White_Space. A byte order mark, a zero-width space and the
separators U+001C to U+001F are not blank.
-/

namespace DockLint.Text

def isBlank (c : Char) : Bool :=
  let n := c.toNat
  (0x09 ≤ n && n ≤ 0x0D) || n == 0x20 || n == 0x85 || n == 0xA0 || n == 0x1680 ||
    (0x2000 ≤ n && n ≤ 0x200A) || n == 0x2028 || n == 0x2029 || n == 0x202F || n == 0x205F ||
    n == 0x3000

def trimStart (s : List Char) : List Char :=
  s.dropWhile isBlank

def trimEnd (s : List Char) : List Char :=
  (s.reverse.dropWhile isBlank).reverse

def trim (s : List Char) : List Char :=
  trimEnd (trimStart s)

/-- No character other than blank ones. -/
def isAllBlank (s : List Char) : Bool :=
  s.all isBlank

/-- What stands before the first line feed. -/
def firstLine (s : List Char) : List Char :=
  s.takeWhile (· ≠ '\n')

/-- Every line after the first starts with four spaces. -/
def hangingIndent (s : List Char) : List Char :=
  s.flatMap fun c => if c = '\n' then "\n    ".toList else [c]

end DockLint.Text
