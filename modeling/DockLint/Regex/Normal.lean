import DockLint.Regex.Basic
import DockLint.Text.ByteRange

/-!
# Regular expressions without needless parts

Parentheses that keep nothing are gone, literals that follow each other are one, and so are sets to
choose from. What all alternatives begin with stands in front of the choice. `Normal.ofRegex` brings
an expression into this form, in which it matches the same texts.
-/

namespace DockLint.Regex

open Text

/-- The characters of a set, and their forms as bytes. -/
structure Members where
  ranges : Unicode.Ranges
  forms : List ByteRanges
  deriving Repr

inductive Normal where
  | empty
  /-- At least one character. -/
  | literal (text : List Char)
  | set (m : Members)
  | look (l : Look)
  | group (number : Nat) (a : Normal)
  | repeated (a : Normal) (min : Nat) (max : Option Nat) (eager : Bool)
  | seq (parts : List Normal)
  | choice (alternatives : List Normal)
  deriving Repr

namespace Normal

mutual

def same : Normal → Normal → Bool
  | empty, empty => true
  | literal a, literal b => a == b
  | set a, set b => a.ranges == b.ranges
  | look a, look b => a == b
  | group m a, group n b => m == n && a.same b
  | repeated a min max eager, repeated b min' max' eager' =>
    min == min' && max == max' && eager == eager' && a.same b
  | seq as, seq bs => sameAll as bs
  | choice as, choice bs => sameAll as bs
  | _, _ => false

def sameAll : List Normal → List Normal → Bool
  | [], [] => true
  | a :: as, b :: bs => a.same b && sameAll as bs
  | _, _ => false

end

/-! ### Lengths -/

mutual

/-- Whether only the empty text matches. -/
def isEmptyOnly : Normal → Bool
  | empty | look _ => true
  | literal _ | set _ => false
  | group _ a => a.isEmptyOnly
  | repeated a _ max _ => max.isSome && a.isEmptyOnly
  | seq ps | choice ps => allEmptyOnly ps

def allEmptyOnly : List Normal → Bool
  | [] => true
  | p :: ps => p.isEmptyOnly && allEmptyOnly ps

end

mutual

/-- The least number of characters in a text that matches; none if there may be no such text. -/
def least? : Normal → Option Nat
  | empty | look _ => some 0
  | literal text => some text.length
  | set m => if m.ranges.isEmpty then none else some 1
  | group _ a => a.least?
  | repeated a min _ _ => a.least?.map (· * min)
  | seq ps => leastSum? ps
  | choice ps => leastOf? ps

def leastSum? : List Normal → Option Nat
  | [] => some 0
  | p :: ps => do return (← p.least?) + (← leastSum? ps)

def leastOf? : List Normal → Option Nat
  | [] => none
  | [p] => p.least?
  | p :: ps => do return min (← p.least?) (← leastOf? ps)

end

mutual

/-- The number of parts, those of parts included. -/
def weight : Normal → Nat
  | empty | literal _ | set _ | look _ => 1
  | group _ a | repeated a _ _ _ => a.weight + 1
  | seq ps | choice ps => weightAll ps + 1

def weightAll : List Normal → Nat
  | [] => 0
  | p :: ps => p.weight + weightAll ps

end

/-! ### Ways to put parts together -/

/-- The characters of some ranges: a literal if there is one only. -/
def ofRanges (rs : Unicode.Ranges) : Normal :=
  match rs with
  | [(first, last)] =>
    if first = last then literal [Char.ofNat first] else set ⟨rs, ByteRanges.ofRanges rs⟩
  | rs => set ⟨rs, ByteRanges.ofRanges rs⟩

/-- What only matches the empty text need not be repeated. -/
def repetition (a : Normal) (min : Nat) (max : Option Nat) (eager : Bool) : Normal :=
  let (min, max) :=
    if a.isEmptyOnly then (Nat.min min 1, some (Nat.min (max.getD 1) 1)) else (min, max)
  match min, max with
  | 0, some 0 => empty
  | 1, some 1 => a
  | _, _ => repeated a min max eager

def inFront : Normal → List Normal → List Normal
  | empty, ps => ps
  | literal a, literal b :: ps => literal (a ++ b) :: ps
  | p, ps => p :: ps

def sequence (ps : List Normal) : Normal :=
  let parts : Normal → List Normal
    | seq qs => qs
    | p => [p]
  match (ps.flatMap parts).foldr inFront [] with
  | [] => empty
  | [p] => p
  | ps => seq ps

/-- The characters of a literal or a set. -/
def ranges? : Normal → Option Unicode.Ranges
  | literal [c] => some [(c.toNat, c.toNat)]
  | set m => some m.ranges
  | _ => none

def isLiteral : Normal → Bool
  | literal _ => true
  | _ => false

/-- Single characters to choose from are one set, and so are sets. -/
def oneSet? (ps : List Normal) : Option Normal :=
  if ps.all isLiteral || ps.all (!·.isLiteral) then
    (ps.mapM ranges?).map fun rs => ofRanges (.unionAll rs)
  else none

def parts? : Normal → Option (List Normal)
  | seq ps => some ps
  | _ => none

/-- What two sequences both begin with. -/
def commonFront : List Normal → List Normal → List Normal
  | a :: as, b :: bs => if a.same b then a :: commonFront as bs else []
  | _, _ => []

/-- What some sequences begin with, and the rests. -/
def splitFront? (ps : List Normal) : Option (List Normal × List Normal) := do
  match ← ps.mapM parts? with
  | [] => none
  | qs :: others =>
    let front := others.foldl commonFront qs
    if front.isEmpty then none
    else some (front, (qs :: others).map fun ps => sequence (ps.drop front.length))

/-- A choice between alternatives, which have less than `fuel` parts. -/
def chooseFrom : Nat → List Normal → Normal
  | 0, ps => choice ps
  | fuel + 1, ps =>
    let alternatives : Normal → List Normal
      | choice qs => qs
      | p => [p]
    match ps.flatMap alternatives with
    | [] => ofRanges []
    | [p] => p
    | ps =>
      match oneSet? ps with
      | some p => p
      | none =>
        match splitFront? ps with
        | some (front, rests) => sequence (front ++ [chooseFrom fuel rests])
        | none => choice ps

def choose (ps : List Normal) : Normal :=
  match ps with
  | [p] => p
  | ps => chooseFrom (weightAll ps + 1) ps

/-- Parts that follow each other, or to choose from, not yet put together. -/
inductive Row where
  | seq (parts : List Normal)
  | choice (alternatives : List Normal)

namespace Row

def whole : Row → Normal
  | seq ps => sequence ps
  | choice ps => choose ps

def parts : Row → List Normal
  | seq ps => ps
  | choice ps => [choose ps]

def alternatives : Row → List Normal
  | seq ps => [sequence ps]
  | choice ps => ps

def ofRegex : Regex → Row
  | .empty => seq []
  | .set s => seq [ofRanges s.toRanges]
  | .look l => seq [.look l]
  | .seq a b => seq ((ofRegex a).parts ++ (ofRegex b).parts)
  | .either a b => choice ((ofRegex a).alternatives ++ (ofRegex b).alternatives)
  | .group none a => seq [(ofRegex a).whole]
  | .group (some number) a => seq [.group number (ofRegex a).whole]
  | .repeated a min max eager => seq [repetition (ofRegex a).whole min max eager]

end Row

def ofRegex (r : Regex) : Normal :=
  (Row.ofRegex r).whole

end Normal

end DockLint.Regex
