import DockLint.Regex.Normal
import DockLint.Text.Fingerprint
import DockLint.Text.Utf8
import Std.Data.HashMap

/-!
# The size of regular expressions

A regular expression is matched by an automaton that reads bytes, in which what is repeated stands
as often as it has to. It has a state for every byte, class and place where it can go on in several
ways; a state can hold transitions, and a branching one its branches. One automaton reads forward
and keeps track of groups, another one reads backward.

`Regex.isTooLarge` says whether one of them takes more than `maxSize` bytes. Only the number of
states and what they hold are kept of an automaton.
-/

namespace DockLint.Regex

open Text

/-- An automaton takes at most this many bytes. -/
def maxSize : Nat := 10485760

def stateSize : Nat := 32

def transitionSize : Nat := 8

def branchSize : Nat := 4

inductive Direction where
  | forward | backward
  deriving DecidableEq, Repr

/-- An automaton as far as it has been built. -/
structure Draft where
  states : Nat
  /-- The bytes of transitions and branches. -/
  held : Nat

def Draft.size (d : Draft) : Nat := d.states * stateSize + d.held

/-- Building an automaton ends where it would be too large. -/
abbrev Build := StateT Draft Option

def extend (states held : Nat) : Build Unit := do
  let d ← get
  let d : Draft := ⟨d.states + states, d.held + held⟩
  if d.size ≤ maxSize then StateT.set d else failure

/-- Adds a state that holds so many bytes, and gives its number. -/
def newState (held : Nat) : Build Nat := do
  let number := (← get).states
  extend 1 held
  return number

/-- A part as it has been added. -/
inductive Added where
  | closed
  /-- The last state is a branching one. -/
  | branching
  deriving DecidableEq, Repr

/-- Lets an automaton go on behind a part; a branching state takes a branch for it. -/
def Added.goOn (a : Added) : Build Unit :=
  match a with
  | .closed => pure ()
  | .branching => extend 0 branchSize

/-! ### Classes -/

/-- States by what they were made of. A state is forgotten when another one comes to have its
slot. -/
structure Known (α : Type) where
  capacity : Nat
  slots : Std.HashMap Nat (α × Nat)

namespace Known

variable {α : Type}

def none (capacity : Nat) : Known α := ⟨capacity, ∅⟩

def slot (k : Known α) (ns : List Nat) : Nat :=
  (fingerprint ns).toNat % k.capacity

def find? [BEq α] (k : Known α) (slot : Nat) (a : α) : Option Nat :=
  match k.slots[slot]? with
  | some (b, state) => if a == b then some state else .none
  | .none => .none

def set (k : Known α) (slot : Nat) (a : α) (state : Nat) : Known α :=
  { k with slots := k.slots.insert slot (a, state) }

end Known

/-- How many of the states of a class are remembered at most. -/
def slotCount : Direction → Nat
  | .forward => 10000
  | .backward => 1000

/-- Forms read backward: they share the states of what they begin with. -/
def addForm (next : Nat) (known : Known (Nat × ByteRange)) :
    ByteRanges → Build (Known (Nat × ByteRange))
  | [] => return known
  | r :: rest => do
    let slot := known.slot [next, r.1, r.2]
    match known.find? slot (next, r) with
    | some state => addForm state known rest
    | none =>
      let state ← newState 0
      addForm state (known.set slot (next, r) state) rest

/-- Forms read forward: equal rests share their states. No form has more than `depth` ranges. -/
def addForms (last : Nat) (known : Known (List (ByteRange × Nat))) :
    Nat → List ByteRanges → Build (Nat × Known (List (ByteRange × Nat)))
  | 0, _ => return (last, known)
  | depth + 1, forms => do
    let groups := ByteRanges.byFirst forms
    if groups.isEmpty then return (last, known)
    let (known, transitions) ← groups.foldlM (fun (known, transitions) (r, rests) => do
      let (next, known) ← addForms last known depth rests
      return (known, (r, next) :: transitions)) (known, [])
    let transitions := transitions.reverse
    let slot := known.slot (transitions.flatMap fun (r, next) => [r.1, r.2, next])
    match known.find? slot transitions with
    | some state => return (state, known)
    | none =>
      let state ← newState (transitions.length * transitionSize)
      return (state, known.set slot transitions state)

def addSet (d : Direction) (m : Members) : Build Added := do
  if List.all m.ranges fun r => r.2 < 0x80 then
    extend 2 (m.ranges.length * transitionSize)
  else match d with
    | .forward =>
      let last ← newState 0
      let _ ← addForms last (.none (slotCount d)) 4 m.forms
    | .backward =>
      extend 1 (m.forms.length * branchSize)
      let last ← newState 0
      let _ ← m.forms.foldlM (addForm last) (.none (slotCount d))
  return .closed

/-! ### Literals -/

/-- Texts between those that are empty, by their first bytes. -/
def chunks : List (List UInt8) → List (List (UInt8 × List (List UInt8)))
  | [] => [[]]
  | [] :: rest => [] :: chunks rest
  | (b :: text) :: rest =>
    match chunks rest with
    | chunk :: others => insertFirst b text chunk :: others
    | [] => [[(b, [text])]]
where
  insertFirst (b : UInt8) (text : List UInt8) :
      List (UInt8 × List (List UInt8)) → List (UInt8 × List (List UInt8))
    | [] => [(b, [text])]
    | (c, texts) :: others =>
      if c = b then (c, text :: texts) :: others else (c, texts) :: insertFirst b text others

/-- Of empty texts in front of all others, one counts. -/
def withOneEmpty (texts : List (List UInt8)) : List (List UInt8) :=
  if texts.head? = some [] then [] :: texts.dropWhile (·.isEmpty) else texts

/-- A tree of texts that share their beginnings, without its end. No text is longer than `depth`. -/
def addTree : Nat → List (List UInt8) → Build Unit
  | 0, _ => pure ()
  | depth + 1, texts => do
    let all := chunks (withOneEmpty texts)
    let full := all.filter (!·.isEmpty)
    if full.isEmpty then return
    for chunk in full do
      for (_, rests) in chunk do addTree depth rests
      extend 1 (if chunk.length = 1 then 0 else chunk.length * transitionSize)
    extend 1 ((full.length + (all.length - 1)) * branchSize)

def addTexts (d : Direction) (texts : List (List Char)) : Build Added := do
  let texts := texts.map Utf8.encode
  let texts := if d = .forward then texts else texts.map List.reverse
  extend 1 0
  addTree ((texts.map List.length).foldl max 0 + 1) texts
  return .closed

/-! ### Expressions -/

/-- Goes on behind a part so many times. -/
def again (one : Build Added) (a : Added) : Nat → Build Added
  | 0 => return a
  | n + 1 => do
    a.goOn
    again one (← one) n

def exactly (one : Build Added) : Nat → Build Added
  | 0 => do
    extend 1 0
    return .closed
  | n + 1 => do again one (← one) n

/-- Goes on behind a part, which can be left out, so many times. -/
def upTo (one : Build Added) (a : Added) : Nat → Build Added
  | 0 => return a
  | n + 1 => do
    extend 1 (2 * branchSize)
    a.goOn
    upTo one (← one) n

/-- A repetition of what has a text of its own, unless it `canBeEmpty`. -/
def repeatedly (one : Build Added) (canBeEmpty : Bool) (min : Nat) (max : Option Nat) :
    Build Added := do
  match min, max with
  | 0, some 1 =>
    extend 1 (2 * branchSize)
    (← one).goOn
    extend 1 0
    return .closed
  | min, some max =>
    let a ← exactly one min
    if min = max then return a
    extend 1 0
    (← upTo one a (max - min)).goOn
    return .closed
  | 0, none =>
    if canBeEmpty then
      (← one).goOn
      extend 3 (4 * branchSize)
      return .closed
    else
      extend 1 branchSize
      (← one).goOn
      return .branching
  | min, none =>
    (← exactly one min).goOn
    extend 1 branchSize
    return .branching

def literals? (ps : List Normal) : Option (List (List Char)) :=
  ps.mapM fun
    | .literal text => some text
    | _ => none

mutual

/-- Adds what matches an expression. -/
def addPart (d : Direction) : Normal → Build Added
  | .empty | .look _ => do
    extend 1 0
    return .closed
  | .literal text => do
    extend (Utf8.encode text).length 0
    return .closed
  | .set m => addSet d m
  | .group _ a =>
    match d with
    | .forward => do
      extend 1 0
      (← addPart d a).goOn
      extend 1 0
      return .closed
    | .backward => addPart d a
  | .repeated a min max _ =>
    repeatedly (addPart d a) (a.least?.all (· == 0)) min max
  | .seq ps => addSeq d ps
  | .choice ps =>
    match literals? ps with
    | some texts => addTexts d texts
    | none => addChoice d ps

/-- Adds what matches some parts one behind the other. -/
def addSeq (d : Direction) : List Normal → Build Added
  | [] => return .closed
  | [p] => addPart d p
  | p :: ps =>
    match d with
    | .forward => do
      let a ← addPart d p
      let b ← addSeq d ps
      a.goOn
      return b
    | .backward => do
      let b ← addSeq d ps
      let a ← addPart d p
      b.goOn
      return a

/-- Adds what matches one of some alternatives. -/
def addChoice (d : Direction) : List Normal → Build Added
  | p :: q :: ps => do
    let a ← addPart d p
    let b ← addPart d q
    extend 2 (2 * branchSize)
    a.goOn
    b.goOn
    addOthers d ps
    return .closed
  | [p] => addPart d p
  | [] => return .closed

def addOthers (d : Direction) : List Normal → Build Unit
  | [] => pure ()
  | p :: ps => do
    (← addPart d p).goOn
    extend 0 branchSize
    addOthers d ps

end

mutual

/-- Whether a match begins with the text, or ends with it, for one that reads backward. -/
def isAnchored (d : Direction) : Normal → Bool
  | .look l => l = if d = .forward then .textStart else .textEnd
  | .group _ a => isAnchored d a
  | .repeated a min _ _ => 0 < min && isAnchored d a
  | .seq ps => isAnchoredSeq d ps
  | .choice ps => areAnchored d ps
  | .empty | .literal _ | .set _ => false

def isAnchoredSeq (d : Direction) : List Normal → Bool
  | [] => false
  | p :: ps =>
    match d with
    | .forward => isAnchored d p || (p.isEmptyOnly && isAnchoredSeq d ps)
    | .backward => isAnchoredSeq d ps || (Normal.allEmptyOnly ps && isAnchored d p)

def areAnchored (d : Direction) : List Normal → Bool
  | [] => true
  | p :: ps => isAnchored d p && areAnchored d ps

end

/-- The whole automaton: it can begin anywhere unless it is anchored, it keeps the whole match if it
reads forward, and it ends somewhere. -/
def addWhole (d : Direction) (r : Normal) : Build Unit := do
  if isAnchored d r then extend 1 0 else extend 3 (transitionSize + 2 * branchSize)
  match d with
  | .forward =>
    extend 1 0
    (← addPart d r).goOn
    extend 2 0
  | .backward =>
    (← addPart d r).goOn
    extend 1 0

/-- The size of an automaton, if it is not too large. -/
def size? (d : Direction) (r : Regex) : Option Nat :=
  ((addWhole d (.ofRegex r)).run ⟨0, 0⟩).map fun (_, draft) => draft.size

def isTooLarge (r : Regex) : Bool :=
  (r.size? .forward).isNone || (r.size? .backward).isNone

end DockLint.Regex
