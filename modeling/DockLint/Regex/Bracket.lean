import DockLint.Regex.Escape

/-!
# Classes in brackets

A class has members between its brackets, some of which are classes themselves, and operators
between groups of members. Every reader of the mutual block takes a character before it calls
another, so fuel of the text's length is enough.
-/

namespace DockLint.Regex

/-- A part of a class. -/
structure ClassPart where
  set : CharSet
  span : Span
  nesting : Nesting

namespace ClassPart

/-- Members beside each other, the latest first; without any, the place where they would be. -/
def ofMembers (here : Place) : List ClassPart → ClassPart
  | [] => ⟨.none, ⟨here, here⟩, []⟩
  | [p] => p
  | last :: others =>
    let parts := (last :: others).reverse
    let first := (others.getLast?.getD last).span.first
    let span : Span := ⟨first, last.span.last⟩
    ⟨parts.foldl (fun s p => .union s p.set) .none, span, .around span (parts.map nesting)⟩

end ClassPart

/-- How two classes are put together. -/
inductive ClassOperator where
  | inter
  | without
  | differing

def ClassOperator.apply (op : ClassOperator) (a b : CharSet) : CharSet :=
  match op with
  | inter => .inter a b
  | without => .without a b
  | differing => .differing a b

/-- A member of a class, which may begin a range: what it is and where. -/
def classAtom : Reader (Atom × Span) := do
  let start ← place
  match ← peek with
  | some '\\' =>
    let a ← escape
    return (a, ⟨start, ← place⟩)
  | c =>
    bump
    return (.literal (c.getD ' ') false, ⟨start, ← place⟩)

/-- The character of a member that has to be one. -/
def classLiteral (a : Atom) (span : Span) : Reader Char := do
  match a with
  | .literal c byte =>
    if ¬ (← get).flags.unicode ∧ 0x80 ≤ c.toNat then
      note span (if byte then .notUtf8 else .noUnicode)
    return c
  | _ => fail span.first span.last .badClassRange

/-- A member or a range of a class that begins at `opening`. -/
def classRange (opening : Span) : Reader ClassPart := do
  let (a, span) ← classAtom
  skipSpaces
  match ← peek with
  | none => throw ⟨opening, .openClass⟩
  | some c =>
    let behind ← peekBehind
    if c ≠ '-' ∨ behind = some ']' ∨ behind = some '-' then
      match a with
      | .literal .. => return ⟨.single (← classLiteral a span), span, []⟩
      | .set s => return ⟨s, span, []⟩
      | .look _ => fail span.first span.last .badEscapeInClass
    else
      bumpSpaced
      if (← peek).isNone then throw ⟨opening, .openClass⟩
      let (b, other) ← classAtom
      let first ← classLiteral a span
      let last ← classLiteral b other
      let whole : Span := ⟨span.first, other.last⟩
      if last < first then throw ⟨whole, .emptyClassRange⟩
      return ⟨.range first last, whole, []⟩

/-- The class that a set of members makes, when case may not count. -/
def folded (f : Flags) (s : CharSet) : CharSet :=
  if ¬ f.anyCase then s else if f.unicode then .anyCase s else .inter (.anyCase s) .ascii

/-- A class by its name, such as `[:alpha:]`, if there is one. -/
def namedClass? : Reader (Option ClassPart) := do
  let before ← get
  match before.rest with
  | '[' :: ':' :: rest =>
    let (negated, rest) := match rest with
      | '^' :: rest => (true, rest)
      | rest => (false, rest)
    let name := rest.takeWhile (· ≠ ':')
    match rest.drop name.length, asciiClasses.lookup (String.ofList name) with
    | ':' :: ']' :: after, some rs =>
      for _ in List.range (before.rest.length - after.length) do bump
      let s := folded before.flags (.ofRanges rs)
      let span : Span := ⟨before.place, ← place⟩
      if negated ∧ ¬ before.flags.unicode then note span .notUtf8
      return some ⟨if negated then .complement s else s, span, []⟩
    | _, _ => return none
  | _ => return none

/-- An operator within brackets. -/
def classOperator? : Reader (Option ClassOperator) := do
  if ← bumpIf "&&" then return some .inter
  if ← bumpIf "--" then return some .without
  if ← bumpIf "~~" then return some .differing
  return none

/-- A member that stands for itself at the front of a class. -/
def frontMember (c : Char) : Reader ClassPart := do
  let start ← place
  let behind ← placeBehind
  bumpSpaced
  return ⟨.single c, ⟨start, behind⟩, []⟩

/-- Members `-` at the front of a class that begins at `start`, the latest first. -/
def hyphens (start : Place) (parts : List ClassPart) : Nat → Reader (List ClassPart)
  | 0 => return parts
  | fuel + 1 => do
    if (← peek) = some '-' then
      let p ← frontMember '-'
      if (← peek).isNone then fail start start .openClass
      hyphens start (p :: parts) fuel
    else return parts

/-- What stands in front of an operator, and the operator. -/
abbrev LeftSide := Option (ClassPart × ClassOperator)

/-- Members behind what stands in front of an operator. -/
def withLeft (f : Flags) (left : LeftSide) (p : ClassPart) : ClassPart :=
  match left with
  | none => p
  | some (l, op) =>
    let span : Span := ⟨l.span.first, p.span.last⟩
    ⟨op.apply (folded f l.set) (folded f p.set), span, .around span [l.nesting, p.nesting]⟩

mutual

/-- A class in brackets. -/
def bracket : Nat → Reader ClassPart
  | 0 => do fail (← place) (← place) .openClass
  | fuel + 1 => do
    let start ← place
    let orClose : Reader Unit := do
      if (← peek).isNone then fail start (← place) .openClass
    bumpSpaced
    orClose
    let negated := (← peek) = some '^'
    if negated then
      bumpSpaced
      orClose
    let here ← place
    let front ← hyphens start [] fuel
    let front ←
      if front.isEmpty ∧ (← peek) = some ']' then do
        let p ← frontMember ']'
        orClose
        pure [p]
      else pure front
    let opening : Span := ⟨start, ← place⟩
    let inner ← members opening none here front fuel
    let span : Span := ⟨start, ← place⟩
    let f := (← get).flags
    let s := if negated then CharSet.complement inner.set else inner.set
    let nesting := Nesting.around span [inner.nesting]
    if f.unicode then return ⟨s, span, nesting⟩
    if (List.range' 0x80 0x80).any fun n => s.contains (Char.ofNat n) then note span .notUtf8
    return ⟨.inter s .ascii, span, nesting⟩

/-- The members of a class up to its closing bracket, behind those in front of the latest operator
and those behind it, the latest first; members behind it begin at `here`. -/
def members (opening : Span) (left : LeftSide) (here : Place) (parts : List ClassPart) :
    Nat → Reader ClassPart
  | 0 => throw ⟨opening, .openClass⟩
  | fuel + 1 => do
    skipSpaces
    let f := (← get).flags
    let read (_ : Unit) : ClassPart := withLeft f left (.ofMembers here parts)
    match ← peek with
    | none => throw ⟨opening, .openClass⟩
    | some ']' =>
      bump
      let p := read ()
      return { p with set := folded f p.set }
    | some '[' =>
      match ← namedClass? with
      | some p => members opening left here (p :: parts) fuel
      | none =>
        let p ← bracket fuel
        members opening left here (p :: parts) fuel
    | some _ =>
      match ← classOperator? with
      | some op => members opening (some (read (), op)) (← place) [] fuel
      | none =>
        let p ← classRange opening
        members opening left here (p :: parts) fuel

end

end DockLint.Regex
