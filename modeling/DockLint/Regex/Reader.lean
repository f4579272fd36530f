import DockLint.Regex.Bracket

/-!
# Reading regular expressions

An expression is read branch by branch and part by part. Every part takes a character, so fuel of a
few times the text's length is enough.
-/

namespace DockLint.Regex

/-! ### Groups and repetitions -/

/-- The number in a repetition; none if there are no digits. -/
def decimal : Reader (Except Fault Nat) := do
  let skip : Reader Unit := do
    let _ ← takeWhile Text.isBlank [] ((← get).rest.length + 1)
  skip
  let start ← place
  let ds ← takeWhile Char.isDigit [] ((← get).rest.length + 1)
  let span : Span := ⟨start, ← place⟩
  skip
  if ds.isEmpty then return .error ⟨span, .noCount⟩
  let n := ds.foldl (fun n c => n * 10 + (c.toNat - 0x30)) 0
  return if n < 0x100000000 then .ok n else .error ⟨span, .badNumber⟩

def orThrow {α : Type} : Except Fault α → Reader α
  | .ok a => return a
  | .error f => throw f

/-- Whether a repetition is eager. A mark behind it says that it is not, or that it is where the
others are not. -/
def eagerness : Reader Bool := do
  let marked := (← peek) = some '?'
  if marked then bump
  return marked == (← get).flags.swapped

/-- How often something is repeated, in braces, and whether eagerly. -/
def counts : Reader (Nat × Option Nat × Bool) := do
  let start ← place
  let orClose : Reader Unit := do
    if (← peek).isNone then fail start (← place) .openCount
  bumpSpaced
  orClose
  let min ← decimal
  orClose
  let range ←
    if (← peek) = some ',' then do
      bumpSpaced
      orClose
      if (← peek) = some '\x7d' then do
        let min ← orThrow min
        pure (min, none)
      else do
        let min ← orThrow min
        let max ← orThrow (← decimal)
        pure (min, some max)
    else do
      let min ← orThrow min
      pure (min, some min)
  if (← peek) ≠ some '\x7d' then fail start (← place) .openCount
  bumpSpaced
  let eager ← eagerness
  match range with
  | (min, some max) => if max < min then fail start (← place) .emptyCount
  | (_, none) => pure ()
  return (range.1, range.2, eager)

/-- A letter that a name of a group may begin with. -/
def isLetter (c : Char) : Bool :=
  if c.toNat < 0x80 then c.isAlpha
  else (Unicode.Property.ranges .alphabetic).contains c.toNat

def isNumber (c : Char) : Bool :=
  if c.toNat < 0x80 then c.isDigit
  else (Unicode.ofCategories [.decimalNumber, .letterNumber, .otherNumber]).contains c.toNat

/-- The name of a group, up to the angle bracket behind it. -/
def groupName : Reader Unit := do
  let start ← place
  if (← peek).isNone then fail start start .openName
  let name ← nameFrom [] ((← get).rest.length + 1)
  let last ← place
  if (← peek).isNone then fail last last .openName
  bump
  if name.isEmpty then fail start start .emptyName
  let s ← get
  match s.names.lookup name with
  | some first => fail start last (.repeatedName first)
  | none => modify fun s => { s with names := (name, ⟨start, last⟩) :: s.names }
where
  isNameChar (first : Bool) (c : Char) : Bool :=
    c == '_' || isLetter c || (!first && (['.', '[', ']'].contains c || isNumber c))
  nameFrom (acc : List Char) : Nat → Reader (List Char)
    | 0 => return acc.reverse
    | fuel + 1 => do
      match ← peek with
      | none => return acc.reverse
      | some '>' => return acc.reverse
      | some c =>
        unless isNameChar acc.isEmpty c do fail (← place) (← placeBehind) .badName
        bump
        nameFrom (c :: acc) fuel

/-- Sets or clears the flag of a letter; none if there is no such flag. -/
def setFlag? (f : Flags) (on : Bool) (c : Char) : Option Flags :=
  match c with
  | 'i' => some { f with anyCase := on }
  | 'm' => some { f with byLine := on }
  | 's' => some { f with dotAll := on }
  | 'R' => some { f with returns := on }
  | 'u' => some { f with unicode := on }
  | 'x' => some { f with spaced := on }
  | 'U' => some { f with swapped := on }
  | _ => none

/-- Flags up to a colon or parenthesis, with the places of the letters so far and that of the
hyphen. -/
def flagsFrom (f : Flags) (seen : List (Char × Span)) (negated : Bool) : Nat → Reader (Flags × Bool)
  | 0 => return (f, seen.isEmpty)
  | fuel + 1 => do
    let span : Span := ⟨← place, ← placeBehind⟩
    match ← peek with
    | none => fail span.first span.first .openFlags
    | some c =>
      if c = ':' ∨ c = ')' then
        if let some ('-', span) := seen.head? then throw ⟨span, .danglingNegation⟩
        return (f, seen.isEmpty)
      let f ←
        if c = '-' then
          if let some first := seen.lookup '-' then throw ⟨span, .repeatedNegation first⟩
          pure f
        else
          match setFlag? f (!negated) c with
          | none => throw ⟨span, .unknownFlag⟩
          | some f =>
            if let some first := seen.lookup c then throw ⟨span, .repeatedFlag first⟩
            pure f
      bump
      flagsFrom f ((c, span) :: seen) (negated || c == '-') fuel

/-- What an opening parenthesis begins. -/
inductive Opening where
  /-- A group, whose match is kept or not, to be read with flags of its own. -/
  | group (kept : Bool) (flags : Flags)
  /-- A change of the flags. -/
  | change (flags : Flags)

/-- Reads up to what is in a group, or a change of the flags. -/
def opening : Reader Opening := do
  let start ← place
  bump
  skipSpaces
  let inner ← place
  for text in ["?=", "?!", "?<=", "?<!"] do
    if ← bumpIf text then fail start (← place) .lookAround
  let f := (← get).flags
  if (← bumpIf "?P<") || (← bumpIf "?<") then
    groupName
    return .group true f
  if ← bumpIf "?" then
    if (← peek).isNone then fail start (start.next '(') .openGroup
    let (f, isEmpty) ← flagsFrom f [] false ((← get).rest.length + 1)
    let closed := (← peek) = some ')'
    bump
    if closed ∧ isEmpty then fail inner inner .nothingToRepeat
    return if closed then .change f else .group false f
  return .group true f

/-- An atom as an expression. -/
def atomRegex (span : Span) (a : Atom) : Reader Regex := do
  let f := (← get).flags
  match a with
  | .literal c byte =>
    if byte ∧ ¬ f.unicode ∧ 0x80 ≤ c.toNat then note span .notUtf8
    return .set (literalSet f c)
  | .set s => return .set s
  | .look l => return .look l

/-- A single character of the text that is no operator, or what a backslash begins. -/
def primitive : Reader Regex := do
  let start ← place
  let f := (← get).flags
  match ← peek with
  | some '\\' =>
    let a ← escape
    atomRegex ⟨start, ← place⟩ a
  | some '.' =>
    bump
    if ¬ f.unicode then note ⟨start, ← place⟩ .notUtf8
    let ends := if f.returns then [('\r', '\r'), ('\n', '\n')] else [('\n', '\n')]
    return .set (if f.dotAll then .any else .complement (.ofRanges ends))
  | some '^' =>
    bump
    return .look
      (if ¬ f.byLine then .textStart else if f.returns then .returnedLineStart else .lineStart)
  | some '$' =>
    bump
    return .look (if ¬ f.byLine then .textEnd else if f.returns then .returnedLineEnd else .lineEnd)
  | c =>
    bump
    atomRegex ⟨start, ← place⟩ (.literal (c.getD ' ') false)

/-- The number of times that an operator repeats something, if it does. -/
def operator? (c : Char) : Option (Nat × Option Nat) :=
  match c with
  | '?' => some (0, some 1)
  | '*' => some (0, none)
  | '+' => some (1, none)
  | _ => none

/-- A part of a sequence, from a place on. One that only changes flags is no expression. -/
structure Part where
  first : Place
  regex : Option Regex
  nesting : Nesting

/-- An expression and how its parts nest. -/
structure Branch where
  regex : Regex
  nesting : Nesting

/-- A sequence of parts, the latest first. -/
def Branch.ofParts (span : Span) (parts : List Part) : Branch :=
  let nesting := match parts with
    | [] => []
    | [p] => p.nesting
    | _ => .around span (parts.reverse.map Part.nesting)
  ⟨.sequence (parts.reverse.filterMap Part.regex), nesting⟩

/-- A choice of a last branch and others, the latest first. -/
def Branch.orElse (span : Span) (done : List Branch) (last : Branch) : Branch :=
  if done.isEmpty then last
  else
    ⟨done.foldl (fun r b => .either b.regex r) last.regex,
      .around span ((last :: done).reverse.map Branch.nesting)⟩

/-- An expression that begins at `start`, up to a closing parenthesis or the end: the branches so
far, and the parts of the current one, which begins at `here`, each time the latest first. -/
def branches (start : Place) (done : List Branch) (here : Place) (parts : List Part) :
    Nat → Reader Branch
  | 0 => return ⟨.empty, []⟩
  | fuel + 1 => do
    skipSpaces
    let first ← place
    let add (regex : Option Regex) (nesting : Nesting) : Reader Branch :=
      branches start done here (⟨first, regex, nesting⟩ :: parts) fuel
    let current (_ : Unit) : Branch := .ofParts ⟨here, first⟩ parts
    match ← peek with
    | none | some ')' => return .orElse ⟨start, first⟩ done (current ())
    | some '|' =>
      bump
      branches start (current () :: done) (← place) [] fuel
    | some '(' =>
      let outer := (← get).flags
      match ← opening with
      | .change f =>
        modify fun s => { s with flags := f }
        add none []
      | .group kept f =>
        modify fun s => { s with flags := f, groups := s.groups + if kept then 1 else 0 }
        let number ← if kept then pure (some (← get).groups) else pure none
        let inner ← place
        let b ← branches inner [] inner [] fuel
        if (← peek).isNone then fail first (first.next '(') .openGroup
        bump
        modify fun s => { s with flags := outer }
        add (some (.group number b.regex))
          (.around ⟨first, ← place⟩ [b.nesting])
    | some '[' =>
      let p ← bracket fuel
      add (some (.set p.set)) p.nesting
    | some c =>
      if c = '\x7b' ∨ (operator? c).isSome then
        match parts with
        | ⟨start', some r, nesting⟩ :: others =>
          let (min, max, eager) ← match operator? c with
            | some (min, max) => do
              bump
              pure (min, max, ← eagerness)
            | none => counts
          let nesting := Nesting.around ⟨start', ← place⟩ [nesting]
          let part := ⟨start', some (.repeated r min max eager), nesting⟩
          branches start done here (part :: others) fuel
        | _ => fail first first .nothingToRepeat
      else
        let r ← primitive
        add (some r) []

/-- Reads a regular expression. -/
def ofText (text : List Char) : Except Fault Regex :=
  let reader : Reader Regex := do
    let b ← branches .start [] .start [] (4 * text.length + 8)
    if (← peek).isSome then fail (← place) (← placeBehind) .unopenedGroup
    if let some span := b.nesting[maxNesting]? then throw ⟨span, .tooNested⟩
    match (← get).trouble with
    | some f => throw f
    | none => return b.regex
  match reader ⟨text, .start, .initial, 0, [], none⟩ with
  | .ok r _ => .ok r
  | .error f _ => .error f

end DockLint.Regex
