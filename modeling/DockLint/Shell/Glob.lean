/-!
# Shell patterns

In the text of a pattern `*` stands for any characters, `?` for one, brackets for one of those
listed in them, and a character behind a backslash for itself.
-/

namespace DockLint.Shell

/-- A character of a word, and whether it was quoted. -/
structure Mark where
  char : Char
  quoted : Bool
  deriving DecidableEq, Repr

/-- The pattern that a word is: its quoted characters stand for themselves. -/
def patternOf (ms : List Mark) : List Char :=
  ms.flatMap fun m => if m.quoted then ['\\', m.char] else [m.char]

/-! ### Brackets -/

/-- What brackets list. -/
inductive Listed where
  | range (first last : Char)
  | named (word : String)
  deriving DecidableEq, Repr

/-- Visible characters. -/
def isGraph (c : Char) : Bool :=
  '!' ≤ c && c ≤ '~'

/-- The classes of characters that brackets may name. -/
def classes : List (String × (Char → Bool)) :=
  [("alnum", Char.isAlphanum), ("alpha", Char.isAlpha),
    ("blank", fun c => c == ' ' || c == '\t'),
    ("cntrl", fun c => c < ' ' || c == '\x7f'), ("digit", Char.isDigit), ("graph", isGraph),
    ("lower", Char.isLower), ("print", fun c => c == ' ' || isGraph c),
    ("punct", fun c => isGraph c && !c.isAlphanum),
    ("space", fun c => c == ' ' || ('\t' ≤ c && c ≤ '\r')), ("upper", Char.isUpper),
    ("xdigit", fun c => c.isDigit || ('a' ≤ c && c ≤ 'f') || ('A' ≤ c && c ≤ 'F'))]

/-- A class named behind an opening bracket, and what follows it. -/
def class? (s : List Char) : Option (String × List Char) :=
  classes.findSome? fun (name, _) =>
    let written := (":" ++ name ++ ":]").toList
    if written.isPrefixOf s then some (name, s.drop written.length) else none

/-- The place of a character that stands for a byte in the order of ranges, where the upper half of
the bytes comes first. -/
def byteRank (c : Char) : Int :=
  Int.bmod c.toNat 256

def Listed.accepts (l : Listed) (c : Char) : Bool :=
  match l with
  | range first last => byteRank first ≤ byteRank c && byteRank c ≤ byteRank last
  | named word => ((classes.lookup word).map fun f => f c).getD false

/-- What stands in brackets and what follows them, behind the opening one; none if they are not
closed. Something is listed before brackets can be closed. Each step uses up a character. -/
def listed? (acc : List Listed) : Nat → List Char → Option (List Listed × List Char)
  | 0, _ => none
  | fuel + 1, s =>
    let next (l : Listed) (s : List Char) : Option (List Listed × List Char) :=
      match s with
      | [] => none
      | ']' :: rest => some ((l :: acc).reverse, rest)
      | s => listed? (l :: acc) fuel s
    let single (c : Char) (s : List Char) : Option (List Listed × List Char) :=
      match s with
      | '-' :: '\\' :: d :: rest => next (.range c d) rest
      | '-' :: d :: rest => if d = ']' then next (.range c c) s else next (.range c d) rest
      | s => next (.range c c) s
    match s with
    | [] => none
    | '\\' :: c :: rest => single c rest
    | '[' :: rest =>
      match class? rest with
      | some (name, rest) => next (.named name) rest
      | none => single '[' rest
    | c :: rest => single c rest

/-! ### Matching -/

/-- What a pattern consists of. -/
inductive Piece where
  | char (c : Char)
  | anyChar
  | anyText
  | oneOf (negated : Bool) (items : List Listed)
  deriving DecidableEq, Repr

/-- The pieces of a pattern; an opening bracket without a closing one stands for itself. Each step
uses up a character. -/
def pieces : Nat → List Char → List Piece
  | 0, _ => []
  | _, [] => []
  | fuel + 1, '\\' :: c :: rest => .char c :: pieces fuel rest
  | fuel + 1, c :: rest =>
    if c = '*' then .anyText :: pieces fuel rest
    else if c = '?' then .anyChar :: pieces fuel rest
    else if c = '[' then
      let (negated, inside) := match rest with
        | '!' :: inside => (true, inside)
        | inside => (false, inside)
      match listed? [] fuel inside with
      | some (items, after) => .oneOf negated items :: pieces fuel after
      | none => .char '[' :: pieces fuel rest
    else .char c :: pieces fuel rest

def Piece.accepts (p : Piece) (c : Char) : Bool :=
  match p with
  | char x => c == x
  | anyChar => true
  | anyText => false
  | oneOf negated items => items.any (·.accepts c) != negated

/-- Whether some end part of a text passes a test, the text itself tried first. -/
def anySuffix (test : List Char → Bool) : List Char → Bool
  | [] => test []
  | c :: rest => if test (c :: rest) then true else anySuffix test rest

def matchesPieces : List Piece → List Char → Bool
  | [], s => s.isEmpty
  | .anyText :: ps, s => anySuffix (matchesPieces ps) s
  | p :: ps, c :: s => if p.accepts c then matchesPieces ps s else false
  | _ :: _, [] => false

def glob (pattern s : List Char) : Bool :=
  matchesPieces (pieces pattern.length pattern) s

/-! ### File names -/

/-- Whether a bracket is closed again, with something in between. -/
def closesBracket : Nat → List Char → Bool
  | 0, _ => false
  | fuel + 1, s =>
    let s := match s with
      | '\\' :: s => s
      | s => s
    match s with
    | [] => false
    | [_] => false
    | _ :: c :: rest => c == ']' || closesBracket fuel (c :: rest)

/-- Whether a pattern may stand for other names than itself. -/
def hasWildcard : List Char → Bool
  | [] => false
  | '\\' :: _ :: rest => hasWildcard rest
  | c :: rest =>
    c == '*' || c == '?' ||
      (c == '[' && closesBracket (rest.length + 1)
        (match rest with
          | '!' :: inside => inside
          | inside => inside)) ||
      hasWildcard rest

/-- The parts of a pattern between slashes, quoted or not. -/
def patternParts (part : List Char) : List Char → List (List Char)
  | [] => [part.reverse]
  | '\\' :: '/' :: rest => part.reverse :: patternParts [] rest
  | '\\' :: c :: rest => patternParts (c :: '\\' :: part) rest
  | '/' :: rest => part.reverse :: patternParts [] rest
  | c :: rest => patternParts (c :: part) rest

/-- The text of a pattern without wildcards. -/
def unescaped : List Char → List Char
  | '\\' :: c :: rest => c :: unescaped rest
  | c :: rest => c :: unescaped rest
  | [] => []

/-- What file names are looked up in: the names in a directory, and whether there is something at a
path. -/
structure Directories where
  names : List Char → List (List Char)
  present : List Char → Bool

/-- Names that a part of a pattern stands for, given those there are; a leading point has to be
written. -/
def matchingNames (pattern : List Char) (names : List (List Char)) : List (List Char) :=
  let hidden := (unescaped pattern).head? == some '.'
  let names := if hidden then ['.'] :: ['.', '.'] :: names else names
  names.filter fun s => glob pattern s && (hidden || s.head? != some '.')

/-- The paths that the parts of a pattern stand for behind `front`, a path found so far. -/
def matchingPaths (d : Directories) (front : List Char) : List (List Char) → List (List Char)
  | [] => []
  | [last] =>
    if hasWildcard last then (matchingNames last (d.names front)).map (front ++ ·)
    else
      let path := front ++ unescaped last
      if d.present path then [path] else []
  | part :: rest =>
    let found := if hasWildcard part then matchingNames part (d.names front) else [unescaped part]
    found.flatMap fun name => matchingPaths d (front ++ name ++ ['/']) rest

def byteOrder (s t : List Char) : Bool :=
  !List.lex (t.map Char.toNat) (s.map Char.toNat) (· < ·)

/-- The paths that a field stands for: itself if it has no wildcards or nothing matches. -/
def expandField (d : Directories) (field : List Mark) : List (List Char) :=
  let itself := [field.map (·.char)]
  let parts := patternParts [] (patternOf field)
  if parts.any hasWildcard then
    match matchingPaths d [] parts with
    | [] => itself
    | paths => paths.mergeSort byteOrder
  else itself

end DockLint.Shell
