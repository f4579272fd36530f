import DockLint.Shell.Token

/-!
# Reading shell scripts

A script is read by as many lines at a time as its next command takes up. Every reader of the mutual
block calls others with less fuel, and takes a character on the way to itself or goes deeper into
the grammar, so that fuel of a few times the script's length is enough.

What a character means depends on the quotes and braces around it. A `Layer` is what surrounds a
part of a word; `${` and `$((` put further layers on top.
-/

namespace DockLint.Shell

/-- What the reader looks for in the next token besides operators. -/
structure Checks where
  keywords : Bool
  /-- Line ends before the token do not count. -/
  newlines : Bool
  aliases : Bool
  /-- The token marks the end of a document. -/
  endMark : Bool

namespace Checks

def none : Checks := ⟨false, false, false, false⟩

/-- Where a command may start. -/
def command : Checks := ⟨true, false, true, false⟩

/-- The same, perhaps on a later line. -/
def commandBelow : Checks := ⟨true, true, true, false⟩

def clause : Checks := ⟨true, true, false, false⟩

def firstWords : Checks := ⟨false, false, true, false⟩

def delimiter : Checks := ⟨false, false, false, true⟩

end Checks

/-- An alias whose text is being read. -/
structure OpenAlias where
  name : String
  /-- How many characters there are behind its text. -/
  behind : Nat
  endsInBlank : Bool

/-- A document whose text stands behind the current line. -/
structure PendingDocument where
  number : Nat
  delimiter : List Char
  /-- Tabs in front of its lines are left out. -/
  indented : Bool
  /-- Nothing in it stands for anything else. -/
  verbatim : Bool

/-- A redirection whose word is still to be read. -/
inductive RedirectionStart where
  | file (descriptor : Nat) (mode : Mode)
  | duplicate (descriptor : Nat)
  | document (descriptor : Nat) (indented : Bool)

/-- A script as far as it has been read. -/
structure Source where
  rest : List Char
  /-- How many characters `rest` has. -/
  left : Nat
  line : Nat
  aliases : List (String × List Char)
  openAliases : List OpenAlias
  checks : Checks
  /-- The latest token, which is read once more if it was pushed back. -/
  token : Token
  pushedBack : Bool
  word : Word
  /-- Whether any of the word was quoted. -/
  quoted : Bool
  redirection : RedirectionStart
  pending : List PendingDocument
  documents : List (Nat × Word)
  /-- No document has this number or a larger one. -/
  fresh : Nat

abbrev Reader := EStateM SyntaxFault Source

namespace Source

def ofText (text : List Char) (aliases : List (String × List Char)) (fresh : Nat) : Source where
  rest := text
  left := text.length
  line := 1
  aliases := aliases
  openAliases := []
  checks := .none
  token := .newline
  pushedBack := false
  word := []
  quoted := false
  redirection := .duplicate 0
  pending := []
  documents := []
  fresh := fresh

/-- The next character, which is taken; none at the end. -/
def take : Reader (Option Char) := fun s =>
  match s.rest with
  | [] => .ok none s
  | c :: rest => .ok (some c) { s with rest, left := s.left - 1 }

/-- Gives a character back. -/
def untake (c : Option Char) : Reader Unit := fun s =>
  match c with
  | none => .ok () s
  | some c => .ok () { s with rest := c :: s.rest, left := s.left + 1 }

def nextLine : Reader Unit := fun s =>
  .ok () { s with line := s.line + 1 }

/-- Joins a line that ends in a backslash with the one behind it, and so on. -/
def joinLines : Nat → Source → Source
  | 0, s => s
  | fuel + 1, s =>
    match s.rest with
    | '\\' :: '\n' :: rest =>
      joinLines fuel { s with rest, left := s.left - 2, line := s.line + 1 }
    | _ => s

/-- The next character where lines may be joined. -/
def takeJoined : Reader (Option Char) := fun s =>
  match s.rest with
  | '\\' :: '\n' :: _ => take (joinLines s.left s)
  | _ => take s

def fail {α : Type} (cause : Misreading) : Reader α := fun s =>
  .error ⟨s.line, cause⟩ s

/-- Complains about the latest token. -/
def unexpected {α : Type} (wanted : Option Token) : Reader α := fun s =>
  .error ⟨s.line, .unexpected s.token wanted⟩ s

def check (checks : Checks) : Reader Unit := fun s =>
  .ok () { s with checks }

def pushBack : Reader Unit := fun s =>
  .ok () { s with pushedBack := true }

def found (token : Token) : Reader Token := fun s =>
  .ok token { s with token }

end Source

open Source

/-! ### Layers -/

/-- How characters are taken. -/
inductive Manner where
  | bare | double | single | sum
  deriving DecidableEq

/-- What surrounds a part of a word. -/
structure Layer where
  manner : Manner
  /-- Backslashes quote as within double quotes. -/
  doubled : Bool
  /-- Within double quotes that were opened inside of braces. -/
  innerQuotes : Bool
  /-- The layer came about with an opening brace, and ends with the closing one. -/
  braced : Bool
  /-- Open braces, and those of them opened within double quotes. -/
  braces : Nat
  doubledBraces : Nat
  /-- Open parentheses of an arithmetic expression. -/
  parens : Nat

def Layer.of (manner : Manner) : Layer :=
  ⟨manner, manner = .double ∨ manner = .sum, false, false, 0, 0, 0⟩

/-- What a character does where a manner is in force. -/
inductive Role where
  | newline | plain | backslash | singleQuote | doubleQuote | endQuote | dollar
  | closeBrace | openParen | closeParen | backQuote | ender
  deriving DecidableEq

def endsWord (c : Char) : Bool :=
  ['<', '>', '(', ')', ';', '&', '|', ' ', '\t', '\x00'].contains c

def Manner.role (m : Manner) (c : Char) : Role :=
  if c = '\n' then .newline
  else match m with
  | .single => if c = '\x27' then .endQuote else .plain
  | m =>
    if c = '\\' then .backslash
    else if c = '\x60' then .backQuote
    else if c = '$' then .dollar
    else if c = '\x7d' then .closeBrace
    else match m with
    | .bare =>
      if c = '\x27' then .singleQuote
      else if c = '\x22' then .doubleQuote
      else if endsWord c then .ender
      else .plain
    | .double => if c = '\x22' then .endQuote else .plain
    | .sum => if c = '(' then .openParen else if c = ')' then .closeParen else .plain
    | .single => .plain

/-- What encloses the parts being read. -/
structure Enclosing where
  parts : List Part
  inQuotes : Bool
  close : List Part → Part

/-- A word as far as it has been read; parts stand in reverse order. -/
structure Draft where
  layer : Layer
  below : List Layer
  parts : List Part
  /-- Quotation marks of these parts are open. -/
  inQuotes : Bool
  outer : List Enclosing
  quoted : Bool

namespace Draft

def start (manner : Manner) : Draft :=
  ⟨.of manner, [], [], false, [], false⟩

def push (d : Draft) (p : Part) : Draft :=
  { d with parts := p :: d.parts }

/-- A character that may be quoted by the quotes around it. -/
def char (d : Draft) (c : Char) : Draft :=
  d.push (.char c (d.inQuotes || d.layer.manner = .double || d.layer.manner = .single))

def quotedChar (d : Draft) (c : Char) : Draft :=
  { d.push (.char c true) with quoted := true }

/-- A quotation mark, which a document does not show. -/
def mark (d : Draft) (inDocument : Bool) : Draft :=
  if inDocument then d else { d.push .mark with inQuotes := !d.inQuotes }

/-- Goes into the word of a part. -/
def enter (d : Draft) (close : List Part → Part) : Draft :=
  { d with parts := [], inQuotes := false, outer := ⟨d.parts, d.inQuotes, close⟩ :: d.outer }

/-- Comes out of it again. -/
def leave (d : Draft) : Draft :=
  match d.outer with
  | [] => d
  | e :: outer =>
    { d with parts := e.close d.parts.reverse :: e.parts, inQuotes := e.inQuotes, outer }

def pushLayer (d : Draft) (l : Layer) : Draft :=
  { d with layer := l, below := d.layer :: d.below }

def popLayer (d : Draft) : Draft :=
  match d.below with
  | [] => d
  | l :: below => { d with layer := l, below }

/-- Behind a closing brace that ends a part. -/
def closeBrace (d : Draft) : Draft :=
  let l := d.layer
  let n := l.braces - 1
  if n = 0 ∧ l.braced then d.popLayer
  else if l.doubledBraces > 0 then
    { d with layer := { l with braces := n, doubledBraces := l.doubledBraces - 1 } }
  else { d with layer := { l with braces := n } }

end Draft

/-- All arguments in quotes of their own leave no field behind where there are none. -/
def dropMarks : List Part → List Part
  | .mark :: .parameter "@" .plain [] true :: .mark :: rest =>
    .parameter "@" .plain [] true :: dropMarks rest
  | p :: rest => p :: dropMarks rest
  | [] => []

/-! ### Parameters -/

def isSpecialParameter (c : Char) : Bool :=
  c.isDigit || ['@', '*', '#', '?', '$', '!', '-'].contains c

/-- What stands between `${` and the word in the braces. -/
structure ParameterStart where
  name : String
  edit : Edit

/-- The rest of a name. -/
def nameFrom (ok : Char → Bool) (acc : List Char) : Nat → Option Char →
    Reader (String × Option Char)
  | 0, c => return (String.ofList acc.reverse, c)
  | fuel + 1, c => do
    match c with
    | some x =>
      if ok x then nameFrom ok (x :: acc) fuel (← takeJoined)
      else return (String.ofList acc.reverse, c)
    | none => return (String.ofList acc.reverse, c)

/-- The parameter behind `$`, at its first character. -/
def nakedParameter (fuel : Nat) (c : Char) : Reader String := do
  if isNameStart c then
    let (name, c) ← nameFrom isNameChar [] fuel (some c)
    untake c
    return name
  return String.ofList [c]

/-- What is done with a parameter, at the first character behind its name. -/
def editAt (c : Option Char) : Reader Edit := do
  let trim (longest : Edit) (shortest : Edit) (mark : Char) : Reader Edit := do
    let c ← takeJoined
    if c = some mark then return longest
    untake c
    return shortest
  match c with
  | some '\x7d' => return .plain
  | some '-' => return .fallback false
  | some '+' => return .replace false
  | some '?' => return .demand false
  | some '=' => return .assign false
  | some '#' => trim (.cutFront true) (.cutFront false) '#'
  | some '%' => trim (.cutBack true) (.cutBack false) '%'
  | some ':' =>
    match ← takeJoined with
    | some '\x7d' => return .bareColon
    | some '-' => return .fallback true
    | some '+' => return .replace true
    | some '?' => return .demand true
    | some '=' => return .assign true
    | _ => return .unreadable
  | _ => return .unreadable

/-- A name, a number or a special character, at its first one. -/
def bracedName (fuel : Nat) (c : Option Char) : Reader (Option String × Option Char) := do
  match c with
  | none => return (none, c)
  | some x =>
    if isNameStart x then
      let (name, c) ← nameFrom isNameChar [] fuel c
      return (some name, c)
    else if x.isDigit then
      let (name, c) ← nameFrom Char.isDigit [] fuel c
      return (some name, c)
    else if x = '\x7d' then return (none, c)
    else
      let after ← takeJoined
      return (if isSpecialParameter x then some (String.ofList [x]) else none, after)

/-- A parameter in braces, at the first character in them. -/
def bracedParameter (fuel : Nat) (c : Option Char) : Reader ParameterStart := do
  if c = some '#' then
    let c ← takeJoined
    if c.any fun x => x == '_' || x.isAlphanum then
      let (name, c) ← bracedName fuel c
      if c = some '\x7d' then return ⟨name.getD "", .length⟩
      untake c
      return ⟨name.getD "", .unreadable⟩
    let after ← takeJoined
    if c ≠ some '\x7d' ∧ after = some '\x7d' then
      if c.any isSpecialParameter then return ⟨(c.map fun x => String.ofList [x]).getD "", .length⟩
      untake after
      return ⟨"#", .unreadable⟩
    untake after
    return ⟨"#", ← editAt c⟩
  else
    let (name, c) ← bracedName fuel c
    match name with
    | some name => return ⟨name, ← editAt c⟩
    | none =>
      untake c
      return ⟨"", .unreadable⟩

/-! ### Documents -/

/-- Whether a line is the one that ends a document: what follows the line. -/
def afterDelimiter? : List Char → List Char → Option (List Char)
  | [], [] => some []
  | [], '\n' :: rest => some rest
  | d :: ds, c :: rest => if d = c then afterDelimiter? ds rest else none
  | _, _ => none

/-- The first character of a line, `c` being read; none where a document ends. -/
def lineStart (doc : Option PendingDocument) (c : Option Char) : Reader (Option Char) := do
  match doc with
  | none => return c
  | some doc =>
    untake c
    fun s =>
      let s :=
        if doc.indented then
          let rest := s.rest.dropWhile (· = '\t')
          { s with rest, left := s.left - (s.rest.length - rest.length) }
        else s
      match afterDelimiter? doc.delimiter s.rest with
      | some rest => .ok none { s with rest, left := rest.length, line := s.line + 1 }
      | none => take s

/-! ### Tokens -/

/-- Behind a comment, at the end of its line. -/
def skipComment : Reader Unit := fun s =>
  let rest := s.rest.dropWhile (· ≠ '\n')
  .ok () { s with rest, left := rest.length }

/-- Forgets the aliases whose text ends before the next token, whose first character has been
taken. One that ends in a blank has the token looked up among the aliases too. -/
def closeAliases (first : Option Char) : Reader Unit := fun s =>
  if s.openAliases.isEmpty then .ok () s
  else
    let left := if first.isSome then s.left + 1 else 0
    let (open_, done) := s.openAliases.partition fun a => a.behind < left
    let aliases := s.checks.aliases || done.any (·.endsInBlank)
    .ok () { s with openAliases := open_, checks := { s.checks with aliases } }

/-- The text of an alias is read in place of the word. -/
def openAlias (name : String) (text : List Char) : Reader Unit := fun s =>
  if text.isEmpty then .ok () s
  else
    let blank := text.getLast?.any fun c => c == ' ' || c == '\t'
    .ok () { s with
      rest := text ++ s.rest
      left := s.left + text.length
      openAliases := ⟨name, s.left, blank⟩ :: s.openAliases }

/-- The alias that the latest word stands for, unless its text is being read. -/
def aliasOf? (s : Source) : Option (String × List Char) := do
  let name ← s.word.literal?
  let text ← s.aliases.lookup name
  if s.openAliases.any (·.name == name) then none else some (name, text)

/-- A redirection at its first sign, for the descriptor in front of it if there is one. -/
def startRedirection (descriptor : Option Nat) (sign : Char) : Reader Token := do
  let c ← takeJoined
  let (start, used) ← match sign, c with
    | '>', some '>' => pure (.file (descriptor.getD 1) .append, true)
    | '>', some '|' => pure (.file (descriptor.getD 1) .overwrite, true)
    | '>', some '&' => pure (.duplicate (descriptor.getD 1), true)
    | '>', _ => pure (.file (descriptor.getD 1) .write, false)
    | _, some '<' => do
      let c ← takeJoined
      if c = some '-' then pure (RedirectionStart.document (descriptor.getD 0) true, true)
      else do
        untake c
        pure (.document (descriptor.getD 0) false, true)
    | _, some '&' => pure (.duplicate (descriptor.getD 0), true)
    | _, some '>' => pure (.file (descriptor.getD 0) .readWrite, true)
    | _, _ => pure (.file (descriptor.getD 0) .read, false)
  if ¬ used then untake c
  modify fun s => { s with redirection := start }
  found .redirection

/-- The descriptor that a word in front of a redirection names; none if it is empty. -/
def descriptor? : List Part → Option (Option Nat)
  | [] => some none
  | [.char c false] => if c.isDigit then some (some (c.toNat - 0x30)) else none
  | _ => none

/-- The target that a word behind `>&` or `<&` names. -/
def targetOf (w : Word) : Target :=
  match w with
  | [.char c false] =>
    if c.isDigit then .descriptor (c.toNat - 0x30) else if c = '-' then .closed else .word w
  | w => .word w

/-- What stands in back quotes, taken behind the first one. -/
def backQuoted (doubled : Bool) (acc : List Char) : Nat → Reader (List Char)
  | 0 => fail .openBackQuotes
  | fuel + 1 => do
    match ← takeJoined with
    | none => fail .openBackQuotes
    | some '\x60' => return acc.reverse
    | some '\\' =>
      match ← take with
      | none => backQuoted doubled ('\\' :: acc) fuel
      | some c =>
        if c = '\\' ∨ c = '\x60' ∨ c = '$' ∨ (doubled ∧ c = '\x22') then
          backQuoted doubled (c :: acc) fuel
        else backQuoted doubled (c :: '\\' :: acc) fuel
    | some c => do
      if c = '\n' then nextLine
      backQuoted doubled (c :: acc) fuel

/-- The commands that scripts may not define. -/
def specialCommands : List String :=
  [".", ":", "break", "continue", "eval", "exec", "exit", "export", "local", "readonly", "return",
    "set", "shift", "times", "trap", "unset"]

def Command.inBackground : Command → Command
  | .redirected line body rs => .background line body rs
  | c => .background 0 c []

/-- The parts of a simple command read so far, the latest first. -/
structure SimpleDraft where
  assignments : List Word
  words : List Word
  redirections : List Redirection

mutual

/-- Reads on in a word at a character: the word, and the character behind it. -/
def wordFrom (doc : Option PendingDocument) : Nat → Option Char → Draft →
    Reader (Draft × Option Char)
  | 0, c, d => return (d, c)
  | _, none, d => return (d, none)
  | fuel + 1, some c, d => do
    let on (d : Draft) : Reader (Draft × Option Char) := do
      let c ← if d.layer.manner = .single then take else takeJoined
      wordFrom doc fuel c d
    let toggle (d : Draft) : Draft :=
      let l := d.layer
      let l := if l.braces > 0 then { l with innerQuotes := !l.innerQuotes } else l
      { d with layer := l }.mark doc.isSome
    let l := d.layer
    match l.manner.role c with
    | .newline =>
      if l.manner = .bare ∧ l.braces = 0 then return (d, some c)
      nextLine
      let next ← lineStart doc (← take)
      wordFrom doc fuel next (d.char c)
    | .plain => on (d.char c)
    | .backslash =>
      match ← take with
      | none => on (d.quotedChar '\\')
      | some e =>
        let kept := l.doubled ∧ e ≠ '\\' ∧ e ≠ '\x60' ∧ e ≠ '$' ∧
          (e ≠ '\x22' ∨ doc.isSome ∧ l.braces = 0) ∧ (e ≠ '\x7d' ∨ l.braces = 0)
        on ((if kept then d.quotedChar '\\' else d).quotedChar e)
    | .singleQuote => on ({ d with layer := { l with manner := .single } }.mark doc.isSome)
    | .doubleQuote => on (toggle { d with layer := { l with manner := .double, doubled := true } })
    | .endQuote =>
      if doc.isSome ∧ l.braces = 0 then on (d.char c)
      else
        let l := if l.doubledBraces = 0 then { l with manner := .bare, doubled := false } else l
        let d := { d with layer := l, quoted := true }
        on (if c = '\x22' then toggle d else d.mark doc.isSome)
    | .dollar => on (← dollar fuel d)
    | .closeBrace =>
      if ¬ l.innerQuotes ∧ l.braces > 0 then on d.closeBrace.leave else on (d.char c)
    | .openParen => on ({ d with layer := { l with parens := l.parens + 1 } }.char c)
    | .closeParen =>
      if l.parens > 0 then on ({ d with layer := { l with parens := l.parens - 1 } }.char c)
      else
        let next ← takeJoined
        if next = some ')' then on d.popLayer.leave
        else
          untake next
          on (d.char c)
    | .backQuote =>
      if (← get).checks.endMark then on (d.char c)
      else
        let text ← backQuoted l.doubled [] fuel
        let s ← get
        set { s with
          rest := text, left := text.length, line := 1, openAliases := [], pending := [] }
        let body ← commands false true none fuel
        modify fun t => { t with
          rest := s.rest, left := s.left, line := s.line
          openAliases := s.openAliases, pending := s.pending, pushedBack := false }
        on (d.push (.output body.1 d.inQuotes))
    | .ender => if l.braces = 0 then return (d, some c) else on (d.char c)

/-- What a dollar sign introduces. -/
def dollar : Nat → Draft → Reader Draft
  | 0, d => return d
  | fuel + 1, d => do
    let first ← takeJoined
    let here := d.inQuotes
    if (← get).checks.endMark then
      untake first
      return d.char '$'
    match first with
    | some '(' =>
      let second ← takeJoined
      if second = some '(' then
        return (d.enter fun ps => .arithmetic ps here).pushLayer (.of .sum)
      untake second
      let pending := (← get).pending
      modify fun s => { s with pending := [] }
      let (body, _) ← commands false true none fuel
      if (← token fuel) ≠ .reserved ")" then unexpected (some (.reserved ")"))
      modify fun s => { s with
        documents := s.pending.map (fun p => (p.number, [])) ++ s.documents
        pending }
      return d.push (.output body here)
    | some '\x7b' =>
      let start ← bracedParameter fuel (← takeJoined)
      if start.edit = .plain ∨ start.edit = .length then
        return d.push (.parameter start.name start.edit [] here)
      let l := d.layer
      let trims := match start.edit with
        | .cutFront _ | .cutBack _ => true
        | _ => false
      let manner := if trims then .bare else if l.manner = .sum then .double else l.manner
      let d := d.enter fun ps => .parameter start.name start.edit (dropMarks ps) here
      let d :=
        if manner ≠ l.manner ∨ l.innerQuotes then
          d.pushLayer { Layer.of manner with braced := true, doubled := manner ≠ .bare }
        else d
      let l := d.layer
      let doubledBraces := if l.doubled then l.doubledBraces + 1 else l.doubledBraces
      return { d with layer := { l with braces := l.braces + 1, doubledBraces } }
    | some c =>
      if isNameStart c ∨ isSpecialParameter c then
        return d.push (.parameter (← nakedParameter fuel c) .plain [] here)
      untake first
      return d.char '$'
    | none => return d.char '$'

/-- The text of a document. -/
def documentText (doc : PendingDocument) : Nat → Reader Word
  | 0 => return []
  | fuel + 1 => do
    let manner := if doc.verbatim then .single else .double
    let first ← if doc.verbatim then take else takeJoined
    let (d, _) ← wordFrom (some doc) fuel (← lineStart (some doc) first) (.start manner)
    if d.layer.manner = .sum then fail .openArithmetic
    if d.layer.braces ≠ 0 then fail .openBraces
    return d.parts.reverse

/-- Reads the documents behind a line. -/
def readDocuments : Nat → Reader Unit
  | 0 => return
  | fuel + 1 => do
    let pending := (← get).pending
    modify fun s => { s with pending := [] }
    for doc in pending do
      let text ← documentText doc fuel
      modify fun s => { s with documents := (doc.number, text) :: s.documents }

/-- A word, or a redirection with what stands right in front of it. -/
def wordToken : Nat → Option Char → Reader Token
  | 0, _ => found .endOfFile
  | fuel + 1, c => do
    let (d, c) ← wordFrom none fuel c (.start .bare)
    if d.layer.manner = .sum then fail .openArithmetic
    if d.layer.manner ≠ .bare then fail .openQuotes
    if d.layer.braces ≠ 0 then fail .openBraces
    let word := dropMarks d.parts.reverse
    match c, descriptor? word with
    | some sign, some descriptor =>
      if (sign = '<' ∨ sign = '>') ∧ ¬ d.quoted then return ← startRedirection descriptor sign
    | _, _ => pure ()
    untake c
    modify fun s => { s with word, quoted := d.quoted }
    found .word

/-- The next token, whatever it means where it stands. -/
def rawToken : Nat → Reader Token
  | 0 => found .endOfFile
  | fuel + 1 => do
    let c ← takeJoined
    let joined (second : Char) (both one : String) : Reader Token := do
      let next ← takeJoined
      if next = some second then found (.reserved both)
      else
        untake next
        found (.reserved one)
    match c with
    | some ' ' | some '\t' => rawToken fuel
    | some '#' =>
      skipComment
      rawToken fuel
    | c =>
      closeAliases c
      match c with
      | none => found .endOfFile
      | some '\n' =>
        nextLine
        found .newline
      | some '&' => joined '&' "&&" "&"
      | some '|' => joined '|' "||" "|"
      | some ';' => joined ';' ";;" ";"
      | some '(' => found (.reserved "(")
      | some ')' => found (.reserved ")")
      | c => wordToken fuel c

/-- The next token that counts, where line ends do not. -/
def behindLines : Nat → Token → Reader Token
  | 0, t => return t
  | fuel + 1, t => do
    if t ≠ .newline then return t
    readDocuments fuel
    check .none
    behindLines fuel (← rawToken fuel)

/-- The next token, for the checks that were set. -/
def token : Nat → Reader Token
  | 0 => found .endOfFile
  | fuel + 1 => do
    let checks := (← get).checks
    tokenFor checks fuel

def tokenFor (checks : Checks) : Nat → Reader Token
  | 0 => found .endOfFile
  | fuel + 1 => do
    let s ← get
    let t ←
      if s.pushedBack then do
        set { s with pushedBack := false }
        pure s.token
      else rawToken fuel
    let t ← if checks.newlines then behindLines fuel t else pure t
    let s ← get
    let aliases := checks.aliases || s.checks.aliases
    set { s with checks := .none }
    if t ≠ .word ∨ s.quoted then return t
    match s.word.literal? with
    | none => return t
    | some w =>
      if checks.keywords ∧ Token.keywords.contains w then return ← found (.reserved w)
      match if aliases then aliasOf? s else none with
      | none => return t
      | some (name, text) =>
        openAlias name text
        tokenFor checks fuel

/-- Commands one after another. A list at the `top` of a script ends with its line; another one may
end before a token that ends lists, at once if it `mayEnd`. Also whether the script has ended. -/
def commands (top mayEnd : Bool) (before : Option Command) : Nat → Reader (Option Command × Bool)
  | 0 => return (before, true)
  | fuel + 1 => do
    let atEnd (c : Option Command) : Reader (Option Command × Bool) := do
      readDocuments fuel
      pushBack
      let _ ← found .endOfFile
      return (c, c.isNone)
    check (if top then .command else .commandBelow)
    let t ← token fuel
    if t = .newline then
      readDocuments fuel
      return (before, false)
    if t = .endOfFile then return ← atEnd before
    pushBack
    if ¬ top ∧ mayEnd ∧ t.endsList then return (before, false)
    let c ← andOr fuel
    let t ← token fuel
    let c := if t = .reserved "&" then c.inBackground else c
    let c := some <| match before with
      | none => c
      | some b => .sequence b c
    match t with
    | .endOfFile => atEnd c
    | .newline =>
      pushBack
      commands top true c fuel
    | .reserved "&" | .reserved ";" => commands top true c fuel
    | _ =>
      if top then unexpected none
      pushBack
      return (c, false)

/-- A list of commands that is not empty. -/
def list : Nat → Reader Command
  | 0 => unexpected none
  | fuel + 1 => do
    match ← commands false false none fuel with
    | (some c, _) => return c
    | (none, _) => return default

/-- Pipelines joined by `&&` and `||`. -/
def andOr : Nat → Reader Command
  | 0 => unexpected none
  | fuel + 1 => do
    andOrFrom fuel (← pipeline fuel)

def andOrFrom : Nat → Command → Reader Command
  | 0, c => return c
  | fuel + 1, c => do
    match ← token fuel with
    | .reserved "&&" =>
      check .commandBelow
      andOrFrom fuel (.both c (← pipeline fuel))
    | .reserved "||" =>
      check .commandBelow
      andOrFrom fuel (.either c (← pipeline fuel))
    | _ =>
      pushBack
      return c

def pipeline : Nat → Reader Command
  | 0 => unexpected none
  | fuel + 1 => do
    let negated := (← token fuel) = .reserved "!"
    if negated then check .command else pushBack
    let c ← command fuel
    let cs ← pipelineFrom fuel [c]
    let c := match cs with
      | [c] => c
      | cs => .pipe cs.reverse
    return if negated then .negated c else c

def pipelineFrom : Nat → List Command → Reader (List Command)
  | 0, cs => return cs
  | fuel + 1, cs => do
    if (← token fuel) = .reserved "|" then
      check .commandBelow
      pipelineFrom fuel ((← command fuel) :: cs)
    else
      pushBack
      return cs

/-- A token that has to come now. -/
def expect (word : String) : Nat → Reader Unit
  | 0 => unexpected none
  | fuel + 1 => do
    if (← token fuel) ≠ .reserved word then unexpected (some (.reserved word))

def command : Nat → Reader Command
  | 0 => unexpected none
  | fuel + 1 => do
    let line := (← get).line
    let body : Option Command ← match ← token fuel with
      | .reserved "if" => some <$> branches fuel
      | .reserved "while" => some <$> loop false fuel
      | .reserved "until" => some <$> loop true fuel
      | .reserved "for" => some <$> each line fuel
      | .reserved "case" => some <$> choose line fuel
      | .reserved "(" => do
        let c ← list fuel
        expect ")" fuel
        pure (some (.subshell line c []))
      | .reserved "\x7b" => do
        let c ← list fuel
        expect "\x7d" fuel
        pure (some c)
      | .word | .redirection => do
        pushBack
        pure none
      | _ => unexpected none
    match body with
    | none => simple ⟨[], [], []⟩ true line fuel
    | some c =>
      check .command
      let rs ← redirections fuel
      match rs, c with
      | [], c => return c
      | rs, .subshell line c _ => return .subshell line c rs
      | rs, c => return .redirected line c rs

/-- The branches of a conditional, behind `if` or `elif`. -/
def branches : Nat → Reader Command
  | 0 => unexpected none
  | fuel + 1 => do
    let test ← list fuel
    expect "then" fuel
    let body ← list fuel
    match ← token fuel with
    | .reserved "elif" => return .cond test body (some (← branches fuel))
    | .reserved "else" =>
      let other ← list fuel
      expect "fi" fuel
      return .cond test body (some other)
    | _ =>
      pushBack
      expect "fi" fuel
      return .cond test body none

def loop (untilTrue : Bool) : Nat → Reader Command
  | 0 => unexpected none
  | fuel + 1 => do
    let test ← list fuel
    expect "do" fuel
    let body ← list fuel
    expect "done" fuel
    return .loop untilTrue test body

/-- Words up to a token that is none. -/
def words : Nat → List Word → Reader (List Word × Token)
  | 0, ws => return (ws.reverse, .endOfFile)
  | fuel + 1, ws => do
    match ← token fuel with
    | .word => words fuel ((← get).word :: ws)
    | t => return (ws.reverse, t)

/-- A loop over words, behind `for`. -/
def each (line : Nat) : Nat → Reader Command
  | 0 => unexpected none
  | fuel + 1 => do
    let t ← token fuel
    let s ← get
    let name := (s.word.literal?.filter isName).getD ""
    if t ≠ .word ∨ s.quoted ∨ name = "" then fail .badLoopVariable
    check .commandBelow
    let ws ← match ← token fuel with
      | .reserved "in" => do
        let (ws, t) ← words fuel []
        if t ≠ .newline ∧ t ≠ .reserved ";" then unexpected none
        pure ws
      | t => do
        if t ≠ .reserved ";" then pushBack
        pure [[.parameter "@" .plain [] true]]
    check .commandBelow
    expect "do" fuel
    let body ← list fuel
    expect "done" fuel
    return .each line name ws body

/-- A case distinction, behind `case`. -/
def choose (line : Nat) : Nat → Reader Command
  | 0 => unexpected none
  | fuel + 1 => do
    if (← token fuel) ≠ .word then unexpected (some .word)
    let word := (← get).word
    check .commandBelow
    expect "in" fuel
    return .choose line word (← clauses fuel)

/-- The clauses of a case distinction up to `esac`. -/
def clauses : Nat → Reader (List Clause)
  | 0 => unexpected none
  | fuel + 1 => do
    check .clause
    let t ← token fuel
    if t = .reserved "esac" then return []
    if t = .reserved "(" then let _ ← token fuel
    let patterns ← patterns fuel
    let (body, _) ← commands false true none fuel
    check .clause
    let t ← token fuel
    if t = .reserved "esac" then return [.mk patterns body]
    if t ≠ .reserved ";;" then unexpected (some (.reserved ";;"))
    return .mk patterns body :: (← clauses fuel)

/-- Patterns between bars, the first of them read, up to the parenthesis behind them. -/
def patterns : Nat → Reader (List Word)
  | 0 => unexpected none
  | fuel + 1 => do
    let pattern := (← get).word
    let t ← token fuel
    if t = .reserved "|" then
      let _ ← token fuel
      return pattern :: (← patterns fuel)
    if t ≠ .reserved ")" then unexpected (some (.reserved ")"))
    return [pattern]

/-- What a redirection leads to. -/
def redirection : Nat → Reader Redirection
  | 0 => unexpected none
  | fuel + 1 => do
    let start := (← get).redirection
    if let .document .. := start then check .delimiter
    if (← token fuel) ≠ .word then unexpected none
    let s ← get
    match start with
    | .file descriptor mode => return .file descriptor mode s.word
    | .duplicate descriptor => return .duplicate descriptor (targetOf s.word)
    | .document descriptor indented =>
      let doc : PendingDocument := ⟨s.fresh, s.word.chars, indented, s.quoted⟩
      set { s with pending := s.pending ++ [doc], fresh := s.fresh + 1 }
      return .document descriptor doc.number

/-- Redirections behind a compound command. -/
def redirections : Nat → Reader (List Redirection)
  | 0 => return []
  | fuel + 1 => do
    if (← token fuel) = .redirection then
      let r ← redirection fuel
      return r :: (← redirections fuel)
    pushBack
    return []

/-- The assignments, words and redirections of a simple command; assignments and aliases may come
only `first`. A word with parentheses behind it names a function. -/
def simple (d : SimpleDraft) (first : Bool) (line : Nat) : Nat → Reader Command
  | 0 => unexpected none
  | fuel + 1 => do
    check (if first then .firstWords else .none)
    match ← token fuel with
    | .word =>
      let word := (← get).word
      if first ∧ (assigned? word).isSome then
        simple { d with assignments := word :: d.assignments } true line fuel
      else simple { d with words := word :: d.words } false line fuel
    | .redirection =>
      let r ← redirection fuel
      simple { d with redirections := r :: d.redirections } first line fuel
    | t =>
      match t, d with
      | .reserved "(", ⟨[], [word], []⟩ =>
        expect ")" fuel
        let name := (word.literal?.filter isName).getD ""
        if name = "" ∨ specialCommands.contains name then fail .badFunctionName
        check .commandBelow
        let line := (← get).line
        return .function line name (← command fuel)
      | _, _ =>
        pushBack
        return .simple line d.assignments.reverse d.words.reverse d.redirections.reverse

end

/-- The commands of a line, or of as many lines as they take up; none at the end of the script. -/
def readLine : Reader (Option (Option Command)) := fun s =>
  let s := { s with pushedBack := false, checks := .none, pending := [], openAliases := [] }
  let reader : Reader (Option (Option Command)) := do
    let (c, ended) ← commands true false none (4 * s.left + 4096)
    return if ended then none else some c
  reader s

end DockLint.Shell
