import DockLint.Shell.State

/-!
# Concatenating files

`cat` copies files, or standard input, to standard output. It may number lines, drop repeated empty
ones and make characters visible.
-/

namespace DockLint.Shell.Concatenate

structure Options where
  number : Bool
  /-- Only lines that hold something get a number. -/
  numberFilled : Bool
  squeeze : Bool
  ends : Bool
  tabs : Bool
  controls : Bool
  deriving DecidableEq, Repr

def Options.none : Options := ⟨false, false, false, false, false, false⟩

/-! ### Arguments -/

/-- What an option asks for. -/
inductive Wish where
  | change (f : Options → Options)
  | help
  | version

def ofLetter? (c : Char) : Option Wish :=
  match c with
  | 'A' => some (.change fun o => { o with ends := true, tabs := true, controls := true })
  | 'b' => some (.change fun o => { o with number := true, numberFilled := true })
  | 'e' => some (.change fun o => { o with ends := true, controls := true })
  | 'E' => some (.change fun o => { o with ends := true })
  | 'n' => some (.change fun o => { o with number := true })
  | 's' => some (.change fun o => { o with squeeze := true })
  | 't' => some (.change fun o => { o with tabs := true, controls := true })
  | 'T' => some (.change fun o => { o with tabs := true })
  | 'u' => some (.change id)
  | 'v' => some (.change fun o => { o with controls := true })
  | _ => none

/-- Options by their long names, with the letters for the same. -/
def longNames : List (String × Option Char) :=
  [("number-nonblank", some 'b'), ("number", some 'n'), ("squeeze-blank", some 's'),
    ("show-nonprinting", some 'v'), ("show-ends", some 'E'), ("show-tabs", some 'T'),
    ("show-all", some 'A'), ("help", none), ("version", none)]

/-- What is wrong with an option. -/
inductive Misuse where
  | badLetter (c : Char)
  | unknown (option : List Char)
  | ambiguous (option : List Char) (names : List String)
  | valueGiven (name : String)

def Misuse.message : Misuse → List Char
  | badLetter c => "invalid option -- '".toList ++ [c, '\x27']
  | unknown option => "unrecognized option '".toList ++ option ++ ['\x27']
  | ambiguous option names =>
    "option '".toList ++ option ++ "' is ambiguous; possibilities:".toList ++
      names.flatMap fun n => (" '--" ++ n ++ "'").toList
  | valueGiven name => ("option '--" ++ name ++ "' doesn't allow an argument").toList

/-- The option of a long name, which may be cut short as long as it is clear. -/
def ofLong? (s : List Char) : Except Misuse Wish :=
  let name := s.takeWhile (· ≠ '=')
  let found := longNames.filter fun n => name.isPrefixOf n.1.toList
  let exact := longNames.filter fun n => n.1.toList == name
  match exact ++ found with
  | [] => .error (.unknown ("--".toList ++ s))
  | (n, letter) :: _ =>
    if exact.isEmpty ∧ found.length > 1 then
      .error (.ambiguous ("--".toList ++ s) (found.map (·.1)))
    else if s.contains '=' then .error (.valueGiven n)
    else
      match letter.bind ofLetter? with
      | some w => .ok w
      | none => .ok (if n = "help" then .help else .version)

/-- What the arguments ask for: to tell something, or to copy files. -/
inductive Task where
  | help
  | version
  | copy (o : Options) (paths : List (List Char))

def letters (o : Options) : List Char → Except Misuse Options
  | [] => .ok o
  | c :: cs =>
    match ofLetter? c with
    | some (.change f) => letters (f o) cs
    | _ => .error (.badLetter c)

/-- Options may stand between paths, up to two hyphens. -/
def taskOf (o : Options) (paths : List (List Char)) : List (List Char) → Except Misuse Task
  | [] => .ok (.copy o paths.reverse)
  | ['-', '-'] :: rest => .ok (.copy o (paths.reverse ++ rest))
  | ('-' :: '-' :: name) :: rest => do
    match ← ofLong? name with
    | .change f => taskOf (f o) paths rest
    | .help => return .help
    | .version => return .version
  | ('-' :: c :: cs) :: rest => do taskOf (← letters o (c :: cs)) paths rest
  | path :: rest => taskOf o (path :: paths) rest

/-! ### Lines -/

/-- Where the output stands. -/
structure Place where
  /-- How many lines have a number. -/
  count : Nat
  /-- How many empty lines came last. -/
  blanks : Nat
  midLine : Bool

/-- A control character by the letter it goes with, a byte of the upper half behind `M-`. -/
def visible (o : Options) (c : Char) : List Char :=
  let low (n : Nat) : List Char :=
    if n < 0x20 then ['^', Char.ofNat (n + 0x40)]
    else if n = 0x7f then ['^', '?']
    else [Char.ofNat n]
  if c = '\t' then if o.tabs then ['^', 'I'] else [c]
  else if ¬ o.controls then [c]
  else if c.toNat < 0x80 then low c.toNat
  else 'M' :: '-' :: low (c.toNat - 0x80)

/-- A line without its end. -/
def lineText (o : Options) (s : List Char) (ended : Bool) : List Char :=
  if o.ends ∧ ended ∧ s.getLast? = some '\r' then s.dropLast.flatMap (visible o) ++ ['^', 'M']
  else s.flatMap (visible o)

def lineNumber (n : Nat) : List Char :=
  let ds := Nat.toDigits 10 n
  List.replicate (6 - ds.length) ' ' ++ ds ++ ['\t']

/-- A line as it is written, and where the output stands then. -/
def lineOut (o : Options) (p : Place) (s : List Char) (ended : Bool) : List Char × Place :=
  let blank := s.isEmpty && !p.midLine
  let blanks := if blank then p.blanks + 1 else 0
  if blank ∧ o.squeeze ∧ blanks > 1 then ([], { p with blanks })
  else
    let numbered := o.number && !p.midLine && !(o.numberFilled && blank)
    let count := if numbered then p.count + 1 else p.count
    let front := if numbered then lineNumber count else []
    let back := if ended then if o.ends then ['$', '\n'] else ['\n'] else []
    (front ++ lineText o s ended ++ back, ⟨count, blanks, !ended⟩)

/-- The lines of a text as they are written; the latest first in `acc`. -/
def textOut (o : Options) (acc : List (List Char)) (line : List Char) (p : Place) :
    List Char → List Char × Place
  | [] =>
    if line.isEmpty then (acc.reverse.flatten, p)
    else
      let (out, p) := lineOut o p line.reverse false
      ((out :: acc).reverse.flatten, p)
  | '\n' :: rest =>
    let (out, p) := lineOut o p line.reverse true
    textOut o (out :: acc) [] p rest
  | c :: rest => textOut o acc (c :: line) p rest

/-! ### Names in complaints -/

/-- Whether a name is put into quotes. -/
def isPlain (s : List Char) : Bool :=
  let special := " !\x22$&'()*;<=>?[\\^\x60|:".toList
  !s.isEmpty && s ≠ ['\x7b'] && s ≠ ['\x7d'] && s.head? ≠ some '~' && s.head? ≠ some '#' &&
    s.all fun c => ' ' < c && c < '\x7f' && !special.contains c

/-- Where the end of a name in quotes stands. -/
inductive NamePlace where
  | start
  | quoted
  /-- In quotes of characters that have no shape. -/
  | shapeless

/-- A name in quotes; characters that have no shape stand in quotes of their own. -/
def escapedName (p : NamePlace) : List Char → List Char
  | [] => ['\x27']
  | c :: rest =>
    if ' ' ≤ c ∧ c < '\x7f' then
      let front := match p with
        | .start => ['\x27']
        | .quoted => []
        | .shapeless => ['\x27', '\x27']
      let shown := if c = '\x27' then ['\x27', '\\', '\x27', '\x27'] else [c]
      front ++ shown ++ escapedName .quoted rest
    else
      let front := match p with
        | .start => ['\x27', '\x27', '$', '\x27']
        | .quoted => ['\x27', '$', '\x27']
        | .shapeless => []
      let shown := match c with
        | '\t' => ['\\', 't']
        | '\n' => ['\\', 'n']
        | '\r' => ['\\', 'r']
        | c =>
          let ds := Nat.toDigits 8 c.toNat
          '\\' :: List.replicate (3 - ds.length) '0' ++ ds
      front ++ shown ++ escapedName .shapeless rest

/-- Whether an apostrophe can stand in a name between double quotes. -/
def fitsDouble (c : Char) : Bool :=
  ' ' ≤ c && c < '\x7f' && !("\x22$\x60\\!".toList.contains c)

/-- A name as complaints show it. -/
def quotedName (s : List Char) : List Char :=
  if isPlain s then s
  else if s.contains '\x27' ∧ s.all fitsDouble then '\x22' :: s ++ ['\x22']
  else if s.isEmpty then ['\x27', '\x27']
  else escapedName .start s

end DockLint.Shell.Concatenate

namespace DockLint.Shell

open Concatenate in
/-- Carries out `cat` under a name. -/
def concatenate (name : List Char) (args : List (List Char)) : Act Nat := do
  let blame (s : List Char) : Act Unit := do
    let _ ← write 2 (name ++ ": ".toList ++ s ++ ['\n'])
  match taskOf .none [] args with
  | .error m =>
    blame m.message
    let _ ← write 2 ("Try '".toList ++ name ++ " --help' for more information.\n".toList)
    return 1
  | .ok .help =>
    let usage := " [OPTION]... [FILE]...\nConcatenate FILE(s) to standard output.\n"
    let _ ← write 1 ("Usage: ".toList ++ name ++ usage.toList)
    return 0
  | .ok .version =>
    let _ ← write 1 "cat 9.4\n".toList
    return 0
  | .ok (.copy o paths) =>
    let some (out, stream) ← stream? 1
      | blame "standard output: Bad file descriptor".toList
        return 1
    let target : Option (List String × Nat) ← match stream with
      | .file names offset mode => do
        let old := (contentAt (← get).world.root names).length
        pure (some (names, if mode = .append then old else offset))
      | _ => pure none
    let rec copy (p : Place) (good input : Bool) : List (List Char) → Act Nat
      | [] => do
        if input ∧ (← stream? 0).isNone then
          blame "closing standard input: Bad file descriptor".toList
          return 1
        return if good then 0 else 1
      | path :: rest => do
        let input := input || path = ['-']
        let st ← get
        let text : Except String (List Char) ←
          if path = ['-'] then do
            let own ← stream? 0
            match own, target with
            | some (_, .file names offset _), some (outNames, end_) =>
              if names = outNames ∧ offset < end_ then pure (.error "input file is output file")
              else fromDescriptor
            | _, _ => fromDescriptor
          else
            let whole (names : List String) (bytes : List UInt8) : Except String (List Char) :=
              if target.any fun (outNames, end_) => names = outNames ∧ 0 < end_ then
                .error "input file is output file"
              else .ok (toChars bytes)
            match st.tree.node (pathOf path) with
            | .ok (.descriptor n) => do
              match ← stream? n with
              | some (_, .file names _ _) => pure (whole names (contentAt st.world.root names))
              | _ =>
                match ← readAll n with
                | .text s => pure (.ok s)
                | .closed => pure (.error "No such file or directory")
                | .directory => pure (.error "Is a directory")
            | .ok _ =>
              match st.tree.read (pathOf path), st.tree.resolve (pathOf path) with
              | .ok bytes, .ok names => pure (whole names bytes)
              | .error f, _ | _, .error f => pure (.error f.name)
            | .error f => pure (.error f.name)
        match text with
        | .error reason =>
          blame (quotedName path ++ ": ".toList ++ reason.toList)
          copy p false input rest
        | .ok s =>
          let (s, p) := if o = .none then (s, p) else textOut o [] [] p s
          let written ← if s.isEmpty then pure Written.good else writeStream out s
          match written with
          | .good => copy p good input rest
          | .failed =>
            let full := stream matches .device true
            blame (if full then "write error: No space left on device".toList
              else "write error: Bad file descriptor".toList)
            return 1
          | .unread =>
            receive Signal.brokenPipe
            blame "write error: Broken pipe".toList
            return 1
    copy ⟨0, 0, false⟩ true false (if paths.isEmpty then [['-']] else paths)
where
  fromDescriptor : Act (Except String (List Char)) := do
    match ← readAll 0 with
    | .text s => return .ok s
    | .closed => return .error "Bad file descriptor"
    | .directory => return .error "Is a directory"

end DockLint.Shell
