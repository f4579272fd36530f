import DockLint.CommandLine.Reader
import Mathlib.Data.List.Perm.Basic

/-!
# Spellings of command lines

A command with its global options is a list of items in some order, cut in two by the command's
name. Each item has a long form, and all but the format and the path a short one; short flags may
share a hyphen, and one that takes a value may end such a bundle.
-/

namespace DockLint.CommandLine

/-- What an argument, or two, can say. -/
inductive Item where
  | config (file : String)
  | verbose
  | quiet
  | format (f : Format)
  | path (file : String)
  deriving DecidableEq, Repr

/-- Names of files that no option is mistaken for. -/
def IsFile (s : String) : Prop :=
  s ≠ "" ∧ (s.toList.head? ≠ some '-' ∨ s = "-")

instance (s : String) : Decidable (IsFile s) :=
  inferInstanceAs (Decidable (_ ∧ _))

namespace Item

def config? : Item → Option String
  | config file => some file
  | _ => none

def format? : Item → Option Format
  | format f => some f
  | _ => none

def path? : Item → Option String
  | path file => some file
  | _ => none

/-- Whether the item may stand on either side of the command's name. -/
def isGlobal (i : Item) : Bool :=
  i.format?.isNone && i.path?.isNone

def file? (i : Item) : Option String :=
  i.config?.or i.path?

/-- The item is an option with this long name and this value. -/
inductive Named : Item → String → String → Prop where
  | config (file : String) : Named (config file) "config" file
  | format (f : Format) : Named (format f) "format" f.name

end Item

/-- The flags that have a letter. -/
inductive Letter where
  | verbose | quiet
  deriving DecidableEq, Repr

namespace Letter

def char : Letter → Char
  | verbose => 'v'
  | quiet => 'q'

def name : Letter → String
  | verbose => "verbose"
  | quiet => "quiet"

def item : Letter → Item
  | verbose => .verbose
  | quiet => .quiet

end Letter

/-- Letters that share a hyphen, and what stands after them in the same argument. -/
def bundle (letters : List Letter) (rest : List Char) : String :=
  String.ofList ('-' :: (letters.map Letter.char ++ rest))

/-- Items that are said together, and the arguments that say them. -/
inductive Piece : List Item → List String → Prop where
  | flag (l : Letter) : Piece [l.item] ["--" ++ l.name]
  | value {i : Item} {name text : String} (h : i.Named name text) :
    Piece [i] ["--" ++ name, text]
  | attached {i : Item} {name text : String} (h : i.Named name text) :
    Piece [i] ["--" ++ name ++ "=" ++ text]
  | letters {ls : List Letter} (h : ls ≠ []) : Piece (ls.map Letter.item) [bundle ls []]
  | lettersValue (ls : List Letter) (file : String) :
    Piece (ls.map Letter.item ++ [.config file]) [bundle ls ['c'], file]
  | lettersAttached (ls : List Letter) (file : String) :
    Piece (ls.map Letter.item ++ [.config file]) [bundle ls ('c' :: '=' :: file.toList)]
  | path (file : String) : Piece [.path file] [file]

/-- The arguments say the items, in this order. -/
inductive Spells : List Item → List String → Prop where
  | nil : Spells [] []
  | cons {is js : List Item} {as bs : List String} :
    Piece is as → Spells js bs → Spells (is ++ js) (as ++ bs)

/-- The options that may stand on either side of the command's name. -/
def globals (config? : Option String) (n : Nat) (quiet : Bool) : List Item :=
  config?.toList.map .config ++ List.replicate n .verbose ++ (if quiet then [.quiet] else [])

/-- What has to follow the command's name. The format may be left out where it is text. -/
inductive Body : Command → List Item → Prop where
  | lint (path : String) (f : Format) : Body (.lint path f) [.path path, .format f]
  | lintText (path : String) : Body (.lint path .text) [.path path]
  | check : Body .check []
  | which : Body .which []

def commandName : Command → String
  | .lint .. => "lint"
  | .check => "check"
  | .which => "which"

/-- The command line asks for the command, with each of the global options wholly before or wholly
after its name. -/
inductive Renders (command : Command) (config? : Option String) (n : Nat) (quiet : Bool) :
    List String → Prop where
  | intro (front : Item → Bool) {body before after : List Item} {as bs : List String} :
    Body command body →
    before.Perm ((globals config? n quiet).filter front) →
    after.Perm (body ++ (globals config? n quiet).filter (! front ·)) →
    Spells before as → Spells after bs →
    Renders command config? n quiet (as ++ commandName command :: bs)

/-- The files that a command is about. -/
def commandFiles : Command → List String
  | .lint path _ => [path]
  | _ => []

/-! ### Every command line has a spelling -/

def Item.spelled : Item → List String
  | .config file => ["--" ++ "config", file]
  | .verbose => ["--" ++ "verbose"]
  | .quiet => ["--" ++ "quiet"]
  | .format f => ["--" ++ "format", f.name]
  | .path file => [file]

theorem Item.piece_spelled (i : Item) : Piece [i] i.spelled := by
  cases i with
  | config file => exact .value (.config file)
  | verbose => exact .flag .verbose
  | quiet => exact .flag .quiet
  | format f => exact .value (.format f)
  | path file => exact .path file

theorem spells_flatMap (items : List Item) : Spells items (items.flatMap Item.spelled) := by
  induction items with
  | nil => exact .nil
  | cons i items ih => exact .cons i.piece_spelled ih

theorem exists_body (command : Command) : ∃ body, Body command body := by
  cases command with
  | lint path f => exact ⟨_, .lint path f⟩
  | check => exact ⟨_, .check⟩
  | which => exact ⟨_, .which⟩

theorem exists_renders (command : Command) (config? : Option String) (n : Nat) (quiet : Bool) :
    ∃ args, Renders command config? n quiet args := by
  obtain ⟨body, hbody⟩ := exists_body command
  exact ⟨_, .intro (fun _ => true) hbody (.refl _) (.refl _) (spells_flatMap _) (spells_flatMap _)⟩

/-! ### What the items of a command line say together -/

section
variable {command : Command} {config? : Option String} {n : Nat} {quiet : Bool}

theorem isGlobal_of_mem_globals {i : Item} (h : i ∈ globals config? n quiet) : i.isGlobal := by
  simp only [globals, List.mem_append, List.mem_map, List.mem_replicate] at h
  rcases h with (⟨f, -, rfl⟩ | ⟨-, rfl⟩) | h
  · rfl
  · rfl
  · have : i = .quiet := by cases quiet <;> simp_all
    subst this; rfl

theorem filterMap_config?_globals :
    (globals config? n quiet).filterMap Item.config? = config?.toList := by
  have hv : (List.replicate n Item.verbose).filterMap Item.config? = [] := by
    simp [List.filterMap_eq_nil_iff, Item.config?]
  cases quiet <;> cases config? <;> simp [globals, hv, Item.config?]

theorem count_verbose_globals : (globals config? n quiet).count .verbose = n := by
  cases quiet <;> cases config? <;> simp [globals]

theorem count_quiet_globals : (globals config? n quiet).count .quiet = quiet.toNat := by
  cases quiet <;> cases config? <;> simp [globals, List.count_replicate]

end

end DockLint.CommandLine
