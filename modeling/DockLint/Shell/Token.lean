import DockLint.Shell.Syntax

/-!
# Shell tokens

What a script is made of, with the names that complaints have for it.
-/

namespace DockLint.Shell

inductive Token where
  | endOfFile
  | newline
  | redirection
  | word
  /-- An operator, or a word that means something where a command may start. -/
  | reserved (s : String)
  deriving DecidableEq, Repr

namespace Token

def keywords : List String :=
  ["!", "case", "do", "done", "elif", "else", "esac", "fi", "for", "if", "in", "then", "until",
    "while", "\x7b", "\x7d"]

/-- The token in a complaint. -/
def name : Token → String
  | endOfFile => "end of file"
  | newline => "newline"
  | redirection => "redirection"
  | word => "word"
  | reserved s => "\x22" ++ s ++ "\x22"

/-- Whether a list of commands may end before the token. -/
def endsList : Token → Bool
  | endOfFile => true
  | reserved s =>
    [")", ";;", "do", "done", "elif", "else", "esac", "fi", "then", "\x7d"].contains s
  | newline | redirection | word => false

end Token

/-- Why a script cannot be read. -/
inductive Misreading where
  | unexpected (found : Token) (wanted : Option Token)
  | badLoopVariable
  | badFunctionName
  | badDescriptor
  | openArithmetic
  | openQuotes
  | openBraces
  | openBackQuotes
  deriving DecidableEq, Repr

def Misreading.message : Misreading → String
  | unexpected found none => found.name ++ " unexpected"
  | unexpected found (some wanted) => found.name ++ " unexpected (expecting " ++ wanted.name ++ ")"
  | badLoopVariable => "Bad for loop variable"
  | badFunctionName => "Bad function name"
  | badDescriptor => "Bad fd number"
  | openArithmetic => "Missing '))'"
  | openQuotes => "Unterminated quoted string"
  | openBraces => "Missing '\x7d'"
  | openBackQuotes => "EOF in backquote substitution"

/-- A misreading and the line it was found at. -/
structure SyntaxFault where
  line : Nat
  cause : Misreading
  deriving DecidableEq, Repr

end DockLint.Shell
