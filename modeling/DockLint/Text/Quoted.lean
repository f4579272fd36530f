import DockLint.Unicode.Extender
import DockLint.Unicode.Unprintable

/-!
# Quoted text

The form in which log messages show a text: in double quotes, with escapes for double quotes,
backslashes, controls, characters without a glyph and characters that would be drawn onto the one
before.
-/

namespace DockLint.Text

def escapeChar (c : Char) : List Char :=
  match c with
  | '\x00' => ['\\', '0']
  | '\t' => ['\\', 't']
  | '\n' => ['\\', 'n']
  | '\r' => ['\\', 'r']
  | '\x22' => ['\\', '\x22']
  | '\\' => ['\\', '\\']
  | c =>
    if Unicode.isExtender c || !Unicode.isPrintable c then
      ['\\', 'u', '\x7b'] ++ Nat.toDigits 16 c.toNat ++ ['\x7d']
    else [c]

def quote (s : String) : String :=
  String.ofList ('\x22' :: s.toList.flatMap escapeChar ++ ['\x22'])

/-- Several texts in brackets. -/
def quoteAll (ss : List String) : String :=
  "[" ++ String.intercalate ", " (ss.map quote) ++ "]"

/-- A text that may be absent. -/
def quoteOption : Option String → String
  | none => "None"
  | some s => "Some(" ++ quote s ++ ")"

end DockLint.Text
