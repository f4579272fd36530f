import DockLint.Json.Basic
import DockLint.Decimal.Shortest

/-!
# Writing JSON

`Json.compact` writes a value on one line without blanks, `Json.pretty` one member or element to a
line, two spaces deeper than what holds it. In strings, quotes, backslashes and controls below
U+0020 are escaped and nothing else is.
-/

namespace DockLint.Json

/-- A double has a point at least one digit from its start, zeros beside the digits for magnitudes
from 0.00001 to below 10 ^ 16, and an exponent with its sign otherwise. -/
def numberLayout : Decimal.Layout := ⟨-5, 16, true⟩

def Number.render : Number → List Char
  | natural n => Nat.toDigits 10 n
  | negative n => '-' :: Nat.toDigits 10 n
  | double d => numberLayout.renderDouble d

def hexDigit (n : Nat) : Char :=
  if n < 10 then Char.ofNat (0x30 + n) else Char.ofNat (0x57 + n)

def escape (c : Char) : List Char :=
  match c with
  | '\x22' => ['\\', '\x22']
  | '\\' => ['\\', '\\']
  | '\x08' => ['\\', 'b']
  | '\x0c' => ['\\', 'f']
  | '\n' => ['\\', 'n']
  | '\r' => ['\\', 'r']
  | '\t' => ['\\', 't']
  | c =>
    if c.toNat < 0x20 then
      ['\\', 'u', '0', '0', hexDigit (c.toNat / 16), hexDigit (c.toNat % 16)]
    else [c]

def renderString (s : List Char) : List Char :=
  '\x22' :: s.flatMap escape ++ ['\x22']

mutual

def render : Json → List Char
  | null => "null".toList
  | bool b => (if b then "true" else "false").toList
  | num n => n.render
  | str s => renderString s.toList
  | arr xs => '[' :: renderElements xs ++ [']']
  | obj ms => '\x7b' :: renderMembers ms ++ ['\x7d']

def renderElements : List Json → List Char
  | [] => []
  | [x] => render x
  | x :: xs => render x ++ ',' :: renderElements xs

def renderMembers : List (String × Json) → List Char
  | [] => []
  | [(k, v)] => renderString k.toList ++ ':' :: render v
  | (k, v) :: ms => renderString k.toList ++ ':' :: render v ++ ',' :: renderMembers ms

end

def newline (depth : Nat) : List Char :=
  '\n' :: List.replicate (2 * depth) ' '

mutual

def renderDeep (depth : Nat) : Json → List Char
  | arr [] => ['[', ']']
  | arr (x :: xs) =>
    '[' :: newline (depth + 1) ++ renderDeep (depth + 1) x ++ renderMoreElements (depth + 1) xs ++
      newline depth ++ [']']
  | obj [] => ['\x7b', '\x7d']
  | obj ((k, v) :: ms) =>
    '\x7b' :: newline (depth + 1) ++ renderString k.toList ++ [':', ' '] ++
      renderDeep (depth + 1) v ++ renderMoreMembers (depth + 1) ms ++ newline depth ++ ['\x7d']
  | v => render v

def renderMoreElements (depth : Nat) : List Json → List Char
  | [] => []
  | x :: xs => ',' :: newline depth ++ renderDeep depth x ++ renderMoreElements depth xs

def renderMoreMembers (depth : Nat) : List (String × Json) → List Char
  | [] => []
  | (k, v) :: ms =>
    ',' :: newline depth ++ renderString k.toList ++ [':', ' '] ++ renderDeep depth v ++
      renderMoreMembers depth ms

end

def compact (v : Json) : String :=
  String.ofList v.render

def pretty (v : Json) : String :=
  String.ofList (v.renderDeep 0)

end DockLint.Json
