import DockLint.Json.Printer
import DockLint.Text.Quoted

/-!
# What is wrong with a text that is no JSON

A fault has a cause and a place: the number of the line and of the bytes of it that were read.
-/

namespace DockLint.Json

/-- A value as it is named in a reason. -/
def describe : Json → String
  | null => "null"
  | bool b => "boolean `" ++ (if b then "true" else "false") ++ "`"
  | num (.double d) => "floating point `" ++ String.ofList (Number.render (.double d)) ++ "`"
  | num n => "integer `" ++ String.ofList n.render ++ "`"
  | str s => "string " ++ Text.quote s
  | arr _ => "sequence"
  | obj _ => "map"

inductive Cause where
  | openArray
  | openObject
  | openString
  /-- The text ends where a value or the rest of one should stand. -/
  | openValue
  | noColon
  /-- Neither a comma nor the closing bracket follows an element. -/
  | noCommaInArray
  | noCommaInObject
  | badWord
  | noValue
  | badEscape
  | badNumber
  | hugeNumber
  | controlCharacter
  | badKey
  | loneSurrogate
  | brokenPair
  | trailingComma
  | tooDeep
  | trailingText
  /-- An array was wanted. -/
  | noArray (found : Json)
  deriving Repr

def Cause.message : Cause → String
  | openArray => "EOF while parsing a list"
  | openObject => "EOF while parsing an object"
  | openString => "EOF while parsing a string"
  | openValue => "EOF while parsing a value"
  | noColon => "expected `:`"
  | noCommaInArray => "expected `,` or `]`"
  | noCommaInObject => "expected `,` or `\x7d`"
  | badWord => "expected ident"
  | noValue => "expected value"
  | badEscape => "invalid escape"
  | badNumber => "invalid number"
  | hugeNumber => "number out of range"
  | controlCharacter => "control character (\\u0000-\\u001F) found while parsing a string"
  | badKey => "key must be a string"
  | loneSurrogate => "lone leading surrogate in hex escape"
  | brokenPair => "unexpected end of hex escape"
  | trailingComma => "trailing comma"
  | tooDeep => "recursion limit exceeded"
  | trailingText => "trailing characters"
  | noArray found => "invalid type: " ++ describe found ++ ", expected a sequence"

structure Fault where
  cause : Cause
  line : Nat
  column : Nat
  deriving Repr

namespace Fault

/-- The fault of a text of which so many bytes have been read. -/
def after (cause : Cause) (bytes : List UInt8) (count : Nat) : Fault :=
  let lines := (bytes.take count).splitOn 10
  ⟨cause, lines.length, (lines.getLast?.getD []).length⟩

def message (f : Fault) : String :=
  f.cause.message ++ " at line " ++ toString f.line ++ " column " ++ toString f.column

end Fault

end DockLint.Json
