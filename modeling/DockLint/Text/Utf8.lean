/-!
# UTF-8

`encode` writes characters as bytes. `Decoder` reads bytes one at a time: it knows how many bytes
of the current character are still owed and between which bounds the next one must lie, so that
overlong forms, surrogates and values past U+10FFFF end a character at the first byte that rules
them out. Each maximal ill-formed piece is one fault and is read as U+FFFD.

`decodeLossy` keeps the faults as replacement characters, `decode?` refuses them.
-/

namespace DockLint.Text.Utf8

def encode (s : List Char) : List UInt8 :=
  s.flatMap String.utf8EncodeChar

/-- Where a decoder stands between two bytes. -/
inductive State where
  | start
  /-- `owed` more bytes belong to the character, the next between `lo` and `hi`; `bits` are those
  read so far. -/
  | tail (owed lo hi bits : Nat)
  deriving DecidableEq, Repr

structure Decoder where
  state : State
  /-- The characters read, latest first. -/
  chars : List Char
  faults : Nat
  deriving DecidableEq, Repr

namespace Decoder

def init : Decoder := ⟨.start, [], 0⟩

def push (d : Decoder) (code : Nat) : Decoder :=
  { d with state := .start, chars := Char.ofNat code :: d.chars }

/-- Ends an ill-formed piece. -/
def fault (d : Decoder) : Decoder :=
  { state := .start, chars := '\uFFFD' :: d.chars, faults := d.faults + 1 }

/-- Takes the first byte of a character. -/
def lead (d : Decoder) (b : Nat) : Decoder :=
  if b < 0x80 then d.push b
  else if b < 0xC2 then d.fault
  else if b < 0xE0 then { d with state := .tail 1 0x80 0xBF (b - 0xC0) }
  else if b = 0xE0 then { d with state := .tail 2 0xA0 0xBF 0 }
  else if b = 0xED then { d with state := .tail 2 0x80 0x9F 0xD }
  else if b < 0xF0 then { d with state := .tail 2 0x80 0xBF (b - 0xE0) }
  else if b = 0xF0 then { d with state := .tail 3 0x90 0xBF 0 }
  else if b < 0xF4 then { d with state := .tail 3 0x80 0xBF (b - 0xF0) }
  else if b = 0xF4 then { d with state := .tail 3 0x80 0x8F 4 }
  else d.fault

def feed (d : Decoder) (byte : UInt8) : Decoder :=
  let b := byte.toNat
  match d.state with
  | .start => d.lead b
  | .tail owed lo hi bits =>
    if lo ≤ b ∧ b ≤ hi then
      if owed ≤ 1 then d.push (bits * 64 + (b - 0x80))
      else { d with state := .tail (owed - 1) 0x80 0xBF (bits * 64 + (b - 0x80)) }
    else d.fault.lead b

/-- Ends the input; a character cut short is a fault. -/
def finish (d : Decoder) : Decoder :=
  match d.state with
  | .start => d
  | .tail .. => d.fault

def run (bytes : List UInt8) : Decoder :=
  bytes.foldl feed init

end Decoder

def decodeLossy (bytes : List UInt8) : List Char :=
  (Decoder.run bytes).finish.chars.reverse

def decode? (bytes : List UInt8) : Option (List Char) :=
  let d := (Decoder.run bytes).finish
  if d.faults = 0 then some d.chars.reverse else none

example : decodeLossy [0x61, 0xE2, 0x82, 0x62] = ['a', '\uFFFD', 'b'] := by decide
example : decodeLossy [0xED, 0xA0, 0x80] = ['\uFFFD', '\uFFFD', '\uFFFD'] := by decide
example : decodeLossy [0xF0, 0x9F, 0x98] = ['\uFFFD'] := by decide
example : decodeLossy [0xC0, 0x80] = ['\uFFFD', '\uFFFD'] := by decide
example : decode? [0xF0, 0x9F, 0x98, 0x80] = some ['😀'] := by decide

end DockLint.Text.Utf8

namespace DockLint

/-- The UTF-8 bytes of a text. -/
def utf8 (s : String) : List UInt8 :=
  Text.Utf8.encode s.toList

/-- Bytes read as UTF-8, ill-formed pieces replaced by U+FFFD. -/
def ofUtf8Lossy (bytes : List UInt8) : String :=
  String.ofList (Text.Utf8.decodeLossy bytes)

/-- Bytes read as UTF-8, unless they are ill-formed. -/
def ofUtf8? (bytes : List UInt8) : Option String :=
  (Text.Utf8.decode? bytes).map String.ofList

end DockLint
